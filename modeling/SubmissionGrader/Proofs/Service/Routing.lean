import SubmissionGrader.Proofs.Lists
import SubmissionGrader.Proofs.Runs
import SubmissionGrader.Proofs.Service.Client

/-!
# Routing responses

A client passes responses on by their ids, while its callers submit requests, cancel them and give
them up, and while the far end of the link does whatever it likes. A routing records which responses
were passed on, and how many of them before each submission. A submission is told of the first
response with its id, and the pending ids are those of the submissions that were told of none
(`routing_by_id`).
-/

namespace SubmissionGrader

/-- A client at a link, and a record of the responses that it passed on. -/
structure Routing where
  client : Client := {}
  link : Link
  /-- The responses that were passed on. -/
  routed : List Response := []
  /-- For each submission, how many responses were passed on before it. -/
  marks : List Nat := []
  deriving DecidableEq, Repr

namespace Routing

inductive Event where
  | client (event : Client.Event)
  /-- The far end leaves the channels in any state. -/
  | far (requests : Channel Envelope) (responses : Channel Response)
  deriving DecidableEq, Repr

def Event.submittedId? : Event → Option String
  | .client event => event.submittedId?
  | .far _ _ => none

def record (x : Routing) : Client.Event → Routing
  | .submit _ => { x with marks := x.marks ++ [x.routed.length] }
  | .route => { x with routed := x.routed ++ x.link.responses.queue.take 1 }
  | _ => x

def step? (x : Routing) : Event → Option Routing
  | .client event =>
    (x.client.step? x.link event).map fun (client, link) => { x.record event with client, link }
  | .far requests responses => some { x with link := { x.link with requests, responses } }

def run? (x : Routing) (events : List Event) : Option Routing := events.foldlM step? x

/-- The first response with an id that was passed on since a submission. -/
def first? (x : Routing) (submission : Nat) (id : String) : Option Response :=
  (x.routed.drop (x.marks.getD submission 0)).find? (·.id = id)

/-! ## What every event keeps -/

/-- How a submission goes with the pending ids and with its first response. -/
structure Fits (pending : List (String × Nat)) (routing : Bool) (first : Option Response)
    (i : Nat) (s : Submission) : Prop where
  unanswered : (s.request.id, i) ∈ pending → s.phase ≠ .failed ∧ first = none
  listed : routing = true → s.phase ≠ .failed → first = none → (s.request.id, i) ∈ pending
  awaited : s.reply = .awaited → (s.request.id, i) ∈ pending
  arrived : ∀ r, s.reply = .arrived r → first = some r
  orphaned : s.reply = .orphaned → s.phase = .failed ∨ routing = false

/-- Different submissions have different ids, and each goes with the pending ids and with its first
response. -/
structure Sound (x : Routing) : Prop where
  marks_length : x.marks.length = x.client.submissions.length
  marks_le : ∀ m ∈ x.marks, m ≤ x.routed.length
  ids : x.client.submittedIds.Nodup
  pendingIds : (x.client.pending.map Prod.fst).Nodup
  targets : ∀ id i, (id, i) ∈ x.client.pending →
    ∃ s, x.client.submissions[i]? = some s ∧ s.request.id = id
  fits : ∀ i s, x.client.submissions[i]? = some s →
    Fits x.client.pending x.client.routing (x.first? i s.request.id) i s

theorem sound_new (link : Link) : ({ link } : Routing).Sound where
  marks_length := rfl
  marks_le := fun _ h => absurd h List.not_mem_nil
  ids := .nil
  pendingIds := .nil
  targets := fun _ _ h => absurd h List.not_mem_nil
  fits := fun _ _ h => by simp at h

variable {x y : Routing}

theorem Sound.relink (hx : x.Sound) (link : Link) : Sound { x with link } := { hx with }

theorem Sound.index_eq (hx : x.Sound) {i j : Nat} {s s' : Submission}
    (hs : x.client.submissions[i]? = some s) (hs' : x.client.submissions[j]? = some s')
    (hid : s.request.id = s'.request.id) : i = j := by
  obtain ⟨hi, -⟩ := List.getElem?_eq_some_iff.1 hs
  refine (List.getElem?_inj (by simpa [Client.submittedIds] using hi) hx.ids).1 ?_
  rw [Client.submittedIds, List.getElem?_map, List.getElem?_map, hs, hs', Option.map_some,
    Option.map_some, hid]

/-- What changes one submission at most, and keeps the ids of all others pending, keeps the rest. -/
theorem Sound.change (hx : x.Sound) {i : Nat} {f : Submission → Submission}
    (hsubmissions : y.client.submissions = (x.client.modify i f).submissions)
    (hf : ∀ s, (f s).request = s.request)
    (hsub : y.client.pending.Sublist x.client.pending)
    (hother : ∀ p ∈ x.client.pending, p.2 ≠ i → p ∈ y.client.pending)
    (hrouting : y.client.routing = x.client.routing) (hmarks : y.marks = x.marks)
    (hrouted : x.routed.length ≤ y.routed.length)
    (hfirst : ∀ j s, x.client.submissions[j]? = some s → j ≠ i →
      y.first? j s.request.id = x.first? j s.request.id)
    (hfit : ∀ s, x.client.submissions[i]? = some s →
      Fits y.client.pending y.client.routing (y.first? i s.request.id) i (f s)) : y.Sound where
  marks_length := by
    rw [hmarks, hx.marks_length, hsubmissions, Client.modify, List.length_modify]
  marks_le := fun m hm => Nat.le_trans (hx.marks_le m (hmarks ▸ hm)) hrouted
  ids := by
    rw [Client.submittedIds, hsubmissions, ← Client.submittedIds, Client.submittedIds_modify _ _ hf]
    exact hx.ids
  pendingIds := (hsub.map Prod.fst).nodup hx.pendingIds
  targets := by
    intro id j hmem
    obtain ⟨s, hs, hid⟩ := hx.targets id j (hsub.subset hmem)
    by_cases hij : i = j
    · exact ⟨f s, by simp [hsubmissions, Client.modify, hij, hs], by rw [hf, hid]⟩
    · exact ⟨s, by simp [hsubmissions, Client.modify, hij, hs], hid⟩
  fits := by
    intro j t ht
    rw [hsubmissions, Client.modify] at ht
    by_cases hij : i = j
    · subst hij
      obtain ⟨s, hs, rfl⟩ := Option.map_eq_some_iff.1 (by simpa using ht)
      rw [hf]
      exact hfit s hs
    · rw [List.getElem?_modify_ne _ _ hij] at ht
      have hfits := hx.fits j t ht
      rw [hfirst j t ht (Ne.symm hij)]
      exact
        { unanswered := fun hmem => hfits.unanswered (hsub.subset hmem)
          listed := fun hrun hphase hnone =>
            hother _ (hfits.listed (hrouting ▸ hrun) hphase hnone) (Ne.symm hij)
          awaited := fun hreply => hother _ (hfits.awaited hreply) (Ne.symm hij)
          arrived := hfits.arrived
          orphaned := fun hreply => by rw [hrouting]; exact hfits.orphaned hreply }

theorem Sound.modify (hx : x.Sound) {i : Nat} {f : Submission → Submission}
    (hf : ∀ s, (f s).request = s.request)
    (hfit : ∀ s, x.client.submissions[i]? = some s →
      Fits x.client.pending x.client.routing (x.first? i s.request.id) i (f s)) :
    Sound { x with client := x.client.modify i f } :=
  hx.change rfl hf (List.Sublist.refl _) (fun _ hp _ => hp) rfl rfl (Nat.le_refl _)
    (fun _ _ _ _ => rfl) hfit

/-- What settles a pending submission keeps the rest. -/
theorem Sound.settle (hx : x.Sound) {i : Nat} {id : String} {f : Submission → Submission}
    (hpending : (id, i) ∈ x.client.pending) (hf : ∀ s, (f s).request = s.request)
    {routed : List Response} (hrouted : x.routed.length ≤ routed.length)
    (hfirst : ∀ j s, x.client.submissions[j]? = some s → j ≠ i →
      Routing.first? { x with routed } j s.request.id = x.first? j s.request.id)
    (hfit : ∀ s, x.client.submissions[i]? = some s → s.request.id = id →
      Fits (x.client.forget id).pending x.client.routing
        (Routing.first? { x with routed } i s.request.id) i (f s)) :
    Sound { x with client := (x.client.modify i f).forget id, routed } := by
  obtain ⟨s, hs, hid⟩ := hx.targets id i hpending
  refine hx.change rfl hf List.filter_sublist (fun p hp hne => ?_) rfl rfl hrouted hfirst ?_
  · refine List.mem_filter.2 ⟨hp, decide_eq_true fun hkey => hne ?_⟩
    obtain ⟨s', hs', hid'⟩ := hx.targets p.1 p.2 hp
    exact hx.index_eq hs' hs (by rw [hid', hid, hkey])
  · intro s' hs'
    obtain rfl : s = s' := by simpa [hs] using hs'
    exact hfit s hs hid

theorem not_mem_forget (c : Client) (id : String) (i : Nat) : (id, i) ∉ (c.forget id).pending := by
  simp [Client.forget]

theorem Sound.not_mem_of_pending?_eq_none {id : String} (h : x.client.pending? id = none)
    (i : Nat) : (id, i) ∉ x.client.pending :=
  fun hmem => Client.pending?_eq_none_iff.1 h (List.mem_map.2 ⟨_, hmem, rfl⟩)

/-- The request of a submission cannot be sent, and its id is not pending any more. -/
theorem Sound.fail (hx : x.Sound) {i : Nat} {s : Submission}
    (hs : x.client.submissions[i]? = some s) :
    Sound { x with
      client := (x.client.orphan s.request.id).modify i fun s => { s with phase := .failed } } := by
  cases hpending : x.client.pending? s.request.id with
  | none =>
    rw [Client.orphan_of_not_pending hpending]
    have hmem := Sound.not_mem_of_pending?_eq_none hpending i
    refine hx.modify (fun _ => rfl) fun s' hs' => ?_
    obtain rfl : s = s' := by simpa [hs] using hs'
    have hfits := hx.fits i s hs
    exact
      { unanswered := fun h => absurd h hmem
        listed := fun _ hphase => absurd rfl hphase
        awaited := fun hreply => absurd (hfits.awaited hreply) hmem
        arrived := hfits.arrived
        orphaned := fun _ => .inl rfl }
  | some j =>
    have hmem := (Client.pending?_eq_some_iff hx.pendingIds).1 hpending
    obtain ⟨s', hs', hid⟩ := hx.targets _ _ hmem
    obtain rfl : j = i := hx.index_eq hs' hs hid
    let f (s : Submission) : Submission := { Client.Submission.orphan s with phase := .failed }
    have hclient : (x.client.orphan s.request.id).modify j (fun s => { s with phase := .failed }) =
        (x.client.modify j f).forget s.request.id := by
      rw [Client.orphan_of_pending hpending]
      simp only [Client.modify, Client.forget, List.modify_modify_eq]
      rfl
    rw [hclient]
    refine hx.settle (f := f) hmem Client.Submission.orphan_request (Nat.le_refl _)
      (fun _ _ _ _ => rfl) fun t ht htid => ?_
    have hfits := hx.fits j t ht
    have hgone : ((f t).request.id, j) ∉ (x.client.forget s.request.id).pending := by
      rw [Client.Submission.orphan_request t, htid]
      exact not_mem_forget _ _ _
    exact
      { unanswered := fun h => absurd h hgone
        listed := fun _ hphase => absurd rfl hphase
        awaited := fun hreply => absurd hreply (Client.Submission.orphan_reply_ne t)
        arrived := fun r hreply => hfits.arrived r (Client.Submission.reply_of_orphan_reply hreply)
        orphaned := fun _ => .inl rfl }

/-- No response can come for an id any more, once responses are not passed on. -/
theorem Sound.orphan (hx : x.Sound) (hstopped : x.client.routing = false) (id : String) :
    Sound { x with client := x.client.orphan id } := by
  cases hpending : x.client.pending? id with
  | none =>
    rw [Client.orphan_of_not_pending hpending]
    exact hx
  | some i =>
    rw [Client.orphan_of_pending hpending]
    have hmem := (Client.pending?_eq_some_iff hx.pendingIds).1 hpending
    refine hx.settle hmem Client.Submission.orphan_request (Nat.le_refl _)
      (fun _ _ _ _ => rfl) fun s hs hid => ?_
    have hfits := hx.fits i s hs
    have hgone : ((Client.Submission.orphan s).request.id, i) ∉ (x.client.forget id).pending := by
      rw [Client.Submission.orphan_request s, hid]
      exact not_mem_forget _ _ _
    exact
      { unanswered := fun h => absurd h hgone
        listed := fun hrouting => by simp [hstopped] at hrouting
        awaited := fun hreply => absurd hreply (Client.Submission.orphan_reply_ne s)
        arrived := fun r hreply => hfits.arrived r (Client.Submission.reply_of_orphan_reply hreply)
        orphaned := fun _ => .inr hstopped }

theorem orphan_routing (c : Client) (id : String) : (c.orphan id).routing = c.routing := by
  rw [Client.orphan]
  split <;> rfl

theorem Sound.foldl_orphan (hx : x.Sound) (hstopped : x.client.routing = false)
    (ids : List String) : Sound { x with client := ids.foldl Client.orphan x.client } := by
  induction ids generalizing x with
  | nil => exact hx
  | cons id ids ih =>
    exact ih (hx.orphan hstopped id) (by rw [orphan_routing, hstopped])

theorem Sound.stopped (hx : x.Sound) :
    Sound { x with client := { x.client with routing := false } } :=
  { hx with
    fits := fun i s hs =>
      { hx.fits i s hs with
        listed := nofun
        orphaned := fun _ => .inr rfl } }

theorem foldl_orphan_stopped (c : Client) (ids : List String) :
    ids.foldl Client.orphan { c with routing := false } =
      { ids.foldl Client.orphan c with routing := false } := by
  induction ids generalizing c with
  | nil => rfl
  | cons id ids ih =>
    rw [List.foldl_cons, List.foldl_cons, ← ih]
    congr 1
    simp only [Client.orphan, Client.pending?]
    split <;> rfl

theorem Sound.stop (hx : x.Sound) :
    Sound { x with client := { x.client.orphanAll with routing := false } } := by
  -- Only who is not told of responses any more may be orphaned, so routing ends before that.
  have hstop := hx.stopped.foldl_orphan rfl (x.client.pending.map Prod.fst)
  rwa [foldl_orphan_stopped] at hstop

theorem Sound.mark_le (hx : x.Sound) (i : Nat) : x.marks.getD i 0 ≤ x.routed.length := by
  rw [List.getD_eq_getElem?_getD]
  cases hmark : x.marks[i]? with
  | none => exact Nat.zero_le _
  | some m => exact hx.marks_le m (List.mem_of_getElem? hmark)

/-- One more response is the first one only if there was none. -/
theorem Sound.first?_concat (hx : x.Sound) (response : Response) (i : Nat) (id : String) :
    Routing.first? { x with routed := x.routed ++ [response] } i id =
      (x.first? i id).or (if response.id = id then some response else none) := by
  simp only [first?]
  rw [List.drop_append_of_le_length (hx.mark_le i), List.find?_append, List.find?_singleton]
  simp

theorem Sound.first?_concat_ne (hx : x.Sound) {response : Response} {id : String}
    (hne : response.id ≠ id) (i : Nat) :
    Routing.first? { x with routed := x.routed ++ [response] } i id = x.first? i id := by
  rw [hx.first?_concat, if_neg hne, Option.or_none]

theorem Sound.deliver (hx : x.Sound) {response : Response} {i : Nat}
    (hpending : x.client.pending? response.id = some i) :
    Sound { x with
      client := (x.client.modify i (Client.Submission.deliver response)).forget response.id
      routed := x.routed ++ [response] } := by
  have hmem := (Client.pending?_eq_some_iff hx.pendingIds).1 hpending
  obtain ⟨s, hs, hid⟩ := hx.targets _ _ hmem
  refine hx.settle hmem (Client.Submission.deliver_request response) (by simp)
    (fun j t ht hne => ?_) ?_
  · refine hx.first?_concat_ne (fun hsame => hne ?_) j
    exact hx.index_eq ht hs (by rw [hid, hsame])
  · intro t ht htid
    have hfits := hx.fits i t ht
    rw [htid] at hfits
    have hnone := (hfits.unanswered (by rw [htid]; exact hmem)).2
    have hgone : ((Client.Submission.deliver response t).request.id, i) ∉
        (x.client.forget response.id).pending := by
      rw [Client.Submission.deliver_request, htid]
      exact not_mem_forget _ _ _
    have hfirst : Routing.first? { x with routed := x.routed ++ [response] } i t.request.id =
        some response := by
      rw [hx.first?_concat, htid, hnone, if_pos rfl, Option.none_or]
    rw [hfirst]
    by_cases hreply : t.reply = .awaited
    · rw [Client.Submission.deliver_awaited hreply] at hgone ⊢
      exact
        { unanswered := fun h => absurd h hgone
          listed := nofun
          awaited := nofun
          arrived := fun r hr => by cases hr; rfl
          orphaned := nofun }
    · rw [Client.Submission.deliver_of_ne hreply] at hgone ⊢
      exact
        { unanswered := fun h => absurd h hgone
          listed := nofun
          awaited := fun h => absurd h hreply
          arrived := fun r hr => by
            have hsome := hfits.arrived r hr
            simp [hnone] at hsome
          orphaned := hfits.orphaned }

/-- A response for which nobody waits is passed over. -/
theorem Sound.ignore (hx : x.Sound) {response : Response} (hrouting : x.client.routing = true)
    (hpending : x.client.pending? response.id = none) :
    Sound { x with routed := x.routed ++ [response] } :=
  { hx with
    marks_le := fun m hm => Nat.le_trans (hx.marks_le m hm) (by simp)
    fits := fun i s hs => by
      have hfits := hx.fits i s hs
      by_cases hid : response.id = s.request.id
      · have hmem : (s.request.id, i) ∉ x.client.pending := by
          rw [← hid]
          exact Sound.not_mem_of_pending?_eq_none hpending i
        -- While responses are passed on, only a failure leaves an id that nobody waits for.
        have hor (h : x.first? i s.request.id = none) : s.phase = .failed := by
          by_contra hphase
          exact hmem (hfits.listed hrouting hphase h)
        exact
          { unanswered := fun h => absurd h hmem
            listed := fun _ hphase hnone => by
              rw [hx.first?_concat, Option.or_eq_none_iff] at hnone
              exact absurd (hor hnone.1) hphase
            awaited := fun hreply => absurd (hfits.awaited hreply) hmem
            arrived := fun r hreply => by
              rw [hx.first?_concat, hfits.arrived r hreply, Option.some_or]
            orphaned := hfits.orphaned }
      · rw [hx.first?_concat_ne hid]
        exact hfits }

theorem Sound.not_mem_pending_of_fresh (hx : x.Sound) {id : String}
    (hfresh : id ∉ x.client.submittedIds) : id ∉ x.client.pending.map Prod.fst := by
  intro hmem
  obtain ⟨⟨key, i⟩, hp, rfl⟩ := List.mem_map.1 hmem
  obtain ⟨s, hs, hid⟩ := hx.targets key i hp
  exact hfresh (List.mem_map.2 ⟨s, List.mem_of_getElem? hs, hid⟩)

theorem Fits.concat {pending : List (String × Nat)} {routing : Bool} {first : Option Response}
    {i j : Nat} {s : Submission} (h : Fits pending routing first i s) (id : String) (hij : i ≠ j) :
    Fits (pending ++ [(id, j)]) routing first i s :=
  { h with
    unanswered := fun hmem => by
      rcases List.mem_append.1 hmem with hmem | hmem
      · exact h.unanswered hmem
      · exact absurd (congrArg Prod.snd (List.mem_singleton.1 hmem)) hij
    listed := fun hrouting hphase hnone =>
      List.mem_append_left _ (h.listed hrouting hphase hnone)
    awaited := fun hreply => List.mem_append_left _ (h.awaited hreply) }

/-- A new submission changes nothing for those before it. -/
theorem Sound.first?_mark (hx : x.Sound) {i : Nat} (hi : i < x.client.submissions.length)
    (id : String) :
    Routing.first? { x with marks := x.marks ++ [x.routed.length] } i id = x.first? i id := by
  rw [← hx.marks_length] at hi
  simp only [first?, List.getD_eq_getElem?_getD, List.getElem?_append_left hi]

theorem Sound.first?_mark_length (hx : x.Sound) (id : String) :
    Routing.first? { x with marks := x.marks ++ [x.routed.length] } x.client.submissions.length id =
      none := by
  simp [first?, List.getD_eq_getElem?_getD, ← hx.marks_length]

theorem Sound.submit (hx : x.Sound) {request : Request}
    (hfresh : request.id ∉ x.client.submittedIds) :
    Sound { x with
      client := { x.client with
        pending := x.client.pending ++ [(request.id, x.client.submissions.length)]
        submissions := x.client.submissions ++ [{ request }] }
      marks := x.marks ++ [x.routed.length] } := by
  let y : Routing := { x with
    client := { x.client with
      pending := x.client.pending ++ [(request.id, x.client.submissions.length)]
      submissions := x.client.submissions ++ [{ request }] }
    marks := x.marks ++ [x.routed.length] }
  have hearlier {i : Nat} (hi : i < x.client.submissions.length) (id : String) :
      y.first? i id = x.first? i id := hx.first?_mark hi id
  have hlast : y.first? x.client.submissions.length request.id = none :=
    hx.first?_mark_length request.id
  exact
    { marks_length := by simp [hx.marks_length]
      marks_le := by
        intro m hm
        rcases List.mem_append.1 hm with hm | hm
        · exact hx.marks_le m hm
        · exact Nat.le_of_eq (List.mem_singleton.1 hm)
      ids := by
        rw [Client.submittedIds, List.map_append, List.map_singleton, ← List.concat_eq_append,
          List.nodup_concat]
        exact ⟨hfresh, hx.ids⟩
      pendingIds := by
        rw [List.map_append, List.map_singleton, ← List.concat_eq_append, List.nodup_concat]
        exact ⟨hx.not_mem_pending_of_fresh hfresh, hx.pendingIds⟩
      targets := by
        intro id i hmem
        rcases List.mem_append.1 hmem with hmem | hmem
        · obtain ⟨s, hs, hid⟩ := hx.targets id i hmem
          have hi := (List.getElem?_eq_some_iff.1 hs).1
          exact ⟨s, by rwa [List.getElem?_append_left hi], hid⟩
        · cases List.mem_singleton.1 hmem
          exact ⟨{ request }, List.getElem?_concat_length, rfl⟩
      fits := by
        intro i s hs
        obtain ⟨hi, hs⟩ | ⟨rfl, rfl⟩ := Lists.getElem?_concat hs
        · rw [hearlier hi]
          exact (hx.fits i s hs).concat _ (Nat.ne_of_lt hi)
        · rw [hlast]
          have hmem : (request.id, x.client.submissions.length) ∈ y.client.pending :=
            List.mem_append_right _ (List.mem_singleton_self _)
          exact
            { unanswered := fun _ => ⟨SubmissionPhase.noConfusion, rfl⟩
              listed := fun _ _ _ => hmem
              awaited := fun _ => hmem
              arrived := fun _ h => Reply.noConfusion h
              orphaned := fun h => Reply.noConfusion h } }

/-- A submission goes on, or nobody waits for its response any more. -/
theorem Fits.advance {pending : List (String × Nat)} {routing : Bool} {first : Option Response}
    {i : Nat} {s s' : Submission} (h : Fits pending routing first i s) (hs : s.phase ≠ .failed)
    (hrequest : s'.request = s.request) (hphase : s'.phase ≠ .failed)
    (hreply : s'.reply = s.reply ∨ s'.reply = .discarded) : Fits pending routing first i s' where
  unanswered := fun hmem => ⟨hphase, (h.unanswered (hrequest ▸ hmem)).2⟩
  listed := fun hrouting _ hnone => hrequest ▸ h.listed hrouting hs hnone
  awaited := fun hawaited => by
    rcases hreply with hsame | hdiscarded
    · exact hrequest ▸ h.awaited (hsame ▸ hawaited)
    · simp [hdiscarded] at hawaited
  arrived := fun r harrived => by
    rcases hreply with hsame | hdiscarded
    · exact h.arrived r (hsame ▸ harrived)
    · simp [hdiscarded] at harrived
  orphaned := fun horphaned => by
    rcases hreply with hsame | hdiscarded
    · exact .inr ((h.orphaned (hsame ▸ horphaned)).resolve_left hs)
    · simp [hdiscarded] at horphaned

theorem Sound.advance (hx : x.Sound) {i : Nat} {s : Submission} {f : Submission → Submission}
    (hs : x.client.submissions[i]? = some s) (hphase : s.phase ≠ .failed)
    (hf : ∀ s, (f s).request = s.request) (hlater : (f s).phase ≠ .failed)
    (hreply : (f s).reply = s.reply ∨ (f s).reply = .discarded) :
    Sound { x with client := x.client.modify i f } := by
  refine hx.modify hf fun t ht => ?_
  obtain rfl : s = t := by simpa [hs] using ht
  exact (hx.fits i s hs).advance hphase (hf s) hlater hreply

theorem exists_client_step {event : Client.Event} (hstep : x.step? (.client event) = some y) :
    ∃ c l, Client.Step x.client x.link event c l ∧
      y = { x.record event with client := c, link := l } := by
  obtain ⟨⟨c, l⟩, hclient, rfl⟩ := Option.map_eq_some_iff.1 hstep
  exact ⟨c, l, Client.step_of_step? hclient, rfl⟩

/-- Whatever happens, submissions under ids of their own keep in order. -/
theorem Sound.step {event : Event} (hx : x.Sound)
    (hfresh : ∀ id, event.submittedId? = some id → id ∉ x.client.submittedIds)
    (hstep : x.step? event = some y) : y.Sound := by
  cases event with
  | far requests responses =>
    cases hstep
    exact hx.relink _
  | client event =>
    obtain ⟨c, l, hclient, rfl⟩ := exists_client_step hstep
    cases hclient with
    | submit request =>
      have hid := hfresh request.id rfl
      rw [Client.orphan_of_not_pending
        (Client.pending?_eq_none_iff.2 (hx.not_mem_pending_of_fresh hid))]
      exact (hx.submit hid).relink _
    | fail hs hphase hgone => exact (hx.fail hs).relink _
    | @transmit i s hs hphase hkept hroom =>
      have hnext := hx.advance (f := fun s => { s with phase := .sent }) hs (by simp [hphase])
        (fun _ => rfl) nofun (.inl rfl)
      exact hnext.relink _
    | @abandon i s hs hphase =>
      have hnext := hx.advance
        (f := fun s => { s with phase := .abandoned, reply := .discarded }) hs (by simp [hphase])
        (fun _ => rfl) nofun (.inr rfl)
      exact hnext.relink _
    | @deliver response rest i hrouting hqueue hpending =>
      have hrecord : x.record .route = { x with routed := x.routed ++ [response] } := by
        simp [record, hqueue]
      rw [hrecord]
      exact (hx.deliver hpending).relink _
    | @ignore response rest hrouting hqueue hpending =>
      have hrecord : x.record .route = { x with routed := x.routed ++ [response] } := by
        simp [record, hqueue]
      rw [hrecord]
      exact (hx.ignore hrouting hpending).relink _
    | stop hrouting hclosed => exact hx.stop.relink _
    | cancel hpending => exact hx.relink _
    | miss hpending => exact hx.relink _
    | @discard i s hs hphase =>
      have hnext := hx.advance (f := fun s => { s with reply := .discarded }) hs (by simp [hphase])
        (fun _ => rfl) (by simp [hphase]) (.inr rfl)
      exact hnext.relink _
    | drop => exact hx.stop.relink _

theorem submittedIds_step {event : Event} (hstep : x.step? event = some y) :
    y.client.submittedIds = x.client.submittedIds ++ event.submittedId?.toList := by
  cases event with
  | far requests responses =>
    cases hstep
    exact (List.append_nil _).symm
  | client event =>
    obtain ⟨c, l, hclient, rfl⟩ := exists_client_step hstep
    exact hclient.submittedIds_eq

/-! ## Responses to requests -/

/-- No response was passed on before its id was submitted. -/
def NoneEarly (x : Routing) : Prop :=
  ∀ i id, x.client.submittedIds[i]? = some id → x.first? i id = x.routed.find? (·.id = id)

/-- It stays so as long as only ids are submitted under which no response has come. -/
theorem Sound.noneEarly_step {event : Event} (hx : x.Sound) (h : x.NoneEarly)
    (hnew : ∀ id, event.submittedId? = some id → ∀ r ∈ x.routed, r.id ≠ id)
    (hstep : x.step? event = some y) : y.NoneEarly := by
  cases event with
  | far requests responses =>
    cases hstep
    exact h
  | client event =>
    obtain ⟨c, l, hclient, rfl⟩ := exists_client_step hstep
    intro i id hid
    rw [hclient.submittedIds_eq] at hid
    cases event with
    | submit request =>
      have hlength : x.client.submittedIds.length = x.client.submissions.length :=
        List.length_map _
      obtain ⟨hi, hid⟩ | ⟨rfl, rfl⟩ := Lists.getElem?_concat hid
      · exact (hx.first?_mark (hlength ▸ hi) id).trans (h i id hid)
      · rw [hlength]
        refine (hx.first?_mark_length request.id).trans (Eq.symm (List.find?_eq_none.2 ?_))
        exact fun r hr => by simpa using hnew request.id rfl r hr
    | route =>
      obtain ⟨response, rest, hqueue⟩ : ∃ response rest,
          x.link.responses.queue = response :: rest := by
        cases hclient with
        | deliver hrouting hqueue hpending => exact ⟨_, _, hqueue⟩
        | ignore hrouting hqueue hpending => exact ⟨_, _, hqueue⟩
      have hrecord : x.record .route = { x with routed := x.routed ++ [response] } := by
        simp [record, hqueue]
      have hsame := h i id (by simpa [Client.Event.submittedId?] using hid)
      rw [hrecord]
      change Routing.first? { x with routed := x.routed ++ [response] } i id =
        (x.routed ++ [response]).find? _
      rw [hx.first?_concat, hsame, List.find?_append, List.find?_singleton]
      simp
    | transmit | abandon | stop | cancel | discard | drop =>
      exact h i id (by simpa [Client.Event.submittedId?] using hid)

/-! ## Runs -/

/-- What each event keeps, if the id it submits is new, holds at the end of every run in which
requests are submitted under ids of their own. -/
theorem Sound.run {P : Routing → Prop} {events : List Event} (hx : x.Sound)
    (hfresh : (x.client.submittedIds ++ events.filterMap Event.submittedId?).Nodup) (hstart : P x)
    (hstep : ∀ r event t, event ∈ events → r.Sound →
      (∀ id, event.submittedId? = some id → id ∉ r.client.submittedIds) →
        r.step? event = some t → P r → P t)
    (h : x.run? events = some y) :
    y.Sound ∧ P y ∧
      y.client.submittedIds = x.client.submittedIds ++ events.filterMap Event.submittedId? := by
  refine Run.induction
    (P := fun seen y => seen ⊆ events →
      (x.client.submittedIds ++ seen.filterMap Event.submittedId?).Nodup →
        y.Sound ∧ P y ∧
          y.client.submittedIds = x.client.submittedIds ++ seen.filterMap Event.submittedId?)
    ?_ ?_ h (List.Subset.refl _) hfresh
  · exact fun _ _ => ⟨hx, hstart, (List.append_nil _).symm⟩
  · intro seen r event t hr hevent hsub hnodup
    -- The client knows the ids of the earlier events, so an id of its own is new to the client.
    have hids : (seen ++ [event]).filterMap Event.submittedId? =
        seen.filterMap Event.submittedId? ++ event.submittedId?.toList := by
      rw [List.filterMap_append]
      cases hid : event.submittedId? <;> simp [hid]
    rw [hids, ← List.append_assoc] at hnodup ⊢
    obtain ⟨hsound, hP, heq⟩ :=
      hr (fun e he => hsub (List.mem_append_left _ he)) (List.nodup_append.1 hnodup).1
    rw [← heq] at hnodup ⊢
    have hnew (id : String) (hid : event.submittedId? = some id) :
        id ∉ r.client.submittedIds := fun hmem =>
      (List.nodup_append.1 hnodup).2.2 id hmem id (by simp [hid]) rfl
    have hmem : event ∈ events := hsub (List.mem_append_right _ (List.mem_singleton_self event))
    exact ⟨hsound.step hnew hevent, hstep r event t hmem hsound hnew hevent hP,
      submittedIds_step hevent⟩

theorem sound_run {link : Link} {events : List Event}
    (hfresh : (events.filterMap Event.submittedId?).Nodup)
    (h : ({ link } : Routing).run? events = some x) :
    x.Sound ∧ x.client.submittedIds = events.filterMap Event.submittedId? := by
  obtain ⟨hx, -, hids⟩ := (sound_new link).run (P := fun _ => True) hfresh trivial
    (fun _ _ _ _ _ _ _ _ => trivial) h
  exact ⟨hx, hids⟩

/-! ## What callers can rely on -/

/-- What callers of a client can rely on in a state. -/
structure Reliable (x : Routing) : Prop where
  /-- A response arrives under its id, and it is the first one with this id. -/
  arrived : ∀ i s r, x.client.submissions[i]? = some s → s.reply = .arrived r →
    r.id = s.request.id ∧ x.first? i s.request.id = some r
  /-- Who still waits has missed no response. -/
  awaited : ∀ i s, x.client.submissions[i]? = some s → s.reply = .awaited →
    x.first? i s.request.id = none
  /-- The first response arrives, unless nobody waits for it any more. -/
  resolved : x.client.routing = true → ∀ i s r, x.client.submissions[i]? = some s →
    s.phase ≠ .failed → x.first? i s.request.id = some r →
      s.reply = .arrived r ∨ s.reply = .discarded
  /-- Only who still waits gets a reply, whatever happens next. -/
  final : ∀ event y, x.step? event = some y → x.client.Later y.client
  /-- The pending ids are those that were submitted and neither answered nor failed. -/
  pending : x.client.routing = true → ∀ id i, x.client.pending? id = some i ↔
    ∃ s, x.client.submissions[i]? = some s ∧ s.request.id = id ∧ s.phase ≠ .failed ∧
      x.first? i id = none
  /-- No id is pending twice. -/
  distinct : (x.client.pending.map Prod.fst).Nodup
  /-- A response changes nothing but the submission that its id leads to, and its own id is not
  pending any more. -/
  route : ∀ y response rest, x.link.responses.queue = response :: rest →
    x.step? (.client .route) = some y →
      (x.client.pending? response.id = none → y.client = x.client) ∧
      (∀ (i : Nat) (s : Submission), x.client.submissions[i]? = some s →
        s.request.id ≠ response.id → y.client.submissions[i]? = some s) ∧
      ∀ id, y.client.pending? id = if id = response.id then none else x.client.pending? id
  /-- The token of a request is the position of its submission. -/
  transmit : ∀ i s y, x.client.submissions[i]? = some s → x.link.requests.receiverGone = false →
    x.step? (.client (.transmit i)) = some y →
      y.link.requests.queue = x.link.requests.queue ++ [⟨s.request, i⟩]
  /-- Cancelling trips the token of the request that an id leads to, and nothing else. -/
  cancel : ∀ id, (x.client.isPending id = true ↔ id ∈ x.client.pending.map Prod.fst) ∧
    ∃ y, x.step? (.client (.cancel id)) = some y ∧ y.client = x.client ∧
      ∀ token, y.link.isCancelled token = true ↔
        x.link.isCancelled token = true ∨ x.client.pending? id = some token
  /-- A request that cannot be sent leaves all other ids pending. -/
  fail : ∀ i s y, x.client.submissions[i]? = some s → x.link.requests.receiverGone = true →
    x.step? (.client (.transmit i)) = some y →
      ∀ id, y.client.pending? id = if id = s.request.id then none else x.client.pending? id
  /-- A submission whose request cannot be sent leaves the pending ids as they were. -/
  undone : ∀ request y z, request.id ∉ x.client.submittedIds →
    x.step? (.client (.submit request)) = some y → y.link.requests.receiverGone = true →
      y.step? (.client (.transmit x.client.submissions.length)) = some z →
        z.client.pending = x.client.pending

theorem first?_id {i : Nat} {id : String} {response : Response}
    (h : x.first? i id = some response) : response.id = id := by
  simpa using List.find?_some h

theorem Sound.pending?_iff (hx : x.Sound) (hrouting : x.client.routing = true) (id : String)
    (i : Nat) : x.client.pending? id = some i ↔
      ∃ s, x.client.submissions[i]? = some s ∧ s.request.id = id ∧ s.phase ≠ .failed ∧
        x.first? i id = none := by
  rw [Client.pending?_eq_some_iff hx.pendingIds]
  constructor
  · intro hmem
    obtain ⟨s, hs, rfl⟩ := hx.targets id i hmem
    exact ⟨s, hs, rfl, (hx.fits i s hs).unanswered hmem⟩
  · rintro ⟨s, hs, rfl, hphase, hnone⟩
    exact (hx.fits i s hs).listed hrouting hphase hnone

theorem Sound.resolved (hx : x.Sound) (hrouting : x.client.routing = true) {i : Nat}
    {s : Submission} {r : Response} (hs : x.client.submissions[i]? = some s)
    (hphase : s.phase ≠ .failed) (hfirst : x.first? i s.request.id = some r) :
    s.reply = .arrived r ∨ s.reply = .discarded := by
  have hfits := hx.fits i s hs
  rw [hfirst] at hfits
  cases hreply : s.reply with
  | awaited => cases (hfits.unanswered (hfits.awaited hreply)).2
  | arrived r' => exact .inl (by rw [Option.some.inj (hfits.arrived r' hreply)])
  | orphaned =>
    rcases hfits.orphaned hreply with hfailed | hstopped
    · exact absurd hfailed hphase
    · simp [hrouting] at hstopped
  | discarded => exact .inr rfl

theorem Sound.route (hx : x.Sound) {response : Response} {rest : List Response}
    (hqueue : x.link.responses.queue = response :: rest)
    (hstep : x.step? (.client .route) = some y) :
    (x.client.pending? response.id = none → y.client = x.client) ∧
    (∀ (i : Nat) (s : Submission), x.client.submissions[i]? = some s →
      s.request.id ≠ response.id → y.client.submissions[i]? = some s) ∧
    ∀ id, y.client.pending? id = if id = response.id then none else x.client.pending? id := by
  obtain ⟨c, l, hclient, rfl⟩ := exists_client_step hstep
  cases hclient with
  | @deliver response' rest' i hrouting hqueue' hpending =>
    obtain ⟨rfl, rfl⟩ := List.cons.inj (hqueue'.symm.trans hqueue)
    refine ⟨fun hnone => by simp [hpending] at hnone, fun j s hs hne => ?_, fun id => ?_⟩
    · obtain ⟨t, ht, hid⟩ := hx.targets _ _ ((Client.pending?_eq_some_iff hx.pendingIds).1 hpending)
      have hij : i ≠ j := by
        rintro rfl
        obtain rfl : s = t := by simpa [hs] using ht
        exact hne hid
      exact (List.getElem?_modify_ne _ _ hij).trans hs
    · exact Client.pending?_forget _ _ _
  | @ignore response' rest' hrouting hqueue' hpending =>
    obtain ⟨rfl, rfl⟩ := List.cons.inj (hqueue'.symm.trans hqueue)
    refine ⟨fun _ => rfl, fun _ _ hs _ => hs, fun id => ?_⟩
    change x.client.pending? id = _
    by_cases hid : id = response'.id
    · rw [if_pos hid, hid, hpending]
    · rw [if_neg hid]

theorem final {event : Event} (hstep : x.step? event = some y) : x.client.Later y.client := by
  cases event with
  | far requests responses =>
    cases hstep
    exact .refl _
  | client event =>
    obtain ⟨c, l, hclient, rfl⟩ := exists_client_step hstep
    exact hclient.later

theorem transmitted {i : Nat} {s : Submission} (hs : x.client.submissions[i]? = some s)
    (hkept : x.link.requests.receiverGone = false)
    (hstep : x.step? (.client (.transmit i)) = some y) :
    y.link.requests.queue = x.link.requests.queue ++ [⟨s.request, i⟩] := by
  obtain ⟨c, l, hclient, rfl⟩ := exists_client_step hstep
  cases hclient with
  | fail hs' hphase hgone => simp [hkept] at hgone
  | transmit hs' =>
    obtain rfl := Option.some.inj (hs'.symm.trans hs)
    rfl

theorem cancelled (x : Routing) (id : String) :
    (x.client.isPending id = true ↔ id ∈ x.client.pending.map Prod.fst) ∧
      ∃ y, x.step? (.client (.cancel id)) = some y ∧ y.client = x.client ∧
        ∀ token, y.link.isCancelled token = true ↔
          x.link.isCancelled token = true ∨ x.client.pending? id = some token := by
  constructor
  · rw [Client.isPending, Option.isSome_iff_ne_none, ne_eq, Client.pending?_eq_none_iff, not_not]
  · cases hpending : x.client.pending? id with
    | none =>
      refine ⟨x, by simp [step?, Client.step?, hpending, record], rfl, fun token => ?_⟩
      simp
    | some i =>
      refine ⟨{ x with link := x.link.cancel i },
        by simp [step?, Client.step?, hpending, record], rfl, fun token => ?_⟩
      simp only [Link.isCancelled, Link.cancel, List.contains_cons, Bool.or_eq_true, beq_iff_eq,
        Option.some.injEq]
      rw [or_comm, eq_comm (a := token)]

theorem failed {i : Nat} {s : Submission} (hs : x.client.submissions[i]? = some s)
    (hgone : x.link.requests.receiverGone = true)
    (hstep : x.step? (.client (.transmit i)) = some y) (id : String) :
    y.client.pending? id = if id = s.request.id then none else x.client.pending? id := by
  obtain ⟨c, l, hclient, rfl⟩ := exists_client_step hstep
  cases hclient with
  | fail hs' =>
    obtain rfl := Option.some.inj (hs'.symm.trans hs)
    exact Client.pending?_orphan x.client _ id
  | transmit hs' hphase hkept => simp [hgone] at hkept

theorem Sound.undone (hx : x.Sound) {request : Request} {z : Routing}
    (hfresh : request.id ∉ x.client.submittedIds)
    (hsubmit : x.step? (.client (.submit request)) = some y)
    (hgone : y.link.requests.receiverGone = true)
    (htransmit : y.step? (.client (.transmit x.client.submissions.length)) = some z) :
    z.client.pending = x.client.pending := by
  have hnone := Client.pending?_eq_none_iff.2 (hx.not_mem_pending_of_fresh hfresh)
  obtain ⟨c, l, hclient, rfl⟩ := exists_client_step hsubmit
  obtain ⟨c', l', hclient', rfl⟩ := exists_client_step htransmit
  cases hclient with
  | submit =>
    rw [Client.orphan_of_not_pending hnone] at hclient'
    cases hclient' with
    | fail hs =>
      obtain rfl := Option.some.inj (List.getElem?_concat_length.symm.trans hs)
      refine (Client.pending_orphan _ _).trans ((List.filter_append _ _).trans ?_)
      rw [Client.filter_pending_eq hnone, List.filter_singleton]
      simp
    | transmit hs hphase hkept => exact Bool.noConfusion (hgone.symm.trans hkept)

/-- Requests are submitted under ids of their own. Then whatever happens at both ends of the link,
and in whichever order, each submission is told of the first response with its id and of no other,
and the pending ids are those of the submissions that were told of none. -/
theorem routing_by_id {link : Link} {events : List Event} {x : Routing}
    (hfresh : (events.filterMap Event.submittedId?).Nodup)
    (h : ({ link } : Routing).run? events = some x) : x.Reliable := by
  have hx := (sound_run hfresh h).1
  exact
    { arrived := fun i s r hs hreply =>
        have hfirst := (hx.fits i s hs).arrived r hreply
        ⟨first?_id hfirst, hfirst⟩
      awaited := fun i s hs hreply =>
        have hfits := hx.fits i s hs
        (hfits.unanswered (hfits.awaited hreply)).2
      resolved := fun hrouting i s r hs hphase hfirst => hx.resolved hrouting hs hphase hfirst
      final := fun event y hstep => final hstep
      pending := hx.pending?_iff
      distinct := hx.pendingIds
      route := fun y response rest hqueue hstep => hx.route hqueue hstep
      transmit := fun i s y hs hkept hstep => transmitted hs hkept hstep
      cancel := cancelled x
      fail := fun i s y hs hgone hstep => failed hs hgone hstep
      undone := fun request y z hid hsubmit hgone htransmit =>
        hx.undone hid hsubmit hgone htransmit }

theorem routing_by_id_out_of_order :
    let a : Request := { type := .parse, id := "a" }
    let b : Request := { type := .parse, id := "b" }
    let events : List Event := [.client (.submit a), .client (.submit b), .client (.transmit 0),
      .far (.new 1) { capacity := 3, queue := [.refused "b" .invalid, .refused "c" .invalid,
        .refused "b" .cancelled, .refused "a" .invalid] },
      .client .route, .client .route, .client .route, .client (.cancel "a")]
    (events.filterMap Event.submittedId?).Nodup ∧
      ∃ x, ({ link := .new 1 } : Routing).run? events = some x ∧
        x.client.submissions.map (·.reply) = [.awaited, .arrived (.refused "b" .invalid)] ∧
        x.client.pending = [("a", 0)] ∧ x.Reliable := by
  intro a b events
  have hfresh : (events.filterMap Event.submittedId?).Nodup := by decide
  have hseen : (({ link := .new 1 } : Routing).run? events).map
      (fun x => (x.client.submissions.map (·.reply), x.client.pending)) =
      some ([.awaited, .arrived (.refused "b" .invalid)], [("a", 0)]) := by decide +kernel
  obtain ⟨x, hx, hseen⟩ := Option.map_eq_some_iff.1 hseen
  obtain ⟨hreplies, hpending⟩ := Prod.mk.inj hseen
  exact ⟨hfresh, x, hx, hreplies, hpending, routing_by_id hfresh hx⟩

end Routing

end SubmissionGrader
