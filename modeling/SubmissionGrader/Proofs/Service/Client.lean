import SubmissionGrader.Proofs.Lists
import SubmissionGrader.Service.Client
import Mathlib.Data.List.Nodup

/-!
# Events of a client

`Client.Step` says what an event makes of a client and its link. The pending ids are looked up in a
list; with different ids, looking one up and finding it in the list are the same. Submissions stay
where they are, under their ids, and what became of one is final (`Step.later`). An event moves one
submission to its next stage at most (`Progress`), and only a caller gives one up (`Step.givenUp`).
A client that cannot go on by itself has nothing to send and nothing to pass on (`Idle`).
-/

namespace SubmissionGrader.Client

variable {c c' : Client} {l l' : Link} {event : Event} {id : String} {i : Nat}

/-! ## Pending ids -/

theorem pending?_eq_some_iff (h : (c.pending.map Prod.fst).Nodup) :
    c.pending? id = some i ↔ (id, i) ∈ c.pending := by
  rw [pending?, Option.map_eq_some_iff]
  constructor
  · rintro ⟨⟨key, j⟩, hfind, rfl⟩
    obtain rfl : key = id := by simpa using List.find?_some hfind
    exact List.mem_of_find?_eq_some hfind
  · intro hmem
    have hsome : (c.pending.find? (·.1 = id)).isSome = true :=
      List.find?_isSome.2 ⟨_, hmem, by simp⟩
    obtain ⟨p, hp⟩ := Option.isSome_iff_exists.1 hsome
    have hkey : p.1 = id := by simpa using List.find?_some hp
    refine ⟨p, hp, ?_⟩
    rw [List.inj_on_of_nodup_map h (List.mem_of_find?_eq_some hp) hmem hkey]

theorem pending?_eq_none_iff : c.pending? id = none ↔ id ∉ c.pending.map Prod.fst := by
  rw [pending?, Option.map_eq_none_iff, List.find?_eq_none, List.mem_map]
  constructor
  · rintro h ⟨p, hp, rfl⟩
    exact h p hp (by simp)
  · exact fun h p hp hkey => h ⟨p, hp, by simpa using hkey⟩

theorem pending?_forget (c : Client) (id other : String) :
    (c.forget id).pending? other = if other = id then none else c.pending? other := by
  simp only [pending?, forget, List.find?_filter]
  split
  next heq =>
    subst heq
    simp
  next hne =>
    congr 2
    funext p
    by_cases hp : p.1 = other
    · simp [hp, hne]
    · simp [hp]

theorem orphan_of_not_pending (h : c.pending? id = none) : c.orphan id = c := by
  rw [orphan, h]

theorem orphan_of_pending (h : c.pending? id = some i) :
    c.orphan id = (c.modify i Submission.orphan).forget id := by
  rw [orphan, h]

theorem filter_pending_eq (h : c.pending? id = none) : c.pending.filter (·.1 ≠ id) = c.pending := by
  refine List.filter_eq_self.2 fun p hp => decide_eq_true fun hkey => ?_
  exact pending?_eq_none_iff.1 h (List.mem_map.2 ⟨p, hp, hkey⟩)

theorem pending_orphan (c : Client) (id : String) :
    (c.orphan id).pending = c.pending.filter (·.1 ≠ id) := by
  cases h : c.pending? id with
  | none => rw [orphan_of_not_pending h, filter_pending_eq h]
  | some i =>
    rw [orphan_of_pending h]
    rfl

@[simp] theorem pending?_orphan (c : Client) (id other : String) :
    (c.orphan id).pending? other = if other = id then none else c.pending? other := by
  cases h : c.pending? id with
  | none =>
    rw [orphan_of_not_pending h]
    split
    next heq => rw [heq, h]
    next => rfl
  | some i =>
    rw [orphan_of_pending h, pending?_forget]
    rfl

/-! ## Submissions -/

namespace Submission

variable {s s' s'' : Submission}

@[simp] theorem orphan_request (s : Submission) : (orphan s).request = s.request := by
  rw [orphan]
  split <;> rfl

@[simp] theorem orphan_phase (s : Submission) : (orphan s).phase = s.phase := by
  rw [orphan]
  split <;> rfl

theorem orphan_reply_ne (s : Submission) : (orphan s).reply ≠ .awaited := by
  rw [orphan]
  split
  next => exact Reply.noConfusion
  next hne => exact hne

theorem reply_of_orphan_reply {response : Response} (h : (orphan s).reply = .arrived response) :
    s.reply = .arrived response := by
  rw [orphan] at h
  split at h
  next => cases h
  next => exact h

theorem deliver_awaited (h : s.reply = .awaited) (response : Response) :
    deliver response s = { s with reply := .arrived response } := by
  rw [deliver, h]

theorem deliver_of_ne (h : s.reply ≠ .awaited) (response : Response) :
    deliver response s = s := by
  rw [deliver]
  split
  next hreply => exact absurd hreply h
  next => rfl

@[simp] theorem deliver_request (response : Response) (s : Submission) :
    (deliver response s).request = s.request := by
  rw [deliver]
  split <;> rfl

@[simp] theorem deliver_phase (response : Response) (s : Submission) :
    (deliver response s).phase = s.phase := by
  rw [deliver]
  split <;> rfl

/-- What can become of a submission. Only who still waits gets a reply. -/
def Later (s s' : Submission) : Prop :=
  s'.request = s.request ∧
    (s'.reply = s.reply ∨ s.reply = .awaited ∨ s'.reply = .discarded)

theorem Later.refl (s : Submission) : Later s s := ⟨rfl, .inl rfl⟩

theorem Later.trans (h : Later s s') (h' : Later s' s'') : Later s s'' := by
  obtain ⟨hrequest, hreply⟩ := h
  obtain ⟨hrequest', hreply'⟩ := h'
  refine ⟨hrequest'.trans hrequest, ?_⟩
  rcases hreply with hsame | hawaited | hdiscarded
  · rwa [hsame] at hreply'
  · exact .inr (.inl hawaited)
  · rcases hreply' with hsame | hawaited | hdiscarded'
    · exact .inr (.inr (hsame.trans hdiscarded))
    · simp [hdiscarded] at hawaited
    · exact .inr (.inr hdiscarded')

theorem later_orphan (s : Submission) : Later s (orphan s) := by
  refine ⟨orphan_request s, ?_⟩
  by_cases h : s.reply = .awaited
  · exact .inr (.inl h)
  · rw [orphan]
    split
    next hreply => exact absurd hreply h
    next => exact .inl rfl

theorem later_deliver (response : Response) (s : Submission) : Later s (deliver response s) := by
  by_cases h : s.reply = .awaited
  · exact ⟨deliver_request _ _, .inr (.inl h)⟩
  · rw [deliver_of_ne h]
    exact .refl s

end Submission

def Later (c c' : Client) : Prop :=
  ∀ (i : Nat) (s : Submission), c.submissions[i]? = some s →
    ∃ s', c'.submissions[i]? = some s' ∧ Submission.Later s s'

theorem Later.refl (c : Client) : c.Later c := fun _ s hs => ⟨s, hs, .refl s⟩

theorem Later.trans {c'' : Client} (h : c.Later c') (h' : c'.Later c'') : c.Later c'' := by
  intro i s hs
  obtain ⟨s', hs', hlater⟩ := h i s hs
  obtain ⟨s'', hs'', hlater'⟩ := h' i s' hs'
  exact ⟨s'', hs'', hlater.trans hlater'⟩

theorem later_modify (c : Client) (i : Nat) {f : Submission → Submission}
    (hf : ∀ s, Submission.Later s (f s)) : c.Later (c.modify i f) := by
  intro j s hs
  rw [Client.modify, List.getElem?_modify, hs]
  by_cases hij : i = j
  · exact ⟨f s, by simp [hij], hf s⟩
  · exact ⟨s, by simp [hij], .refl s⟩

theorem later_orphan (c : Client) (id : String) : c.Later (c.orphan id) := by
  rw [orphan]
  split
  · exact later_modify c _ Submission.later_orphan
  · exact .refl c

theorem later_orphanAll (c : Client) : c.Later c.orphanAll := by
  rw [orphanAll]
  generalize c.pending.map Prod.fst = ids
  induction ids generalizing c with
  | nil => exact .refl c
  | cons id ids ih => exact (later_orphan c id).trans (ih (c.orphan id))

section Parts

variable {β : Type} (part : Submission → β)

theorem map_submissions_modify (c : Client) (i : Nat) {f : Submission → Submission}
    (hf : ∀ s, part (f s) = part s) :
    (c.modify i f).submissions.map part = c.submissions.map part := by
  refine List.ext_getElem? fun j => ?_
  rw [List.getElem?_map, Client.modify, List.getElem?_modify, List.getElem?_map]
  cases c.submissions[j]? with
  | none => rfl
  | some s =>
    by_cases hij : i = j
    · simp [hij, hf]
    · simp [hij]

theorem map_submissions_move {c : Client} {i : Nat} {s : Submission}
    (hs : c.submissions[i]? = some s) (f : Submission → Submission) :
    (c.modify i f).submissions.map part = (c.submissions.map part).set i (part (f s)) := by
  rw [Client.modify, List.modify_eq_set_getElem?, hs]
  exact List.map_set

variable (hpart : ∀ s, part (Submission.orphan s) = part s)

include hpart

theorem map_submissions_orphan (c : Client) (id : String) :
    (c.orphan id).submissions.map part = c.submissions.map part := by
  rw [orphan]
  split
  · exact map_submissions_modify part c _ hpart
  · rfl

theorem map_submissions_orphanAll (c : Client) :
    c.orphanAll.submissions.map part = c.submissions.map part := by
  rw [orphanAll]
  generalize c.pending.map Prod.fst = ids
  induction ids generalizing c with
  | nil => rfl
  | cons id ids ih => rw [List.foldl_cons, ih, map_submissions_orphan part hpart]

end Parts

def submittedIds (c : Client) : List String := c.submissions.map (·.request.id)

theorem submittedIds_modify (c : Client) (i : Nat) {f : Submission → Submission}
    (hf : ∀ s, (f s).request = s.request) : (c.modify i f).submittedIds = c.submittedIds :=
  map_submissions_modify (·.request.id) c i fun s => by rw [hf]

theorem submittedIds_orphan (c : Client) (id : String) :
    (c.orphan id).submittedIds = c.submittedIds :=
  map_submissions_orphan (·.request.id) (fun s => by rw [Submission.orphan_request]) c id

theorem submittedIds_orphanAll (c : Client) : c.orphanAll.submittedIds = c.submittedIds :=
  map_submissions_orphanAll (·.request.id) (fun s => by rw [Submission.orphan_request]) c

def stages (c : Client) : List (Request × SubmissionPhase) :=
  c.submissions.map fun s => (s.request, s.phase)

theorem stages_modify (c : Client) (i : Nat) {f : Submission → Submission}
    (hrequest : ∀ s, (f s).request = s.request) (hphase : ∀ s, (f s).phase = s.phase) :
    (c.modify i f).stages = c.stages :=
  map_submissions_modify _ c i fun s => by rw [hrequest, hphase]

theorem stages_orphan (c : Client) (id : String) : (c.orphan id).stages = c.stages :=
  map_submissions_orphan _
    (fun s => by rw [Submission.orphan_request, Submission.orphan_phase]) c id

theorem stages_orphanAll (c : Client) : c.orphanAll.stages = c.stages :=
  map_submissions_orphanAll _
    (fun s => by rw [Submission.orphan_request, Submission.orphan_phase]) c

theorem stages_move {c : Client} {i : Nat} {s : Submission} (hs : c.submissions[i]? = some s)
    (f : Submission → Submission) (hrequest : (f s).request = s.request) :
    (c.modify i f).stages = c.stages.set i (s.request, (f s).phase) := by
  rw [← hrequest]
  exact map_submissions_move _ hs f

theorem getElem?_stages {c : Client} {i : Nat} {s : Submission} (hs : c.submissions[i]? = some s) :
    c.stages[i]? = some (s.request, s.phase) := by
  rw [stages, List.getElem?_map, hs]
  rfl

/-- Nobody waits for the response to a submission any more. -/
def Submission.isGivenUp (s : Submission) : Bool := s.phase = .abandoned || s.reply = .discarded

theorem Submission.isGivenUp_orphan (s : Submission) :
    isGivenUp (orphan s) = isGivenUp s := by
  rw [isGivenUp, isGivenUp, orphan_phase, orphan]
  cases hreply : s.reply <;> simp [hreply]

theorem Submission.isGivenUp_deliver (response : Response) (s : Submission) :
    isGivenUp (deliver response s) = isGivenUp s := by
  rw [isGivenUp, isGivenUp, deliver_phase, deliver]
  cases hreply : s.reply <;> simp [hreply]

def givenUp (c : Client) : List Bool := c.submissions.map Submission.isGivenUp

/-! ## Steps -/

def Event.submittedId? : Event → Option String
  | .submit request => some request.id
  | _ => none

inductive Step (c : Client) (l : Link) : Event → Client → Link → Prop
  | submit (request : Request) :
      Step c l (.submit request)
        { c.orphan request.id with
          pending := (c.orphan request.id).pending ++
            [(request.id, (c.orphan request.id).submissions.length)]
          submissions := (c.orphan request.id).submissions ++ [{ request }] } l
  | fail {i : Nat} {s : Submission} (hs : c.submissions[i]? = some s) (hphase : s.phase = .sending)
      (hgone : l.requests.receiverGone = true) :
      Step c l (.transmit i)
        ((c.orphan s.request.id).modify i fun s => { s with phase := .failed }) l
  | transmit {i : Nat} {s : Submission} (hs : c.submissions[i]? = some s)
      (hphase : s.phase = .sending) (hkept : l.requests.receiverGone = false)
      (hroom : l.requests.hasRoom = true) :
      Step c l (.transmit i) (c.modify i fun s => { s with phase := .sent })
        { l with requests := l.requests.push ⟨s.request, i⟩ }
  | abandon {i : Nat} {s : Submission} (hs : c.submissions[i]? = some s)
      (hphase : s.phase = .sending) :
      Step c l (.abandon i)
        (c.modify i fun s => { s with phase := .abandoned, reply := .discarded }) l
  | deliver {response : Response} {rest : List Response} {i : Nat} (hrouting : c.routing = true)
      (hqueue : l.responses.queue = response :: rest)
      (hpending : c.pending? response.id = some i) :
      Step c l .route ((c.modify i (Submission.deliver response)).forget response.id)
        { l with responses := { l.responses with queue := rest } }
  | ignore {response : Response} {rest : List Response} (hrouting : c.routing = true)
      (hqueue : l.responses.queue = response :: rest) (hpending : c.pending? response.id = none) :
      Step c l .route c { l with responses := { l.responses with queue := rest } }
  | stop (hrouting : c.routing = true) (hclosed : l.responses.isClosed = true) :
      Step c l .stop { c.orphanAll with routing := false } l
  | cancel {id : String} {i : Nat} (hpending : c.pending? id = some i) :
      Step c l (.cancel id) c (l.cancel i)
  | miss {id : String} (hpending : c.pending? id = none) : Step c l (.cancel id) c l
  | discard {i : Nat} {s : Submission} (hs : c.submissions[i]? = some s)
      (hphase : s.phase = .sent) :
      Step c l (.discard i) (c.modify i fun s => { s with reply := .discarded }) l
  | drop :
      Step c l .drop { c.orphanAll with routing := false }
        { l with requests := l.requests.closeSenders, responses := l.responses.closeReceiver }

theorem step_of_step? (h : c.step? l event = some (c', l')) : Step c l event c' l' := by
  cases event with
  | submit request =>
    cases h
    exact .submit request
  | transmit i =>
    simp only [step?] at h
    split at h
    next request reply hs =>
      split at h
      next hgone =>
        cases h
        exact .fail hs rfl hgone
      next hkept =>
        split at h
        next hroom =>
          cases h
          exact .transmit hs rfl (by simpa using hkept) hroom
        next => cases h
    next => cases h
  | abandon i =>
    simp only [step?] at h
    split at h
    next request reply hs =>
      cases h
      exact .abandon hs rfl
    next => cases h
  | route =>
    simp only [step?, Channel.pop?] at h
    split at h
    next hrouting =>
      cases hqueue : l.responses.queue with
      | nil => simp [hqueue] at h
      | cons response rest =>
        simp only [hqueue] at h
        cases hpending : c.pending? response.id with
        | none =>
          simp only [hpending] at h
          cases h
          exact .ignore hrouting hqueue hpending
        | some i =>
          simp only [hpending] at h
          cases h
          exact .deliver hrouting hqueue hpending
    next => cases h
  | stop =>
    simp only [step?] at h
    split at h
    next hstop =>
      cases h
      rw [Bool.and_eq_true] at hstop
      exact .stop hstop.1 hstop.2
    next => cases h
  | cancel id =>
    simp only [step?] at h
    cases hpending : c.pending? id with
    | none =>
      simp only [hpending] at h
      cases h
      exact .miss hpending
    | some i =>
      simp only [hpending] at h
      cases h
      exact .cancel hpending
  | discard i =>
    simp only [step?] at h
    split at h
    next request reply hs =>
      cases h
      exact .discard hs rfl
    next => cases h
  | drop =>
    cases h
    exact .drop

theorem Step.later (h : Step c l event c' l') : c.Later c' := by
  cases h with
  | submit request =>
    refine (later_orphan c request.id).trans fun i s hs => ⟨s, ?_, .refl s⟩
    rwa [List.getElem?_append_left (List.getElem?_eq_some_iff.1 hs).1]
  | fail => exact (later_orphan c _).trans (later_modify _ _ fun _ => ⟨rfl, .inl rfl⟩)
  | transmit => exact later_modify c _ fun _ => ⟨rfl, .inl rfl⟩
  | abandon => exact later_modify c _ fun _ => ⟨rfl, .inr (.inr rfl)⟩
  | deliver => exact later_modify c _ (Submission.later_deliver _)
  | stop => exact later_orphanAll c
  | discard => exact later_modify c _ fun _ => ⟨rfl, .inr (.inr rfl)⟩
  | drop => exact later_orphanAll c
  | ignore | cancel | miss => exact .refl c

theorem Step.submittedIds_eq (h : Step c l event c' l') :
    c'.submittedIds = c.submittedIds ++ event.submittedId?.toList := by
  cases h with
  | submit request =>
    rw [← submittedIds_orphan c request.id]
    simp [submittedIds, Event.submittedId?]
  | fail =>
    rw [submittedIds_modify, submittedIds_orphan]
    · exact (List.append_nil _).symm
    · exact fun _ => rfl
  | transmit | abandon | discard =>
    rw [submittedIds_modify]
    · exact (List.append_nil _).symm
    · exact fun _ => rfl
  | deliver =>
    refine (submittedIds_modify c _ (Submission.deliver_request _)).trans ?_
    exact (List.append_nil _).symm
  | stop | drop => exact (submittedIds_orphanAll c).trans (List.append_nil _).symm
  | ignore | cancel | miss => exact (List.append_nil _).symm

/-- A client does not bring back who takes its requests. -/
theorem Step.receiverGone (h : Step c l event c' l') (hgone : l.requests.receiverGone = true) :
    l'.requests.receiverGone = true := by
  cases h <;> exact hgone

/-- How far the requests are after an event. A submitted request comes to the others, or one that
had to be sent moves on. -/
inductive Progress (c : Client) (l : Link) (event : Event) : List (Request × SubmissionPhase) → Prop
  | keep (hevent : ∀ i, event ≠ .transmit i) : Progress c l event c.stages
  | submit {request : Request} (hevent : event = .submit request) :
      Progress c l event (c.stages ++ [(request, .sending)])
  | move {i : Nat} {request : Request} {phase : SubmissionPhase}
      (hstage : c.stages[i]? = some (request, .sending)) (hphase : phase ≠ .sending)
      (hsent : phase = .sent → event = .transmit i ∧ l.requests.receiverGone = false ∧
        l.requests.hasRoom = true)
      (hfailed : phase = .failed → l.requests.receiverGone = true) :
      Progress c l event (c.stages.set i (request, phase))

theorem Step.progress (h : Step c l event c' l') : Progress c l event c'.stages := by
  cases h with
  | submit request =>
    have hstages : stages { c.orphan request.id with
        pending := (c.orphan request.id).pending ++
          [(request.id, (c.orphan request.id).submissions.length)]
        submissions := (c.orphan request.id).submissions ++ [{ request }] } =
        c.stages ++ [(request, .sending)] := by
      rw [← stages_orphan c request.id, stages, stages, List.map_append]
      rfl
    exact hstages ▸ .submit rfl
  | @fail i s hs hphase hgone =>
    obtain ⟨t, ht, hrequest, -⟩ := later_orphan c s.request.id i s hs
    rw [stages_move ht _ rfl, stages_orphan, hrequest]
    exact .move (hphase ▸ getElem?_stages hs) nofun nofun fun _ => hgone
  | transmit hs hphase hkept hroom =>
    rw [stages_move hs _ rfl]
    exact .move (hphase ▸ getElem?_stages hs) nofun (fun _ => ⟨rfl, hkept, hroom⟩) nofun
  | abandon hs hphase =>
    rw [stages_move hs _ rfl]
    exact .move (hphase ▸ getElem?_stages hs) nofun nofun nofun
  | @deliver response rest i =>
    exact stages_modify c i (Submission.deliver_request response)
      (Submission.deliver_phase response) ▸ .keep nofun
  | stop | drop => exact stages_orphanAll c ▸ .keep nofun
  | @discard i s hs =>
    have hsame : (c.modify i fun s => { s with reply := .discarded }).stages = c.stages :=
      stages_modify c i (fun _ => rfl) (fun _ => rfl)
    exact hsame ▸ .keep nofun
  | ignore | cancel | miss => exact .keep nofun

theorem givenUp_orphan (c : Client) (id : String) : (c.orphan id).givenUp = c.givenUp :=
  map_submissions_orphan _ Submission.isGivenUp_orphan c id

/-- Whether a request is sent or fails, its submission is not given up by that. -/
theorem givenUp_modify_phase {s : Submission} {phase : SubmissionPhase}
    (hs : c.submissions[i]? = some s) (hsending : s.phase = .sending)
    (hphase : phase ≠ .abandoned) :
    (c.modify i fun s => { s with phase }).givenUp = c.givenUp := by
  obtain ⟨hi, rfl⟩ := List.getElem?_eq_some_iff.1 hs
  have hsame : Submission.isGivenUp { c.submissions[i] with phase } =
      Submission.isGivenUp c.submissions[i] := by
    simp [Submission.isGivenUp, hsending, hphase]
  rw [givenUp, map_submissions_move _ hs, hsame, ← List.map_set, List.set_getElem_self]
  rfl

/-- A submission is given up by its caller alone. -/
theorem Step.givenUp (h : Step c l event c' l') (hgiven : c'.givenUp[i]? = some true) :
    c.givenUp[i]? = some true ∨ event = .abandon i ∨ event = .discard i := by
  have hset {j : Nat} (h : (c.givenUp.set j true)[i]? = some true) :
      c.givenUp[i]? = some true ∨ j = i := by
    rw [List.getElem?_set] at h
    split at h
    next hij => exact .inr hij
    next => exact .inl h
  cases h with
  | submit request =>
    rw [Client.givenUp, List.map_append, ← Client.givenUp, givenUp_orphan] at hgiven
    obtain ⟨-, hgiven⟩ | ⟨-, heq⟩ := Lists.getElem?_concat hgiven
    · exact .inl hgiven
    · cases heq
  | @fail j s hs hphase hgone =>
    obtain ⟨t, ht, -⟩ := later_orphan c s.request.id j s hs
    have hsame : (t.request, t.phase) = (s.request, s.phase) := by
      rw [← Option.some.injEq, ← getElem?_stages ht, stages_orphan, getElem?_stages hs]
    rw [givenUp_modify_phase ht ((congrArg Prod.snd hsame).trans hphase)
      SubmissionPhase.noConfusion, givenUp_orphan] at hgiven
    exact .inl hgiven
  | transmit hs hphase =>
    rw [givenUp_modify_phase hs hphase SubmissionPhase.noConfusion] at hgiven
    exact .inl hgiven
  | abandon hs hphase =>
    rw [Client.givenUp, map_submissions_move _ hs] at hgiven
    exact (hset hgiven).imp_right fun hij => .inl (congrArg Event.abandon hij)
  | @deliver response rest j =>
    rw [Client.givenUp, Client.forget,
      map_submissions_modify _ c j (Submission.isGivenUp_deliver response)] at hgiven
    exact .inl hgiven
  | stop | drop =>
    rw [Client.givenUp, map_submissions_orphanAll _ Submission.isGivenUp_orphan] at hgiven
    exact .inl hgiven
  | @discard j s hs =>
    have hlost : Submission.isGivenUp { s with reply := .discarded } = true := by
      simp [Submission.isGivenUp]
    rw [Client.givenUp, map_submissions_move _ hs, hlost] at hgiven
    exact (hset hgiven).imp_right fun hij => .inr (congrArg Event.discard hij)
  | ignore | cancel | miss => exact .inl hgiven

def Event.isTransmit : Event → Bool
  | .transmit _ => true
  | _ => false

/-- Every submission has to be sent once at most. -/
theorem Progress.sending_le {after : List (Request × SubmissionPhase)}
    (h : Progress c l event after) :
    after.countP (·.2 = .sending) + event.isTransmit.toNat + c.stages.length ≤
      c.stages.countP (·.2 = .sending) + after.length := by
  cases h with
  | keep hevent =>
    have hother : event.isTransmit = false := by
      cases event with
      | transmit i => exact absurd rfl (hevent i)
      | _ => rfl
    simp [hother]
  | submit hevent =>
    subst hevent
    simp [Event.isTransmit]
    omega
  | @move i request phase hstage hphase =>
    obtain ⟨hi, hget⟩ := List.getElem?_eq_some_iff.1 hstage
    have hpos : 0 < c.stages.countP (·.2 = .sending) :=
      List.countP_pos_iff.2 ⟨_, List.mem_of_getElem? hstage, by simp⟩
    have hbound := event.isTransmit.toNat_le
    rw [List.countP_set hi, hget, List.length_set]
    simp [hphase]
    omega

/-- A token is cancelled through the id that leads to it. -/
theorem Step.cancelled (h : Step c l event c' l') {token : Token} (htoken : token ∈ l'.cancelled) :
    token ∈ l.cancelled ∨ ∃ id, event = .cancel id ∧ c.pending? id = some token := by
  cases h with
  | cancel hpending =>
    rcases List.mem_cons.1 htoken with rfl | htoken
    · exact .inr ⟨_, rfl, hpending⟩
    · exact .inl htoken
  | submit | fail | transmit | abandon | deliver | ignore | stop | miss | discard | drop =>
    exact .inl htoken

/-- Only a request that somebody takes is ever sent. -/
theorem Step.sent {request : Request} (h : Step c l event c' l')
    (hsent : c'.stages[i]? = some (request, .sent)) :
    c.stages[i]? = some (request, .sent) ∨
      event = .transmit i ∧ c.stages[i]? = some (request, .sending) ∧
        l.requests.receiverGone = false ∧ l.requests.hasRoom = true := by
  have hprogress := h.progress
  generalize c'.stages = after at hsent hprogress
  cases hprogress with
  | keep => exact .inl hsent
  | submit hevent =>
    obtain ⟨-, hstage⟩ | ⟨-, heq⟩ := Lists.getElem?_concat hsent
    · exact .inl hstage
    · cases congrArg Prod.snd heq
  | @move j moved phase hstage hphase hsent' hfailed =>
    rw [List.getElem?_set] at hsent
    split at hsent
    next hij =>
      subst hij
      obtain ⟨rfl, rfl⟩ : moved = request ∧ phase = .sent := by
        rw [if_pos (List.getElem?_eq_some_iff.1 hstage).1] at hsent
        exact Prod.mk.inj (Option.some.inj hsent)
      obtain ⟨hevent, htaken⟩ := hsent' rfl
      exact .inr ⟨hevent, hstage, htaken⟩
    next => exact .inl hsent

/-- While somebody takes requests, none of them fails. -/
theorem Step.unfailed (h : Step c l event c' l') (hkept : l.requests.receiverGone = false)
    (hc : ∀ stage ∈ c.stages, stage.2 ≠ .failed) : ∀ stage ∈ c'.stages, stage.2 ≠ .failed := by
  have hprogress := h.progress
  generalize c'.stages = after at hprogress
  cases hprogress with
  | keep => exact hc
  | submit hevent =>
    intro stage hstage
    rcases List.mem_append.1 hstage with hstage | hstage
    · exact hc stage hstage
    · rw [List.mem_singleton.1 hstage]
      exact SubmissionPhase.noConfusion
  | move hmoved hphase hsent hfailed =>
    intro stage hstage
    rcases List.mem_or_eq_of_mem_set hstage with hstage | rfl
    · exact hc stage hstage
    · intro hphase
      rw [hfailed hphase] at hkept
      cases hkept

/-! ## Idle clients -/

/-- An event that needs no caller. -/
def Event.isBackground : Event → Bool
  | .transmit _ | .route | .stop => true
  | _ => false

theorem isSome_step?_next? (hevent : c.next? l = some event) :
    (c.step? l event).isSome = true ∧ event.isBackground = true := by
  simp only [next?] at hevent
  split at hevent
  next hroute =>
    cases hevent
    rw [Bool.and_eq_true] at hroute
    cases hqueue : l.responses.queue with
    | nil => simp [hqueue] at hroute
    | cons response rest => exact ⟨by simp [step?, Channel.pop?, hqueue, hroute.1], rfl⟩
  next =>
    split at hevent
    next hstop =>
      cases hevent
      exact ⟨by simp [step?, hstop], rfl⟩
    next =>
      split at hevent
      next hsend =>
        obtain ⟨i, hi, rfl⟩ := Option.map_eq_some_iff.1 hevent
        obtain ⟨hlt, hphase, -⟩ := List.findIdx?_eq_some_iff_getElem.1 hi
        have hsending : c.submissions[i].phase = .sending := by simpa using hphase
        refine ⟨?_, rfl⟩
        simp only [step?, List.getElem?_eq_getElem hlt]
        generalize c.submissions[i] = s at hsending
        obtain ⟨request, phase, reply⟩ := s
        cases hsending
        cases hgone : l.requests.receiverGone with
        | true => simp
        | false =>
          rw [hgone, Bool.false_or] at hsend
          simp [hsend]
      next => cases hevent

/-- Nothing can happen in the client without its callers. -/
structure Idle (c : Client) (l : Link) : Prop where
  responses : c.routing = true → l.responses.queue = []
  requests : l.requests.hasRoom = true → ∀ s ∈ c.submissions, s.phase ≠ .sending

theorem idle_of_next?_eq_none (hnext : c.next? l = none) : c.Idle l := by
  simp only [next?] at hnext
  split at hnext
  next => cases hnext
  next hroute =>
    split at hnext
    next => cases hnext
    next =>
      refine ⟨fun hrouting => by simpa [hrouting] using hroute, fun hroom s hs => ?_⟩
      rw [hroom, Bool.or_true, if_pos rfl, Option.map_eq_none_iff, sending?,
        List.findIdx?_eq_none_iff] at hnext
      simpa using hnext s hs

end SubmissionGrader.Client
