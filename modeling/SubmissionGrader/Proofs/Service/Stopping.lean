import SubmissionGrader.Proofs.Service.Routing

/-!
# Clients that stopped to pass responses on

When no response can come any more, a client forgets the pending ids, which tells everybody who
waits, and stops to pass responses on. It does not refuse requests from then on: as long as somebody
takes them, a request that is submitted later becomes pending, and its ticket gets no reply
(`reply_iff_submitted_before_stop`).
-/

namespace SubmissionGrader

namespace Client

theorem pending_orphanAll (c : Client) : c.orphanAll.pending = [] := by
  have hfold (ids : List String) (d : Client) :
      ∀ p ∈ (ids.foldl orphan d).pending, p ∈ d.pending ∧ p.1 ∉ ids := by
    induction ids generalizing d with
    | nil => exact fun p hp => ⟨hp, List.not_mem_nil⟩
    | cons id ids ih =>
      intro p hp
      obtain ⟨hmem, hids⟩ := ih (d.orphan id) p hp
      rw [pending_orphan, List.mem_filter] at hmem
      exact ⟨hmem.1, by simpa [hids] using hmem.2⟩
  refine List.eq_nil_iff_forall_not_mem.2 fun p hp => ?_
  obtain ⟨hmem, hids⟩ := hfold _ c p hp
  exact hids (List.mem_map.2 ⟨p, hmem, rfl⟩)

theorem length_orphanAll (c : Client) :
    c.orphanAll.submissions.length = c.submissions.length := by
  simpa [submittedIds] using congrArg List.length (submittedIds_orphanAll c)

variable {c : Client} {i : Nat} {s : Submission}

/-- The holder of a ticket gets a response or learns that none can come, unless the reply is still
awaited. -/
theorem outcome?_of_sent (hs : c.submissions[i]? = some s) (hphase : s.phase = .sent)
    (hheld : s.reply ≠ .discarded) :
    ((∃ r, c.outcome? i = some (.ok r)) ∨ c.outcome? i = some (.error .hostClosed)) ↔
      s.reply ≠ .awaited := by
  obtain ⟨request, phase, reply⟩ := s
  subst hphase
  cases reply with
  | awaited => simp [outcome?, hs]
  | arrived response => simp [outcome?, hs]
  | orphaned => simp [outcome?, hs]
  | discarded => exact absurd rfl hheld

end Client

namespace Routing

/-! ## What every event keeps after the stop -/

/-- Responses are not passed on any more since there were `n` submissions. What was submitted since
is pending, and no reply comes for it, unless its request could not be sent. Nothing else is
pending. -/
structure StoppedAt (n : Nat) (x : Routing) : Prop where
  stopped : x.client.routing = false
  reached : n ≤ x.client.submissions.length
  since : ∀ id i, (id, i) ∈ x.client.pending → n ≤ i
  listed : ∀ i s, x.client.submissions[i]? = some s → n ≤ i → s.phase ≠ .failed →
    (s.request.id, i) ∈ x.client.pending ∧ (s.reply = .awaited ∨ s.reply = .discarded)

variable {n : Nat} {x y : Routing}

theorem StoppedAt.relink (hx : x.StoppedAt n) (link : Link) : StoppedAt n { x with link } :=
  { hx with }

theorem eq_of_stop (hstep : x.step? (.client .stop) = some y) :
    y = { x with client := { x.client.orphanAll with routing := false } } := by
  obtain ⟨c, l, hclient, rfl⟩ := exists_client_step hstep
  cases hclient with
  | stop => rfl

theorem stoppedAt_stop (x : Routing) :
    StoppedAt x.client.submissions.length
      { x with client := { x.client.orphanAll with routing := false } } where
  stopped := rfl
  reached := Nat.le_of_eq (Client.length_orphanAll x.client).symm
  since := fun id i hmem => by simp [Client.pending_orphanAll] at hmem
  listed := fun i s hs hi => by
    obtain ⟨hlt, -⟩ := List.getElem?_eq_some_iff.1 hs
    exact absurd hi (by simpa [Client.length_orphanAll] using hlt)

/-- A submission that goes on without a reply stays pending. -/
theorem StoppedAt.modify (hx : x.StoppedAt n) {i : Nat} {f : Submission → Submission}
    (hf : ∀ s, (f s).request = s.request)
    (hphase : ∀ s, x.client.submissions[i]? = some s → s.phase ≠ .failed)
    (hreply : ∀ s, (f s).reply = s.reply ∨ (f s).reply = .discarded) :
    StoppedAt n { x with client := x.client.modify i f } where
  stopped := hx.stopped
  reached := by
    rw [Client.modify, List.length_modify]
    exact hx.reached
  since := hx.since
  listed := by
    intro j t ht hj hfailed
    rw [Client.modify, List.getElem?_modify] at ht
    by_cases hij : i = j
    · subst hij
      obtain ⟨s, hs, rfl⟩ := Option.map_eq_some_iff.1 (by simpa using ht)
      obtain ⟨hmem, hawaited⟩ := hx.listed i s hs hj (hphase s hs)
      rw [hf]
      refine ⟨hmem, ?_⟩
      rcases hreply s with hsame | hdiscarded
      · rwa [hsame]
      · exact .inr hdiscarded
    · exact hx.listed j t (by simpa [hij] using ht) hj hfailed

theorem StoppedAt.submit (hx : x.StoppedAt n) (request : Request) :
    StoppedAt n { x with
      client := { x.client with
        pending := x.client.pending ++ [(request.id, x.client.submissions.length)]
        submissions := x.client.submissions ++ [{ request }] } } where
  stopped := hx.stopped
  reached := by
    rw [List.length_append]
    exact Nat.le_add_right_of_le hx.reached
  since := by
    intro id i hmem
    rcases List.mem_append.1 hmem with hmem | hmem
    · exact hx.since id i hmem
    · cases List.mem_singleton.1 hmem
      exact hx.reached
  listed := by
    intro i s hs hi hfailed
    obtain ⟨-, hs⟩ | ⟨rfl, rfl⟩ := Lists.getElem?_concat hs
    · obtain ⟨hmem, hreply⟩ := hx.listed i s hs hi hfailed
      exact ⟨List.mem_append_left _ hmem, hreply⟩
    · exact ⟨List.mem_append_right _ (List.mem_singleton_self _), .inl rfl⟩

/-- Who submits under an id of its own and cannot send leaves the others pending. -/
theorem StoppedAt.fail (hx : x.StoppedAt n) (hsound : x.Sound) {i : Nat} {s : Submission}
    (hs : x.client.submissions[i]? = some s) :
    StoppedAt n { x with
      client := (x.client.orphan s.request.id).modify i fun s => { s with phase := .failed } } := by
  have hpending : ∀ p, p ∈ (x.client.orphan s.request.id).pending ↔
      p ∈ x.client.pending ∧ p.1 ≠ s.request.id := by
    simp [Client.pending_orphan, List.mem_filter]
  have hother {j : Nat} {t : Submission} (hij : i ≠ j)
      (ht : (x.client.orphan s.request.id).submissions[j]? = some t) :
      x.client.submissions[j]? = some t := by
    cases hlead : x.client.pending? s.request.id with
    | none => rwa [Client.orphan_of_not_pending hlead] at ht
    | some k =>
      obtain ⟨t', ht', hid⟩ :=
        hsound.targets _ _ ((Client.pending?_eq_some_iff hsound.pendingIds).1 hlead)
      obtain rfl : k = i := hsound.index_eq ht' hs hid
      rw [Client.orphan_of_pending hlead] at ht
      exact (List.getElem?_modify_ne _ _ hij).symm.trans ht
  exact
    { stopped := by
        rw [← hx.stopped, ← orphan_routing x.client s.request.id]
        rfl
      reached := by
        have hlength := congrArg List.length (Client.submittedIds_orphan x.client s.request.id)
        simp only [Client.submittedIds, List.length_map] at hlength
        rw [Client.modify, List.length_modify, hlength]
        exact hx.reached
      since := fun id j hmem => hx.since id j ((hpending _).1 hmem).1
      listed := by
        intro j t ht hj hfailed
        rw [Client.modify, List.getElem?_modify] at ht
        by_cases hij : i = j
        · subst hij
          obtain ⟨t', -, rfl⟩ := Option.map_eq_some_iff.1 (by simpa using ht)
          exact absurd rfl hfailed
        · have ht := hother hij (by simpa [hij] using ht)
          obtain ⟨hmem, hreply⟩ := hx.listed j t ht hj hfailed
          refine ⟨(hpending _).2 ⟨hmem, fun hid => hij ?_⟩, hreply⟩
          exact hsound.index_eq hs ht hid.symm }

/-- As long as the client is kept, no event brings a reply to what was submitted after the stop. -/
theorem StoppedAt.step {event : Event} (hx : x.StoppedAt n) (hsound : x.Sound)
    (hfresh : ∀ id, event.submittedId? = some id → id ∉ x.client.submittedIds)
    (hkept : event ≠ .client .drop) (hstep : x.step? event = some y) : y.StoppedAt n := by
  cases event with
  | far requests responses =>
    cases hstep
    exact hx.relink _
  | client event =>
    obtain ⟨c, l, hclient, rfl⟩ := exists_client_step hstep
    cases hclient with
    | submit request =>
      have hid := hfresh request.id rfl
      rw [Client.orphan_of_not_pending
        (Client.pending?_eq_none_iff.2 (hsound.not_mem_pending_of_fresh hid))]
      exact { hx.submit request with }
    | fail hs hphase hgone => exact (hx.fail hsound hs).relink _
    | @transmit i s hs hphase hkept hroom =>
      have hnext := hx.modify (i := i) (f := fun s => { s with phase := .sent }) (fun _ => rfl)
        (fun t ht => ?_) fun _ => .inl rfl
      · exact hnext.relink _
      · obtain rfl : s = t := by simpa [hs] using ht
        simp [hphase]
    | @abandon i s hs hphase =>
      have hnext := hx.modify (i := i)
        (f := fun s => { s with phase := .abandoned, reply := .discarded }) (fun _ => rfl)
        (fun t ht => ?_) fun _ => .inr rfl
      · exact hnext.relink _
      · obtain rfl : s = t := by simpa [hs] using ht
        simp [hphase]
    | deliver hrouting => exact absurd hrouting (by simp [hx.stopped])
    | ignore hrouting => exact absurd hrouting (by simp [hx.stopped])
    | stop hrouting => exact absurd hrouting (by simp [hx.stopped])
    | cancel hpending => exact hx.relink _
    | miss hpending => exact hx.relink _
    | @discard i s hs hphase =>
      have hnext := hx.modify (i := i) (f := fun s => { s with reply := .discarded }) (fun _ => rfl)
        (fun t ht => ?_) fun _ => .inr rfl
      · exact hnext.relink _
      · obtain rfl : s = t := by simpa [hs] using ht
        simp [hphase]
    | drop => exact absurd rfl hkept

/-- Nobody takes requests any more, and no request was sent since there were `n` submissions. -/
structure RefusedSince (n : Nat) (x : Routing) : Prop where
  refused : x.link.requests.receiverGone = true
  unsent : ∀ i request, x.client.stages[i]? = some (request, .sent) → i < n

theorem refusedSince_stop (hgone : x.link.requests.receiverGone = true) :
    RefusedSince x.client.submissions.length
      { x with client := { x.client.orphanAll with routing := false } } where
  refused := hgone
  unsent := fun i request hstage => by
    have hlt := (List.getElem?_eq_some_iff.1 hstage).1
    rwa [Client.stages, List.length_map, Client.length_orphanAll] at hlt

theorem RefusedSince.step {event : Event} (hx : x.RefusedSince n)
    (hfar : ∀ requests responses, event = .far requests responses → requests.receiverGone = true)
    (hstep : x.step? event = some y) : y.RefusedSince n := by
  cases event with
  | far requests responses =>
    cases hstep
    exact ⟨hfar requests responses rfl, hx.unsent⟩
  | client event =>
    obtain ⟨c, l, hclient, rfl⟩ := exists_client_step hstep
    refine ⟨hclient.receiverGone hx.refused, fun i request hstage => ?_⟩
    rcases hclient.sent hstage with hstage | ⟨-, -, hkept, -⟩
    · exact hx.unsent i request hstage
    · simp [hx.refused] at hkept

/-! ## Who gets a reply -/

/-- What callers find after the client stopped when there were `n` submissions. -/
theorem StoppedAt.reply_iff (hx : x.StoppedAt n) (hsound : x.Sound) {i : Nat} {s : Submission}
    (hs : x.client.submissions[i]? = some s) (hphase : s.phase = .sent)
    (hheld : s.reply ≠ .discarded) :
    ((∃ r, x.client.outcome? i = some (.ok r)) ∨
      x.client.outcome? i = some (.error .hostClosed)) ↔ i < n := by
  rw [Client.outcome?_of_sent hs hphase hheld]
  constructor
  · intro hreply
    by_contra hi
    have hlisted := (hx.listed i s hs (Nat.not_lt.1 hi) (by simp [hphase])).2
    exact hlisted.elim hreply hheld
  · intro hi hawaited
    exact absurd hi (Nat.not_lt.2 (hx.since _ _ ((hsound.fits i s hs).awaited hawaited)))

theorem StoppedAt.pending_iff (hx : x.StoppedAt n) (hsound : x.Sound) (id : String) (i : Nat) :
    (id, i) ∈ x.client.pending ↔ ∃ s, x.client.submissions[i]? = some s ∧ s.request.id = id ∧
      n ≤ i ∧ s.phase ≠ .failed := by
  constructor
  · intro hmem
    obtain ⟨s, hs, rfl⟩ := hsound.targets id i hmem
    exact ⟨s, hs, rfl, hx.since _ i hmem, ((hsound.fits i s hs).unanswered hmem).1⟩
  · rintro ⟨s, hs, rfl, hi, hphase⟩
    exact (hx.listed i s hs hi hphase).1

/-- Let no response come any more, and let the client stop to pass responses on. As long as it is
kept, each ticket gets its reply if it was submitted before, and none if it was submitted later.
What is pending is what was submitted later and could not be refused. So nobody waits in vain if
nobody takes requests any more when the client stops. -/
theorem reply_iff_submitted_before_stop {link : Link} {before after : List Event} {x y z : Routing}
    (hfresh : ((before ++ after).filterMap Event.submittedId?).Nodup)
    (hkept : .client .drop ∉ after) (hbefore : ({ link } : Routing).run? before = some x)
    (hstop : x.step? (.client .stop) = some y) (hafter : y.run? after = some z) :
    let replied (i : Nat) : Prop :=
      (∃ r, z.client.outcome? i = some (.ok r)) ∨ z.client.outcome? i = some (.error .hostClosed)
    (∀ i s, z.client.submissions[i]? = some s → s.phase = .sent → s.reply ≠ .discarded →
      (replied i ↔ i < x.client.submissions.length)) ∧
    (∀ id i, (id, i) ∈ z.client.pending ↔ ∃ s, z.client.submissions[i]? = some s ∧
      s.request.id = id ∧ x.client.submissions.length ≤ i ∧ s.phase ≠ .failed) ∧
    (x.link.requests.receiverGone = true →
      (∀ requests responses, .far requests responses ∈ after → requests.receiverGone = true) →
        (∀ i s, z.client.submissions[i]? = some s → s.phase = .sent → s.reply ≠ .discarded →
          replied i) ∧
        ((∀ s ∈ z.client.submissions, s.phase ≠ .sending ∧ s.phase ≠ .abandoned) →
          z.client.pending = [])) := by
  intro replied
  rw [List.filterMap_append] at hfresh
  obtain ⟨hx, hids⟩ := sound_run (List.nodup_append.1 hfresh).1 hbefore
  rw [← hids, ← (submittedIds_step hstop).trans (List.append_nil _)] at hfresh
  obtain rfl := eq_of_stop hstop
  obtain ⟨hz, hsince, -⟩ := hx.stop.run hfresh (stoppedAt_stop x)
    (fun r event t hmem hr hnew hevent hsince =>
      hsince.step hr hnew (fun hdrop => hkept (hdrop ▸ hmem)) hevent) hafter
  have hreplied {i : Nat} {s : Submission} (hs : z.client.submissions[i]? = some s)
      (hphase : s.phase = .sent) (hheld : s.reply ≠ .discarded) :
      replied i ↔ i < x.client.submissions.length :=
    hsince.reply_iff hz hs hphase hheld
  refine ⟨fun i s hs hphase hheld => hreplied hs hphase hheld, hsince.pending_iff hz, ?_⟩
  intro hgone hfar
  obtain ⟨-, hlater, -⟩ := hx.stop.run hfresh (refusedSince_stop hgone)
    (fun r event t hmem hr hnew hevent hrefused =>
      hrefused.step (fun _ _ heq => hfar _ _ (heq ▸ hmem)) hevent) hafter
  refine ⟨fun i s hs hphase hheld => (hreplied hs hphase hheld).2 ?_, fun hquiet => ?_⟩
  · exact hlater.unsent i s.request (by rw [Client.getElem?_stages hs, hphase])
  · refine List.eq_nil_iff_forall_not_mem.2 fun p hp => ?_
    obtain ⟨s, hs, -, hi, hphase⟩ := (hsince.pending_iff hz p.1 p.2).1 hp
    obtain ⟨hsending, habandoned⟩ := hquiet s (List.mem_of_getElem? hs)
    cases hnow : s.phase with
    | sending => exact hsending hnow
    | sent =>
      have hlt := hlater.unsent p.2 s.request (by rw [Client.getElem?_stages hs, hnow])
      omega
    | failed => exact hphase hnow
    | abandoned => exact habandoned hnow

theorem reply_iff_submitted_before_stop_of_two :
    let a : Request := { type := .parse, id := "a" }
    let b : Request := { type := .parse, id := "b" }
    let before : List Event := [.client (.submit a), .client (.transmit 0),
      .far (.new 1) (Channel.new 1).closeSenders]
    let after : List Event := [.client (.submit b), .client (.transmit 1)]
    ((before ++ after).filterMap Event.submittedId?).Nodup ∧ .client .drop ∉ after ∧
      ∃ x y z, ({ link := .new 1 } : Routing).run? before = some x ∧
        x.step? (.client .stop) = some y ∧ y.run? after = some z ∧
        z.client.stages = [(a, .sent), (b, .sent)] ∧
        ((∃ r, z.client.outcome? 0 = some (.ok r)) ∨
          z.client.outcome? 0 = some (.error .hostClosed)) ∧
        ¬((∃ r, z.client.outcome? 1 = some (.ok r)) ∨
          z.client.outcome? 1 = some (.error .hostClosed)) := by
  intro a b before after
  have hfresh : ((before ++ after).filterMap Event.submittedId?).Nodup := by decide
  have hkept : Event.client .drop ∉ after := by decide
  have hseen : (({ link := .new 1 } : Routing).run? before).bind (fun x =>
      (x.step? (.client .stop)).bind fun y => (y.run? after).map fun z =>
        (x.client.submissions.length, z.client.submissions)) =
      some (1, [⟨a, .sent, .orphaned⟩, ⟨b, .sent, .awaited⟩]) := by decide +kernel
  obtain ⟨x, hbefore, hseen⟩ := Option.bind_eq_some_iff.1 hseen
  obtain ⟨y, hstop, hseen⟩ := Option.bind_eq_some_iff.1 hseen
  obtain ⟨z, hafter, hseen⟩ := Option.map_eq_some_iff.1 hseen
  obtain ⟨hlength, hsubmissions⟩ := Prod.mk.inj hseen
  have hreplied := (reply_iff_submitted_before_stop hfresh hkept hbefore hstop hafter).1
  rw [hlength, hsubmissions] at hreplied
  refine ⟨hfresh, hkept, x, y, z, hbefore, hstop, hafter, ?_, ?_, ?_⟩
  · rw [Client.stages, hsubmissions]
    rfl
  · exact (hreplied 0 _ rfl rfl Reply.noConfusion).2 Nat.zero_lt_one
  · exact fun h => absurd ((hreplied 1 _ rfl rfl Reply.noConfusion).1 h) (Nat.lt_irrefl 1)

/-- The client stopped because no response can come, and then gave out a ticket. No request is being
submitted, but the id of the ticket is pending, and its holder waits. -/
theorem late_ticket_stays_pending :
    let request : Request := { type := .parse, id := "a", code := some "let x = 1" }
    let events : List Event := [.far (.new 8) (Channel.new 64).closeSenders, .client .stop,
      .client (.submit request), .client (.transmit 0)]
    ∃ x, ({ link := { requests := .new 8, responses := .new 64 } } : Routing).run? events = some x ∧
      x.link.responses.isClosed = true ∧ x.client.routing = false ∧
      x.client.submissions = [⟨request, .sent, .awaited⟩] ∧ x.client.outcome? 0 = none ∧
      x.client.pending = [("a", 0)] :=
  ⟨_, rfl, rfl, rfl, rfl, rfl, rfl⟩

end Routing

end SubmissionGrader
