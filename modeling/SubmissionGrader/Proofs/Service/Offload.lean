import Mathlib.Algebra.Order.BigOperators.Group.List
import Mathlib.Algebra.Order.Group.Nat
import SubmissionGrader.Proofs.Service.Exchange
import SubmissionGrader.Proofs.Service.Routing
import SubmissionGrader.Service.Offload

/-!
# A client at its host

What a client and its host do on their link is an exchange to the host, and a routing to the client
(`Joined`). The exchange answers each request that was sent, and the routing brings the answer to
the submission of the request. So a submission gets the answer to its own request, unless it was
cancelled or given up (`Joined.outcome_eq`, `Joined.outcome_of_idle`), and this after a bounded
number of events (`run_bound`).
-/

namespace SubmissionGrader.Offload

variable [Syntax.Language]
variable {depth : Nat} {o o' : Offload} {x : Exchange} {y : Routing} {seen : List Event}

def Event.submittedId? : Event → Option String
  | .client event => event.submittedId?
  | .host _ => none

/-- An event that needs no caller. -/
def Event.isBackground : Event → Bool
  | .client event => event.isBackground
  | .host _ => true

theorem run?_cons_eq_some_iff {event : Event} {rest : List Event} :
    o.run? (event :: rest) = some o' ↔ ∃ r, o.step? event = some r ∧ r.run? rest = some o' := by
  rw [run?]
  exact Option.bind_eq_some_iff

inductive Step (o : Offload) : Event → Offload → Prop
  | client {event : Client.Event} {client : Client} {link : Link}
      (hclient : Client.Step o.client o.link event client link) :
      Step o (.client event) { o with client, link }
  | host {event : Host.Event} {host : Host} {link : Link}
      (hhost : Host.Step o.host o.link event host link) : Step o (.host event) { o with host, link }

theorem step_of_step? {event : Event} (h : o.step? event = some o') : Step o event o' := by
  cases event with
  | client event =>
    obtain ⟨⟨client, link⟩, hclient, rfl⟩ := Option.map_eq_some_iff.1 h
    exact .client (Client.step_of_step? hclient)
  | host event =>
    obtain ⟨⟨host, link⟩, hhost, rfl⟩ := Option.map_eq_some_iff.1 h
    exact .host (Host.step_of_step? hhost)

/-! ## What every event keeps -/

/-- An exchange of the host and a routing of the client go together: they are about the same link,
and what was received in the one was passed on in the other. The submissions whose requests were
sent are those whose envelopes were accepted. -/
structure Joined (depth : Nat) (o : Offload) (x : Exchange) (y : Routing) : Prop where
  exchange : x.Sound depth
  routing : y.Sound
  host_eq : x.host = o.host
  client_eq : y.client = o.client
  exchangeLink : x.link = o.link
  routingLink : y.link = o.link
  passed : y.routed = x.received
  noneEarly : y.NoneEarly
  routes : o.client.routing = true
  opened : o.link.requests.sendersGone = false
  unfailed : ∀ stage ∈ o.client.stages, stage.2 ≠ .failed
  accepted : ∀ e ∈ x.accepted, ∃ s, o.client.submissions[e.token]? = some s ∧
    s.request = e.request
  sent : ∀ i request, o.client.stages[i]? = some (request, .sent) → ⟨request, i⟩ ∈ x.accepted

theorem joined_new (config : HostConfig) :
    Joined config.maxNestingDepth (new config) (.new config)
      { link := .new config.queueCapacity } where
  exchange := Exchange.sound_new config
  routing := Routing.sound_new _
  host_eq := rfl
  client_eq := rfl
  exchangeLink := rfl
  routingLink := rfl
  passed := rfl
  noneEarly := fun _ _ h => by simp [Client.submittedIds] at h
  routes := rfl
  opened := rfl
  unfailed := fun _ h => absurd h List.not_mem_nil
  accepted := fun _ h => absurd h List.not_mem_nil
  sent := fun _ _ h => by simp [Client.stages, new] at h

theorem Joined.linked (hj : Joined depth o x y) : o.host.Linked o.link := by
  rw [← hj.host_eq, ← hj.exchangeLink]
  exact hj.exchange.linked

/-- The host takes requests as long as the client is there. -/
theorem Joined.running (hj : Joined depth o x y) : o.host.running = true := by
  by_contra hstopped
  have hgone := (hj.linked.drained (by simpa using hstopped)).2
  simp [hj.opened] at hgone

theorem Joined.kept (hj : Joined depth o x y) : o.link.requests.receiverGone = false := by
  rw [hj.linked.receiver, hj.running]
  rfl

theorem Joined.isClosed_eq (hj : Joined depth o x y) : o.link.responses.isClosed = false := by
  rw [Channel.isClosed, hj.linked.senders_of_running hj.running, Bool.false_and]

/-- A response that was passed on answers a request that was sent. -/
theorem Joined.exists_job (hj : Joined depth o x y) {r : Response} (hr : r ∈ y.routed) :
    ∃ (job : Job) (s : Submission), job.Admits depth o.link.cancelled r ∧
      o.client.submissions[job.envelope.token]? = some s ∧ s.request = job.envelope.request := by
  have hsent : r ∈ x.answered.map (·.2) := by
    rw [hj.exchange.delivery, ← hj.passed]
    exact List.mem_append_left _ hr
  obtain ⟨⟨job, r'⟩, hmem, rfl⟩ := List.mem_map.1 hsent
  have haccepted : job.envelope ∈ x.accepted :=
    hj.exchange.balance.subset (List.mem_append_right _ (List.mem_map.2 ⟨_, hmem, rfl⟩))
  obtain ⟨s, hs, hrequest⟩ := hj.accepted _ haccepted
  exact ⟨job, s, hj.exchangeLink ▸ hj.exchange.answers _ hmem, hs, hrequest⟩

theorem Joined.id_mem_submittedIds (hj : Joined depth o x y) {r : Response} (hr : r ∈ y.routed) :
    r.id ∈ o.client.submittedIds := by
  obtain ⟨job, s, hadmits, hs, hrequest⟩ := hj.exists_job hr
  rw [hadmits.id_eq, ← hrequest]
  exact List.mem_map.2 ⟨s, List.mem_of_getElem? hs, rfl⟩

theorem Joined.host {event : Host.Event} {host : Host} {link : Link} (hj : Joined depth o x y)
    (hhost : Host.Step o.host o.link event host link) :
    Joined depth { o with host, link } { x.record event with host, link } { y with link } := by
  have hexchange : Host.Step x.host x.link event host link := by
    rw [hj.host_eq, hj.exchangeLink]
    exact hhost
  exact
    { hj with
      exchange := hj.exchange.host hexchange
      routing := hj.routing.relink link
      host_eq := rfl
      exchangeLink := rfl
      routingLink := rfl
      passed := by simpa using hj.passed
      opened := hhost.callers_eq.2.trans hj.opened
      accepted := by simpa using hj.accepted
      sent := by simpa using hj.sent }

section Client

variable {event : Client.Event} {c : Client} {l : Link}

/-- The client's end goes on by itself, so it is enough that the exchange keeps up with it. -/
theorem Joined.follow {x' : Exchange} (hj : Joined depth o x y)
    (hclient : o.client.step? o.link event = some (c, l))
    (hfresh : ∀ id, event.submittedId? = some id → id ∉ o.client.submittedIds)
    (hexchange : x'.Sound depth) (hhost : x'.host = o.host) (hlink : x'.link = l)
    (hpassed : (y.record event).routed = x'.received) (hroutes : c.routing = true)
    (hopened : l.requests.sendersGone = false) (hsub : x.accepted ⊆ x'.accepted)
    (haccepted : ∀ e ∈ x'.accepted, ∃ s, o.client.submissions[e.token]? = some s ∧
      s.request = e.request)
    (htransmit : ∀ i request, event = .transmit i →
      o.client.stages[i]? = some (request, .sending) → ⟨request, i⟩ ∈ x'.accepted) :
    Joined depth { o with client := c, link := l } x'
      { y.record event with client := c, link := l } := by
  have hstep := Client.step_of_step? hclient
  have hrouting :
      y.step? (.client event) = some { y.record event with client := c, link := l } := by
    rw [Routing.step?, hj.client_eq, hj.routingLink, hclient]
    rfl
  have hnew : ∀ id, (Routing.Event.client event).submittedId? = some id →
      id ∉ o.client.submittedIds := hfresh
  exact
    { exchange := hexchange
      routing := hj.routing.step (fun id hid => hj.client_eq ▸ hnew id hid) hrouting
      host_eq := hhost
      client_eq := rfl
      exchangeLink := hlink
      routingLink := rfl
      passed := hpassed
      noneEarly := hj.routing.noneEarly_step hj.noneEarly
        (fun id hid r hr hsame => hnew id hid (hsame ▸ hj.id_mem_submittedIds hr)) hrouting
      routes := hroutes
      opened := hopened
      unfailed := hstep.unfailed hj.kept hj.unfailed
      accepted := fun e he => by
        obtain ⟨s, hs, hrequest⟩ := haccepted e he
        obtain ⟨s', hs', hrequest', -⟩ := hstep.later e.token s hs
        exact ⟨s', hs', hrequest'.trans hrequest⟩
      sent := fun i request hstage => by
        rcases hstep.sent hstage with hstage | ⟨hevent, hstage, -⟩
        · exact hsub (hj.sent i request hstage)
        · exact htransmit i request hevent hstage }

/-- Whatever the client does, but for dropping the link, goes on at both ends. -/
theorem Joined.client (hj : Joined depth o x y)
    (hclient : o.client.step? o.link event = some (c, l))
    (hfresh : ∀ id, event.submittedId? = some id → id ∉ o.client.submittedIds)
    (hkept : event ≠ .drop) :
    ∃ x', Joined depth { o with client := c, link := l } x'
      { y.record event with client := c, link := l } := by
  have hfollow {x' : Exchange} (hexchange : x'.Sound depth) := hj.follow hclient hfresh hexchange
  cases Client.step_of_step? hclient with
  | submit request =>
    exact ⟨x, hfollow hj.exchange hj.host_eq hj.exchangeLink hj.passed
      ((Routing.orphan_routing _ _).trans hj.routes) hj.opened (List.Subset.refl _) hj.accepted
      nofun⟩
  | fail hs hphase hgone =>
    rw [hj.kept] at hgone
    cases hgone
  | @transmit i s hs hphase hopen hroom =>
    have haccept : Exchange.Sound depth { x with
        link := { x.link with requests := x.link.requests.push ⟨s.request, i⟩ }
        accepted := x.accepted ++ [⟨s.request, i⟩] } :=
      hj.exchange.accept (hj.exchangeLink ▸ hopen)
    refine ⟨_, hfollow haccept hj.host_eq (by rw [hj.exchangeLink]) hj.passed hj.routes hj.opened
      (List.subset_append_left _ _) (fun e he => ?_) fun j request hevent hstage => ?_⟩
    · rcases List.mem_append.1 he with he | he
      · exact hj.accepted e he
      · rw [List.mem_singleton.1 he]
        exact ⟨s, hs, rfl⟩
    · cases hevent
      rw [Client.getElem?_stages hs] at hstage
      obtain ⟨rfl, -⟩ := Prod.mk.inj (Option.some.inj hstage)
      exact List.mem_append_right _ (List.mem_singleton_self _)
  | abandon hs hphase | discard hs hphase | miss hpending =>
    exact ⟨x, hfollow hj.exchange hj.host_eq hj.exchangeLink hj.passed hj.routes hj.opened
      (List.Subset.refl _) hj.accepted nofun⟩
  | deliver hrouting hqueue hpending | ignore hrouting hqueue hpending =>
    refine ⟨_, hfollow (hj.exchange.receive (hj.exchangeLink ▸ hqueue)) hj.host_eq
      (by rw [hj.exchangeLink]) ?_ hj.routes hj.opened (List.Subset.refl _) hj.accepted nofun⟩
    simp [Routing.record, hj.routingLink, hqueue, hj.passed]
  | stop hrouting hclosed =>
    rw [hj.isClosed_eq] at hclosed
    cases hclosed
  | @cancel id i hpending =>
    exact ⟨_, hfollow (hj.exchange.cancel i) hj.host_eq (by rw [hj.exchangeLink]) hj.passed
      hj.routes hj.opened (List.Subset.refl _) hj.accepted nofun⟩
  | drop => exact absurd rfl hkept

end Client

theorem Joined.step {event : Event} (hj : Joined depth o x y)
    (hfresh : ∀ id, event.submittedId? = some id → id ∉ o.client.submittedIds)
    (hkept : event ≠ .client .drop) (h : o.step? event = some o') :
    ∃ x' y', Joined depth o' x' y' := by
  cases event with
  | client event =>
    obtain ⟨⟨c, l⟩, hclient, rfl⟩ := Option.map_eq_some_iff.1 h
    obtain ⟨x', hj'⟩ := hj.client hclient hfresh fun hdrop => hkept (congrArg Event.client hdrop)
    exact ⟨x', _, hj'⟩
  | host event =>
    cases step_of_step? h with
    | host hhost => exact ⟨_, _, hj.host hhost⟩

theorem Step.submittedIds_eq {event : Event} (h : Step o event o') :
    o'.client.submittedIds = o.client.submittedIds ++ event.submittedId?.toList := by
  cases h with
  | client hclient => exact hclient.submittedIds_eq
  | host hhost => exact (List.append_nil _).symm

/-! ## What callers do -/

/-- Since there were `n` submissions, tokens were cancelled and submissions given up by what the
callers did. -/
structure Blamed (n : Nat) (seen : List Event) (o : Offload) : Prop where
  cancelled : ∀ token ∈ o.link.cancelled, n ≤ token →
    ∃ s, o.client.submissions[token]? = some s ∧ .client (.cancel s.request.id) ∈ seen
  givenUp : ∀ i, n ≤ i → o.client.givenUp[i]? = some true →
    .client (.abandon i) ∈ seen ∨ .client (.discard i) ∈ seen

omit [Syntax.Language] in
theorem blamed_new (config : HostConfig) : Blamed 0 [] (new config) where
  cancelled := fun _ h => absurd h List.not_mem_nil
  givenUp := fun i _ h => by simp [Client.givenUp, new] at h

variable {n : Nat}

theorem Blamed.step {event : Event} (hb : Blamed n seen o) (hj : Joined depth o x y)
    (h : Step o event o') : Blamed n (seen ++ [event]) o' := by
  cases h with
  | @host event host link hhost =>
    refine ⟨fun token htoken hn => ?_, fun i hn hgiven => ?_⟩
    · rw [hhost.callers_eq.1] at htoken
      obtain ⟨s, hs, hmem⟩ := hb.cancelled token htoken hn
      exact ⟨s, hs, List.mem_append_left _ hmem⟩
    · exact (hb.givenUp i hn hgiven).imp (List.mem_append_left _) (List.mem_append_left _)
  | @client event client link hclient =>
    have hlast : Event.client event ∈ seen ++ [.client event] :=
      List.mem_append_right _ (List.mem_singleton_self _)
    refine ⟨fun token htoken hn => ?_, fun i hn hgiven => ?_⟩
    · obtain ⟨s, hs, hmem⟩ : ∃ s, o.client.submissions[token]? = some s ∧
          .client (.cancel s.request.id) ∈ seen ++ [.client event] := by
        rcases hclient.cancelled htoken with htoken | ⟨id, rfl, hpending⟩
        · obtain ⟨s, hs, hmem⟩ := hb.cancelled token htoken hn
          exact ⟨s, hs, List.mem_append_left _ hmem⟩
        · rw [← hj.client_eq, Client.pending?_eq_some_iff hj.routing.pendingIds] at hpending
          obtain ⟨s, hs, rfl⟩ := hj.routing.targets id token hpending
          exact ⟨s, hj.client_eq ▸ hs, hlast⟩
      obtain ⟨s', hs', hrequest, -⟩ := hclient.later token s hs
      exact ⟨s', hs', hrequest ▸ hmem⟩
    · rcases hclient.givenUp hgiven with hgiven | rfl | rfl
      · exact (hb.givenUp i hn hgiven).imp (List.mem_append_left _) (List.mem_append_left _)
      · exact .inl hlast
      · exact .inr hlast

/-- What joins the two ends, and what the callers did, after a run in which requests are submitted
under ids of their own. -/
theorem Joined.run {events : List Event} (hj : Joined depth o x y) (hb : Blamed n seen o)
    (hfresh : (o.client.submittedIds ++ events.filterMap Event.submittedId?).Nodup)
    (hkept : .client .drop ∉ events) (h : o.run? events = some o') :
    ∃ x' y', Joined depth o' x' y' ∧ Blamed n (seen ++ events) o' := by
  induction events generalizing o x y seen with
  | nil =>
    cases h
    exact ⟨x, y, hj, by simpa using hb⟩
  | cons event rest ih =>
    obtain ⟨r, hr, hrest⟩ := run?_cons_eq_some_iff.1 h
    have hstep := step_of_step? hr
    have hids : (event :: rest).filterMap Event.submittedId? =
        event.submittedId?.toList ++ rest.filterMap Event.submittedId? := by
      cases hid : event.submittedId? <;> simp [hid]
    rw [hids, ← List.append_assoc, ← hstep.submittedIds_eq] at hfresh
    have hnew (id : String) (hid : event.submittedId? = some id) :
        id ∉ o.client.submittedIds := by
      have hnodup := (List.nodup_append.1 hfresh).1
      rw [hstep.submittedIds_eq, hid, Option.toList_some] at hnodup
      exact fun hmem => (List.nodup_append.1 hnodup).2.2 id hmem id (List.mem_singleton_self id) rfl
    obtain ⟨x', y', hj'⟩ :=
      hj.step hnew (fun hdrop => hkept (hdrop ▸ List.mem_cons_self)) hr
    have hnext := ih hj' (hb.step hj hstep) hfresh
      (fun hmem => hkept (List.mem_cons_of_mem _ hmem)) hrest
    rwa [List.append_assoc] at hnext

/-! ## Outcomes -/

/-- A submission gets the answer to its own request, or the request was cancelled. -/
theorem Joined.outcome_eq (hj : Joined depth o x y) {i : Nat} {s : Submission}
    (hs : o.client.submissions[i]? = some s) {outcome : Except ServiceError Response}
    (h : o.client.outcome? i = some outcome) :
    outcome = .ok (s.request.answer depth) ∨
      i ∈ o.link.cancelled ∧ outcome = .ok (.refused s.request.id .cancelled) := by
  have hfits := hj.routing.fits i s (hj.client_eq ▸ hs)
  obtain ⟨request, phase, reply⟩ := s
  simp only [Client.outcome?, hs] at h
  cases phase with
  | sending | abandoned => cases h
  | failed =>
    exact absurd rfl (hj.unfailed _ (List.mem_of_getElem? (Client.getElem?_stages hs)))
  | sent =>
    cases reply with
    | awaited | discarded => cases h
    | orphaned =>
      rcases hfits.orphaned rfl with hfailed | hstopped
      · cases hfailed
      · rw [hj.client_eq, hj.routes] at hstopped
        cases hstopped
    | arrived response =>
      obtain rfl := Option.some.inj h
      have hfirst := hfits.arrived response rfl
      obtain ⟨job, t, hadmits, ht, hrequest⟩ :=
        hj.exists_job (List.mem_of_mem_drop (List.mem_of_find?_eq_some hfirst))
      -- Two submissions under one id are the same, so the job is the one of this submission.
      have hid : t.request.id = request.id := by
        rw [hrequest, ← hadmits.id_eq, Routing.first?_id hfirst]
      have htoken : job.envelope.token = i :=
        hj.routing.index_eq (hj.client_eq ▸ ht) (hj.client_eq ▸ hs) hid
      rw [htoken, hs] at ht
      obtain rfl := Option.some.inj ht
      cases hadmits with
      | answer hearly => exact .inl (by rw [← hrequest])
      | refusal hcancelled =>
        exact .inr ⟨by simpa [htoken] using hcancelled, by rw [← hrequest]⟩

/-- When nothing is left to do, the answer to a request that was sent has been passed on. -/
theorem Joined.exists_first (hj : Joined depth o x y) (hcomplete : x.Complete) {i : Nat}
    {request : Request} (hsent : o.client.stages[i]? = some (request, .sent)) :
    ∃ r, y.first? i request.id = some r := by
  have haccepted := hcomplete.answered.symm.subset (hj.sent i request hsent)
  obtain ⟨p, hp, henvelope⟩ := List.mem_map.1 haccepted
  have hrouted : p.2 ∈ y.routed := by
    rw [hj.passed, ← hcomplete.received]
    exact List.mem_map.2 ⟨p, hp, rfl⟩
  have hid : p.2.id = request.id := by
    rw [(hj.exchange.answers p hp).id_eq, henvelope]
  have hsubmitted : y.client.submittedIds[i]? = some request.id := by
    obtain ⟨s, hs, hstage⟩ := Option.map_eq_some_iff.1 (List.getElem?_map .. ▸ hsent)
    rw [hj.client_eq, Client.submittedIds, List.getElem?_map, hs, ← (Prod.mk.inj hstage).1]
    rfl
  rw [hj.noneEarly i request.id hsubmitted, ← Option.isSome_iff_exists, List.find?_isSome]
  exact ⟨p.2, hrouted, by simpa using hid⟩

/-- When nothing can happen without the callers, every submission that was not given up has its
outcome. -/
theorem Joined.outcome_of_idle (hj : Joined depth o x y) (hclient : o.client.Idle o.link)
    (hhost : o.host.Idle o.link) {i : Nat} {s : Submission}
    (hs : o.client.submissions[i]? = some s) (hgiven : Client.Submission.isGivenUp s = false) :
    (o.client.outcome? i).isSome = true := by
  have hstage := Client.getElem?_stages hs
  have hresponses := hclient.responses hj.routes
  have hcomplete : x.Complete := by
    rw [← hj.host_eq, ← hj.exchangeLink] at hhost
    exact (hj.exchange.complete_of_idle hhost (hj.exchangeLink ▸ hresponses)).1
  have hroom : o.link.requests.hasRoom = true := by
    simp [Channel.hasRoom, hhost.requests hj.running, hj.linked.requestRoom]
  simp only [Client.Submission.isGivenUp, Bool.or_eq_false_iff, decide_eq_false_iff_not] at hgiven
  have hphase : s.phase = .sent := by
    have hsending := hclient.requests hroom s (List.mem_of_getElem? hs)
    have hfailed := hj.unfailed _ (List.mem_of_getElem? hstage)
    cases hphase : s.phase with
    | sent => rfl
    | sending => exact absurd hphase hsending
    | failed => exact absurd hphase hfailed
    | abandoned => exact absurd hphase hgiven.1
  rw [hphase] at hstage
  obtain ⟨r, hfirst⟩ := hj.exists_first hcomplete hstage
  have hreply := hj.routing.resolved (hj.client_eq ▸ hj.routes) (hj.client_eq ▸ hs)
    (by simp [hphase]) hfirst
  obtain ⟨request, phase, reply⟩ := s
  cases hphase
  obtain rfl : reply = .arrived r := hreply.resolve_right hgiven.2
  simp [Client.outcome?, hs]

/-! ## Events without callers -/

/-- A bound for the number of events that need no caller. -/
def effort (o : Offload) : Nat :=
  6 * o.client.stages.countP (·.2 = .sending) + o.host.effort 1 o.link + o.client.routing.toNat

omit [Syntax.Language] in
/-- A client brings the responses closer to its callers, but for the requests that it sends. -/
theorem effort_client {event : Client.Event} {c c' : Client} {l l' : Link}
    (h : Client.Step c l event c' l') (host : Host) :
    event.isBackground.toNat + host.effort 1 l' + c'.routing.toNat ≤
      host.effort 1 l + c.routing.toNat + 6 * event.isTransmit.toNat := by
  cases h with
  | submit request =>
    simp [Client.Event.isBackground, Routing.orphan_routing]
  | fail hs hphase hgone =>
    simp [Client.Event.isBackground, Client.Event.isTransmit, Client.modify, Routing.orphan_routing]
    omega
  | transmit hs hphase hkept hroom =>
    simp [Client.Event.isBackground, Client.Event.isTransmit, Client.modify, Host.effort,
      Channel.push]
    omega
  | deliver hrouting hqueue hpending | ignore hrouting hqueue hpending =>
    simp [Client.Event.isBackground, Client.Event.isTransmit, Client.modify, Client.forget,
      Host.effort, hqueue]
    omega
  | stop hrouting hclosed =>
    simp [Client.Event.isBackground, hrouting]
    omega
  | abandon | discard | cancel | miss =>
    simp [Client.Event.isBackground, Client.modify, Host.effort, Link.cancel]
  | drop =>
    simp [Client.Event.isBackground, Host.effort, Channel.closeSenders, Channel.closeReceiver]
    omega

/-- An event without callers makes up for itself, and a submission for six events. -/
theorem Step.bound {event : Event} (h : Step o event o') :
    event.isBackground.toNat + o'.effort + 6 * o.client.submissions.length ≤
      o.effort + 6 * o'.client.submissions.length := by
  cases h with
  | @client event c l hclient =>
    have hlink := effort_client hclient o.host
    have hsending := hclient.progress.sending_le
    simp only [Client.stages, List.length_map] at hsending
    simp only [effort, Event.isBackground, Client.stages]
    omega
  | host hhost =>
    have hlt := hhost.effort_lt 1
    simp only [effort, Event.isBackground, Bool.toNat_true]
    omega

omit [Syntax.Language] in
theorem submittedId?_of_isBackground {event : Event} (h : event.isBackground = true) :
    event.submittedId? = none := by
  cases event with
  | client event =>
    cases event with
    | submit request => cases h
    | _ => rfl
  | host event => rfl

theorem Step.effort_lt {event : Event} (h : Step o event o') (hevent : event.isBackground = true) :
    o'.effort < o.effort := by
  have hbound := h.bound
  have hlength : o'.client.submissions.length = o.client.submissions.length := by
    have hids := congrArg List.length h.submittedIds_eq
    rw [submittedId?_of_isBackground hevent] at hids
    simpa [Client.submittedIds] using hids
  rw [hevent, Bool.toNat_true, hlength] at hbound
  omega

/-- What an offload does next needs no caller, and uses up effort. -/
theorem exists_step_next? {event : Event} (hnext : o.next? = some event) :
    ∃ r, o.step? event = some r ∧ event.isBackground = true ∧ r.effort < o.effort := by
  have hnow : (o.step? event).isSome = true ∧ event.isBackground = true := by
    simp only [next?] at hnext
    split at hnext
    next event' hclient =>
      cases hnext
      obtain ⟨hsome, hbackground⟩ := Client.isSome_step?_next? hclient
      exact ⟨by rw [step?, Option.isSome_map, hsome], hbackground⟩
    next =>
      obtain ⟨event', hhost, rfl⟩ := Option.map_eq_some_iff.1 hnext
      exact ⟨by rw [step?, Option.isSome_map, Host.isSome_step?_next? hhost], rfl⟩
  obtain ⟨r, hr⟩ := Option.isSome_iff_exists.1 hnow.1
  exact ⟨r, hr, hnow.2, (step_of_step? hr).effort_lt hnow.2⟩

omit [Syntax.Language] in
theorem idle_of_next?_eq_none (hnext : o.next? = none) :
    o.client.Idle o.link ∧ o.host.Idle o.link := by
  simp only [next?] at hnext
  split at hnext
  next => cases hnext
  next hclient =>
    exact ⟨Client.idle_of_next?_eq_none hclient,
      Host.idle_of_next?_eq_none (Option.map_eq_none_iff.1 hnext)⟩

theorem next?_eq_none_of_stuck
    (hstuck : ∀ event, event.isBackground = true → o.step? event = none) : o.next? = none := by
  cases hnext : o.next? with
  | none => rfl
  | some event =>
    obtain ⟨r, hr, hbackground, -⟩ := exists_step_next? hnext
    rw [hstuck event hbackground] at hr
    cases hr

theorem settleFor_of_next?_eq_none (hnext : o.next? = none) (fuel : Nat) :
    o.settleFor fuel = o := by
  cases fuel with
  | zero => rfl
  | succ fuel => rw [settleFor, hnext]

theorem settleFor_spec {fuel : Nat} (hfuel : o.effort ≤ fuel) :
    (o.settleFor fuel).next? = none ∧
      ∃ events, o.run? events = some (o.settleFor fuel) ∧ ∀ e ∈ events, e.isBackground = true := by
  -- An offload that can go on has effort left, so it stops before the fuel is used up.
  induction fuel generalizing o with
  | zero =>
    cases hnext : o.next? with
    | none => exact ⟨hnext, [], rfl, fun _ h => absurd h List.not_mem_nil⟩
    | some event =>
      obtain ⟨r, -, -, hlt⟩ := exists_step_next? hnext
      omega
  | succ fuel ih =>
    cases hnext : o.next? with
    | none =>
      rw [settleFor_of_next?_eq_none hnext]
      exact ⟨hnext, [], rfl, fun _ h => absurd h List.not_mem_nil⟩
    | some event =>
      obtain ⟨r, hr, hbackground, hlt⟩ := exists_step_next? hnext
      obtain ⟨hend, events, hrun, hevents⟩ := ih (show r.effort ≤ fuel by omega)
      have hsettle : o.settleFor (fuel + 1) = r.settleFor fuel := by
        rw [settleFor, hnext]
        simp only [hr]
      rw [hsettle]
      exact ⟨hend, event :: events, run?_cons_eq_some_iff.2 ⟨r, hr, hrun⟩,
        List.forall_mem_cons.2 ⟨hbackground, hevents⟩⟩

omit [Syntax.Language] in
theorem effort_le_work (o : Offload) : o.effort ≤ o.work := by
  have hsending : o.client.stages.countP (·.2 = .sending) ≤ o.client.submissions.length := by
    have hlength : o.client.stages.length = o.client.submissions.length := List.length_map _
    exact hlength ▸ List.countP_le_length
  have hworkers : (o.host.workers.map fun w => w.effort + 1).sum ≤ 4 * o.host.workers.length := by
    have hsum := List.sum_le_card_nsmul (o.host.workers.map fun w => w.effort + 1) 4 (by
      simp only [List.mem_map, forall_exists_index, and_imp, forall_apply_eq_imp_iff₂]
      intro w hw
      cases w <;> simp [Worker.effort])
    simpa [Nat.mul_comm] using hsum
  have hrunning := o.host.running.toNat_le
  have hrouting := o.client.routing.toNat_le
  simp only [effort, Host.effort, work]
  omega

/-- The events without callers, and those that are left, are at most six for each submission, and
two. -/
theorem run_bound {events : List Event} (h : o.run? events = some o') :
    events.countP Event.isBackground + o'.effort + 6 * o.client.submissions.length ≤
      o.effort + 6 * o'.client.submissions.length := by
  induction events generalizing o with
  | nil =>
    cases h
    simp
  | cons event rest ih =>
    obtain ⟨r, hr, hrest⟩ := run?_cons_eq_some_iff.1 h
    have hbound := (step_of_step? hr).bound
    have hnext := ih hrest
    rw [List.countP_cons]
    cases hbackground : event.isBackground with
    | true => simp only [hbackground, Bool.toNat_true, if_true] at hbound ⊢; omega
    | false =>
      simp only [hbackground, Bool.toNat_false, Bool.false_eq_true, if_false] at hbound ⊢
      omega

theorem Joined.background_le (hj : Joined depth o x y) {config : HostConfig} {events : List Event}
    (h : (new config).run? events = some o) :
    events.countP Event.isBackground ≤ 6 * o.client.submissions.length := by
  have hbound := run_bound h
  have hstart : (new config).effort = 2 := rfl
  have hnone : (new config).client.submissions.length = 0 := rfl
  have hrest : 2 ≤ o.effort := by
    simp only [effort, Host.effort, hj.running, hj.routes, Bool.toNat_true]
    omega
  omega

/-- After all has happened that can happen without the callers, nothing more can. -/
theorem settle_spec (o : Offload) :
    o.settle.next? = none ∧
      ∃ events, o.run? events = some o.settle ∧ ∀ e ∈ events, e.isBackground = true :=
  settleFor_spec o.effort_le_work

end SubmissionGrader.Offload
