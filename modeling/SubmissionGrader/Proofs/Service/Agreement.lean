import SubmissionGrader.Proofs.Service.Offload
import SubmissionGrader.Proofs.Service.Verdicts

/-!
# The service on the spot and through a host

A call of the service through a host goes out as a request and comes back as a response. What is
made of the response is what the service finds on the spot, whatever else happens on the link
(`offload_agrees`).
-/

namespace SubmissionGrader

/-! ## From responses to results -/

namespace Analysis

/-- A refusal for another reason is not taken for a cancellation. -/
theorem errorOf_invalid (type : RequestType) (id : String) :
    errorOf type (.refused id .invalid) =
      match type with
      | .parse => .parse Refusal.invalid.message
      | .evaluate => .evaluate Refusal.invalid.message := by
  have hwords : Refusal.invalid.message ≠ Refusal.cancelled.message := by decide +kernel
  have hcancelled : (Response.refused id .invalid).isCancelled = false := by
    simp [Response.isCancelled, Response.refused, hwords]
  unfold errorOf
  rw [if_neg (by simp [hcancelled])]
  cases type <;> rfl

theorem partOf_refused {α : Type} (type : RequestType) (part : Response → Option α) (id : String)
    (refusal : Refusal) :
    partOf type part (.refused id refusal) = .error (errorOf type (.refused id refusal)) := rfl

theorem errorOf_cancelled (type : RequestType) (id : String) :
    errorOf type (.refused id .cancelled) = .cancelled := by
  simp [errorOf, Response.isCancelled, Response.refused]

theorem contextOf_cancelled (id : String) :
    contextOf (.refused id .cancelled) = .error .cancelled := by
  rw [contextOf, partOf_refused, errorOf_cancelled]

theorem verdictOf_cancelled (id : String) :
    verdictOf (.refused id .cancelled) = .error .cancelled := by
  rw [verdictOf, partOf_refused, errorOf_cancelled]

theorem parseCode_ne_unfitting [Syntax.Language] (depth : Nat) (code : String)
    (type : RequestType) :
    parseCode depth code ≠ .error (.unfitting type) := by
  rw [parseCode]
  split
  all_goals
    intro h
    cases h

theorem evaluateChecker_ne_unfitting [Syntax.Language] (depth : Nat) (code checker : String)
    (type : RequestType) :
    evaluateChecker depth code checker ≠ .error (.unfitting type) := by
  rw [evaluateChecker]
  split
  all_goals
    intro h
    cases h

theorem contextOf_answer [Syntax.Language] (id code : String) (depth : Nat) :
    contextOf (Request.answer { type := .parse, id, code := some code } depth) =
      parseCode depth code := by
  rw [Request.answer_parse, parseCode]
  split
  · rw [contextOf, partOf_refused, errorOf_invalid]
  · rfl

theorem verdictOf_answer [Syntax.Language] (id code checker : String) (depth : Nat) :
    verdictOf (Request.answer
      { type := .evaluate, id, code := some code, checker := some checker } depth) =
      evaluateChecker depth code checker := by
  rw [Request.answer_evaluate, evaluateChecker]
  split
  · rw [verdictOf, partOf_refused, errorOf_invalid]
  · rfl

end Analysis

namespace Offload

section Calls

variable [Syntax.Language] {depth : Nat} {o o' : Offload} {x : Exchange} {y : Routing}

/-! ## One call -/

theorem later_run {events : List Event} (h : o.run? events = some o') :
    o.client.Later o'.client := by
  induction events generalizing o with
  | nil =>
    cases h
    exact .refl _
  | cons event rest ih =>
    obtain ⟨r, hr, hrest⟩ := run?_cons_eq_some_iff.1 h
    refine Client.Later.trans ?_ (ih hrest)
    cases step_of_step? hr with
    | client hclient => exact hclient.later
    | host hhost => exact .refl _

omit [Syntax.Language] in
/-- Nobody could cancel or give up what was not submitted yet. -/
theorem Blamed.ahead {seen : List Event} (hb : Blamed 0 seen o) :
    Blamed o.client.submissions.length [] o where
  cancelled := fun token htoken hn => by
    obtain ⟨s, hs, -⟩ := hb.cancelled token htoken (Nat.zero_le _)
    exact absurd (List.getElem?_eq_some_iff.1 hs).1 (Nat.not_lt.2 hn)
  givenUp := fun i hn hgiven => by
    have hlt := (List.getElem?_eq_some_iff.1 hgiven).1
    rw [Client.givenUp, List.length_map] at hlt
    exact absurd hlt (Nat.not_lt.2 hn)

/-- Nothing happens any more without the callers. Then a submission has its outcome, if its caller
did not give it up since there were `n` of them. -/
theorem Joined.isSome_outcome? (hj : Joined depth o x y) {n : Nat} {seen : List Event}
    (hb : Blamed n seen o) (hnext : o.next? = none) {i : Nat} (hn : n ≤ i)
    (hi : i < o.client.submissions.length) (habandon : .client (.abandon i) ∉ seen)
    (hdiscard : .client (.discard i) ∉ seen) : (o.client.outcome? i).isSome = true := by
  obtain ⟨hclient, hhost⟩ := idle_of_next?_eq_none hnext
  have hs := List.getElem?_eq_getElem hi
  refine hj.outcome_of_idle hclient hhost hs (Bool.eq_false_iff.2 fun hgiven => ?_)
  have hlost : o.client.givenUp[i]? = some true := by
    rw [Client.givenUp, List.getElem?_map, hs, Option.map_some, hgiven]
  exact (hb.givenUp i hn hlost).elim habandon hdiscard

/-- A call under an id has the result that was found on the spot, or somebody cancelled it. Its
response was one that fits. -/
def Returned {α : Type} (events : List Event) (id : String)
    (result found : Except ServiceError α) : Prop :=
  (result = found ∨ .client (.cancel id) ∈ events ∧ result = .error .cancelled) ∧
    ∀ type, result ≠ .error (.unfitting type)

theorem Joined.returned {α : Type} (hj : Joined depth o x y) {events : List Event}
    (hb : Blamed 0 events o) {i : Nat} {request : Request}
    (hrequest : (o.client.submissions[i]?).map (·.request) = some request)
    {outcome : Except ServiceError Response} (houtcome : o.client.outcome? i = some outcome)
    {result : Response → Except ServiceError α} {found : Except ServiceError α}
    (hanswer : result (request.answer depth) = found)
    (hcancelled : result (.refused request.id .cancelled) = .error .cancelled)
    (hfits : ∀ type, found ≠ .error (.unfitting type)) :
    Returned events request.id (outcome >>= result) found := by
  obtain ⟨s, hs, rfl⟩ := Option.map_eq_some_iff.1 hrequest
  rcases hj.outcome_eq hs houtcome with rfl | ⟨htoken, rfl⟩
  · have hsame : (Except.ok (s.request.answer depth) >>= result) = found := hanswer
    rw [hsame]
    exact ⟨.inl rfl, hfits⟩
  · obtain ⟨t, ht, hmem⟩ := hb.cancelled i htoken (Nat.zero_le _)
    obtain rfl := Option.some.inj (hs.symm.trans ht)
    have hsame : (Except.ok (Response.refused s.request.id .cancelled) >>= result) =
        .error .cancelled := hcancelled
    rw [hsame]
    exact ⟨.inr ⟨hmem, rfl⟩, nofun⟩

theorem getElem?_submissions_submit {request : Request} {r : Offload}
    (h : o.step? (.client (.submit request)) = some r) :
    r.client.submissions[o.client.submissions.length]? = some { request } := by
  have hlength : (o.client.orphan request.id).submissions.length = o.client.submissions.length := by
    simpa [Client.stages] using congrArg List.length (Client.stages_orphan o.client request.id)
  cases h
  rw [← hlength]
  exact List.getElem?_concat_length

omit [Syntax.Language] in
/-- Events without callers submit nothing, so only the id of the call is new. -/
theorem nodup_submit_background (hids : o.client.submittedIds.Nodup) {call : Request}
    (hid : call.id ∉ o.client.submittedIds) {background : List Event}
    (hbackground : ∀ e ∈ background, e.isBackground = true) :
    (o.client.submittedIds ++
      (.client (.submit call) :: background : List Event).filterMap Event.submittedId?).Nodup := by
  have hnone : background.filterMap Event.submittedId? = [] :=
    List.filterMap_eq_nil_iff.2 fun event hmem =>
      submittedId?_of_isBackground (hbackground event hmem)
  have hnew : (.client (.submit call) :: background : List Event).filterMap Event.submittedId? =
      [call.id] := by
    simp [hnone, Event.submittedId?, Client.Event.submittedId?]
  rw [hnew, ← List.concat_eq_append, List.nodup_concat]
  exact ⟨hid, hids⟩

/-- Who submits a request under an id of its own and waits gets the answer to it. -/
theorem Joined.request_eq (hj : Joined depth o x y) {seen : List Event} (hb : Blamed 0 seen o)
    (hid : o.freshId ∉ o.client.submittedIds) (type : RequestType) (code : String)
    (checker : Option String) :
    (o.request type code checker).1 =
      .ok (Request.answer { type, id := o.freshId, code := some code, checker } depth) := by
  let call : Request := { type, id := o.freshId, code := some code, checker }
  obtain ⟨r, hr⟩ : ∃ r, o.step? (.client (.submit call)) = some r := ⟨_, rfl⟩
  have hrequest : (o.request type code checker).1 =
      (r.settle.client.outcome? o.client.submissions.length).getD (.error .hostClosed) := by
    simp only [request, hr, call]
  obtain ⟨hnext, background, hrun, hbackground⟩ := r.settle_spec
  let events := Event.client (.submit call) :: background
  have hrun' : o.run? events = some r.settle := run?_cons_eq_some_iff.2 ⟨r, hr, hrun⟩
  -- The caller does nothing but to submit the request.
  have hcalm {event : Client.Event} (hevent : event.isBackground = false)
      (hother : event ≠ .submit call) : .client event ∉ events := by
    intro hmem
    rcases List.mem_cons.1 hmem with heq | hmem
    · exact hother (Event.client.inj heq)
    · exact Bool.noConfusion (hevent.symm.trans (hbackground _ hmem))
  have hids : (o.client.submittedIds ++ events.filterMap Event.submittedId?).Nodup :=
    nodup_submit_background (hj.client_eq ▸ hj.routing.ids) hid hbackground
  obtain ⟨x', y', hj', hb'⟩ := hj.run hb.ahead hids (hcalm rfl nofun) hrun'
  rw [List.nil_append] at hb'
  obtain ⟨s, hs, hsame, -⟩ := later_run hrun _ _ (getElem?_submissions_submit hr)
  obtain ⟨outcome, houtcome⟩ := Option.isSome_iff_exists.1 <|
    hj'.isSome_outcome? hb' hnext (Nat.le_refl _) (List.getElem?_eq_some_iff.1 hs).1
      (hcalm rfl nofun) (hcalm rfl nofun)
  rw [hrequest, houtcome, Option.getD_some]
  rcases hj'.outcome_eq hs houtcome with hanswer | ⟨hcancelled, -⟩
  · rw [hanswer, hsame]
  · obtain ⟨t, -, hmem⟩ := hb'.cancelled _ hcancelled (Nat.le_refl _)
    exact absurd hmem (hcalm rfl nofun)

/-- A client and its host run in whichever order, requests are submitted under ids of their own, and
the client is not dropped. Then a request of the service has the result that the service finds on
the spot, or it was cancelled; its response fits in any case. A submission that its caller does not
give up has an outcome once nothing can happen any more without the callers, and that is after six
events for each submission at most. So a call under a new id returns what the service finds on the
spot. -/
theorem offload_agrees (config : HostConfig) {events : List Event} {o : Offload}
    (hfresh : (events.filterMap Event.submittedId?).Nodup) (hkept : .client .drop ∉ events)
    (h : (new config).run? events = some o) :
    (∀ i id code outcome,
      (o.client.submissions[i]?).map (·.request) = some { type := .parse, id, code := some code } →
      o.client.outcome? i = some outcome →
        Returned events id (outcome >>= Analysis.contextOf)
          (Analysis.parseCode config.maxNestingDepth code)) ∧
    (∀ i id code checker outcome,
      (o.client.submissions[i]?).map (·.request) =
        some { type := .evaluate, id, code := some code, checker := some checker } →
      o.client.outcome? i = some outcome →
        Returned events id (outcome >>= Analysis.verdictOf)
          (Analysis.evaluateChecker config.maxNestingDepth code checker)) ∧
    ((∀ event, event.isBackground = true → o.step? event = none) →
      ∀ i < o.client.submissions.length,
        .client (.abandon i) ∉ events → .client (.discard i) ∉ events →
          (o.client.outcome? i).isSome = true) ∧
    events.countP Event.isBackground ≤ 6 * o.client.submissions.length ∧
    (o.freshId ∉ o.client.submittedIds → ∀ code,
      (o.parseCode code).1 = Analysis.parseCode config.maxNestingDepth code ∧
      ∀ checker, (o.evaluateChecker code checker).1 =
        Analysis.evaluateChecker config.maxNestingDepth code checker) := by
  obtain ⟨x, y, hj, hb⟩ := (joined_new config).run (blamed_new config) hfresh hkept h
  rw [List.nil_append] at hb
  refine ⟨fun i id code outcome hrequest houtcome => ?_,
    fun i id code checker outcome hrequest houtcome => ?_, fun hstuck i hi habandon hdiscard => ?_,
    hj.background_le h, fun hid code => ⟨?_, fun checker => ?_⟩⟩
  · exact hj.returned hb hrequest houtcome (Analysis.contextOf_answer id code _)
      (Analysis.contextOf_cancelled id) (Analysis.parseCode_ne_unfitting _ code)
  · exact hj.returned hb hrequest houtcome (Analysis.verdictOf_answer id code checker _)
      (Analysis.verdictOf_cancelled id) (Analysis.evaluateChecker_ne_unfitting _ code checker)
  · exact hj.isSome_outcome? hb (next?_eq_none_of_stuck hstuck) (Nat.zero_le i) hi habandon hdiscard
  · change ((o.request .parse code none).1 >>= Analysis.contextOf) = _
    rw [hj.request_eq hb hid]
    exact Analysis.contextOf_answer _ code _
  · change ((o.request .evaluate code (some checker)).1 >>= Analysis.verdictOf) = _
    rw [hj.request_eq hb hid]
    exact Analysis.verdictOf_answer _ code checker _

end Calls

theorem offload_agrees_of_two :
    let config : HostConfig := { queueCapacity := 0, maxNestingDepth := 3 }
    let deep : Request := { type := .parse, id := "a", code := some "((((1))))" }
    let blank : Request := { type := .evaluate, id := "b", code := some "1", checker := some " " }
    let events : List Event := [.client (.submit deep), .client (.submit blank),
      .client (.transmit 1), .host .take, .client (.transmit 0), .client (.cancel "b"), .host .take,
      .host (.start 1), .host (.start 0), .host (.finish 1), .host (.send 0), .client .route,
      .host (.send 0), .client .route]
    (events.filterMap Event.submittedId?).Nodup ∧ .client .drop ∉ events ∧
      ∃ o, (new config).run? events = some o ∧
        (∃ outcome, o.client.outcome? 0 = some outcome ∧
          Returned events "a" (outcome >>= Analysis.contextOf)
            (Analysis.parseCode 3 "((((1))))")) ∧
        ∃ outcome, o.client.outcome? 1 = some outcome ∧
          Returned events "b" (outcome >>= Analysis.verdictOf)
            (Analysis.evaluateChecker 3 "1" " ") := by
  intro config deep blank events
  have hfresh : (events.filterMap Event.submittedId?).Nodup := by decide
  have hkept : .client .drop ∉ events := by decide
  obtain ⟨o, h, hrequests, ⟨first, hfirst⟩, ⟨second, hsecond⟩⟩ : ∃ o,
      (new config).run? events = some o ∧
        o.client.submissions.map (·.request) = [deep, blank] ∧
        (∃ outcome, o.client.outcome? 0 = some outcome) ∧
        ∃ outcome, o.client.outcome? 1 = some outcome := ⟨_, rfl, rfl, ⟨_, rfl⟩, ⟨_, rfl⟩⟩
  have hagrees := offload_agrees config hfresh hkept h
  refine ⟨hfresh, hkept, o, h, ⟨first, hfirst, ?_⟩, second, hsecond, ?_⟩
  · exact hagrees.1 0 "a" "((((1))))" first (by rw [← List.getElem?_map, hrequests]; rfl) hfirst
  · exact hagrees.2.1 1 "b" "1" " " second (by rw [← List.getElem?_map, hrequests]; rfl) hsecond

end Offload

end SubmissionGrader
