import SubmissionGrader.Proofs.Runs
import SubmissionGrader.Proofs.Service.Host

/-!
# Exchanges between a host and its callers

Callers send envelopes to a host, cancel tokens and receive responses, while the host works. An
exchange records what passed: the envelopes that were accepted, the jobs of the workers, and which
job was answered by what. Each accepted envelope is in one place at any time, and in the end it has
been answered once (`exchange_answers_once`).
-/

namespace SubmissionGrader

structure Job where
  envelope : Envelope
  /-- The token was cancelled before the worker started. -/
  early : Bool := false
  deriving DecidableEq, Repr

structure Exchange where
  host : Host
  link : Link
  /-- The envelopes that the request channel accepted. -/
  accepted : List Envelope := []
  /-- The jobs of the workers, in the order of the workers. -/
  jobs : List Job := []
  /-- The jobs whose responses were sent, in the order of sending. -/
  answered : List (Job × Response) := []
  /-- The responses that the callers received. -/
  received : List Response := []
  deriving DecidableEq, Repr

namespace Exchange

inductive Event where
  | host (event : Host.Event)
  /-- The request channel accepts an envelope. -/
  | accept (envelope : Envelope)
  /-- A token is cancelled. -/
  | cancel (token : Token)
  /-- A response is received. -/
  | receive
  /-- The callers send no more requests. -/
  | close
  deriving DecidableEq, Repr

def Event.isHost : Event → Bool
  | .host _ => true
  | _ => false

def new (config : HostConfig) : Exchange :=
  { host := .new config, link := .new config.queueCapacity }

def record (x : Exchange) : Host.Event → Exchange
  | .take => { x with jobs := x.jobs ++ (x.link.requests.queue.take 1).map ({ envelope := · }) }
  | .start i =>
    match x.jobs[i]? with
    | some job =>
      { x with jobs := x.jobs.set i { job with early := x.link.isCancelled job.envelope.token } }
    | none => x
  | .send i =>
    match x.jobs[i]?, x.host.workers[i]? with
    | some job, some (.answered response) =>
      { x with jobs := x.jobs.eraseIdx i, answered := x.answered ++ [(job, response)] }
    | _, _ => x
  | _ => x

theorem record_start {x : Exchange} {i : Nat} {job : Job} (hjob : x.jobs[i]? = some job) :
    x.record (.start i) =
      { x with
        jobs := x.jobs.set i { job with early := x.link.isCancelled job.envelope.token } } := by
  simp [record, hjob]

@[simp] theorem record_accepted (x : Exchange) (event : Host.Event) :
    (x.record event).accepted = x.accepted := by
  unfold record
  split
  · rfl
  · split <;> rfl
  · split <;> rfl
  · rfl

@[simp] theorem record_received (x : Exchange) (event : Host.Event) :
    (x.record event).received = x.received := by
  unfold record
  split
  · rfl
  · split <;> rfl
  · split <;> rfl
  · rfl

variable [Syntax.Language]

def step? (x : Exchange) : Event → Option Exchange
  | .host event =>
    (x.host.step? x.link event).map fun (host, link) => { x.record event with host, link }
  | .accept e =>
    let requests := x.link.requests
    if !requests.sendersGone && !requests.receiverGone && requests.hasRoom then
      some { x with
        link := { x.link with requests := requests.push e }
        accepted := x.accepted ++ [e] }
    else none
  | .cancel token => some { x with link := x.link.cancel token }
  | .receive =>
    match x.link.responses.pop? with
    | some (response, responses) =>
      some { x with link := { x.link with responses }, received := x.received ++ [response] }
    | none => none
  | .close => some { x with link := { x.link with requests := x.link.requests.closeSenders } }

def run? (x : Exchange) (events : List Event) : Option Exchange := events.foldlM step? x

inductive Step (x : Exchange) : Event → Exchange → Prop
  | host {event : Host.Event} {host : Host} {link : Link}
      (hhost : Host.Step x.host x.link event host link) :
      Step x (.host event) { x.record event with host, link }
  | accept {e : Envelope} (hopen : x.link.requests.sendersGone = false)
      (hkept : x.link.requests.receiverGone = false) (hroom : x.link.requests.hasRoom = true) :
      Step x (.accept e)
        { x with
          link := { x.link with requests := x.link.requests.push e }
          accepted := x.accepted ++ [e] }
  | cancel (token : Token) : Step x (.cancel token) { x with link := x.link.cancel token }
  | receive {response : Response} {rest : List Response}
      (hqueue : x.link.responses.queue = response :: rest) :
      Step x .receive
        { x with
          link := { x.link with responses := { x.link.responses with queue := rest } }
          received := x.received ++ [response] }
  | close :
      Step x .close { x with link := { x.link with requests := x.link.requests.closeSenders } }

theorem step_of_step? {x y : Exchange} {event : Event} (h : x.step? event = some y) :
    Step x event y := by
  cases event with
  | host event =>
    obtain ⟨⟨host, link⟩, hhost, rfl⟩ := Option.map_eq_some_iff.1 h
    exact .host (Host.step_of_step? hhost)
  | accept e =>
    simp only [step?] at h
    split at h
    next haccept =>
      cases h
      simp only [Bool.and_eq_true, Bool.not_eq_true'] at haccept
      exact .accept haccept.1.1 haccept.1.2 haccept.2
    next => cases h
  | cancel token =>
    cases h
    exact .cancel token
  | receive =>
    simp only [step?, Channel.pop?] at h
    cases hqueue : x.link.responses.queue with
    | nil => simp [hqueue] at h
    | cons response rest =>
      simp only [hqueue] at h
      cases h
      exact .receive hqueue
  | close =>
    cases h
    exact .close

end Exchange

/-! ## Jobs and workers -/

/-- No answer reads like the refusal of a request that was cancelled. -/
theorem Request.answer_ne_cancelled [Syntax.Language] (r : Request) (depth : Nat) (id : String) :
    r.answer depth ≠ .refused id .cancelled := by
  have hwords : Refusal.invalid.message ≠ Refusal.cancelled.message := by decide +kernel
  rw [answer]
  split
  · intro h
    cases congrArg Response.type h
  · intro h
    cases congrArg Response.type h
  · exact fun h => hwords (Option.some.inj (congrArg Response.error h))

namespace Job

variable [Syntax.Language]

/-- The responses that a job may get if some tokens were cancelled. -/
inductive Admits (depth : Nat) (cancelled : List Token) (job : Job) : Response → Prop
  | answer (hearly : job.early = false) :
      Admits depth cancelled job (job.envelope.request.answer depth)
  | refusal (hcancelled : cancelled.contains job.envelope.token = true) :
      Admits depth cancelled job (.refused job.envelope.request.id .cancelled)

/-- How far a worker can be with a job. -/
inductive Matches (depth : Nat) (cancelled : List Token) (job : Job) : Worker → Prop
  | waiting (hearly : job.early = false) : Matches depth cancelled job (.waiting job.envelope)
  | working (hearly : job.early = false) : Matches depth cancelled job (.working job.envelope)
  | answered {response : Response} (h : job.Admits depth cancelled response) :
      Matches depth cancelled job (.answered response)

variable {depth : Nat} {cancelled : List Token} {job : Job} {response : Response}

theorem Admits.cancel (h : job.Admits depth cancelled response) (token : Token) :
    job.Admits depth (token :: cancelled) response := by
  cases h with
  | answer hearly => exact .answer hearly
  | refusal hcancelled => exact .refusal (by simp_all)

theorem Matches.cancel {w : Worker} (h : job.Matches depth cancelled w) (token : Token) :
    job.Matches depth (token :: cancelled) w := by
  cases h with
  | waiting hearly => exact .waiting hearly
  | working hearly => exact .working hearly
  | answered h => exact .answered (h.cancel token)

theorem Admits.id_eq (h : job.Admits depth cancelled response) :
    response.id = job.envelope.request.id := by
  cases h with
  | answer => exact Request.answer_id _ _
  | refusal => rfl

end Job

namespace Exchange

/-! ## What every event keeps -/

section Sound

variable [Syntax.Language]

/-- Each accepted envelope waits, is with a worker, or was answered. Responses are received in the
order in which they were sent. -/
structure Sound (depth : Nat) (x : Exchange) : Prop where
  linked : x.host.Linked x.link
  depth_eq : x.host.maxNestingDepth = depth
  balance : (x.link.requests.queue ++ x.jobs.map (·.envelope) ++
    x.answered.map (·.1.envelope)).Perm x.accepted
  jobs : List.Forall₂ (Job.Matches depth x.link.cancelled) x.jobs x.host.workers
  answers : ∀ p ∈ x.answered, p.1.Admits depth x.link.cancelled p.2
  delivery : x.answered.map (·.2) = x.received ++ x.link.responses.queue

theorem sound_new (config : HostConfig) : (new config).Sound config.maxNestingDepth where
  linked := Host.linked_new config
  depth_eq := rfl
  balance := .nil
  jobs := .nil
  answers := fun _ hp => absurd hp List.not_mem_nil
  delivery := rfl

variable {depth : Nat} {x y : Exchange}

theorem Sound.setWorker {i : Nat} {job : Job} {w : Worker} (hx : x.Sound depth)
    (hjob : x.jobs[i]? = some job) {job' : Job} (henvelope : job'.envelope = job.envelope)
    (hmatches : job'.Matches depth x.link.cancelled w) :
    Sound depth { x with host := x.host.setWorker i w, jobs := x.jobs.set i job' } where
  linked := hx.linked.setWorker w
  depth_eq := hx.depth_eq
  balance := by
    have hsame : (x.jobs.set i job').map (·.envelope) = x.jobs.map (·.envelope) := by
      obtain ⟨hi, rfl⟩ := List.getElem?_eq_some_iff.1 hjob
      rw [List.map_set, henvelope, ← List.map_set, List.set_getElem_self]
    rw [hsame]
    exact hx.balance
  jobs := Lists.forall₂_set hx.jobs i hmatches
  answers := hx.answers
  delivery := hx.delivery

theorem Sound.keepJob {i : Nat} {job : Job} {w : Worker} (hx : x.Sound depth)
    (hjob : x.jobs[i]? = some job) (hmatches : job.Matches depth x.link.cancelled w) :
    Sound depth { x with host := x.host.setWorker i w } := by
  have hset := hx.setWorker hjob rfl hmatches
  obtain ⟨hi, rfl⟩ := List.getElem?_eq_some_iff.1 hjob
  rwa [List.set_getElem_self] at hset

theorem Sound.take {e : Envelope} {rest : List Envelope} (hx : x.Sound depth)
    (hrunning : x.host.running = true) (hqueue : x.link.requests.queue = e :: rest) :
    Sound depth { x with
      host := { x.host with workers := x.host.workers ++ [.waiting e] }
      link := { x.link with requests := { x.link.requests with queue := rest } }
      jobs := x.jobs ++ [⟨e, false⟩] } where
  linked := (Host.Step.take hrunning hqueue).linked hx.linked
  depth_eq := hx.depth_eq
  balance := by
    refine List.Perm.trans ?_ hx.balance
    rw [hqueue, List.map_append, ← List.append_assoc]
    refine List.Perm.append_right _ ?_
    exact List.perm_append_singleton e (rest ++ x.jobs.map (·.envelope))
  jobs := List.rel_append hx.jobs (.cons (Job.Matches.waiting rfl) .nil)
  answers := hx.answers
  delivery := hx.delivery

theorem Sound.send {i : Nat} {job : Job} {response : Response} (hx : x.Sound depth)
    (hjob : x.jobs[i]? = some job) (hworker : x.host.workers[i]? = some (.answered response))
    (hadmits : job.Admits depth x.link.cancelled response)
    (hroom : x.link.responses.hasRoom = true) :
    Sound depth { x with
      host := x.host.dismiss i
      link := Link.leftBy { x.link with responses := x.link.responses.push response }
        (x.host.dismiss i)
      jobs := x.jobs.eraseIdx i
      answered := x.answered ++ [(job, response)] } where
  linked := (Host.Step.send hworker hx.linked.kept hroom).linked hx.linked
  depth_eq := hx.depth_eq
  balance := by
    refine List.Perm.trans ?_ hx.balance
    obtain ⟨hi, rfl⟩ := List.getElem?_eq_some_iff.1 hjob
    have hjobs := (List.getElem_cons_eraseIdx_perm hi).map (·.envelope)
    rw [List.map_append, ← List.append_assoc]
    refine (List.perm_append_singleton _ _).trans ?_
    rw [← List.cons_append]
    refine List.Perm.append_right _ ?_
    exact List.perm_middle.symm.trans (hjobs.append_left _)
  jobs := Lists.forall₂_eraseIdx hx.jobs i
  answers := by
    intro p hp
    rcases List.mem_append.1 hp with hp | hp
    · exact hx.answers p hp
    · obtain rfl := List.mem_singleton.1 hp
      exact hadmits
  delivery := by
    rw [List.map_append, hx.delivery, List.append_assoc]
    rfl

/-- Nothing is lost or doubled by what happens in the host. -/
theorem Sound.host {event : Host.Event} {host : Host} {link : Link} (hx : x.Sound depth)
    (hstep : Host.Step x.host x.link event host link) :
    Sound depth { x.record event with host, link } := by
  cases hstep with
  | @take e rest hrunning hqueue =>
    have hrecord : x.record .take = { x with jobs := x.jobs ++ [⟨e, false⟩] } := by
      simp [record, hqueue]
    rw [hrecord]
    exact hx.take hrunning hqueue
  | stop hmay =>
    -- A receiver that goes takes the queue along, but the queue is empty by then.
    obtain ⟨-, -, hqueue⟩ := hx.linked.isClosed_of_mayStop hmay
    exact
      { hx with
        linked := (Host.Step.stop hmay).linked hx.linked
        balance := by
          have hbalance := hx.balance
          rwa [hqueue] at hbalance }
  | refuse hworker hcancelled =>
    obtain ⟨job, hjob, hmatches⟩ := Lists.forall₂_getElem? hx.jobs hworker
    cases hmatches
    rw [record_start hjob]
    exact hx.setWorker hjob rfl (.answered (.refusal hcancelled))
  | start hworker hcancelled =>
    obtain ⟨job, hjob, hmatches⟩ := Lists.forall₂_getElem? hx.jobs hworker
    cases hmatches
    rw [record_start hjob, hcancelled]
    exact hx.setWorker hjob rfl (.working rfl)
  | finish hworker =>
    obtain ⟨job, hjob, hmatches⟩ := Lists.forall₂_getElem? hx.jobs hworker
    cases hmatches with
    | working hearly =>
      rw [hx.depth_eq]
      exact hx.keepJob hjob (.answered (.answer hearly))
  | interrupt hworker hcancelled =>
    obtain ⟨job, hjob, hmatches⟩ := Lists.forall₂_getElem? hx.jobs hworker
    cases hmatches
    exact hx.keepJob hjob (.answered (.refusal hcancelled))
  | drop hworker hgone =>
    rw [hx.linked.kept] at hgone
    cases hgone
  | send hworker hkept hroom =>
    obtain ⟨job, hjob, hmatches⟩ := Lists.forall₂_getElem? hx.jobs hworker
    cases hmatches with
    | answered hadmits =>
      simp only [record, hjob, hworker]
      exact hx.send hjob hworker hadmits hroom

theorem Sound.accept {e : Envelope} (hx : x.Sound depth)
    (hreceiver : x.link.requests.receiverGone = false) :
    Sound depth { x with
      link := { x.link with requests := x.link.requests.push e }
      accepted := x.accepted ++ [e] } where
  linked := by
    have hrunning : x.host.running = true := by
      simpa [hx.linked.receiver] using hreceiver
    exact
      { hx.linked with
        drained := fun hstopped => absurd hrunning (by simpa using hstopped) }
  depth_eq := hx.depth_eq
  balance := by
    refine List.Perm.trans ?_ (hx.balance.append_right [e])
    simp only [Channel.push, List.append_assoc]
    exact (List.perm_append_comm.trans (by simp)).append_left _
  jobs := hx.jobs
  answers := hx.answers
  delivery := hx.delivery

theorem Sound.cancel (hx : x.Sound depth) (token : Token) :
    Sound depth { x with link := x.link.cancel token } where
  linked := { hx.linked with }
  depth_eq := hx.depth_eq
  balance := hx.balance
  jobs := hx.jobs.imp fun _ _ hmatches => hmatches.cancel token
  answers := fun p hp => (hx.answers p hp).cancel token
  delivery := hx.delivery

theorem Sound.receive {response : Response} {rest : List Response} (hx : x.Sound depth)
    (hqueue : x.link.responses.queue = response :: rest) :
    Sound depth { x with
      link := { x.link with responses := { x.link.responses with queue := rest } }
      received := x.received ++ [response] } where
  linked := { hx.linked with }
  depth_eq := hx.depth_eq
  balance := hx.balance
  jobs := hx.jobs
  answers := hx.answers
  delivery := by
    rw [hx.delivery, hqueue, List.append_assoc]
    rfl

theorem Sound.close (hx : x.Sound depth) :
    Sound depth { x with link := { x.link with requests := x.link.requests.closeSenders } } where
  linked := { hx.linked with drained := fun hstopped => ⟨(hx.linked.drained hstopped).1, rfl⟩ }
  depth_eq := hx.depth_eq
  balance := hx.balance
  jobs := hx.jobs
  answers := hx.answers
  delivery := hx.delivery

theorem Step.sound {event : Event} (hstep : Step x event y) (hx : x.Sound depth) :
    y.Sound depth := by
  cases hstep with
  | host hhost => exact hx.host hhost
  | accept hopen hkept => exact hx.accept hkept
  | cancel token => exact hx.cancel token
  | receive hqueue => exact hx.receive hqueue
  | close => exact hx.close

theorem sound_run {config : HostConfig} {events : List Event}
    (h : (new config).run? events = some x) : x.Sound config.maxNestingDepth :=
  Run.induction (P := fun _ x => x.Sound config.maxNestingDepth) (sound_new config)
    (fun _ _ _ _ hr hstep => (step_of_step? hstep).sound hr) h

/-! ## The end of an exchange -/

/-- The events in the host, and those that are left, are at most four for each envelope, and one. -/
theorem Step.bound {event : Event} (hstep : Step x event y) :
    event.isHost.toNat + y.host.effort 0 y.link + 4 * x.accepted.length ≤
      x.host.effort 0 x.link + 4 * y.accepted.length := by
  cases hstep with
  | host hhost =>
    have hlt := hhost.effort_lt 0
    simp only [Event.isHost, Bool.toNat_true, record_accepted]
    omega
  | accept =>
    simp only [Event.isHost, Bool.toNat_false, Host.effort, Channel.push, List.length_append,
      List.length_cons, List.length_nil]
    omega
  | cancel => simp [Event.isHost, Host.effort, Link.cancel]
  | receive => simp [Event.isHost, Host.effort]
  | close => simp [Event.isHost, Host.effort, Channel.closeSenders]

theorem run_bound {config : HostConfig} {events : List Event}
    (h : (new config).run? events = some x) :
    events.countP Event.isHost + x.host.effort 0 x.link ≤ 4 * x.accepted.length + 1 := by
  refine Run.induction (P := fun events (x : Exchange) =>
    events.countP Event.isHost + x.host.effort 0 x.link ≤ 4 * x.accepted.length + 1) ?_ ?_ h
  · exact Nat.le_refl 1
  · intro events r event t hr hstep
    have hbound := (step_of_step? hstep).bound
    rw [List.countP_append, List.countP_singleton]
    cases hhost : event.isHost with
    | true => simp only [hhost, Bool.toNat_true, if_true] at hbound ⊢; omega
    | false => simp only [hhost, Bool.toNat_false, Bool.false_eq_true, if_false] at hbound ⊢; omega

/-- Every accepted envelope was answered, and every response received. -/
structure Complete (x : Exchange) : Prop where
  answered : (x.answered.map (·.1.envelope)).Perm x.accepted
  received : x.answered.map (·.2) = x.received

theorem Sound.complete (hx : x.Sound depth) (hrequests : x.link.requests.queue = [])
    (hworkers : x.host.workers = []) (hresponses : x.link.responses.queue = []) : x.Complete where
  answered := by
    have hjobs := hx.jobs
    rw [hworkers, List.forall₂_nil_right_iff] at hjobs
    have hbalance := hx.balance
    rwa [hrequests, hjobs] at hbalance
  received := by
    rw [hx.delivery, hresponses, List.append_nil]

theorem Sound.complete_of_isClosed (hx : x.Sound depth)
    (hclosed : x.link.responses.isClosed = true) :
    x.link.requests.sendersGone = true ∧ x.Complete := by
  obtain ⟨hstopped, hworkers⟩ := hx.linked.gone_of_isClosed hclosed
  obtain ⟨hqueue, hgone⟩ := hx.linked.drained hstopped
  rw [Channel.isClosed, Bool.and_eq_true, List.isEmpty_iff] at hclosed
  exact ⟨hgone, hx.complete hqueue hworkers hclosed.2⟩

/-- A host that has nothing to do while all its responses were received has answered everything. -/
theorem Sound.complete_of_idle (hx : x.Sound depth) (hidle : x.host.Idle x.link)
    (hresponses : x.link.responses.queue = []) :
    x.Complete ∧
      (x.link.requests.sendersGone = true → x.link.responses.isClosed = true) := by
  have hworkers : x.host.workers = [] := by
    refine List.eq_nil_iff_forall_not_mem.2 fun w hw => ?_
    have hroom := (hidle.workers w hw).2.2
    simp [Channel.hasRoom, hresponses, hx.linked.responseRoom] at hroom
  have hrequests : x.link.requests.queue = [] := by
    cases hrunning : x.host.running with
    | true => exact hidle.requests hrunning
    | false => exact (hx.linked.drained hrunning).1
  refine ⟨hx.complete hrequests hworkers hresponses, fun hgone => ?_⟩
  have hstopped : x.host.running = false := by
    simpa [Host.mayStop, Channel.isClosed, hgone, hrequests] using hidle.staying
  simp [Channel.isClosed, hx.linked.senders, hstopped, hworkers, hresponses]

/-- Whatever the callers and the host do, in whichever order, each accepted envelope waits, or is
with a worker, or was answered once. The response carries the id of the request, and refuses it only
if its own token was cancelled, and always if that was before the worker started. The response
channel is closed only when nothing is left to answer. The host does at most four things for each
envelope; when it can do nothing more, and its responses were received, then every envelope has been
answered. -/
theorem exchange_answers_once (config : HostConfig) {events : List Event} {x : Exchange}
    (h : (new config).run? events = some x) :
    (x.link.requests.queue ++ x.jobs.map (·.envelope) ++ x.answered.map (·.1.envelope)).Perm
        x.accepted ∧
    x.answered.map (·.2) = x.received ++ x.link.responses.queue ∧
    (∀ job response, (job, response) ∈ x.answered →
      let request := job.envelope.request
      response.id = request.id ∧
      (response = request.answer config.maxNestingDepth ∨
        response = .refused request.id .cancelled) ∧
      (response = .refused request.id .cancelled →
        x.link.isCancelled job.envelope.token = true) ∧
      (job.early = true → response = .refused request.id .cancelled)) ∧
    (x.link.responses.isClosed = true → x.link.requests.sendersGone = true ∧ x.Complete) ∧
    events.countP Event.isHost ≤ 4 * x.accepted.length + 1 ∧
    ((∀ event, x.host.step? x.link event = none) → x.link.responses.queue = [] →
      x.Complete ∧
        (x.link.requests.sendersGone = true → x.link.responses.isClosed = true)) := by
  have hx := sound_run h
  refine ⟨hx.balance, hx.delivery, fun job response hmem => ?_, hx.complete_of_isClosed, ?_, ?_⟩
  · have hadmits : job.Admits config.maxNestingDepth x.link.cancelled response :=
      hx.answers _ hmem
    refine ⟨hadmits.id_eq, ?_⟩
    cases hadmits with
    | answer hearly =>
      refine ⟨.inl rfl, fun hrefused => absurd hrefused ?_, fun hlate => absurd hlate ?_⟩
      · exact Request.answer_ne_cancelled _ _ _
      · simp [hearly]
    | refusal hcancelled => exact ⟨.inr rfl, fun _ => hcancelled, fun _ => rfl⟩
  · exact Nat.le_trans (Nat.le_add_right _ _) (run_bound h)
  · exact fun hstuck => hx.complete_of_idle (Host.idle_of_stuck hstuck)

end Sound

theorem exchange_answers_once_of_two :
    let kept : Envelope := ⟨{ type := .parse, id := "a" }, 0⟩
    let dropped : Envelope := ⟨{ type := .evaluate, id := "a" }, 1⟩
    let events : List Event := [.accept kept, .host .take, .accept dropped, .cancel 1, .host .take,
      .host (.start 0), .host (.start 1), .host (.finish 0), .host (.send 1), .receive,
      .host (.send 0), .receive, .close, .host .stop]
    ∃ x, (new { queueCapacity := 0 }).run? events = some x ∧
      x.received = [.refused "a" .cancelled, .refused "a" .invalid] ∧
      (x.answered.map (·.1.envelope)).Perm x.accepted := by
  intro kept dropped events
  have hseen : ((new { queueCapacity := 0 }).run? events).map
      (fun x => (x.received, x.link.responses.isClosed)) =
      some ([.refused "a" .cancelled, .refused "a" .invalid], true) := rfl
  obtain ⟨x, hx, hseen⟩ := Option.map_eq_some_iff.1 hseen
  obtain ⟨hreceived, hclosed⟩ := Prod.mk.inj hseen
  refine ⟨x, hx, hreceived, ?_⟩
  exact ((exchange_answers_once { queueCapacity := 0 } hx).2.2.2.1 hclosed).2.answered

end Exchange

end SubmissionGrader
