import SubmissionGrader.Proofs.Lists
import SubmissionGrader.Service.Host

/-!
# Events of a host

`Host.Step` says what an event makes of a host and its link, and all proofs about hosts go through
its cases. Every event brings the requests closer to their responses (`Step.effort_lt`). A host to
which nothing can happen waits for requests, or for room for its responses (`Host.Idle`).
-/

namespace SubmissionGrader

/-- The link that a host leaves behind. Its responses are complete if the host and all workers are
gone. -/
def Link.leftBy (l : Link) (h : Host) : Link :=
  { l with
    responses :=
      { l.responses with
        sendersGone := l.responses.sendersGone || !h.running && h.workers.isEmpty } }

/-- The number of events until the response of a worker is sent. -/
def Worker.effort : Worker → Nat
  | .waiting _ => 3
  | .working _ => 2
  | .answered _ => 1

namespace Host

theorem leave_eq (h : Host) (l : Link) : h.leave l = (h, l.leftBy h) := by
  rw [leave, Link.leftBy]
  by_cases hgone : (!h.running && h.workers.isEmpty) = true
  · rw [if_pos hgone, hgone, Bool.or_true]
    rfl
  · rw [if_neg hgone, Bool.eq_false_iff.2 hgone, Bool.or_false]

def dismiss (h : Host) (worker : Nat) : Host := { h with workers := h.workers.eraseIdx worker }

inductive Step [Syntax.Language] (h : Host) (l : Link) : Event → Host → Link → Prop
  | take {e : Envelope} {rest : List Envelope} (hrunning : h.running = true)
      (hqueue : l.requests.queue = e :: rest) :
      Step h l .take { h with workers := h.workers ++ [.waiting e] }
        { l with requests := { l.requests with queue := rest } }
  | stop (hmay : h.mayStop l = true) :
      Step h l .stop { h with running := false }
        (Link.leftBy { l with requests := l.requests.closeReceiver } { h with running := false })
  | refuse {i : Nat} {e : Envelope} (hworker : h.workers[i]? = some (.waiting e))
      (hcancelled : l.isCancelled e.token = true) :
      Step h l (.start i) (h.setWorker i (.answered (.refused e.request.id .cancelled))) l
  | start {i : Nat} {e : Envelope} (hworker : h.workers[i]? = some (.waiting e))
      (hcancelled : l.isCancelled e.token = false) :
      Step h l (.start i) (h.setWorker i (.working e)) l
  | finish {i : Nat} {e : Envelope} (hworker : h.workers[i]? = some (.working e)) :
      Step h l (.finish i)
        (h.setWorker i (.answered (e.request.answer h.maxNestingDepth))) l
  | interrupt {i : Nat} {e : Envelope} (hworker : h.workers[i]? = some (.working e))
      (hcancelled : l.isCancelled e.token = true) :
      Step h l (.interrupt i) (h.setWorker i (.answered (.refused e.request.id .cancelled))) l
  | drop {i : Nat} {response : Response} (hworker : h.workers[i]? = some (.answered response))
      (hgone : l.responses.receiverGone = true) :
      Step h l (.send i) (h.dismiss i) (l.leftBy (h.dismiss i))
  | send {i : Nat} {response : Response} (hworker : h.workers[i]? = some (.answered response))
      (hkept : l.responses.receiverGone = false) (hroom : l.responses.hasRoom = true) :
      Step h l (.send i) (h.dismiss i)
        (Link.leftBy { l with responses := l.responses.push response } (h.dismiss i))

variable {h h' : Host} {l l' : Link} {event : Event}

theorem step_of_step? [Syntax.Language] (hstep : h.step? l event = some (h', l')) :
    Step h l event h' l' := by
  cases event with
  | take =>
    simp only [step?, Channel.pop?] at hstep
    split at hstep
    next hrunning =>
      cases hqueue : l.requests.queue with
      | nil => simp [hqueue] at hstep
      | cons e rest =>
        simp only [hqueue] at hstep
        cases hstep
        exact .take hrunning hqueue
    next => cases hstep
  | stop =>
    simp only [step?, leave_eq] at hstep
    split at hstep
    next hmay =>
      cases hstep
      exact .stop hmay
    next => cases hstep
  | start i =>
    simp only [step?] at hstep
    split at hstep
    next e hworker =>
      cases hcancelled : l.isCancelled e.token with
      | true =>
        simp only [hcancelled, if_true] at hstep
        cases hstep
        exact .refuse hworker hcancelled
      | false =>
        simp only [hcancelled, Bool.false_eq_true, if_false] at hstep
        cases hstep
        exact .start hworker hcancelled
    next => cases hstep
  | finish i =>
    simp only [step?] at hstep
    split at hstep
    next e hworker =>
      cases hstep
      exact .finish hworker
    next => cases hstep
  | interrupt i =>
    simp only [step?] at hstep
    split at hstep
    next e hworker =>
      split at hstep
      next hcancelled =>
        cases hstep
        exact .interrupt hworker hcancelled
      next => cases hstep
    next => cases hstep
  | send i =>
    simp only [step?, leave_eq] at hstep
    split at hstep
    next response hworker =>
      split at hstep
      next hgone =>
        cases hstep
        exact .drop hworker hgone
      next hkept =>
        split at hstep
        next hroom =>
          cases hstep
          exact .send hworker (by simpa using hkept) hroom
        next => cases hstep
    next => cases hstep

/-- A host leaves it to the callers which tokens are cancelled and whether requests can come. -/
theorem Step.callers_eq [Syntax.Language] (hstep : Step h l event h' l') :
    l'.cancelled = l.cancelled ∧ l'.requests.sendersGone = l.requests.sendersGone := by
  cases hstep <;> exact ⟨rfl, rfl⟩

/-! ## Effort -/

/-- A bound for the number of events in a host without its callers, if each response makes for some
more events after it was sent. -/
def effort (more : Nat) (h : Host) (l : Link) : Nat :=
  (more + 4) * l.requests.queue.length + (h.workers.map fun w => w.effort + more).sum +
    more * l.responses.queue.length + h.running.toNat

theorem Step.effort_lt [Syntax.Language] (hstep : Step h l event h' l') (more : Nat) :
    effort more h' l' < effort more h l := by
  have hset {i : Nat} {w w' : Worker} (hworker : h.workers[i]? = some w)
      (hlt : w'.effort < w.effort) : effort more (h.setWorker i w') l < effort more h l := by
    have hsum := Lists.sum_map_eraseIdx hworker fun w => w.effort + more
    have hsum' := Lists.sum_map_set hworker (fun w => w.effort + more) w'
    simp only [effort, setWorker, hsum, hsum']
    omega
  have hdismiss {i : Nat} {response : Response}
      (hworker : h.workers[i]? = some (.answered response)) :
      (h.workers.map fun w => w.effort + more).sum =
        1 + more + ((h.workers.eraseIdx i).map fun w => w.effort + more).sum :=
    Lists.sum_map_eraseIdx hworker fun w => w.effort + more
  cases hstep with
  | take hrunning hqueue =>
    simp only [effort, hqueue, List.map_append, List.sum_append, List.length_cons, List.map_cons,
      List.map_nil, List.sum_cons, List.sum_nil, Worker.effort, Nat.mul_succ]
    omega
  | stop hmay =>
    have hrunning : h.running = true := by
      rw [mayStop, Bool.and_eq_true] at hmay
      exact hmay.1
    simp only [effort, Link.leftBy, Channel.closeReceiver, hrunning, List.length_nil, Nat.mul_zero,
      Bool.toNat_true, Bool.toNat_false]
    omega
  | refuse hworker => exact hset hworker (by simp [Worker.effort])
  | start hworker => exact hset hworker (by simp [Worker.effort])
  | finish hworker => exact hset hworker (by simp [Worker.effort])
  | interrupt hworker => exact hset hworker (by simp [Worker.effort])
  | drop hworker =>
    simp only [effort, hdismiss hworker, Link.leftBy, dismiss]
    omega
  | send hworker =>
    simp only [effort, hdismiss hworker, Link.leftBy, dismiss, Channel.push, List.length_append,
      List.length_cons, List.length_nil, Nat.mul_add]
    omega

/-! ## Idle hosts -/

/-- Nothing can happen in the host. -/
structure Idle (h : Host) (l : Link) : Prop where
  workers : ∀ w ∈ h.workers, (∃ response, w = .answered response) ∧
    l.responses.receiverGone = false ∧ l.responses.hasRoom = false
  staying : h.mayStop l = false
  requests : h.running = true → l.requests.queue = []

theorem isSome_step?_workerEvent? [Syntax.Language] {i : Nat} {w : Worker}
    (hworker : h.workers[i]? = some w)
    (hevent : workerEvent? l i w = some event) : (h.step? l event).isSome = true := by
  cases w with
  | waiting e =>
    cases hevent
    simp [step?, hworker]
  | working e =>
    cases hevent
    simp [step?, hworker]
  | answered response =>
    simp only [workerEvent?] at hevent
    split at hevent
    next hsend =>
      cases hevent
      simp only [step?, hworker]
      cases hgone : l.responses.receiverGone with
      | true => simp
      | false =>
        rw [hgone, Bool.false_or] at hsend
        simp [hsend]
    next => cases hevent

theorem isSome_step?_next? [Syntax.Language] (hevent : h.next? l = some event) :
    (h.step? l event).isSome = true := by
  simp only [next?] at hevent
  split at hevent
  next found hfound =>
    cases hevent
    obtain ⟨⟨w, i⟩, hmem, hw⟩ := List.exists_of_findSome?_eq_some hfound
    exact isSome_step?_workerEvent? (List.mem_zipIdx_iff_getElem?.1 hmem) hw
  next =>
    split at hevent
    next hmay =>
      cases hevent
      simp [step?, hmay]
    next =>
      split at hevent
      next htake =>
        cases hevent
        rw [Bool.and_eq_true] at htake
        cases hqueue : l.requests.queue with
        | nil => simp [hqueue] at htake
        | cons e rest => simp [step?, Channel.pop?, hqueue, htake.1]
      next => cases hevent

theorem idle_of_next?_eq_none (hnext : h.next? l = none) : h.Idle l := by
  simp only [next?] at hnext
  split at hnext
  next => cases hnext
  next hworkers =>
    split at hnext
    next => cases hnext
    next hmay =>
      split at hnext
      next => cases hnext
      next htake =>
        refine ⟨fun w hw => ?_, by simpa using hmay, fun hrunning => ?_⟩
        · obtain ⟨i, hi⟩ := List.mem_iff_getElem?.1 hw
          have hnone := List.findSome?_eq_none_iff.1 hworkers (w, i)
            (List.mem_zipIdx_iff_getElem?.2 hi)
          cases w with
          | waiting e => cases hnone
          | working e => cases hnone
          | answered response => exact ⟨⟨response, rfl⟩, by simpa [workerEvent?] using hnone⟩
        · simpa [hrunning] using htake

theorem idle_of_stuck [Syntax.Language] (hstuck : ∀ event, h.step? l event = none) : h.Idle l := by
  apply idle_of_next?_eq_none
  cases hnext : h.next? l with
  | none => rfl
  | some event =>
    have hsome := isSome_step?_next? hnext
    rw [hstuck event] at hsome
    cases hsome

/-! ## Linked hosts -/

/-- A host that nobody told to stop, and its link. The host serves until no request can come any
more, and the receiver of the responses stays. -/
structure Linked (h : Host) (l : Link) : Prop where
  unstopped : h.stopping = false
  kept : l.responses.receiverGone = false
  receiver : l.requests.receiverGone = !h.running
  drained : h.running = false → l.requests.queue = [] ∧ l.requests.sendersGone = true
  senders : l.responses.sendersGone = (!h.running && h.workers.isEmpty)
  requestRoom : 0 < l.requests.capacity
  responseRoom : 0 < l.responses.capacity

theorem linked_new (config : HostConfig) : (new config).Linked (.new config.queueCapacity) where
  unstopped := rfl
  kept := rfl
  receiver := rfl
  drained := nofun
  senders := rfl
  requestRoom := Nat.lt_of_lt_of_le Nat.zero_lt_one (Nat.le_max_right _ _)
  responseRoom := Nat.lt_of_lt_of_le Nat.zero_lt_one (Nat.le_max_right _ _)

theorem Linked.isClosed_of_mayStop (hl : h.Linked l) (hmay : h.mayStop l = true) :
    h.running = true ∧ l.requests.sendersGone = true ∧ l.requests.queue = [] := by
  simpa [mayStop, hl.unstopped, Channel.isClosed] using hmay

theorem Linked.senders_of_running (hl : h.Linked l) (hrunning : h.running = true) :
    l.responses.sendersGone = false := by
  rw [hl.senders, hrunning]
  rfl

theorem Linked.senders_of_worker {i : Nat} {w : Worker} (hl : h.Linked l)
    (hworker : h.workers[i]? = some w) : l.responses.sendersGone = false := by
  have hmem := List.mem_of_getElem? hworker
  rw [hl.senders, List.isEmpty_eq_false_iff.2 (List.ne_nil_of_mem hmem), Bool.and_false]

theorem Linked.setWorker {i : Nat} (hl : h.Linked l) (w : Worker) :
    (h.setWorker i w).Linked l := by
  have hempty : (h.workers.set i w).isEmpty = h.workers.isEmpty := by
    rw [Bool.eq_iff_iff, List.isEmpty_iff, List.isEmpty_iff, List.set_eq_nil_iff]
  exact { hl with senders := by rw [Host.setWorker, hempty]; exact hl.senders }

/-- The link stays in order whatever happens in the host. -/
theorem Step.linked [Syntax.Language] (hstep : Step h l event h' l') (hl : h.Linked l) :
    h'.Linked l' := by
  cases hstep with
  | take hrunning hqueue =>
    exact
      { hl with
        drained := fun hstopped => absurd hrunning (by simpa using hstopped)
        senders := by rw [hl.senders_of_running hrunning, hrunning]; rfl }
  | stop hmay =>
    obtain ⟨hrunning, hgone, hqueue⟩ := hl.isClosed_of_mayStop hmay
    exact
      { hl with
        receiver := rfl
        drained := fun _ => ⟨rfl, hgone⟩
        senders := by
          simp only [Link.leftBy]
          rw [hl.senders_of_running hrunning, Bool.false_or] }
  | refuse => exact hl.setWorker _
  | start => exact hl.setWorker _
  | finish => exact hl.setWorker _
  | interrupt => exact hl.setWorker _
  | drop hworker hgone =>
    rw [hl.kept] at hgone
    cases hgone
  | send hworker =>
    exact
      { hl with
        senders := by
          simp only [Link.leftBy, Channel.push]
          rw [hl.senders_of_worker hworker, Bool.false_or] }

theorem Linked.gone_of_isClosed (hl : h.Linked l) (hclosed : l.responses.isClosed = true) :
    h.running = false ∧ h.workers = [] := by
  rw [Channel.isClosed, Bool.and_eq_true, hl.senders, Bool.and_eq_true, Bool.not_eq_true',
    List.isEmpty_iff] at hclosed
  exact hclosed.1

theorem Linked.not_step_of_isClosed [Syntax.Language] (hl : h.Linked l)
    (hclosed : l.responses.isClosed = true) :
    ¬Step h l event h' l' := by
  obtain ⟨hstopped, hworkers⟩ := hl.gone_of_isClosed hclosed
  intro hstep
  cases hstep with
  | take hrunning => simp [hstopped] at hrunning
  | stop hmay => simp [mayStop, hstopped] at hmay
  | refuse hworker | start hworker | finish hworker | interrupt hworker | drop hworker
  | send hworker => simp [hworkers] at hworker

end Host

end SubmissionGrader
