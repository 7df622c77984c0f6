import SubmissionGrader.Service.Link

/-!
# The host

A host takes requests from its link and gives each to a worker of its own. Workers run at the same
time, so responses may come in any order. `Host.step?` says what can happen next, one event at a
time; a run is a list of events. `Host.settle` makes one run in which everything happens that can
happen.
-/

namespace SubmissionGrader

structure HostConfig where
  queueCapacity : Nat := 64
  maxNestingDepth : Nat := Syntax.defaultMaxDepth
  deriving DecidableEq, Repr

inductive Worker where
  | waiting (envelope : Envelope)
  | working (envelope : Envelope)
  /-- The response is there and has to be sent. -/
  | answered (response : Response)
  deriving DecidableEq, Repr

structure Host where
  maxNestingDepth : Nat
  /-- Whether requests are taken. -/
  running : Bool := true
  /-- Whether the host was told to stop. -/
  stopping : Bool := false
  workers : List Worker := []
  deriving DecidableEq, Repr

namespace Host

variable [Syntax.Language]

/-- What can happen in a host. Workers are named by their position. -/
inductive Event where
  /-- A request is taken and gets a worker. -/
  | take
  /-- The host stops to take requests. -/
  | stop
  /-- A worker looks at its token and starts. -/
  | start (worker : Nat)
  /-- A worker has done its work. -/
  | finish (worker : Nat)
  /-- A worker sees that its request was cancelled. -/
  | interrupt (worker : Nat)
  /-- A worker sends its response and goes. -/
  | send (worker : Nat)
  deriving DecidableEq, Repr

def new (config : HostConfig) : Host := { maxNestingDepth := config.maxNestingDepth }

def setWorker (h : Host) (worker : Nat) (state : Worker) : Host :=
  { h with workers := h.workers.set worker state }

/-- Nobody sends responses any more once the host and all workers are gone. -/
def leave (h : Host) (l : Link) : Host × Link :=
  if !h.running && h.workers.isEmpty then (h, { l with responses := l.responses.closeSenders })
  else (h, l)

/-- Whether the host may stop: it was told to, or no request can come any more. -/
def mayStop (h : Host) (l : Link) : Bool := h.running && (h.stopping || l.requests.isClosed)

def step? (h : Host) (l : Link) : Event → Option (Host × Link)
  | .take =>
    if h.running then
      match l.requests.pop? with
      | some (envelope, requests) =>
        some ({ h with workers := h.workers ++ [.waiting envelope] }, { l with requests })
      | none => none
    else none
  | .stop =>
    if h.mayStop l then
      some (leave { h with running := false } { l with requests := l.requests.closeReceiver })
    else none
  | .start i =>
    match h.workers[i]? with
    | some (.waiting e) =>
      some
        (h.setWorker i <|
          if l.isCancelled e.token then .answered (.refused e.request.id .cancelled)
          else .working e, l)
    | _ => none
  | .finish i =>
    match h.workers[i]? with
    | some (.working e) =>
      some (h.setWorker i (.answered (e.request.answer h.maxNestingDepth)), l)
    | _ => none
  | .interrupt i =>
    match h.workers[i]? with
    | some (.working e) =>
      if l.isCancelled e.token then
        some (h.setWorker i (.answered (.refused e.request.id .cancelled)), l)
      else none
    | _ => none
  | .send i =>
    match h.workers[i]? with
    | some (.answered response) =>
      let gone := { h with workers := h.workers.eraseIdx i }
      if l.responses.receiverGone then some (gone.leave l)
      else if l.responses.hasRoom then
        some (gone.leave { l with responses := l.responses.push response })
      else none
    | _ => none

def run? (h : Host) (l : Link) : List Event → Option (Host × Link)
  | [] => some (h, l)
  | event :: rest => do
    let (h, l) ← h.step? l event
    run? h l rest

/-- What a worker can do next, if there is room for its response. -/
def workerEvent? (l : Link) (i : Nat) : Worker → Option Event
  | .waiting _ => some (.start i)
  | .working _ => some (.finish i)
  | .answered _ => if l.responses.receiverGone || l.responses.hasRoom then some (.send i) else none

def next? (h : Host) (l : Link) : Option Event :=
  match h.workers.zipIdx.findSome? fun (worker, i) => workerEvent? l i worker with
  | some event => some event
  | none =>
    if h.mayStop l then some .stop
    else if h.running && !l.requests.queue.isEmpty then some .take
    else none

def settleFor : Nat → Host → Link → Host × Link
  | 0, h, l => (h, l)
  | fuel + 1, h, l =>
    match h.next? l with
    | none => (h, l)
    | some event =>
      match h.step? l event with
      | none => (h, l)
      | some (h, l) => settleFor fuel h l

/-- A bound for the number of events that can happen without the callers. -/
def work (h : Host) (l : Link) : Nat := 4 * l.requests.queue.length + 3 * h.workers.length + 1

/-- The host and the link after all has happened that can happen without the callers. -/
def settle (h : Host) (l : Link) : Host × Link := settleFor (h.work l) h l

end Host

end SubmissionGrader
