import SubmissionGrader.Service.Analysis
import SubmissionGrader.Service.Link

/-!
# Clients of a host

A client sends requests under ids of their own and passes each response on to whom it belongs. A
submission is one request with what became of it; the pending ids lead from responses to
submissions. `Client.step?` says what can happen next, one event at a time; a run is a list of
events.
-/

namespace SubmissionGrader

inductive SubmissionPhase where
  /-- The request waits for room in the channel. -/
  | sending
  /-- The request is on its way, and whoever submitted it has a ticket. -/
  | sent
  /-- Nobody takes requests any more. -/
  | failed
  /-- Whoever submitted the request gave up before it was sent. -/
  | abandoned
  deriving DecidableEq, Repr

/-- What is known to the holder of a ticket. -/
inductive Reply where
  | awaited
  | arrived (response : Response)
  /-- No response can arrive any more. -/
  | orphaned
  /-- Nobody waits for the response any more. -/
  | discarded
  deriving DecidableEq, Repr

structure Submission where
  request : Request
  phase : SubmissionPhase := .sending
  reply : Reply := .awaited
  deriving DecidableEq, Repr

structure Client where
  /-- All submissions so far; the position of a submission is the token of its request. -/
  submissions : List Submission := []
  /-- The ids that wait for a response, with the positions of their submissions. -/
  pending : List (String × Nat) := []
  /-- Whether responses are passed on. -/
  routing : Bool := true
  deriving DecidableEq, Repr

namespace Client

inductive Event where
  /-- A request is submitted; it becomes pending and has to be sent. -/
  | submit (request : Request)
  /-- The request of a submission is sent, or it turns out that nobody takes it. -/
  | transmit (submission : Nat)
  /-- Whoever submitted a request gives up before it is sent. -/
  | abandon (submission : Nat)
  /-- A response is passed on. -/
  | route
  /-- No response can come any more, and the client stops to pass responses on. -/
  | stop
  /-- A request is cancelled by its id. -/
  | cancel (id : String)
  /-- A ticket is used up or thrown away. -/
  | discard (submission : Nat)
  /-- The client is gone. -/
  | drop
  deriving DecidableEq, Repr

def pending? (c : Client) (id : String) : Option Nat :=
  (c.pending.find? (·.1 = id)).map Prod.snd

def forget (c : Client) (id : String) : Client :=
  { c with pending := c.pending.filter (·.1 ≠ id) }

def modify (c : Client) (submission : Nat) (f : Submission → Submission) : Client :=
  { c with submissions := c.submissions.modify submission f }

/-- A response arrives for a submission, unless nobody waits for it. -/
def Submission.deliver (response : Response) (s : Submission) : Submission :=
  match s.reply with
  | .awaited => { s with reply := .arrived response }
  | _ => s

/-- No response can arrive for a submission any more. -/
def Submission.orphan (s : Submission) : Submission :=
  match s.reply with
  | .awaited => { s with reply := .orphaned }
  | _ => s

/-- An id is forgotten, and its submission gets no response any more. -/
def orphan (c : Client) (id : String) : Client :=
  match c.pending? id with
  | some i => (c.modify i Submission.orphan).forget id
  | none => c

def orphanAll (c : Client) : Client := (c.pending.map Prod.fst).foldl orphan c

/-- The client and the link after an event; nothing if the event cannot happen. -/
def step? (c : Client) (l : Link) : Event → Option (Client × Link)
  | .submit request =>
    let c := c.orphan request.id
    some
      ({ c with
        pending := c.pending ++ [(request.id, c.submissions.length)]
        submissions := c.submissions ++ [{ request }] }, l)
  | .transmit i =>
    match c.submissions[i]? with
    | some ⟨request, .sending, _⟩ =>
      if l.requests.receiverGone then
        some ((c.orphan request.id).modify i fun s => { s with phase := .failed }, l)
      else if l.requests.hasRoom then
        some (c.modify i fun s => { s with phase := .sent },
          { l with requests := l.requests.push ⟨request, i⟩ })
      else none
    | _ => none
  | .abandon i =>
    match c.submissions[i]? with
    | some ⟨_, .sending, _⟩ =>
      some (c.modify i fun s => { s with phase := .abandoned, reply := .discarded }, l)
    | _ => none
  | .route =>
    if c.routing then
      match l.responses.pop? with
      | some (response, responses) =>
        let c :=
          match c.pending? response.id with
          | some i => (c.modify i (Submission.deliver response)).forget response.id
          | none => c
        some (c, { l with responses })
      | none => none
    else none
  | .stop =>
    if c.routing && l.responses.isClosed then some ({ c.orphanAll with routing := false }, l)
    else none
  | .cancel id =>
    match c.pending? id with
    | some i => some (c, l.cancel i)
    | none => some (c, l)
  | .discard i =>
    match c.submissions[i]? with
    | some ⟨_, .sent, _⟩ => some (c.modify i fun s => { s with reply := .discarded }, l)
    | _ => none
  | .drop =>
    some
      ({ c.orphanAll with routing := false },
        { l with requests := l.requests.closeSenders, responses := l.responses.closeReceiver })

/-- The client and the link after a list of events; nothing if one of them cannot happen. -/
def run? (c : Client) (l : Link) : List Event → Option (Client × Link)
  | [] => some (c, l)
  | event :: rest => do
    let (c, l) ← c.step? l event
    run? c l rest

/-- Whether an id waits for a response; only then cancelling it has an effect. -/
def isPending (c : Client) (id : String) : Bool := (c.pending? id).isSome

def pendingCount (c : Client) : Nat := c.pending.length

/-- What the submitter of a request gets; nothing yet if it has to wait. -/
def outcome? (c : Client) (submission : Nat) : Option (Except ServiceError Response) :=
  match c.submissions[submission]? with
  | some ⟨_, .failed, _⟩ => some (.error .hostClosed)
  | some ⟨_, .sent, .arrived response⟩ => some (.ok response)
  | some ⟨_, .sent, .orphaned⟩ => some (.error .hostClosed)
  | _ => none

/-- The first submission that waits to be sent. -/
def sending? (c : Client) : Option Nat :=
  c.submissions.findIdx? (·.phase = .sending)

def next? (c : Client) (l : Link) : Option Event :=
  if c.routing && !l.responses.queue.isEmpty then some .route
  else if c.routing && l.responses.isClosed then some .stop
  else if l.requests.receiverGone || l.requests.hasRoom then c.sending?.map .transmit
  else none

def settleFor : Nat → Client → Link → Client × Link
  | 0, c, l => (c, l)
  | fuel + 1, c, l =>
    match c.next? l with
    | none => (c, l)
    | some event =>
      match c.step? l event with
      | none => (c, l)
      | some (c, l) => settleFor fuel c l

/-- A bound for the number of events that can happen without the caller and the host. -/
def work (c : Client) (l : Link) : Nat := l.responses.queue.length + c.submissions.length + 1

/-- The client and the link after all has happened that can happen without the caller and the
host. -/
def settle (c : Client) (l : Link) : Client × Link := settleFor (c.work l) c l

end Client

end SubmissionGrader
