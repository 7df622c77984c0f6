import SubmissionGrader.Service.Host
import SubmissionGrader.Text.Blank
import SubmissionGrader.Text.Lines

/-!
# Serving requests line by line

A server reads one request per line and writes one response per line, while a host answers the
requests. Blank lines are skipped, and a line that is no request is rejected at once; what is said
of one that is no JSON is left open (`explain`). Responses are written in the order in which they
come. `LineServer.step?` says what can happen next, and
`LineServer.run` makes one run to its end.
-/

namespace SubmissionGrader

structure LineServer where
  host : Host
  link : Link
  /-- The lines that were not read yet. -/
  lines : List String
  /-- Whether the input was not found to be at its end yet. -/
  reading : Bool := true
  /-- The request that has to be handed to the host. -/
  handover : Option Envelope := none
  /-- The response that has to be written. -/
  outgoing : Option Response := none
  /-- The responses that were written. -/
  written : List Response := []
  /-- Whether the server has returned. -/
  done : Bool := false
  deriving DecidableEq, Repr

namespace LineServer

variable [Syntax.Language] (explain : String → Option String)

inductive Event where
  | host (event : Host.Event)
  /-- A line is read. -/
  | read
  /-- The input is found to be at its end. -/
  | close
  /-- The request of the line is handed to the host. -/
  | handOver
  /-- A response is taken from the link. -/
  | receive
  /-- A response is written. -/
  | write
  /-- No response can come any more. -/
  | finish
  deriving DecidableEq, Repr

def new (config : HostConfig) (input : String) : LineServer :=
  { host := .new config, link := .new config.queueCapacity, lines := Text.lines input }

/-- Whether the server waits for what comes next. -/
def isIdle (s : LineServer) : Bool := !s.done && s.handover.isNone && s.outgoing.isNone

/-- The server after it read a line. The number of lines left is the token of a request. -/
def readLine (s : LineServer) (line : String) : LineServer :=
  if Text.isBlankText line then s
  else
    match Request.decode line explain with
    | .ok request => { s with handover := some ⟨request, s.lines.length⟩ }
    | .error response => { s with outgoing := some response }

def step? (s : LineServer) : Event → Option LineServer
  | .host event => (s.host.step? s.link event).map fun (host, link) => { s with host, link }
  | .read =>
    match s.lines with
    | line :: lines =>
      if s.isIdle && s.reading then some (readLine explain { s with lines } line) else none
    | [] => none
  | .close =>
    if s.isIdle && s.reading && s.lines.isEmpty then
      some
        { s with
          reading := false
          link := { s.link with requests := s.link.requests.closeSenders } }
    else none
  | .handOver =>
    match s.handover with
    | some e =>
      if s.link.requests.receiverGone then
        some { s with handover := none, outgoing := some (.refused e.request.id .closed) }
      else if s.link.requests.hasRoom then
        some
          { s with
            handover := none
            link := { s.link with requests := s.link.requests.push e } }
      else none
    | none => none
  | .receive =>
    if s.isIdle then
      match s.link.responses.pop? with
      | some (response, responses) =>
        some { s with link := { s.link with responses }, outgoing := some response }
      | none => none
    else none
  | .write =>
    match s.outgoing with
    | some response => some { s with outgoing := none, written := s.written ++ [response] }
    | none => none
  | .finish => if s.isIdle && s.link.responses.isClosed then some { s with done := true } else none

def run? (s : LineServer) : List Event → Option LineServer
  | [] => some s
  | event :: rest => do run? (← s.step? explain event) rest

/-- Something that can happen next, as long as the server has not returned. -/
def next? (s : LineServer) : Option Event :=
  if s.done then none
  else
    match s.host.next? s.link with
    | some event => some (.host event)
    | none =>
      if s.outgoing.isSome then some .write
      else if s.handover.isSome then some .handOver
      else if !s.link.responses.queue.isEmpty then some .receive
      else if s.reading then some (if s.lines.isEmpty then .close else .read)
      else if s.link.responses.isClosed then some .finish
      else none

def settleFor : Nat → LineServer → LineServer
  | 0, s => s
  | fuel + 1, s =>
    match s.next? with
    | none => s
    | some event =>
      match s.step? explain event with
      | none => s
      | some s => settleFor fuel s

/-- A bound for the number of events in a run: eight for each line, and three at the end. -/
def work (s : LineServer) : Nat := 8 * s.lines.length + 3

def run (config : HostConfig) (input : String) (explain : String → Option String := fun _ => none) :
    LineServer :=
  let s := new config input
  settleFor explain s.work s

end LineServer

end SubmissionGrader
