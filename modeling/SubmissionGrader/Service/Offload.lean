import SubmissionGrader.Service.Client
import SubmissionGrader.Service.Host

/-!
# The analysis service through a host

A client and a host share a link. A call of the service is one request under an id that was not used
before; its result is made of the response.
-/

namespace SubmissionGrader

structure Offload where
  client : Client
  host : Host
  link : Link
  deriving DecidableEq, Repr

namespace Offload

variable [Syntax.Language]

/-- What can happen on either side of the link. -/
inductive Event where
  | client (event : Client.Event)
  | host (event : Host.Event)
  deriving DecidableEq, Repr

def new (config : HostConfig) : Offload :=
  { client := {}, host := .new config, link := .new config.queueCapacity }

def step? (o : Offload) : Event → Option Offload
  | .client event =>
    (o.client.step? o.link event).map fun (client, link) => { o with client, link }
  | .host event => (o.host.step? o.link event).map fun (host, link) => { o with host, link }

def run? (o : Offload) : List Event → Option Offload
  | [] => some o
  | event :: rest => do run? (← o.step? event) rest

def next? (o : Offload) : Option Event :=
  match o.client.next? o.link with
  | some event => some (.client event)
  | none => (o.host.next? o.link).map .host

def settleFor : Nat → Offload → Offload
  | 0, o => o
  | fuel + 1, o =>
    match o.next? with
    | none => o
    | some event =>
      match o.step? event with
      | none => o
      | some o => settleFor fuel o

/-- A bound for the number of events that can happen without the caller. -/
def work (o : Offload) : Nat :=
  7 * (o.client.submissions.length + o.link.requests.queue.length + o.host.workers.length +
    o.link.responses.queue.length + 1)

/-- Both sides after all has happened that can happen without the caller. -/
def settle (o : Offload) : Offload := settleFor o.work o

def freshId (o : Offload) : String := "request-" ++ toString o.client.submissions.length

/-- Submits a request and waits for its response. -/
def request (o : Offload) (type : RequestType) (code : String) (checker : Option String) :
    Except ServiceError Response × Offload :=
  let i := o.client.submissions.length
  match o.step? (.client (.submit { type, id := o.freshId, code := some code, checker })) with
  | none => (.error .hostClosed, o)
  | some o =>
    let o := o.settle
    ((o.client.outcome? i).getD (.error .hostClosed), o)

def parseCode (o : Offload) (code : String) : Except ServiceError FeatureContext × Offload :=
  let (response, o) := o.request .parse code none
  (response >>= Analysis.contextOf, o)

def evaluateChecker (o : Offload) (code checker : String) : Except ServiceError Bool × Offload :=
  let (response, o) := o.request .evaluate code (some checker)
  (response >>= Analysis.verdictOf, o)

end Offload

end SubmissionGrader
