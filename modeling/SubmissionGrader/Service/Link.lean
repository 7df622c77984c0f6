import SubmissionGrader.Service.Answer

/-!
# The link between callers and a host

Requests travel to the host in one channel and responses come back in another. A channel holds a
limited number of items and gives them out in the order in which they came. A request travels with a
token, by which its caller can cancel it at any time.
-/

namespace SubmissionGrader

/-- A queue between those who send and the one who receives. -/
structure Channel (α : Type) where
  capacity : Nat
  queue : List α := []
  /-- Nobody can send any more. -/
  sendersGone : Bool := false
  /-- Nobody will receive any more. -/
  receiverGone : Bool := false
  deriving DecidableEq, Repr

namespace Channel

variable {α : Type}

/-- An empty channel with room for at least one item. -/
def new (capacity : Nat) : Channel α := { capacity := max capacity 1 }

def hasRoom (c : Channel α) : Bool := c.queue.length < c.capacity

def push (c : Channel α) (item : α) : Channel α := { c with queue := c.queue ++ [item] }

def pop? (c : Channel α) : Option (α × Channel α) :=
  match c.queue with
  | [] => none
  | item :: rest => some (item, { c with queue := rest })

/-- Whether nothing is left and nothing can come. -/
def isClosed (c : Channel α) : Bool := c.sendersGone && c.queue.isEmpty

def closeSenders (c : Channel α) : Channel α := { c with sendersGone := true }

/-- The channel after its receiver went. What it holds is lost. -/
def closeReceiver (c : Channel α) : Channel α := { c with queue := [], receiverGone := true }

end Channel

/-- A token stands for one request when it comes to cancelling. -/
abbrev Token := Nat

structure Envelope where
  request : Request
  token : Token
  deriving DecidableEq, Repr

structure Link where
  requests : Channel Envelope
  responses : Channel Response
  cancelled : List Token := []
  deriving DecidableEq, Repr

namespace Link

def new (capacity : Nat) : Link := { requests := .new capacity, responses := .new capacity }

def isCancelled (l : Link) (token : Token) : Bool := l.cancelled.contains token

def cancel (l : Link) (token : Token) : Link := { l with cancelled := token :: l.cancelled }

end Link

end SubmissionGrader
