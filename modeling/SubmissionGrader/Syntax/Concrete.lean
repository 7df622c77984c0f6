import SubmissionGrader.Syntax.Kind

/-!
# Concrete syntax trees

A concrete tree is what the grammar makes of a source: nodes with a symbol, the label of the
field they fill in their parent, the range of bytes they cover, and children. Anonymous nodes
are literal tokens. A node can stand for a token that the source lacks (`missing`), and the
symbol `Symbol.error` marks text that the grammar could not place.
-/

namespace SubmissionGrader.Syntax

/-- What a concrete node is: a literal token, a named construct, or text without a place. -/
inductive Symbol where
  | token (text : String)
  | named (kind : Kind)
  | error
  deriving DecidableEq, Repr

namespace Symbol

def name : Symbol → String
  | token text => text
  | named kind => kind.name
  | error => "ERROR"

end Symbol

/-- The role of a node in its parent. Roles that nothing reads are `Field.other`. -/
inductive Field where
  | name | pattern | parameter | left | argument | key | kind | source | property | operator
  | openTag | closeTag
  | other (label : String)
  deriving DecidableEq, Repr

/-- A range of bytes of the source, its end excluded. -/
structure Span where
  start : Nat
  stop : Nat
  deriving DecidableEq, Repr

/-- All of a concrete node but its children. -/
structure Head where
  symbol : Symbol
  missing : Bool
  field : Option Field
  span : Span
  deriving DecidableEq, Repr

inductive Concrete where
  | node (head : Head) (children : List Concrete)
  deriving Repr

namespace Concrete

def head : Concrete → Head
  | node head _ => head

def children : Concrete → List Concrete
  | node _ children => children

def span (t : Concrete) : Span := t.head.span

def field (t : Concrete) : Option Field := t.head.field

def symbol (t : Concrete) : Symbol := t.head.symbol

def kind? (t : Concrete) : Option Kind :=
  match t.symbol with
  | .named kind => some kind
  | _ => none

def is (t : Concrete) (kind : Kind) : Bool := t.kind? == some kind

def isNamed (t : Concrete) : Bool :=
  match t.symbol with
  | .token _ => false
  | _ => true

def child? (t : Concrete) (field : Field) : Option Concrete :=
  t.children.find? fun c => c.field == some field

/-- The same node in another role. -/
def withField (field : Field) : Concrete → Concrete
  | node head children => node { head with field := some field } children

mutual

def count : Concrete → Nat
  | node _ children => countList children + 1

def countList : List Concrete → Nat
  | [] => 0
  | t :: rest => count t + countList rest

end

theorem count_pos (t : Concrete) : 0 < t.count := by
  cases t
  rw [count]
  exact Nat.succ_pos _

theorem is_iff {t : Concrete} {kind : Kind} : t.is kind = true ↔ t.kind? = some kind := by
  simp [is]

theorem isNamed_of_kind? {t : Concrete} {kind : Kind} (h : t.kind? = some kind) :
    t.isNamed = true := by
  rw [kind?] at h
  rw [isNamed]
  split at h
  next hsymbol => rw [hsymbol]
  next => cases h

@[simp] theorem head_node (h : Head) (cs : List Concrete) : (node h cs).head = h := rfl

@[simp] theorem children_node (h : Head) (cs : List Concrete) : (node h cs).children = cs := rfl

@[simp] theorem children_withField (f : Field) (t : Concrete) :
    (t.withField f).children = t.children := by cases t; rfl

@[simp] theorem symbol_withField (f : Field) (t : Concrete) :
    (t.withField f).symbol = t.symbol := by cases t; rfl

@[simp] theorem span_withField (f : Field) (t : Concrete) :
    (t.withField f).span = t.span := by cases t; rfl

def token (text : String) (span : Span) : Concrete :=
  node ⟨.token text, false, none, span⟩ []

def named (kind : Kind) (span : Span) (children : List Concrete) : Concrete :=
  node ⟨.named kind, false, none, span⟩ children

end Concrete

end SubmissionGrader.Syntax
