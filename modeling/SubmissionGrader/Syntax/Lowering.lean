import SubmissionGrader.Syntax.EarlyError
import SubmissionGrader.Syntax.Tree
import SubmissionGrader.Syntax.TreeCursor

/-!
# From concrete trees to syntax trees

A cursor visits the concrete tree in document order. A stack of frames holds the nodes under
construction and a stack of entries what was entered, so the depth of a source never grows the
recursion. Entering a node checks it for early errors and for the nesting limit.
-/

namespace SubmissionGrader.Syntax

namespace Lowering

variable (source : List Char)

def unquote (literal : String) : String :=
  match literal.toList with
  | [] => literal
  | [_] => literal
  | opening :: rest =>
    if rest.getLast? == some opening && (opening == '\x22' || opening == '\x27' || opening == '\x60')
    then String.ofList rest.dropLast else literal

/-- The name that a key of an object pattern gives; computed keys have none. -/
def keyName? (key : Concrete) : Option String :=
  match key.kind? with
  | some .propertyIdentifier | some .number => some (key.text source)
  | some .string => some (unquote (key.text source))
  | _ => none

def fieldText? (t : Concrete) (field : Field) : Option String :=
  (t.child? field).map fun c => c.text source

def isGroup (t : Concrete) : Bool :=
  t.is .parenthesizedExpression || t.is .requiredParameter || t.is .optionalParameter

def kindOf (t : Concrete) : NodeKind :=
  match t.kind? with
  | some .identifier => .identifier (t.text source)
  | some .variableDeclaration => .variableDeclaration "var"
  | some .lexicalDeclaration =>
    .variableDeclaration (((t.child? .kind).map fun c => c.symbol.name).getD "let")
  | some .variableDeclarator => .variableDeclarator
  | some .functionDeclaration | some .generatorFunctionDeclaration =>
    .function .declaration (fieldText? source t .name)
  | some .functionExpression | some .function | some .generatorFunction =>
    .function .expression (fieldText? source t .name)
  | some .arrowFunction => .function .arrow none
  | some .methodDefinition => .function .method (fieldText? source t .name)
  | some .formalParameters => .params
  | some .returnStatement => .return
  | some .importStatement => .moduleImport (((fieldText? source t .source).map unquote).getD "")
  | some .objectPattern => .objectPattern
  | some .shorthandPropertyIdentifierPattern => .patternProperty (some (t.text source))
  | some .pairPattern => .patternProperty ((t.child? .key).bind (keyName? source))
  | some .objectAssignmentPattern =>
    .patternProperty (((t.child? .left).filter
      (·.is .shorthandPropertyIdentifierPattern)).map fun c => c.text source)
  | some .restPattern => .restElement
  | some .callExpression => .call
  | some .memberExpression =>
    .member (((t.child? .property).filter fun p =>
      p.is .propertyIdentifier || p.is .privatePropertyIdentifier).map fun c => c.text source)
  | some .ternaryExpression => .conditional
  | some .binaryExpression =>
    let operator := ((t.child? .operator).map fun c => c.symbol.name).getD ""
    if operator == "&&" || operator == "||" || operator == "??" then .logical operator
    else .binary operator
  | some .jsxElement =>
    match (t.child? .openTag).bind (Concrete.child? · .name) with
    | some name => .jsxElement (tagName (name.text source))
    | none => .jsxFragment
  | some .jsxSelfClosingElement =>
    .jsxElement (((fieldText? source t .name).map tagName).getD "")
  | some .jsxAttribute =>
    .jsxAttribute (((t.children.find? Concrete.isNamed).map
      fun c => tagName (c.text source)).getD "")
  | _ => .other t.symbol.name

/-- Nodes that are left out, with all below them. -/
def isSkipped (t : Concrete) : Bool := (t.kind?.map Kind.isSkipped).getD false

def isFunction (t : Concrete) : Bool := (t.kind?.map Kind.isFunction).getD false

def isCounted (t : Concrete) : Bool := !(t.kind?.map Kind.isChain).getD false

def depthError (limit : Nat) (t : Concrete) : SyntaxError :=
  let place := Position.ofOffset source t.span.start
  ⟨.tooDeep limit, place.row + 1, place.column + 1⟩

/-- A node under construction, its children in reverse; without a kind, its children join those
of its parent. -/
structure Frame where
  kind : Option NodeKind
  children : List Node

/-- What closing a node that was entered has to undo. -/
structure Entry where
  isArrow : Bool
  frames : Nat
  isFunction : Bool
  isCounted : Bool

structure Assembly where
  frames : List Frame
  entries : List Entry
  depth : Nat
  functions : Nat

namespace Assembly

def start : Assembly := ⟨[⟨some .program, []⟩], [], 0, 0⟩

/-- Adds the innermost frame to the one around it. The outermost frame stays. -/
def closeFrame (s : Assembly) : Assembly :=
  match s.frames with
  | inner :: outer :: rest =>
    let children := match inner.kind with
      | some kind => .node kind inner.children.reverse :: outer.children
      | none => inner.children ++ outer.children
    { s with frames := { outer with children := children } :: rest }
  | _ => s

def closeFrames (s : Assembly) : Nat → Assembly
  | 0 => s
  | n + 1 => closeFrames s.closeFrame n

/-- Opens the frames of a node and makes its entry. The bare parameter of an arrow function gets a
frame of parameters around its own, as one in parentheses has. -/
def push (s : Assembly) (t : Concrete) : Assembly :=
  let isBare := (s.entries.head?.map Entry.isArrow).getD false && t.field == some .parameter
  let frame : Frame := ⟨if isGroup t then none else some (kindOf source t), []⟩
  { frames := if isBare then frame :: ⟨some .params, []⟩ :: s.frames else frame :: s.frames
    entries := ⟨t.is .arrowFunction, if isBare then 2 else 1, isFunction t, isCounted t⟩ :: s.entries
    depth := if isCounted t then s.depth + 1 else s.depth
    functions := if isFunction t then s.functions + 1 else s.functions }

/-- Enters a node; `none` if the node and all below it are left out. -/
def enter (limit : Nat) (s : Assembly) (t : Concrete) : Except SyntaxError (Option Assembly) :=
  if !t.isNamed || isSkipped t then .ok none
  else
    match earlyError? source s.functions t with
    | some error => .error error
    | none =>
      if isCounted t && s.depth + 1 > limit then .error (depthError source limit t)
      else .ok (some (s.push source t))

def leave (s : Assembly) : Assembly :=
  match s.entries with
  | [] => s
  | entry :: rest =>
    closeFrames
      { s with
        entries := rest
        depth := if entry.isCounted then s.depth - 1 else s.depth
        functions := if entry.isFunction then s.functions - 1 else s.functions }
      entry.frames

def finish (s : Assembly) : Node :=
  match (closeFrames s (s.frames.length - 1)).frames with
  | frame :: _ => .node .program frame.children.reverse
  | [] => .node .program []

mutual

/-- Enters the node at the cursor and goes on with its children, in at most as many steps as
given. The level is the number of nodes above the cursor. -/
def visit (limit : Nat) : Nat → Assembly → TreeCursor → Nat → Except SyntaxError Assembly
  | 0, s, _, _ => .ok s
  | n + 1, s, c, level =>
    match enter source limit s c.node with
    | .error error => .error error
    | .ok none => climb limit n s c level
    | .ok (some inner) =>
      match c.firstChild? with
      | some child => visit limit n inner child (level + 1)
      | none => climb limit n inner.leave c level

/-- Goes on with the next sibling, or leaves the parent and goes on behind it. The root was not
entered and is not left. -/
def climb (limit : Nat) : Nat → Assembly → TreeCursor → Nat → Except SyntaxError Assembly
  | 0, s, _, _ => .ok s
  | n + 1, s, c, level =>
    match c.nextSibling? with
    | some sibling => visit limit n s sibling level
    | none =>
      match c.parent? with
      | none => .ok s
      | some parent =>
        if level - 1 = 0 then .ok s else climb limit n s.leave parent (level - 1)

end

end Assembly

end Lowering

/-- The syntax tree of the nodes below the root of a concrete tree, or the first error in document
order. -/
def lower (source : List Char) (limit : Nat) (root : Concrete) : Except SyntaxError Node :=
  match (TreeCursor.start root).firstChild? with
  | none => .ok Lowering.Assembly.start.finish
  | some child =>
    (Lowering.Assembly.visit source limit (2 * root.count) .start child 1).map
      Lowering.Assembly.finish

end SubmissionGrader.Syntax
