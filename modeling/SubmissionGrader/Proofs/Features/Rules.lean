import SubmissionGrader.Features.Extraction

/-!
# What a single node shows

The flags and the lists of names of a feature context as two families, each with a
rule for single nodes: `Flag.rule` is the test for raising a flag, and
`NameList.contributed` the names that a node adds. What is left are the imported
modules and the returned element.
-/

namespace SubmissionGrader

open Syntax

namespace Syntax.Node

def isFunction (n : Node) : Bool :=
  match n.kind with
  | .function form _ => form ≠ .method
  | _ => false

def isArrow (n : Node) : Bool :=
  match n.kind with
  | .function form _ => form = .arrow
  | _ => false

def isElement (n : Node) : Bool :=
  match n.kind with
  | .jsxElement _ | .jsxFragment => true
  | _ => false

/-- Attributes whose name begins as that of an event handler. -/
def isHandler (n : Node) : Bool :=
  match n.kind with
  | .jsxAttribute name => "on".toList.isPrefixOf name.toList
  | _ => false

def isCallOf (callee : NodeKind) (n : Node) : Bool :=
  n.kind = .call && n.first?.any (·.kind = callee)

def parameter? (n : Node) : Option Node :=
  match n.kind with
  | .function _ _ => FeatureContext.firstParameter? n
  | _ => none

/-- The first parameter is the first child of the first parameters among the children. -/
theorem parameter?_eq_some_iff {n p : Node} :
    n.parameter? = some p ↔ (∃ form name, n.kind = .function form name) ∧
      ∃ before params after, n.children = before ++ params :: after ∧
        (∀ c ∈ before, c.kind ≠ .params) ∧ params.kind = .params ∧ params.first? = some p := by
  have hfind : FeatureContext.firstParameter? n = some p ↔
      ∃ before params after, n.children = before ++ params :: after ∧
        (∀ c ∈ before, c.kind ≠ .params) ∧ params.kind = .params ∧ params.first? = some p := by
    rw [FeatureContext.firstParameter?, Option.bind_eq_some_iff]
    constructor
    · rintro ⟨params, hparams, hp⟩
      obtain ⟨hkind, before, after, hchildren, hbefore⟩ := List.find?_eq_some_iff_append.1 hparams
      exact ⟨before, params, after, hchildren, by simpa using hbefore, by simpa using hkind, hp⟩
    · rintro ⟨before, params, after, hchildren, hbefore, hkind, hp⟩
      exact ⟨params, List.find?_eq_some_iff_append.2
        ⟨by simpa using hkind, before, after, hchildren, by simpa using hbefore⟩, hp⟩
  rw [← hfind, parameter?]
  cases n.kind <;> simp

end Syntax.Node

namespace FeatureContext

inductive Flag where
  | hasFunctionDeclaration | hasArrowFunction | hasReturnStatement | isJSXElement | hasJSX
  | usesUseState | usesUseEffect | usesUseRef | usesUseCallback | usesUseMemo | usesUseContext
  | usesCreateContext | hasPropsParameter | hasPropsDestructuring | hasConditionalRendering
  | hasMapCall | hasEventHandler

namespace Flag

def value (c : FeatureContext) : Flag → Bool
  | hasFunctionDeclaration => c.hasFunctionDeclaration
  | hasArrowFunction => c.hasArrowFunction
  | hasReturnStatement => c.hasReturnStatement
  | isJSXElement => c.isJSXElement
  | hasJSX => c.hasJSX
  | usesUseState => c.usesUseState
  | usesUseEffect => c.usesUseEffect
  | usesUseRef => c.usesUseRef
  | usesUseCallback => c.usesUseCallback
  | usesUseMemo => c.usesUseMemo
  | usesUseContext => c.usesUseContext
  | usesCreateContext => c.usesCreateContext
  | hasPropsParameter => c.hasPropsParameter
  | hasPropsDestructuring => c.hasPropsDestructuring
  | hasConditionalRendering => c.hasConditionalRendering
  | hasMapCall => c.hasMapCall
  | hasEventHandler => c.hasEventHandler

def rule (n : Node) : Flag → Bool
  | hasFunctionDeclaration => n.isFunction
  | hasArrowFunction => n.isArrow
  | hasReturnStatement => n.kind = .return
  | isJSXElement => n.kind = .return && n.first?.any Node.isElement
  | hasJSX => n.isElement
  | usesUseState => n.isCallOf (.identifier "useState")
  | usesUseEffect => n.isCallOf (.identifier "useEffect")
  | usesUseRef => n.isCallOf (.identifier "useRef")
  | usesUseCallback => n.isCallOf (.identifier "useCallback")
  | usesUseMemo => n.isCallOf (.identifier "useMemo")
  | usesUseContext => n.isCallOf (.identifier "useContext")
  | usesCreateContext => n.isCallOf (.identifier "createContext")
  | hasPropsParameter => n.parameter?.any (·.kind = .identifier "props")
  | hasPropsDestructuring => n.parameter?.any (·.kind = .objectPattern)
  | hasConditionalRendering => n.kind = .conditional || n.kind = .logical "&&"
  | hasMapCall => n.isCallOf (.member (some "map"))
  | hasEventHandler => n.isHandler

end Flag

def patternNames (parameter : Option Node) : List String :=
  match parameter with
  | some p => if p.kind = .objectPattern then patternKeys p.children else []
  | none => []

/-- The lists of a feature context that keep first occurrences. -/
inductive NameList where
  | functionNames | jsxElements | variableNames | propsNames

namespace NameList

def value (c : FeatureContext) : NameList → List String
  | functionNames => c.functionNames
  | jsxElements => c.jsxElements
  | variableNames => c.variableNames
  | propsNames => c.propsNames

def contributed (n : Node) : NameList → List String
  | functionNames =>
    match n.kind with
    | .function .declaration name | .function .expression name => name.toList
    | _ => []
  | jsxElements =>
    match n.kind with
    | .jsxElement name => [name]
    | .jsxFragment => ["Fragment"]
    | _ => []
  | variableNames =>
    match n.kind with
    | .variableDeclarator => (n.first?.bind Node.identifierName?).toList
    | _ => []
  | propsNames => patternNames n.parameter?

end NameList

def importSource? (n : Node) : Option String :=
  match n.kind with
  | .moduleImport source => some source
  | _ => none

/-- The name of an element, if it is a single word. -/
def plainName? (element : Option Node) : Option String :=
  match element.map Node.kind with
  | some (.jsxElement name) => if isPlainName name then some name else none
  | _ => none

def returnedName? (n : Node) : Option String :=
  match n.kind with
  | .return => plainName? n.first?
  | _ => none

end FeatureContext

end SubmissionGrader
