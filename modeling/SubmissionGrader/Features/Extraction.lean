import SubmissionGrader.Features.Context
import SubmissionGrader.Syntax.Parse

/-!
# Extracting features

One walk over a syntax tree, parents before children, fills in the feature context. Lists of names
keep their first occurrences, imported modules keep all, and the last returned element counts.
-/

namespace SubmissionGrader

open Syntax

/-- The list with a value at its end, unless it has the value already. -/
def pushUnique (names : List String) (name : String) : List String :=
  if names.contains name then names else names ++ [name]

@[simp] theorem mem_pushUnique {names : List String} {name other : String} :
    other ∈ pushUnique names name ↔ other ∈ names ∨ other = name := by
  rw [pushUnique]
  split
  next h =>
    rw [List.contains_iff_mem] at h
    exact ⟨Or.inl, fun h' => h'.elim id fun e => e ▸ h⟩
  next => simp

theorem nodup_pushUnique {names : List String} (h : names.Nodup) (name : String) :
    (pushUnique names name).Nodup := by
  rw [pushUnique]
  split
  next => exact h
  next hn =>
    rw [List.contains_iff_mem] at hn
    exact List.nodup_append.2 ⟨h, by simp, by
      intro a ha b hb hab
      simp only [List.mem_singleton] at hb
      exact hn (hb ▸ hab ▸ ha)⟩

namespace FeatureContext

/-- The keys that an object pattern names, in order. -/
def patternKeys (properties : List Node) : List String :=
  properties.filterMap fun p =>
    match p.kind with
    | .patternProperty key => key
    | _ => none

def firstParameter? (function : Node) : Option Node :=
  (function.children.find? fun c => c.kind == .params).bind Node.first?

def seeFirstParameter (c : FeatureContext) (function : Node) : FeatureContext :=
  match firstParameter? function with
  | none => c
  | some parameter =>
    match parameter.kind with
    | .identifier name => if name == "props" then { c with hasPropsParameter := true } else c
    | .objectPattern =>
      { c with
        hasPropsDestructuring := true
        propsNames := (patternKeys parameter.children).foldl pushUnique c.propsNames }
    | _ => c

/-- Adds what the form and name of a function show. Methods are no functions of their own. -/
def seeFunction (c : FeatureContext) (form : FunctionForm) (name : Option String) :
    FeatureContext :=
  match form with
  | .declaration | .expression =>
    { c with
      hasFunctionDeclaration := true
      functionNames := name.elim c.functionNames (pushUnique c.functionNames) }
  | .arrow => { c with hasFunctionDeclaration := true, hasArrowFunction := true }
  | .method => c

/-- Whether the name of an element is a single word: no member and no namespace. -/
def isPlainName (name : String) : Bool := !(name.toList.contains '.' || name.toList.contains ':')

def seeReturn (c : FeatureContext) (value : Option Node) : FeatureContext :=
  let c := { c with hasReturnStatement := true }
  match value.map Node.kind with
  | some (.jsxElement name) =>
    let c := { c with isJSXElement := true }
    if isPlainName name then { c with jsxElementName := some name } else c
  | some .jsxFragment => { c with isJSXElement := true }
  | _ => c

def seeCall (c : FeatureContext) (callee : Option Node) : FeatureContext :=
  match callee.map Node.kind with
  | some (.identifier name) =>
    match name with
    | "useState" => { c with usesUseState := true }
    | "useEffect" => { c with usesUseEffect := true }
    | "useRef" => { c with usesUseRef := true }
    | "useCallback" => { c with usesUseCallback := true }
    | "useMemo" => { c with usesUseMemo := true }
    | "useContext" => { c with usesUseContext := true }
    | "createContext" => { c with usesCreateContext := true }
    | _ => c
  | some (.member (some property)) =>
    if property == "map" then { c with hasMapCall := true } else c
  | _ => c

def see (c : FeatureContext) (n : Node) : FeatureContext :=
  match n.kind with
  | .function form name => (c.seeFunction form name).seeFirstParameter n
  | .return => c.seeReturn n.first?
  | .jsxElement name => { c with hasJSX := true, jsxElements := pushUnique c.jsxElements name }
  | .jsxFragment => { c with hasJSX := true, jsxElements := pushUnique c.jsxElements "Fragment" }
  | .jsxAttribute name =>
    if "on".toList.isPrefixOf name.toList then { c with hasEventHandler := true } else c
  | .variableDeclarator =>
    match n.first?.bind Node.identifierName? with
    | some name => { c with variableNames := pushUnique c.variableNames name }
    | none => c
  | .call => c.seeCall n.first?
  | .conditional => { c with hasConditionalRendering := true }
  | .logical operator =>
    if operator == "&&" then { c with hasConditionalRendering := true } else c
  | .moduleImport source => { c with importedModules := c.importedModules ++ [source] }
  | _ => c

def ofTree (tree : Node) : FeatureContext := tree.walk see {}

def ofResult : Except SyntaxError Node → FeatureContext
  | .ok tree => ofTree tree
  | .error error => broken error.text

variable [Language]

def analyzeWithDepth (source : String) (limit : Nat) : FeatureContext :=
  ofResult (parseWithDepth source limit)

def analyze (source : String) : FeatureContext := analyzeWithDepth source defaultMaxDepth

end FeatureContext

end SubmissionGrader
