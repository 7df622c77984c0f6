/-!
# Feature contexts

A feature context is a flat description of the shape of one source. Checkers see it as a record
of named attributes: flags, lists of names and optional texts.
-/

namespace SubmissionGrader

/-- The structural features of one source. If `parseError` is set, the source was refused. -/
structure FeatureContext where
  hasFunctionDeclaration : Bool := false
  hasArrowFunction : Bool := false
  functionNames : List String := []
  hasReturnStatement : Bool := false
  isJSXElement : Bool := false
  jsxElementName : Option String := none
  hasJSX : Bool := false
  jsxElements : List String := []
  variableNames : List String := []
  importedModules : List String := []
  usesUseState : Bool := false
  usesUseEffect : Bool := false
  usesUseRef : Bool := false
  usesUseCallback : Bool := false
  usesUseMemo : Bool := false
  usesUseContext : Bool := false
  usesCreateContext : Bool := false
  hasPropsParameter : Bool := false
  hasPropsDestructuring : Bool := false
  propsNames : List String := []
  hasConditionalRendering : Bool := false
  hasMapCall : Bool := false
  hasEventHandler : Bool := false
  parseError : Option String := none
  deriving DecidableEq, Repr, Inhabited

inductive Attribute where
  | flag (value : Bool)
  | list (value : List String)
  | text (value : Option String)
  deriving DecidableEq, Repr

/-- The names of all attributes, in the order of the context. -/
def attributeNames : List String :=
  ["hasFunctionDeclaration", "hasArrowFunction", "functionNames", "hasReturnStatement",
   "isJSXElement", "jsxElementName", "hasJSX", "jsxElements", "variableNames",
   "importedModules", "usesUseState", "usesUseEffect", "usesUseRef", "usesUseCallback",
   "usesUseMemo", "usesUseContext", "usesCreateContext", "hasPropsParameter",
   "hasPropsDestructuring", "propsNames", "hasConditionalRendering", "hasMapCall",
   "hasEventHandler", "parseError"]

def isAttributeName (name : String) : Bool := attributeNames.contains name

namespace FeatureContext

/-- The context of a source that was refused with the given message: all else is at its default. -/
def broken (message : String) : FeatureContext := { parseError := some message }

def isBroken (c : FeatureContext) : Bool := c.parseError.isSome

def attribute? (c : FeatureContext) (name : String) : Option Attribute :=
  match name with
  | "hasFunctionDeclaration" => some (.flag c.hasFunctionDeclaration)
  | "hasArrowFunction" => some (.flag c.hasArrowFunction)
  | "functionNames" => some (.list c.functionNames)
  | "hasReturnStatement" => some (.flag c.hasReturnStatement)
  | "isJSXElement" => some (.flag c.isJSXElement)
  | "jsxElementName" => some (.text c.jsxElementName)
  | "hasJSX" => some (.flag c.hasJSX)
  | "jsxElements" => some (.list c.jsxElements)
  | "variableNames" => some (.list c.variableNames)
  | "importedModules" => some (.list c.importedModules)
  | "usesUseState" => some (.flag c.usesUseState)
  | "usesUseEffect" => some (.flag c.usesUseEffect)
  | "usesUseRef" => some (.flag c.usesUseRef)
  | "usesUseCallback" => some (.flag c.usesUseCallback)
  | "usesUseMemo" => some (.flag c.usesUseMemo)
  | "usesUseContext" => some (.flag c.usesUseContext)
  | "usesCreateContext" => some (.flag c.usesCreateContext)
  | "hasPropsParameter" => some (.flag c.hasPropsParameter)
  | "hasPropsDestructuring" => some (.flag c.hasPropsDestructuring)
  | "propsNames" => some (.list c.propsNames)
  | "hasConditionalRendering" => some (.flag c.hasConditionalRendering)
  | "hasMapCall" => some (.flag c.hasMapCall)
  | "hasEventHandler" => some (.flag c.hasEventHandler)
  | "parseError" => some (.text c.parseError)
  | _ => none

@[simp] theorem isBroken_broken (message : String) : (broken message).isBroken = true := rfl

end FeatureContext

end SubmissionGrader
