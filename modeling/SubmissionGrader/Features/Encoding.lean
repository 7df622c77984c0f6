import SubmissionGrader.Features.Context
import SubmissionGrader.Json.Basic
import SubmissionGrader.Json.Record

/-!
# Feature contexts in JSON

A context is an object with a member for each attribute, under the names that checkers use. The
message of a refused source is there only if there is one. A missing member has its default.
-/

namespace SubmissionGrader.FeatureContext

def encodeText (value : Option String) : Json := value.elim .null .string

def toJson (c : FeatureContext) : Json :=
  .object <|
    [("hasFunctionDeclaration", .boolean c.hasFunctionDeclaration),
     ("hasArrowFunction", .boolean c.hasArrowFunction),
     ("functionNames", .strings c.functionNames),
     ("hasReturnStatement", .boolean c.hasReturnStatement),
     ("isJSXElement", .boolean c.isJSXElement),
     ("jsxElementName", encodeText c.jsxElementName),
     ("hasJSX", .boolean c.hasJSX),
     ("jsxElements", .strings c.jsxElements),
     ("variableNames", .strings c.variableNames),
     ("importedModules", .strings c.importedModules),
     ("usesUseState", .boolean c.usesUseState),
     ("usesUseEffect", .boolean c.usesUseEffect),
     ("usesUseRef", .boolean c.usesUseRef),
     ("usesUseCallback", .boolean c.usesUseCallback),
     ("usesUseMemo", .boolean c.usesUseMemo),
     ("usesUseContext", .boolean c.usesUseContext),
     ("usesCreateContext", .boolean c.usesCreateContext),
     ("hasPropsParameter", .boolean c.hasPropsParameter),
     ("hasPropsDestructuring", .boolean c.hasPropsDestructuring),
     ("propsNames", .strings c.propsNames),
     ("hasConditionalRendering", .boolean c.hasConditionalRendering),
     ("hasMapCall", .boolean c.hasMapCall),
     ("hasEventHandler", .boolean c.hasEventHandler)] ++
    Json.optional "parseError" .string c.parseError

open Json (Fields Raw)

def flagField : Fields Bool := .withDefault false Raw.boolean?

def listField : Fields (List String) := .withDefault [] (Raw.listOf? Raw.text?)

def textField : Fields (Option String) := .optional Raw.text?

def fields : Fields FeatureContext := do
  return {
    hasFunctionDeclaration := ← flagField
    hasArrowFunction := ← flagField
    functionNames := ← listField
    hasReturnStatement := ← flagField
    isJSXElement := ← flagField
    jsxElementName := ← textField
    hasJSX := ← flagField
    jsxElements := ← listField
    variableNames := ← listField
    importedModules := ← listField
    usesUseState := ← flagField
    usesUseEffect := ← flagField
    usesUseRef := ← flagField
    usesUseCallback := ← flagField
    usesUseMemo := ← flagField
    usesUseContext := ← flagField
    usesCreateContext := ← flagField
    hasPropsParameter := ← flagField
    hasPropsDestructuring := ← flagField
    propsNames := ← listField
    hasConditionalRendering := ← flagField
    hasMapCall := ← flagField
    hasEventHandler := ← flagField
    parseError := ← textField }

def ofRaw? (raw : Raw) : Option FeatureContext :=
  Fields.run? .refused (attributeNames.map fun name => [name]) fields raw

def ofText? (text : String) : Option FeatureContext := do ofRaw? (← Raw.read? text)

end SubmissionGrader.FeatureContext
