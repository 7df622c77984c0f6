import SubmissionGrader.Syntax.FirstError
import SubmissionGrader.Syntax.Lowering
import SubmissionGrader.Syntax.Recovery

/-!
# Parsing

A source is accepted or refused as a whole: a concrete tree with any error in it is refused with
its first error, and every other one is lowered within the nesting limit. How a source is read as a
concrete tree is left open (`Language`); by default the grammar reads it.
-/

namespace SubmissionGrader.Syntax

def defaultMaxDepth : Nat := 256

/-- The syntax tree of a source whose concrete tree is given, or why it is refused. -/
def parseConcrete (source : List Char) (limit : Nat) (tree : Concrete) :
    Except SyntaxError Node :=
  if tree.hasError then
    .error <| match tree.firstError? with
      | some fault => describeError source fault
      | none => ⟨.unexpected, 1, 1⟩
  else lower source limit tree

/-- A language, by how its sources are read as concrete trees. It is inferred, so that what is done
with the trees needs no parameter for it. -/
class Language where
  concrete : List Char → Concrete

instance : Language := ⟨Concrete.ofSource⟩

variable [Language]

def parseWithDepth (source : String) (limit : Nat) : Except SyntaxError Node :=
  parseConcrete source.toList limit (Language.concrete source.toList)

def parse (source : String) : Except SyntaxError Node := parseWithDepth source defaultMaxDepth

end SubmissionGrader.Syntax
