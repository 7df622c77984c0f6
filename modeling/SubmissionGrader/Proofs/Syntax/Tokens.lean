import SubmissionGrader.Proofs.Syntax.Lowering
import SubmissionGrader.Proofs.Syntax.Slices

/-!
# Tokens of a concrete tree

A concrete tree covers its source with tokens and gaps between them. String and template literals
count as single tokens, and comments belong to the gaps. If every range lies within the source
(`Concrete.isLaidOut`), the texts of gaps and tokens in turn are what follows any of their ends.
-/

namespace SubmissionGrader.Syntax

/-! ## Ranges of a source -/

/-- Whether a range lies within the source, with its ends between characters. -/
def Span.isWithin (source : List Char) (s : Span) : Bool :=
  decide (s.start ≤ s.stop) &&
    ((suffixFrom source s.start).bind (prefixOf · (s.stop - s.start))).isSome

/-- What follows the start of a range is its text and what follows its end. -/
theorem Span.suffixFrom_start {source rest : List Char} {s : Span} (h : s.isWithin source = true)
    (hstart : suffixFrom source s.start = some rest) :
    ∃ behind, rest = (s.text source).toList ++ behind ∧
      suffixFrom source s.stop = some behind := by
  rw [isWithin, hstart, Bool.and_eq_true, decide_eq_true_eq, Option.bind_some] at h
  obtain ⟨hle, hsome⟩ := h
  obtain ⟨text, htext⟩ := Option.isSome_iff_exists.1 hsome
  obtain ⟨behind, hrest, hbehind⟩ := exists_append_of_prefixOf htext
  have hstop := suffixFrom_add hstart (s.stop - s.start)
  rw [Nat.add_sub_cancel' hle, hbehind] at hstop
  refine ⟨behind, ?_, hstop⟩
  have heq : (s.text source).toList = text := by
    rw [Span.text, hstart]
    simp [htext]
  rw [heq, hrest]

namespace Concrete

/-- The literals that may hold any text. -/
def isLiteral (t : Concrete) : Bool :=
  t.is .string || t.is (.other "template_string") || t.is (.other "template_literal_type")

/-- A token: a literal, an anonymous node or a leaf. -/
def isToken (t : Concrete) : Bool := t.isLiteral || !t.isNamed || t.children.isEmpty

mutual

/-- The tokens of a tree from left to right. Comments are none. -/
def tokens : Concrete → List Concrete
  | node head children =>
    if Lowering.isSkipped (node head children) then []
    else if isToken (node head children) then [node head children]
    else tokensOf children

def tokensOf : List Concrete → List Concrete
  | [] => []
  | t :: rest => tokens t ++ tokensOf rest

end

/-- The gaps from an offset up to the end of the source, around the given tokens. -/
def gapsFrom (stop : Nat) : Nat → List Concrete → List Span
  | offset, [] => [⟨offset, stop⟩]
  | offset, t :: rest => ⟨offset, t.span.start⟩ :: gapsFrom stop t.span.stop rest

def gaps (source : List Char) (root : Concrete) : List Span :=
  gapsFrom (Text.byteCount source) 0 (tokensOf root.children)

/-- Whether the tokens below the root follow one another within the source. -/
def isLaidOut (source : List Char) (root : Concrete) : Bool :=
  (tokensOf root.children).all (·.span.isWithin source) &&
    (root.gaps source).all (·.isWithin source)

theorem tokensOf_eq_flatMap (ts : List Concrete) : tokensOf ts = ts.flatMap tokens := by
  induction ts with
  | nil => rfl
  | cons t rest ih => rw [tokensOf, ih, List.flatMap_cons]

theorem tokens_eq (t : Concrete) :
    t.tokens = if Lowering.isSkipped t then [] else if t.isToken then [t]
      else t.children.flatMap tokens := by
  cases t with
  | node head children => rw [tokens, children_node, tokensOf_eq_flatMap]

theorem tokens_of_not_isNamed {t : Concrete} (h : t.isNamed = false) : t.tokens = [t] := by
  have hkind : t.kind? = none := by
    rw [Option.eq_none_iff_forall_ne_some]
    intro kind hkind
    rw [isNamed_of_kind? hkind] at h
    cases h
  rw [tokens_eq, Lowering.isSkipped, hkind, isToken, h]
  simp

end Concrete

end SubmissionGrader.Syntax
