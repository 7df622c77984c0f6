import SubmissionGrader.Proofs.Features.Extraction
import SubmissionGrader.Proofs.Feedback.Brackets
import SubmissionGrader.Proofs.Json.Sorting
import SubmissionGrader.Proofs.Service.Attributes
import SubmissionGrader.Proofs.Syntax.Nesting
import SubmissionGrader.Proofs.Text.Wording
import SubmissionGrader.Report.Basic

/-!
# Reports that do not contradict themselves

A report on a source tells twice whether the source is refused: by the message in its features, and
among the errors of its validation. The one is found under the configured nesting limit and the
other under the default limit, so they agree iff both limits are the same or both are at least the
threshold of the source (`Report.analysis_isConsistent_iff`).
-/

namespace SubmissionGrader

open Syntax (SyntaxError Concrete IsThreshold defaultMaxDepth isTooDeep parseConcrete)

/-! ## The words of refusals -/

namespace Syntax

theorem Fault.message_append_ne {fault : Fault} (h : ∀ limit, fault ≠ .tooDeep limit)
    (x y : String) : fault.message ++ x ≠ "Maximum nesting depth of " ++ y := by
  cases fault with
  | tooDeep limit => exact absurd rfl (h limit)
  | expected _ | unexpectedToken _ | reservedWord _ | unclosedElement _ =>
    unfold message
    rw [String.append_assoc, String.append_assoc]
    exact Text.append_ne_append_of_front (by decide +kernel) (by decide +kernel) _ _
  | _ => exact Text.append_ne_append_of_front (by decide +kernel) (by decide +kernel) _ _

theorem Fault.message_tooDeep (limit : Nat) :
    (tooDeep limit).message = "Maximum nesting depth of " ++ toString limit ++ " exceeded" := rfl

/-- The text of a refusal for nesting tells the limit. -/
theorem SyntaxError.fault_eq_of_text_eq {a b : SyntaxError} {limit : Nat}
    (ha : a.fault = .tooDeep limit) (h : a.text = b.text) : b.fault = .tooDeep limit := by
  have hdeep : ∀ e : SyntaxError, ∀ n, e.fault = .tooDeep n → ∃ rest,
      e.text = "Maximum nesting depth of " ++ (toString n ++ (" exceeded" ++ rest)) := by
    intro e n he
    refine ⟨" (" ++ toString e.line ++ ":" ++ toString e.column ++ ")", ?_⟩
    simp only [text, SyntaxError.message, he, Fault.message_tooDeep, String.append_assoc]
  obtain ⟨rest, hrest⟩ := hdeep a limit ha
  by_cases hb : ∃ n, b.fault = .tooDeep n
  · obtain ⟨n, hn⟩ := hb
    obtain ⟨rest', hrest'⟩ := hdeep b n hn
    rw [hrest, hrest', String.append_right_inj] at h
    have hstop : ∀ rest : String, ∀ c ∈ (" exceeded" ++ rest).toList.head?, c.isDigit = false := by
      intro rest c hc
      obtain rfl : ' ' = c := by simpa [String.toList_append] using hc
      rfl
    rw [hn, Text.eq_of_toString_append_eq (hstop rest) (hstop rest') h]
  · rw [hrest] at h
    simp only [text, SyntaxError.message, String.append_assoc] at h
    exact absurd h.symm (Fault.message_append_ne (fun n hn => hb ⟨n, hn⟩) _ _)

def refusal? : Except SyntaxError Node → Option String
  | .ok _ => none
  | .error e => some e.text

/-- Under a limit below its threshold a source is refused with another message than under any other
limit. -/
theorem IsThreshold.refusal?_ne {result : Nat → Except SyntaxError Node} {threshold : Nat}
    (h : IsThreshold result threshold) {a b : Nat} (ha : a < threshold) (hab : b ≠ a) :
    refusal? (result a) ≠ refusal? (result b) := by
  obtain ⟨error, hfault, herror⟩ := h.below a ha
  rw [herror]
  cases hb : result b with
  | ok tree => exact Option.some_ne_none _
  | error other =>
    intro heq
    have hother := SyntaxError.fault_eq_of_text_eq hfault (Option.some.inj heq)
    rcases Nat.lt_or_ge b threshold with hbelow | habove
    · obtain ⟨same, hsame, hresult⟩ := h.below b hbelow
      cases hb.symm.trans hresult
      cases hsame.symm.trans hother
      exact hab rfl
    · have hkept := (h.above b habove).1
      rw [hb, isTooDeep, SyntaxError.isTooDeep, hother] at hkept
      cases hkept

/-- Two limits lead to the same message if they are the same or neither is below the threshold. -/
theorem IsThreshold.refusal?_eq_iff {result : Nat → Except SyntaxError Node} {threshold : Nat}
    (h : IsThreshold result threshold) {a b : Nat} :
    refusal? (result a) = refusal? (result b) ↔ a = b ∨ threshold ≤ a ∧ threshold ≤ b := by
  constructor
  · intro heq
    by_cases hab : a = b
    · exact .inl hab
    · refine .inr ⟨Nat.le_of_not_lt fun ha => ?_, Nat.le_of_not_lt fun hb => ?_⟩
      · exact h.refusal?_ne ha (Ne.symm hab) heq
      · exact h.refusal?_ne hb hab heq.symm
  · rintro (rfl | ⟨ha, hb⟩)
    · rfl
    · rw [(h.above a ha).2, (h.above b hb).2]

end Syntax

/-! ## What a report tells -/

namespace FeatureContext

theorem parseError_ofResult (result : Except SyntaxError Syntax.Node) :
    (ofResult result).parseError = Syntax.refusal? result := by
  cases result with
  | ok tree =>
    rw [ofResult, ofTree, Syntax.Node.walk_eq_foldl, parseError_foldl_see]
    rfl
  | error e => rfl

end FeatureContext

namespace Feedback

theorem CodeError.message_eq_syntaxError_iff {e : CodeError} {message : String} :
    e.message = "Syntax error: " ++ message ↔
      ∃ error, e = .malformed error ∧ error.text = message := by
  cases e with
  | blank => simpa [CodeError.message] using
      (Text.append_ne_of_front (a := "Syntax error: ") (by decide +kernel) message).symm
  | brackets fault =>
    have hne : fault.message ≠ "Syntax error: " ++ message := by
      cases fault with
      | mismatched c =>
        rw [BracketFault.message_mismatched, String.append_assoc]
        exact Text.append_ne_append_of_front (by decide +kernel) (by decide +kernel) _ _
      | unclosed c =>
        rw [BracketFault.message_unclosed, String.append_assoc]
        exact Text.append_ne_append_of_front (by decide +kernel) (by decide +kernel) _ _
    simpa [CodeError.message] using hne
  | malformed error =>
    rw [CodeError.message, String.append_right_inj]
    simp

/-- The validation lists the message of a refused source, behind fixed words. -/
theorem mem_errors_validationOf_iff {source message : String}
    {result : Except SyntaxError Syntax.Node} :
    "Syntax error: " ++ message ∈ (validationOf source result).errors.map CodeError.message ↔
      Syntax.refusal? result = some message := by
  rw [List.mem_map]
  simp only [CodeError.message_eq_syntaxError_iff]
  cases result with
  | ok tree => simp [validationOf, Syntax.refusal?]
  | error e => simp [validationOf, Syntax.refusal?]

end Feedback

namespace Json

def text? : Json → Option String
  | string value => some value
  | _ => none

def texts : Json → List String
  | array items => items.filterMap text?
  | _ => []

theorem texts_strings (items : List String) : (strings items).texts = items := by
  have hitem : text? ∘ string = some := rfl
  rw [strings, texts, List.filterMap_map, hitem, List.filterMap_some]

end Json

/-- The message of a context is a member of its object, also if that is sorted. -/
theorem FeatureContext.text?_parseError_toJson (c : FeatureContext) :
    (c.toJson.sorted.member? "parseError").bind Json.text? = c.parseError := by
  have hkeys : ((namedMembers attributeNames c.written?).map Prod.fst).Nodup := by
    rw [map_fst_namedMembers]
    exact attributeNames_nodup.filter _
  have hmember : c.toJson.sorted.member? "parseError" =
      (c.written? "parseError").map Json.sorted := by
    rw [← c.member?_toJson, toJson_eq_namedMembers, Json.member?_sorted hkeys]
  have hvalue : c.attribute? "parseError" = some (.text c.parseError) := rfl
  rw [hmember, written?, hvalue, Option.bind_some]
  cases c.parseError with
  | none => rfl
  | some message =>
    simp [Attribute.toJson, encodeText, Json.sorted, Json.text?]

/-- The errors of a validation are a member of its object, also if that is sorted. -/
theorem Feedback.texts_errors_toJson (v : Validation) :
    ((v.toJson.sorted.member? "errors").map Json.texts).getD [] =
      v.errors.map CodeError.message := by
  have hmember : v.toJson.sorted.member? "errors" =
      some (Json.strings (v.errors.map CodeError.message)).sorted := by
    rw [Validation.toJson, Json.member?_sorted (by simp)]
    rfl
  rw [hmember, Json.sorted_strings, Option.map_some, Option.getD_some, Json.texts_strings]

namespace Report

def parseError? (report : Json) : Option String :=
  ((report.member? "context").bind (Json.member? "parseError")).bind Json.text?

def errors (report : Json) : List String :=
  (((report.member? "validation").bind (Json.member? "errors")).map Json.texts).getD []

/-- The features of a report have a message iff its validation has a syntax error with it. -/
def IsConsistent (report : Json) : Prop :=
  ∀ message, parseError? report = some message ↔ "Syntax error: " ++ message ∈ errors report

section Analysis

variable (config : GraderConfig) (source : String) (grammar : Concrete)

theorem parseError?_analysisOf : parseError? (analysisOf config source grammar) =
    Syntax.refusal? (parseConcrete source.toList config.maxNestingDepth grammar) := by
  rw [parseError?, analysisOf, Json.member?_sorted (by simp), ← FeatureContext.parseError_ofResult]
  exact FeatureContext.text?_parseError_toJson _

theorem errors_analysisOf : errors (analysisOf config source grammar) =
    (Feedback.validationOf source
      (parseConcrete source.toList defaultMaxDepth grammar)).errors.map
        Feedback.CodeError.message := by
  rw [errors, analysisOf, Json.member?_sorted (by simp)]
  exact Feedback.texts_errors_toJson _

theorem isConsistent_analysisOf_iff : IsConsistent (analysisOf config source grammar) ↔
    Syntax.refusal? (parseConcrete source.toList config.maxNestingDepth grammar) =
      Syntax.refusal? (parseConcrete source.toList defaultMaxDepth grammar) := by
  simp only [IsConsistent, parseError?_analysisOf, errors_analysisOf,
    Feedback.mem_errors_validationOf_iff]
  exact (Option.ext_iff).symm

end Analysis

/-- Every source has one threshold for its nesting, and the report on it contradicts itself unless
the configured limit is the default one or neither limit is below the threshold. -/
theorem analysis_isConsistent_iff (source : String) (grammar : Concrete) :
    ∃! threshold,
      IsThreshold (fun limit => parseConcrete source.toList limit grammar) threshold ∧
      ∀ config, IsConsistent (analysisOf config source grammar) ↔
        config.maxNestingDepth = defaultMaxDepth ∨
          threshold ≤ config.maxNestingDepth ∧ threshold ≤ defaultMaxDepth := by
  obtain ⟨threshold, h⟩ := Syntax.exists_isThreshold_parseConcrete source.toList grammar
  refine ⟨threshold, ⟨h, fun config => ?_⟩, fun other hother => h.unique hother.1⟩
  rw [isConsistent_analysisOf_iff]
  exact h.refusal?_eq_iff

/-- Four groups under a limit of four levels: the features say that the source is refused, and the
validation has no error. -/
theorem analysis_contradicts_itself :
    let report := analysis { maxNestingDepth := 4 } "((((1))))"
    parseError? report = some "Maximum nesting depth of 4 exceeded (1:4)" ∧ errors report = [] ∧
      ¬IsConsistent report := by
  intro report
  have hfeatures : parseError? report = some "Maximum nesting depth of 4 exceeded (1:4)" := by
    refine (parseError?_analysisOf _ _ _).trans ?_
    decide +kernel
  have hvalidation : errors report = [] := by
    refine (errors_analysisOf _ _ _).trans ?_
    decide +kernel
  refine ⟨hfeatures, hvalidation, fun h => ?_⟩
  have hmem := (h _).1 hfeatures
  rw [hvalidation] at hmem
  cases hmem

end Report

end SubmissionGrader
