import SubmissionGrader.Checker
import SubmissionGrader.Proofs.Outcome
import SubmissionGrader.Proofs.Text.Wording

/-!
# Names and errors of evaluation

The names that the stack lists are those in the expression, by recursion on it
(`Expression.namesOn_cons`). A name stands for an attribute in every context or in none. So
evaluation ends in one of two ways only when it has no value: an operation does not go with the type
of a value, or the text of the checker holds a name that no attribute has. An error never reads like
one of a text that does not compile.
-/

namespace SubmissionGrader

/-- The names of attributes are the same in every context. -/
theorem FeatureContext.isSome_attribute? (c : FeatureContext) (name : String) :
    (c.attribute? name).isSome = isAttributeName name := by
  unfold attribute?
  split
  case h_25 =>
    symm
    simp_all [isAttributeName, attributeNames]
  all_goals rfl

namespace Checker

def Expression.names : Expression → List String
  | name value => [value]
  | not operand => operand.names
  | length target => target.names
  | and left right => left.names ++ right.names
  | or left right => left.names ++ right.names
  | compare _ left right => left.names ++ right.names
  | index target position => target.names ++ position.names
  | includes target needle => target.names ++ needle.names
  | number _ | text _ | boolean _ | null | undefined => []

/-- All names of the expression on top come before those of the rest of the stack. -/
theorem Expression.namesOn_cons (e : Expression) (stack : List Expression) :
    namesOn (e :: stack) = e.names ++ namesOn stack := by
  induction e generalizing stack with
  | name value => rw [namesOn, names, List.singleton_append]
  | not operand ih => rw [namesOn, ih, names]
  | length target ih => rw [namesOn, ih, names]
  | and left right ihl ihr => rw [namesOn, ihl, ihr, names, List.append_assoc]
  | or left right ihl ihr => rw [namesOn, ihl, ihr, names, List.append_assoc]
  | compare comparison left right ihl ihr => rw [namesOn, ihl, ihr, names, List.append_assoc]
  | index target position iht ihp => rw [namesOn, iht, ihp, names, List.append_assoc]
  | includes target needle iht ihn => rw [namesOn, iht, ihn, names, List.append_assoc]
  | _ => rw [namesOn, names, List.nil_append]

theorem names_eq (c : Checker) : c.names = c.expression.names := by
  rw [names, Expression.namesOn_cons, Expression.namesOn, List.append_nil]

/-- The errors of evaluating an expression in which some names occur. -/
inductive EvaluationFault (names : List String) : CheckerError → Prop
  | misuse (cause : Misuse) : EvaluationFault names (.misuse cause)
  | undefinedName {name : String} (hmem : name ∈ names) (hname : isAttributeName name = false) :
      EvaluationFault names (.undefinedName name)

theorem EvaluationFault.mono {names more : List String} (hsub : names ⊆ more)
    {error : CheckerError} (h : EvaluationFault names error) : EvaluationFault more error := by
  cases h with
  | misuse cause => exact .misuse cause
  | undefinedName hmem hname => exact .undefinedName (hsub hmem) hname

theorem lookUp_fault {context : FeatureContext} {name : String} {error : CheckerError}
    (h : lookUp context name = .error error) : EvaluationFault [name] error := by
  rw [lookUp] at h
  cases hname : context.attribute? name with
  | some a => simp [hname] at h
  | none =>
    obtain rfl : CheckerError.undefinedName name = error := by simpa [hname] using h
    refine .undefinedName (List.mem_singleton_self name) ?_
    rw [← context.isSome_attribute?, hname, Option.isSome_none]

theorem lengthOf_fault {names : List String} {target : Value} {error : CheckerError}
    (h : lengthOf target = .error error) : EvaluationFault names error := by
  cases target <;> cases h <;> exact .misuse _

theorem indexInto_fault {names : List String} {target position : Value} {error : CheckerError}
    (h : indexInto target position = .error error) : EvaluationFault names error := by
  cases target <;> cases h <;> exact .misuse _

theorem includesIn_fault {names : List String} {target needle : Value} {error : CheckerError}
    (h : includesIn target needle = .error error) : EvaluationFault names error := by
  cases target <;> cases h <;> exact .misuse _

/-- Both operands are evaluated, whichever operator joins them. -/
theorem Expression.eval_fault {context : FeatureContext} {e : Expression} {error : CheckerError}
    (h : e.eval context = .error error) : EvaluationFault e.names error := by
  induction e with
  | name value => exact lookUp_fault h
  | not operand ih =>
    rcases bind_eq_error_iff.1 h with h | ⟨value, -, h⟩
    · exact ih h
    · cases h
  | and left right ihl ihr =>
    rcases bind_eq_error_iff.1 h with h | ⟨value, -, h⟩
    · exact (ihl h).mono (List.subset_append_left _ _)
    · split at h
      · exact (ihr h).mono (List.subset_append_right _ _)
      · cases h
  | or left right ihl ihr =>
    rcases bind_eq_error_iff.1 h with h | ⟨value, -, h⟩
    · exact (ihl h).mono (List.subset_append_left _ _)
    · split at h
      · cases h
      · exact (ihr h).mono (List.subset_append_right _ _)
  | compare comparison left right ihl ihr =>
    rcases bind_eq_error_iff.1 h with h | ⟨a, -, h⟩
    · exact (ihl h).mono (List.subset_append_left _ _)
    · rcases bind_eq_error_iff.1 h with h | ⟨b, -, h⟩
      · exact (ihr h).mono (List.subset_append_right _ _)
      · cases h
  | length target ih =>
    rcases bind_eq_error_iff.1 h with h | ⟨value, -, h⟩
    · exact ih h
    · exact lengthOf_fault h
  | index target position iht ihp =>
    rcases bind_eq_error_iff.1 h with h | ⟨a, -, h⟩
    · exact (iht h).mono (List.subset_append_left _ _)
    · rcases bind_eq_error_iff.1 h with h | ⟨b, -, h⟩
      · exact (ihp h).mono (List.subset_append_right _ _)
      · exact indexInto_fault h
  | includes target needle iht ihn =>
    rcases bind_eq_error_iff.1 h with h | ⟨a, -, h⟩
    · exact (iht h).mono (List.subset_append_left _ _)
    · rcases bind_eq_error_iff.1 h with h | ⟨b, -, h⟩
      · exact (ihn h).mono (List.subset_append_right _ _)
      · exact includesIn_fault h
  | _ => cases h

/-! ## The wording of errors -/

/-- The fixed words at the end of a fault. -/
def Fault.ending : Fault → String
  | empty => "empty expression"
  | unexpectedCharacter _ | invalidNumber _ | unexpectedToken _ | expectedOperator _ => "'"
  | unterminatedText => "unterminated string"
  | unexpectedEnd => "unexpected end of expression"
  | expectedProperty => "expected a property name"
  | unsupportedProperty _ => "' is not supported"

theorem Fault.exists_message_eq (cause : Fault) :
    ∃ start, cause.message = start ++ cause.ending := by
  cases cause with
  | empty => exact ⟨"", rfl⟩
  | unterminatedText => exact ⟨"", rfl⟩
  | unexpectedEnd => exact ⟨"", rfl⟩
  | expectedProperty => exact ⟨"", rfl⟩
  | unexpectedCharacter c => exact ⟨"unexpected character '" ++ c.toString, rfl⟩
  | invalidNumber text => exact ⟨"invalid number '" ++ text, rfl⟩
  | unexpectedToken token => exact ⟨"unexpected token '" ++ token.shown, rfl⟩
  | expectedOperator operator => exact ⟨"expected '" ++ operator.symbol, rfl⟩
  | unsupportedProperty name => exact ⟨"property '" ++ name, rfl⟩

theorem Fault.append_message_ne (cause : Fault) (start name : String) :
    name ++ " is not defined" ≠ start ++ cause.message := by
  obtain ⟨words, hwords⟩ := cause.exists_message_eq
  rw [hwords, ← String.append_assoc]
  apply Text.append_ne_append_of_end
  · cases cause <;> rw [ending] <;> decide +kernel
  · cases cause <;> rw [ending] <;> decide +kernel

theorem Misuse.exists_message_eq (cause : Misuse) :
    ∃ start type, (CheckerError.misuse cause).message = start ++ ValueType.name type := by
  cases cause with
  | length type =>
    exact ⟨"type error: " ++ "cannot read length of ", type, String.append_assoc.symm⟩
  | index type => exact ⟨"type error: " ++ "cannot index into ", type, String.append_assoc.symm⟩
  | includes type =>
    exact ⟨"type error: " ++ "includes is not a function on ", type, String.append_assoc.symm⟩

/-- A misuse does not read like a name that is missing. -/
theorem Misuse.message_ne (cause : Misuse) (name : String) :
    (CheckerError.misuse cause).message ≠ name ++ " is not defined" := by
  obtain ⟨start, type, hwords⟩ := cause.exists_message_eq
  rw [hwords]
  apply Text.append_ne_append_of_end
  · cases type <;> decide +kernel
  · cases type <;> decide +kernel

/-- An error of evaluation does not read like one of a text that does not compile. -/
theorem EvaluationFault.message_ne {names : List String} {error other : CheckerError}
    (h : EvaluationFault names error) (hother : other.isSyntactic = true) :
    error.message ≠ other.message := by
  cases h with
  | misuse cause =>
    cases other with
    | tooDeep =>
      have hwords : CheckerError.tooDeep.message =
          "expression nesting exceeds " ++ (toString maxDepth ++ " levels") :=
        String.append_assoc
      rw [hwords]
      exact Text.append_ne_append_of_front (by decide +kernel) (by decide +kernel) _ _
    | malformed offset cause =>
      have hwords : (CheckerError.malformed offset cause).message =
          "syntax error at offset " ++ (toString offset ++ (": " ++ cause.message)) := by
        rw [← String.append_assoc, ← String.append_assoc]
        rfl
      rw [hwords]
      exact Text.append_ne_append_of_front (by decide +kernel) (by decide +kernel) _ _
    | _ => cases hother
  | @undefinedName name hmem hname =>
    cases other with
    | tooDeep => exact Text.append_ne_append_of_end (by decide +kernel) (by decide +kernel) _ _
    | malformed offset cause => exact cause.append_message_ne _ name
    | _ => cases hother

end Checker

end SubmissionGrader
