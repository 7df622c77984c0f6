import SubmissionGrader.Proofs.Checker.Names

/-!
# What evaluation depends on

A checker sees a context through the names in it and in no other way: contexts that agree on them
give the same value or the same error (`Expression.eval_congr`). Whether evaluation ends at a name
that no attribute has can be told without a context, up to the operands that `&&` and `||` may skip:
`Expression.unguardedNames` are the names that no such operand holds, and one of them without an
attribute leaves the expression without a value (`Expression.exists_error_of_mem_unguardedNames`).
-/

namespace SubmissionGrader

/-! ## Contexts that agree on names -/

/-- The attributes with these names, if there are any, have the same values in both contexts. -/
def FeatureContext.AgreesOn (names : List String) (a b : FeatureContext) : Prop :=
  ∀ name ∈ names, a.attribute? name = b.attribute? name

instance (names : List String) (a b : FeatureContext) : Decidable (a.AgreesOn names b) :=
  inferInstanceAs (Decidable (∀ name ∈ names, a.attribute? name = b.attribute? name))

theorem FeatureContext.agreesOn_append_iff {names more : List String} {a b : FeatureContext} :
    AgreesOn (names ++ more) a b ↔ AgreesOn names a b ∧ AgreesOn more a b :=
  List.forall_mem_append

namespace Checker

open FeatureContext

theorem Expression.eval_congr {a b : FeatureContext} {e : Expression}
    (h : AgreesOn e.names a b) : e.eval a = e.eval b := by
  induction e with
  | name value => simp only [eval, lookUp, h value (List.mem_singleton_self value)]
  | not operand ih => rw [eval, eval, ih h]
  | length target ih => rw [eval, eval, ih h]
  | and left right ihl ihr =>
    obtain ⟨hl, hr⟩ := agreesOn_append_iff.1 h
    rw [eval, eval, ihl hl, ihr hr]
  | or left right ihl ihr =>
    obtain ⟨hl, hr⟩ := agreesOn_append_iff.1 h
    rw [eval, eval, ihl hl, ihr hr]
  | compare comparison left right ihl ihr =>
    obtain ⟨hl, hr⟩ := agreesOn_append_iff.1 h
    rw [eval, eval, ihl hl, ihr hr]
  | index target position iht ihp =>
    obtain ⟨ht, hp⟩ := agreesOn_append_iff.1 h
    rw [eval, eval, iht ht, ihp hp]
  | includes target needle iht ihn =>
    obtain ⟨ht, hn⟩ := agreesOn_append_iff.1 h
    rw [eval, eval, iht ht, ihn hn]
  | _ => rfl

theorem tryEvaluate_eq {source : String} {c : Checker} (h : compile source = .ok c)
    (context : FeatureContext) : tryEvaluate context source = c.test context := by
  rw [tryEvaluate, h, ok_bind]

/-- A checker reads no attribute but those whose names are in it. Contexts of sources that parse
and that agree on these attributes give it the same value or the same error. -/
theorem eval_reads_only_names {source : String} {c : Checker} (hc : compile source = .ok c)
    {a b : FeatureContext} (ha : a.parseError = none) (hb : b.parseError = none)
    (h : a.AgreesOn c.names b) :
    c.eval a = c.eval b ∧ c.test a = c.test b ∧
      tryEvaluate a source = tryEvaluate b source ∧ evaluate a source = evaluate b source := by
  have heval : c.eval a = c.eval b := by
    rw [names_eq] at h
    rw [eval, eval, ha, hb]
    exact Expression.eval_congr h
  have htest : c.test a = c.test b := by rw [test, test, heval]
  have htry : tryEvaluate a source = tryEvaluate b source := by
    rw [tryEvaluate_eq hc, tryEvaluate_eq hc, htest]
  exact ⟨heval, htest, htry, by rw [evaluate, evaluate, htry]⟩

theorem eval_reads_only_names_of_position :
    let source := "!usesUseState && jsxElements[functionNames.length] === 'p'"
    let c : Checker := ⟨source, .and (.not (.name "usesUseState")) (.compare .strictlyEqual
      (.index (.name "jsxElements") (.length (.name "functionNames"))) (.text "p"))⟩
    let a : FeatureContext := { functionNames := ["App"], jsxElements := ["div", "p"] }
    let b : FeatureContext := { a with hasJSX := true, jsxElementName := some "div" }
    compile source = .ok c ∧ a.parseError = none ∧ b.parseError = none ∧ a.AgreesOn c.names b ∧
      c.eval a = c.eval b ∧ c.test a = c.test b ∧
      tryEvaluate a source = tryEvaluate b source ∧ evaluate a source = evaluate b source := by
  intro source c a b
  have hc : compile source = .ok c := by decide +kernel +revert
  have h : a.AgreesOn c.names b := by decide +kernel +revert
  exact ⟨hc, rfl, rfl, h, eval_reads_only_names hc rfl rfl h⟩

/-! ## Names that evaluation cannot pass by -/

/-- The names outside the right operands of `&&` and `||`, from left to right. Evaluation comes to
all of them, or ends before. -/
def Expression.unguardedNames : Expression → List String
  | name value => [value]
  | not operand => operand.unguardedNames
  | length target => target.unguardedNames
  | and left _ => left.unguardedNames
  | or left _ => left.unguardedNames
  | compare _ left right => left.unguardedNames ++ right.unguardedNames
  | index target position => target.unguardedNames ++ position.unguardedNames
  | includes target needle => target.unguardedNames ++ needle.unguardedNames
  | number _ | text _ | boolean _ | null | undefined => []

theorem lookUp_of_not_isAttributeName {name : String} (h : isAttributeName name = false)
    (context : FeatureContext) : lookUp context name = .error (.undefinedName name) := by
  have hnone : context.attribute? name = none := by
    rw [← Option.not_isSome_iff_eq_none, context.isSome_attribute?, h]
    exact Bool.false_ne_true
  rw [lookUp, hnone]

theorem Expression.exists_error_of_mem_unguardedNames {e : Expression} {name : String}
    (hmem : name ∈ e.unguardedNames) (hname : isAttributeName name = false)
    (context : FeatureContext) : ∃ error, e.eval context = .error error := by
  induction e with
  | name value =>
    obtain rfl : name = value := List.mem_singleton.1 hmem
    exact ⟨_, lookUp_of_not_isAttributeName hname context⟩
  | not operand ih => exact exists_error_bind (ih hmem)
  | length target ih => exact exists_error_bind (ih hmem)
  | and left right ihl => exact exists_error_bind (ihl hmem)
  | or left right ihl => exact exists_error_bind (ihl hmem)
  | compare comparison left right ihl ihr =>
    rcases List.mem_append.1 hmem with hmem | hmem
    · exact exists_error_bind (ihl hmem)
    · exact exists_error_bind_of_forall fun _ => exists_error_bind (ihr hmem)
  | index target position iht ihp =>
    rcases List.mem_append.1 hmem with hmem | hmem
    · exact exists_error_bind (iht hmem)
    · exact exists_error_bind_of_forall fun _ => exists_error_bind (ihp hmem)
  | includes target needle iht ihn =>
    rcases List.mem_append.1 hmem with hmem | hmem
    · exact exists_error_bind (iht hmem)
    · exact exists_error_bind_of_forall fun _ => exists_error_bind (ihn hmem)
  | _ => exact absurd hmem List.not_mem_nil

theorem mem_unknownNames_iff {c : Checker} {name : String} :
    name ∈ c.unknownNames ↔ name ∈ c.names ∧ isAttributeName name = false := by
  simp [unknownNames]

theorem eval_fault {c : Checker} {context : FeatureContext} (hcontext : context.parseError = none)
    {error : CheckerError} (h : c.eval context = .error error) : EvaluationFault c.names error := by
  rw [eval, hcontext] at h
  rw [names_eq]
  exact Expression.eval_fault h

/-- Which names are undefined is known without a context. On sources that parse, evaluation fails
only for a name in the checker that no attribute has, or for a value of the wrong type; so it never
meets an undefined name if the checker has none. And if the checker has one outside the right
operands of `&&` and `||`, evaluation always fails. -/
theorem undefined_names_predicted {source : String} {c : Checker} (hc : compile source = .ok c) :
    (∀ context : FeatureContext, context.parseError = none →
      ∀ error, c.eval context = .error error →
        (∃ name ∈ c.unknownNames, error = .undefinedName name) ∨ ∃ cause, error = .misuse cause) ∧
    (c.unknownNames = [] → ∀ context : FeatureContext, context.parseError = none →
      ∀ name, c.eval context ≠ .error (.undefinedName name)) ∧
    ((∃ name ∈ c.unknownNames, name ∈ c.expression.unguardedNames) →
      ∀ context : FeatureContext, context.parseError = none →
        (∃ error, c.eval context = .error error) ∧ evaluate context source = false) := by
  refine ⟨fun context hcontext error h => ?_, fun hnone context hcontext name h => ?_, ?_⟩
  · cases eval_fault hcontext h with
    | misuse cause => exact .inr ⟨cause, rfl⟩
    | undefinedName hmem hname => exact .inl ⟨_, mem_unknownNames_iff.2 ⟨hmem, hname⟩, rfl⟩
  · cases eval_fault hcontext h with
    | undefinedName hmem hname =>
      have hunknown := mem_unknownNames_iff.2 ⟨hmem, hname⟩
      rw [hnone] at hunknown
      exact List.not_mem_nil hunknown
  · rintro ⟨name, hunknown, hmem⟩ context hcontext
    obtain ⟨-, hname⟩ := mem_unknownNames_iff.1 hunknown
    obtain ⟨error, herror⟩ := Expression.exists_error_of_mem_unguardedNames hmem hname context
    have heval : c.eval context = .error error := by rw [eval, hcontext, herror]
    refine ⟨⟨error, heval⟩, ?_⟩
    rw [evaluate, tryEvaluate_eq hc, test, heval]
    rfl

theorem undefined_names_predicted_of_position :
    let source := "functionNames[magic].length > 1 && (hasJSX || bogus)"
    let c : Checker := ⟨source, .and (.compare .greater
      (.length (.index (.name "functionNames") (.name "magic"))) (.number (.ofNat 1)))
      (.or (.name "hasJSX") (.name "bogus"))⟩
    compile source = .ok c ∧ c.unknownNames = ["magic", "bogus"] ∧
      "magic" ∈ c.expression.unguardedNames ∧
      ∀ context : FeatureContext, context.parseError = none →
        (∃ error, c.eval context = .error error) ∧ evaluate context source = false := by
  intro source c
  have hc : compile source = .ok c := by decide +kernel +revert
  have hunknown : c.unknownNames = ["magic", "bogus"] := by decide +kernel +revert
  have hmem : "magic" ∈ c.expression.unguardedNames := by decide +kernel +revert
  exact ⟨hc, hunknown, hmem,
    (undefined_names_predicted hc).2.2 ⟨"magic", by simp [hunknown], hmem⟩⟩

end Checker

end SubmissionGrader
