import SubmissionGrader.Proofs.Checker.Layout
import SubmissionGrader.Proofs.Checker.Names
import SubmissionGrader.Proofs.Features.Extraction
import SubmissionGrader.Proofs.Grading.Calls
import SubmissionGrader.Proofs.Suite.Wording

/-!
# Reviews and results

A review looks at a suite alone, and a run grades a source by it. Both go through the cases in their
own way, and agree: what the review warns of is what the results tell of, whichever source is graded
(`review_agrees_with_run`). The review compiles a checker without the blanks around it, and finds
the names that no attribute has without evaluating anything. Nothing is used about which texts are
proper patterns.
-/

namespace SubmissionGrader

/-- A run answers by the context of its source, whether it asks for it or not. -/
theorem Grader.runAll_eq_map_resultIn [Syntax.Language] [Pattern.Dialect] (config : GraderConfig)
    (cache : Option ContextCache) (source : String) (cases : List TestCase) :
    (runAll config cache source cases).1 =
      cases.map (resultIn config source (contextFor config cache source).1) := by
  rw [runAll, runAllWith_eq]
  cases hast : cases.any (·.kind.isAst) with
  | true => rfl
  | false => exact map_resultIn_congr config source hast _ _

namespace Suite

/-! ## Warnings about a case -/

theorem isDescriptive_of_mem_describedFlaws {earlier : List String} {description : String}
    {flaw : SuiteFlaw} (h : flaw ∈ describedFlaws earlier description) :
    flaw.isDescriptive = true := by
  rw [describedFlaws] at h
  split at h
  · obtain rfl := List.mem_singleton.1 h
    rfl
  · split at h
    · obtain rfl := List.mem_singleton.1 h
      rfl
    · cases h

section Warnings

variable [Pattern.Dialect]

theorem mem_caseWarnings_iff {index : Nat} {earlier : List String} {cases : List TestCase}
    {w : SuiteWarning} :
    w ∈ caseWarnings index earlier cases ↔
      ∃ i c, cases[i]? = some c ∧ w.case = some (index + i) ∧
        w.flaw ∈ describedFlaws (((cases.take i).map (·.description)).reverse ++ earlier)
          c.description ++ kindFlaws c.kind := by
  obtain ⟨place, flaw⟩ := w
  induction cases generalizing index earlier with
  | nil => simp [caseWarnings]
  | cons c cases ih =>
    rw [caseWarnings, List.mem_append, ih]
    constructor
    · rintro (h | ⟨i, d, hd, hplace, hflaw⟩)
      · obtain ⟨flaw, hflaw, heq⟩ := List.mem_map.1 h
        cases heq
        exact ⟨0, c, rfl, rfl, by simpa using hflaw⟩
      · refine ⟨i + 1, d, hd, by rw [hplace, Nat.add_assoc, Nat.add_comm 1], ?_⟩
        simpa using hflaw
    · rintro ⟨i, d, hd, hplace, hflaw⟩
      cases i with
      | zero =>
        obtain rfl : c = d := by simpa using hd
        obtain rfl : place = some index := hplace
        exact .inl (List.mem_map.2 ⟨flaw, by simpa using hflaw, rfl⟩)
      | succ i =>
        refine .inr ⟨i, d, by simpa using hd, by rw [hplace, Nat.add_assoc, Nat.add_comm 1], ?_⟩
        simpa using hflaw

theorem mem_review_iff {s : Suite} {i : Nat} {flaw : SuiteFlaw} :
    ⟨some i, flaw⟩ ∈ s.review ↔ ∃ c, s.cases[i]? = some c ∧
      flaw ∈ describedFlaws ((s.cases.take i).map (·.description)).reverse c.description ++
        kindFlaws c.kind := by
  simp [review, mem_caseWarnings_iff]

def Warns (s : Suite) (i : Nat) (message : String) : Prop :=
  ∃ w ∈ s.review, w.case = some i ∧ w.flaw.message = message

/-- A warning that is not about the description of a case is about the way it judges. -/
theorem warns_iff {s : Suite} {i : Nat} {c : TestCase} (hc : s.cases[i]? = some c)
    {flaw : SuiteFlaw} (hflaw : flaw.isDescriptive = false) :
    s.Warns i flaw.message ↔ ∃ found ∈ kindFlaws c.kind, found.message = flaw.message := by
  constructor
  · rintro ⟨⟨_, found⟩, hw, rfl, hmessage⟩
    obtain ⟨d, hd, hmem⟩ := mem_review_iff.1 hw
    obtain rfl : c = d := by simpa [hc] using hd
    rcases List.mem_append.1 hmem with hmem | hmem
    · have hfound := isDescriptive_of_mem_describedFlaws hmem
      rw [SuiteFlaw.isDescriptive_eq_of_message_eq hmessage, hflaw] at hfound
      cases hfound
    · exact ⟨found, hmem, hmessage⟩
  · rintro ⟨found, hmem, hmessage⟩
    exact ⟨⟨some i, found⟩, mem_review_iff.2 ⟨c, hc, List.mem_append_right _ hmem⟩, rfl, hmessage⟩

theorem warns_message_iff {s : Suite} {i : Nat} {c : TestCase} (hc : s.cases[i]? = some c)
    (flaw : SuiteFlaw) (hflaw : flaw.isDescriptive = false)
    (hbroken : ∀ error, flaw ≠ .brokenChecker error) :
    s.Warns i flaw.message ↔ flaw ∈ kindFlaws c.kind := by
  rw [warns_iff hc hflaw]
  constructor
  · rintro ⟨found, hmem, hmessage⟩
    rwa [← SuiteFlaw.eq_of_message_eq hmessage hbroken]
  · exact fun hmem => ⟨flaw, hmem, rfl⟩

theorem exists_warns_brokenChecker_iff {s : Suite} {i : Nat} {c : TestCase}
    (hc : s.cases[i]? = some c) :
    (∃ error : CheckerError, s.Warns i ("checker does not compile: " ++ error.message)) ↔
      ∃ error, .brokenChecker error ∈ kindFlaws c.kind := by
  constructor
  · rintro ⟨error, h⟩
    have hflaw : (SuiteFlaw.brokenChecker error).isDescriptive = false := rfl
    obtain ⟨found, hmem, hmessage⟩ := (warns_iff hc hflaw).1 h
    have hopening := (SuiteFlaw.opening_eq_of_message_eq hmessage).1
    cases found with
    | brokenChecker error => exact ⟨error, hmem⟩
    | _ => simp [SuiteFlaw.opening] at hopening
  · rintro ⟨error, hmem⟩
    have hflaw : (SuiteFlaw.brokenChecker error).isDescriptive = false := rfl
    exact ⟨error, (warns_iff hc hflaw).2 ⟨_, hmem, rfl⟩⟩

end Warnings

/-! ## The two readings of a checker -/

/-- What a review finds in a checker, and what a judge makes of it in a context. -/
inductive CheckerReading : List SuiteFlaw → Verdict → Prop
  | missing : CheckerReading [.noChecker] .noChecker
  | broken (found : CheckerError) {error : CheckerError} (h : error.isSyntactic = true) :
      CheckerReading [.brokenChecker found] (.checkerError error)
  | decided (names : List String) (passed : Bool) :
      CheckerReading (names.map .unknownAttribute) (if passed then .passed else .failed)
  | fault {names : List String} {error : CheckerError} (h : Checker.EvaluationFault names error) :
      CheckerReading ((names.filter fun name => !isAttributeName name).map .unknownAttribute)
        (.checkerError error)

/-- The review compiles the trimmed text, and the judge the text as it is. -/
theorem checkerReading [Pattern.Dialect] {context : FeatureContext} (h : context.parseError = none)
    (checker : Option String) :
    CheckerReading (kindFlaws (.ast checker)) (Grader.judgeContext checker context) := by
  cases checker with
  | none => exact .missing
  | some text =>
    simp only [kindFlaws, Grader.judgeContext, h]
    by_cases hblank : Text.isBlankText text = true
    · rw [if_pos hblank, if_pos hblank]
      exact .missing
    · rw [if_neg hblank, if_neg hblank]
      have htrim := Checker.toOption_compile_trim text
      cases hcompile : Checker.compile text with
      | error error =>
        cases hfound : Checker.compile (Text.trim text) with
        | error found =>
          simp only [Checker.tryEvaluate, hcompile]
          exact .broken found (Checker.isSyntactic_compile hcompile)
        | ok trimmed => simp [hcompile, hfound, Except.toOption] at htrim
      | ok c =>
        cases hfound : Checker.compile (Text.trim text) with
        | error found => simp [hcompile, hfound, Except.toOption] at htrim
        | ok trimmed =>
          have hsame : trimmed.expression = c.expression := by
            simpa [hcompile, hfound, Except.toOption] using htrim
          simp only [Checker.tryEvaluate, hcompile, ok_bind, Checker.test, Checker.eval, h,
            Checker.unknownNames, Checker.names_eq, hsame]
          cases hvalue : c.expression.eval context with
          | error error => exact .fault (Checker.Expression.eval_fault hvalue)
          | ok value =>
            simp only [Except.map]
            cases htruthy : value.isTruthy with
            | true => exact .decided _ true
            | false => exact .decided _ false

namespace CheckerReading

variable {flaws : List SuiteFlaw} {v : Verdict}

theorem message_decided (passed : Bool) :
    (if passed then Verdict.passed else .failed).message? = none := by
  cases passed <;> rfl

theorem noChecker_mem_iff (h : CheckerReading flaws v) :
    .noChecker ∈ flaws ↔ v.message? = some "No checker expression provided" := by
  cases h with
  | missing => exact iff_of_true (List.mem_singleton_self _) rfl
  | broken found h =>
    refine iff_of_false (by simp) fun hmessage => ?_
    exact Text.append_ne_of_front (by decide +kernel) _ (Option.some.inj hmessage)
  | decided names passed => simp [message_decided]
  | fault h =>
    refine iff_of_false (by simp) fun hmessage => ?_
    exact Text.append_ne_of_front (by decide +kernel) _ (Option.some.inj hmessage)

theorem exists_brokenChecker_mem_iff (h : CheckerReading flaws v) :
    (∃ error, .brokenChecker error ∈ flaws) ↔ ∃ error : CheckerError, error.isSyntactic = true ∧
      v.message? = some ("Checker evaluation failed: " ++ error.message) := by
  cases h with
  | missing =>
    refine iff_of_false (by simp) ?_
    rintro ⟨error, -, hmessage⟩
    exact Text.append_ne_of_front (by decide +kernel) _ (Option.some.inj hmessage).symm
  | broken found h => exact iff_of_true ⟨found, List.mem_singleton_self _⟩ ⟨_, h, rfl⟩
  | decided names passed => simp [message_decided]
  | fault h =>
    refine iff_of_false (by simp) ?_
    rintro ⟨other, hother, hmessage⟩
    exact h.message_ne hother (String.append_right_inj _ |>.1 (Option.some.inj hmessage))

/-- A checker without flaws asks for no name that is missing. -/
theorem of_flawless (h : CheckerReading flaws v) (hmissing : .noChecker ∉ flaws)
    (hbroken : ¬∃ error, .brokenChecker error ∈ flaws)
    (hnames : ∀ name, .unknownAttribute name ∉ flaws) :
    (∃ passed : Bool, v = if passed then .passed else .failed) ∨
      ∃ cause, v = .checkerError (.misuse cause) := by
  cases h with
  | missing => exact absurd (List.mem_singleton_self _) hmissing
  | broken found h => exact absurd ⟨found, List.mem_singleton_self _⟩ hbroken
  | decided names passed => exact .inl ⟨passed, rfl⟩
  | fault h =>
    cases h with
    | misuse cause => exact .inr ⟨cause, rfl⟩
    | @undefinedName name hmem hname => exact absurd (by simp [hmem, hname]) (hnames name)

end CheckerReading

/-! ## The two readings of other cases -/

/-- What a review finds in a pattern, and what a judge makes of it. -/
inductive PatternReading : List SuiteFlaw → Verdict → Prop
  | missing : PatternReading [.noPattern] .noPattern
  | proper (count least : Nat) : PatternReading [] (.pattern (.times count least))
  | plain (pattern : String) (found : Bool) :
      PatternReading [.plainPattern] (.pattern (.plain pattern found))

theorem patternReading [Pattern.Dialect] (config : GraderConfig) (source : String)
    (pattern : Option String) (least : Option Nat) :
    PatternReading (kindFlaws (.pattern pattern least))
      (Grader.judgePattern config source pattern least) := by
  cases pattern with
  | none => exact .missing
  | some text =>
    by_cases hempty : text = ""
    · subst hempty
      exact .missing
    · simp only [kindFlaws, Grader.judgePattern, Pattern.find]
      cases hcompile : Pattern.Dialect.program? text with
      | some program => exact .proper _ _
      | none => exact .plain _ _

namespace PatternReading

variable {flaws : List SuiteFlaw} {v : Verdict} (description : String)

theorem noPattern_mem_iff (h : PatternReading flaws v) :
    .noPattern ∈ flaws ↔
      TestResult.ofVerdict description v = .fail description "No pattern provided" := by
  cases h with
  | missing => exact iff_of_true (List.mem_singleton_self _) rfl
  | proper count least =>
    refine iff_of_false List.not_mem_nil fun hresult => ?_
    obtain ⟨rest, hwords⟩ := Pattern.Finding.exists_message_times_eq count least
    have hmessage := Option.some.inj (congrArg TestResult.message hresult)
    rw [hwords] at hmessage
    exact Text.append_ne_of_front (by decide +kernel) _ hmessage
  | plain pattern found =>
    refine iff_of_false (by simp) fun hresult => ?_
    have hmessage := Option.some.inj (congrArg TestResult.message hresult)
    have hplain := Pattern.Finding.tellsPlain_plain pattern found
    rw [hmessage] at hplain
    exact Pattern.Finding.not_tellsPlain_missing hplain

theorem plainPattern_mem_iff (h : PatternReading flaws v) :
    .plainPattern ∈ flaws ↔ ∃ message ∈ (TestResult.ofVerdict description v).message,
      Pattern.Finding.TellsPlain message := by
  cases h with
  | missing =>
    refine iff_of_false (by simp) ?_
    rintro ⟨_, ⟨⟩, htells⟩
    exact Pattern.Finding.not_tellsPlain_missing htells
  | proper count least =>
    refine iff_of_false List.not_mem_nil ?_
    rintro ⟨_, ⟨⟩, htells⟩
    exact Pattern.Finding.not_tellsPlain_times count least htells
  | plain pattern found =>
    exact iff_of_true (List.mem_singleton_self _)
      ⟨_, rfl, Pattern.Finding.tellsPlain_plain pattern found⟩

end PatternReading

theorem noValidator_mem_iff [Pattern.Dialect] (source : String) (validator : Option Validator) :
    .noValidator ∈ kindFlaws (.runtime validator) ↔
      (Grader.contained (Grader.judgeRuntime source validator)).message? =
        some "No validator function provided" := by
  cases validator with
  | none => exact iff_of_true (List.mem_singleton_self _) rfl
  | some validator =>
    refine iff_of_false List.not_mem_nil fun hmessage => ?_
    simp only [Grader.judgeRuntime] at hmessage
    cases hverdict : validator source with
    | verdict passed =>
      cases passed <;> simp [hverdict, Grader.contained, Verdict.message?] at hmessage
    | refused message =>
      rw [hverdict] at hmessage
      exact Text.append_ne_of_front (by decide +kernel) _ (Option.some.inj hmessage)
    | crashed message =>
      rw [hverdict] at hmessage
      exact Text.append_ne_of_front (by decide +kernel) _ (Option.some.inj hmessage)

/-! ## Warnings and results -/

structure CheckerAgrees (warned : String → Prop) (description : String) (result : TestResult) :
    Prop where
  missing : warned "ast case has no checker" ↔
    result = .fail description "No checker expression provided"
  broken : (∃ error : CheckerError, warned ("checker does not compile: " ++ error.message)) ↔
    ∃ error : CheckerError, error.isSyntactic = true ∧
      result = .fail description ("Checker evaluation failed: " ++ error.message)
  flawless : ¬warned "ast case has no checker" →
    (∀ error : CheckerError, ¬warned ("checker does not compile: " ++ error.message)) →
    (∀ name, ¬warned ("checker references unknown attribute: " ++ name)) →
      (result = .pass description ∨ result = ⟨description, false, none⟩ ∨
        ∃ cause, result = .fail description
          ("Checker evaluation failed: " ++ (CheckerError.misuse cause).message)) ∧
      (∀ error : CheckerError, error.isSyntactic = true →
        result.message ≠ some ("Checker evaluation failed: " ++ error.message)) ∧
      ∀ name, result.message ≠ some ("Checker evaluation failed: " ++ (name ++ " is not defined"))

def Agrees (warned : String → Prop) (description : String) (result : TestResult) : TestKind → Prop
  | .ast _ => CheckerAgrees warned description result
  | .pattern _ _ =>
    (warned "pattern case has no pattern" ↔ result = .fail description "No pattern provided") ∧
    (warned "pattern is not a valid regex and will be matched as plain text" ↔
      ∃ message ∈ result.message, Pattern.Finding.TellsPlain message)
  | .runtime _ =>
    warned "runtime case has no validator and will always fail" ↔
      result = .fail description "No validator function provided"
  | .unknown tag =>
    warned ("unknown test type: " ++ tag) ∧
      result = .fail description ("Unknown test type: " ++ tag)

theorem ofVerdict_eq_fail_iff {description message : String} {v : Verdict}
    (hpass : v.isPass = true → v.message? ≠ some message) :
    TestResult.ofVerdict description v = .fail description message ↔
      v.message? = some message := by
  constructor
  · exact congrArg TestResult.message
  · intro hmessage
    have hfails : v.isPass = false := by
      by_contra hne
      exact hpass (by simpa using hne) hmessage
    rw [TestResult.ofVerdict, hfails, hmessage]
    rfl

theorem CheckerReading.message_ne_of_isPass {flaws : List SuiteFlaw} {v : Verdict}
    (h : CheckerReading flaws v) (hpass : v.isPass = true) (message : String) :
    v.message? ≠ some message := by
  cases h with
  | missing => cases hpass
  | broken => cases hpass
  | decided names passed => simp [message_decided]
  | fault => cases hpass

section Cases

variable [Pattern.Dialect] {s : Suite} {i : Nat} {c : TestCase}

theorem checkerAgrees {checker : Option String} {context : FeatureContext}
    (hc : s.cases[i]? = some c) (hkind : c.kind = .ast checker) (h : context.parseError = none)
    (description : String) :
    CheckerAgrees (s.Warns i) description
      (.ofVerdict description (Grader.judgeContext checker context)) := by
  have hreading := checkerReading h checker
  rw [← hkind] at hreading
  generalize Grader.judgeContext checker context = v at hreading
  have hfail (message : String) : TestResult.ofVerdict description v = .fail description message ↔
      v.message? = some message :=
    ofVerdict_eq_fail_iff fun hpass => hreading.message_ne_of_isPass hpass message
  have hmissing : s.Warns i "ast case has no checker" ↔ .noChecker ∈ kindFlaws c.kind :=
    warns_message_iff hc .noChecker rfl (by simp)
  have hbroken := exists_warns_brokenChecker_iff hc
  refine ⟨?_, ?_, fun hnochecker hcompiles hnames => ?_⟩
  · rw [hmissing, hreading.noChecker_mem_iff, hfail]
  · rw [hbroken, hreading.exists_brokenChecker_mem_iff]
    simp only [hfail]
  · rw [hmissing] at hnochecker
    rw [← not_exists, hbroken] at hcompiles
    have hknown (name : String) : .unknownAttribute name ∉ kindFlaws c.kind := fun hmem =>
      hnames name ((warns_message_iff hc (.unknownAttribute name) rfl (by simp)).2 hmem)
    obtain ⟨passed, rfl⟩ | ⟨cause, rfl⟩ := hreading.of_flawless hnochecker hcompiles hknown
    · have hsilent (text : String) :
          (TestResult.ofVerdict description (if passed then .passed else .failed)).message ≠
            some text := by
        simp [TestResult.ofVerdict, CheckerReading.message_decided]
      refine ⟨?_, fun _ _ => hsilent _, fun _ => hsilent _⟩
      cases passed with
      | true => exact .inl rfl
      | false => exact .inr (.inl rfl)
    · have hfault : Checker.EvaluationFault [] (.misuse cause) := .misuse cause
      refine ⟨.inr (.inr ⟨cause, rfl⟩), fun error herror hmessage => ?_, fun name hmessage => ?_⟩
      · exact hfault.message_ne herror (String.append_right_inj _ |>.1 (Option.some.inj hmessage))
      · exact cause.message_ne name (String.append_right_inj _ |>.1 (Option.some.inj hmessage))

theorem patternAgrees {pattern : Option String} {least : Option Nat} (hc : s.cases[i]? = some c)
    (hkind : c.kind = .pattern pattern least) (config : GraderConfig)
    (source description : String) :
    Agrees (s.Warns i) description
      (.ofVerdict description (Grader.judgePattern config source pattern least))
      (.pattern pattern least) := by
  have hreading := patternReading config source pattern least
  rw [← hkind] at hreading
  have hmissing := warns_message_iff hc .noPattern rfl (by simp)
  have hplain := warns_message_iff hc .plainPattern rfl (by simp)
  rw [hreading.noPattern_mem_iff description] at hmissing
  rw [hreading.plainPattern_mem_iff description] at hplain
  exact ⟨hmissing, hplain⟩

theorem runtimeAgrees {validator : Option Validator} (hc : s.cases[i]? = some c)
    (hkind : c.kind = .runtime validator) (source description : String) :
    Agrees (s.Warns i) description
      (.ofVerdict description (Grader.contained (Grader.judgeRuntime source validator)))
      (.runtime validator) := by
  have hmissing := warns_message_iff hc .noValidator rfl (by simp)
  rw [hkind, noValidator_mem_iff source] at hmissing
  refine hmissing.trans (ofVerdict_eq_fail_iff fun hpass => ?_).symm
  rw [ne_eq, ← noValidator_mem_iff source]
  cases validator with
  | none => cases hpass
  | some validator => exact List.not_mem_nil

theorem unknownAgrees {tag : String} (hc : s.cases[i]? = some c) (hkind : c.kind = .unknown tag)
    (description : String) :
    Agrees (s.Warns i) description (.ofVerdict description (.unknownType tag)) (.unknown tag) := by
  have hmem : .unknownType tag ∈ kindFlaws c.kind := by
    rw [hkind]
    exact List.mem_singleton_self _
  exact ⟨(warns_message_iff hc (.unknownType tag) rfl (by simp)).2 hmem, rfl⟩

/-- A case is reviewed without a source, and yet the review goes with its result in any context. -/
theorem agrees_resultIn {context : FeatureContext} (h : context.parseError = none)
    (hc : s.cases[i]? = some c) (config : GraderConfig) (source : String) :
    Agrees (s.Warns i) c.description (Grader.resultIn config source context c) c.kind := by
  obtain ⟨description, kind⟩ := c
  cases kind with
  | ast checker => exact checkerAgrees hc rfl h description
  | pattern pattern least => exact patternAgrees hc rfl config source description
  | runtime validator => exact runtimeAgrees hc rfl source description
  | unknown tag => exact unknownAgrees hc rfl description

end Cases

/-! ## Reviews and runs -/

/-- A source that parses has features, unless a cache holds a refusal of it. -/
theorem parseError_contextFor [Syntax.Language] {config : GraderConfig}
    {cache : Option ContextCache} {source : String} {tree : Syntax.Node}
    (hparses : Syntax.parseWithDepth source config.maxNestingDepth = .ok tree)
    (hcache : ∀ held ∈ cache, ∀ context,
      (held.get (.ofText source)).1 = some context → context.parseError = none) :
    (Grader.contextFor config cache source).1.parseError = none := by
  have hfresh :
      (FeatureContext.analyzeWithDepth source config.maxNestingDepth).parseError = none := by
    rw [FeatureContext.analyzeWithDepth, hparses, FeatureContext.ofResult, FeatureContext.ofTree,
      Syntax.Node.walk_eq_foldl, FeatureContext.parseError_foldl_see]
  cases cache with
  | none => exact hfresh
  | some held =>
    rw [Grader.contextFor_cached]
    cases hget : held.get (.ofText source) with
    | mk found after =>
      cases found with
      | none => exact hfresh
      | some context => exact hcache held rfl context (by rw [hget])

/-- The review of a suite and a run of it agree on every case, whichever source is graded, if only
the source parses. -/
theorem review_agrees_with_run [Syntax.Language] [Pattern.Dialect] (config : GraderConfig)
    (cache : Option ContextCache) (s : Suite) {source : String}
    (hparses : ∃ tree, Syntax.parseWithDepth source config.maxNestingDepth = .ok tree)
    (hcache : ∀ held ∈ cache, ∀ context,
      (held.get (.ofText source)).1 = some context → context.parseError = none) :
    let results := (Grader.runAll config cache source s.cases).1
    results.length = s.cases.length ∧
      ∀ i c result, s.cases[i]? = some c → results[i]? = some result →
        Agrees (s.Warns i) c.description result c.kind := by
  obtain ⟨tree, hparses⟩ := hparses
  have hcontext := parseError_contextFor hparses hcache
  rw [Grader.runAll_eq_map_resultIn]
  refine ⟨List.length_map _, fun i c result hc hresult => ?_⟩
  obtain rfl :
      Grader.resultIn config source (Grader.contextFor config cache source).1 c = result := by
    simpa [hc] using hresult
  exact agrees_resultIn hcontext hc config source

theorem review_agrees_with_run_of_four_cases :
    let s : Suite := ⟨"s", "S", "", [⟨"broken", .ast (some " hasJSX && ")⟩,
      ⟨"unknown", .ast (some "\thasJSX && hasMagic")⟩, ⟨"plain", .pattern (some "(") none⟩,
      ⟨"odd", .unknown "ats"⟩]⟩
    let results := (Grader.runAll {} none "1" s.cases).1
    (∃ tree, Syntax.parseWithDepth "1" ({} : GraderConfig).maxNestingDepth = .ok tree) ∧
    results.length = 4 ∧
      ∀ i c result, s.cases[i]? = some c → results[i]? = some result →
        Agrees (s.Warns i) c.description result c.kind := by
  have hparses :
      ∃ tree, Syntax.parseWithDepth "1" ({} : GraderConfig).maxNestingDepth = .ok tree := by
    have hok : (Syntax.parseWithDepth "1" ({} : GraderConfig).maxNestingDepth).isOk = true := by
      decide +kernel
    cases hparse : Syntax.parseWithDepth "1" ({} : GraderConfig).maxNestingDepth with
    | ok tree => exact ⟨tree, rfl⟩
    | error error => simp [hparse, Except.isOk, Except.toBool] at hok
  exact ⟨hparses, review_agrees_with_run {} none _ hparses (by simp)⟩

end Suite

end SubmissionGrader
