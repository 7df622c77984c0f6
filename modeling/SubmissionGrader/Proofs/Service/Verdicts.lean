import SubmissionGrader.Proofs.Checker.Layout
import SubmissionGrader.Proofs.Grading.Calls
import SubmissionGrader.Proofs.Grading.Contents
import SubmissionGrader.Service.Analysis

/-!
# One verdict on every path

A grader judges a source in steps of its own: it looks for a blank checker and for a refused source
before it compiles the checker. The host and the service compile first, and each failure counts as
`false`. The verdict is the same (`verdict_on_every_path`), also if the grader has a cache, as long
as the cache holds only what the grader found itself (`Grader.HoldsOwn`).
-/

namespace SubmissionGrader

/-! ## Judging and evaluating -/

namespace Checker

theorem trimChars_of_isBlankText {source : String} (h : Text.isBlankText source = true) :
    Text.trimChars source.toList = [] := by
  rw [Text.isBlankText, List.all_eq_true] at h
  rw [Text.trimChars, Text.dropBlanks, List.dropWhile_eq_nil_iff.2 h]
  rfl

theorem exists_compile_error_of_isBlankText {source : String}
    (h : Text.isBlankText source = true) : ∃ error, compile source = .error error := by
  cases hcompile : compile source with
  | error error => exact ⟨error, rfl⟩
  | ok c =>
    obtain ⟨p, htokens, -⟩ := compile_sound hcompile
    obtain ⟨t, ts, hcons⟩ := p.exists_tokens_eq_cons
    rw [← tokenizes_trimChars_iff, trimChars_of_isBlankText h, hcons] at htokens
    cases htokens with
    | token hnext => cases hnext

/-- A judge passes a context if the checker evaluates to true there. -/
theorem isPass_judgeContext (context : FeatureContext) (checker : String) :
    (Grader.judgeContext (some checker) context).isPass = evaluate context checker := by
  rw [Grader.judgeContext, evaluate]
  by_cases hblank : Text.isBlankText checker = true
  · obtain ⟨error, hcompile⟩ := exists_compile_error_of_isBlankText hblank
    rw [if_pos hblank, tryEvaluate, hcompile]
    rfl
  · rw [if_neg hblank]
    cases hparse : context.parseError with
    | some message =>
      cases hcompile : compile checker with
      | error error => simp [tryEvaluate, hcompile, Verdict.isPass]
      | ok c => simp [tryEvaluate, hcompile, test, eval, hparse, Except.map, Verdict.isPass]
    | none =>
      cases htry : tryEvaluate context checker with
      | error error => rfl
      | ok passed => cases passed <;> rfl

end Checker

/-! ## Contexts of graders -/

namespace Grader

variable [Syntax.Language]
variable {config : GraderConfig} {cache : Option ContextCache} {source : String}

/-- The cache of a grader holds no context for a source but the one that the grader finds itself. -/
def HoldsOwn (config : GraderConfig) (source : String) (cache : Option ContextCache) : Prop :=
  ∀ held ∈ cache, held.Holds fun key context =>
    key = .ofText source → context = .analyzeWithDepth source config.maxNestingDepth

theorem holdsOwn_newCache? (config : GraderConfig) (source : String) :
    HoldsOwn config source config.newCache? := by
  intro held hheld
  rw [GraderConfig.newCache?] at hheld
  split at hheld
  · cases hheld
  · cases hheld
    exact .new _

/-- The cache does not show in the context. -/
theorem HoldsOwn.contextFor_eq (h : HoldsOwn config source cache) :
    (contextFor config cache source).1 = .analyzeWithDepth source config.maxNestingDepth := by
  cases cache with
  | none => rfl
  | some held =>
    have hfound := ((h held rfl).get (.ofText source)).1
    rw [contextFor_cached]
    rcases hget : held.get (.ofText source) with ⟨_ | context, after⟩
    · rfl
    · exact hfound context (congrArg Prod.fst hget) rfl

/-- A grader that looks at sources of other digests, or at the same one, stores what it finds. -/
theorem HoldsOwn.contextFor (h : HoldsOwn config source cache) {other : String}
    (hdigest : Digest.ofText other = .ofText source → other = source) :
    HoldsOwn config source (contextFor config cache other).2.2 := by
  cases cache with
  | none => nofun
  | some held =>
    have hafter := ((h held rfl).get (.ofText other)).2
    rw [contextFor_cached]
    rcases hget : held.get (.ofText other) with ⟨_ | context, after⟩
    · rw [hget] at hafter
      rintro _ ⟨⟩
      refine hafter.insert (fun hsame => ?_) fun _ _ _ hheld => hheld
      rw [hdigest hsame]
    · rw [hget] at hafter
      rintro _ ⟨⟩
      exact hafter

theorem HoldsOwn.runAll [Pattern.Dialect] (h : HoldsOwn config source cache) {other : String}
    (hdigest : Digest.ofText other = .ofText source → other = source) (cases : List TestCase) :
    HoldsOwn config source (runAll config cache other cases).2.cache := by
  rw [Grader.runAll, runAllWith_eq]
  dsimp only
  split
  · exact h.contextFor hdigest
  · exact h

end Grader

/-! ## Verdicts -/

namespace Request

/-- The empty text counts as none. -/
theorem filter_ne_empty (text : String) :
    (some text).filter (· ≠ "") = if text = "" then none else some text := by
  by_cases h : text = "" <;> simp [Option.filter, h]

theorem answer_parse [Syntax.Language] (id code : String) (checker : Option String) (depth : Nat) :
    answer { type := .parse, id, code := some code, checker } depth =
      if code = "" then .refused id .invalid else .parsed id (.analyzeWithDepth code depth) := by
  rw [answer, givenCode, filter_ne_empty]
  by_cases hcode : code = ""
  · rw [if_pos hcode, if_pos hcode]
  · rw [if_neg hcode, if_neg hcode]

theorem answer_evaluate [Syntax.Language] (id code checker : String) (depth : Nat) :
    answer { type := .evaluate, id, code := some code, checker := some checker } depth =
      if code = "" ∨ checker = "" then .refused id .invalid
      else .evaluated id (Checker.evaluate (.analyzeWithDepth code depth) checker) := by
  rw [answer, givenCode, givenChecker, filter_ne_empty, filter_ne_empty]
  by_cases hcode : code = ""
  · rw [if_pos hcode, if_pos (Or.inl hcode)]
  · by_cases hchecker : checker = ""
    · rw [if_neg hcode, if_pos hchecker, if_pos (Or.inr hchecker)]
    · rw [if_neg hcode, if_neg hchecker, if_neg (by simp [hcode, hchecker])]

end Request

namespace Analysis

/-- A checker that is not empty has one verdict on code, whether a grader runs it as a test case,
the host answers a request, or the service evaluates it on the spot. The context of the code is the
same for a grader and for the host as well. The grader may be new or may have run before, if only
its cache was not given contexts of the code by others. -/
theorem verdict_on_every_path [Syntax.Language] [Pattern.Dialect] (config : GraderConfig)
    {code : String} (hcode : code ≠ "") :
    Grader.HoldsOwn config code config.newCache? ∧
    ∀ cache, Grader.HoldsOwn config code cache →
      (∀ description id checker, checker ≠ "" → ∃ passed,
        (Grader.runAll config cache code [⟨description, .ast (some checker)⟩]).1.map (·.passed) =
          [passed] ∧
        (Request.answer { type := .evaluate, id, code := some code, checker := some checker }
          config.maxNestingDepth).passed = some passed ∧
        evaluateChecker config.maxNestingDepth code checker = .ok passed) ∧
      (∀ id checker,
        (Request.answer { type := .parse, id, code := some code, checker }
          config.maxNestingDepth).result = some (Grader.contextFor config cache code).1) ∧
      ∀ other cases, (Digest.ofText other = .ofText code → other = code) →
        Grader.HoldsOwn config code (Grader.runAll config cache other cases).2.cache := by
  refine ⟨Grader.holdsOwn_newCache? config code, fun cache hcache =>
    ⟨fun description id checker hchecker => ?_, fun id checker => ?_,
      fun other cases hdigest => hcache.runAll hdigest cases⟩⟩
  · refine ⟨Checker.evaluate (.analyzeWithDepth code config.maxNestingDepth) checker, ?_, ?_, ?_⟩
    · rw [← Checker.isPass_judgeContext, ← hcache.contextFor_eq]
      simp only [Grader.runAll, Grader.runAllWith_eq]
      rfl
    · rw [Request.answer_evaluate, if_neg (by simp [hcode, hchecker])]
      rfl
    · rw [evaluateChecker, if_neg (by simp [hcode, hchecker])]
  · rw [Request.answer_parse, if_neg hcode, hcache.contextFor_eq]
    rfl

theorem verdict_on_every_path_of_blank_checker :
    let config : GraderConfig := { maxNestingDepth := 3, cacheCapacity := 1 }
    "(" ≠ "" ∧ " " ≠ "" ∧ Grader.HoldsOwn config "(" config.newCache? ∧
    ∃ passed,
      (Grader.runAll config config.newCache? "(" [⟨"blank", .ast (some " ")⟩]).1.map (·.passed) =
        [passed] ∧
      (Request.answer { type := .evaluate, id := "a", code := some "(", checker := some " " }
        config.maxNestingDepth).passed = some passed ∧
      evaluateChecker config.maxNestingDepth "(" " " = .ok passed := by
  intro config
  have hcode : "(" ≠ "" := by decide
  have hchecker : " " ≠ "" := by decide
  obtain ⟨hnew, hpaths⟩ := verdict_on_every_path config hcode
  exact ⟨hcode, hchecker, hnew, (hpaths _ hnew).1 "blank" "a" " " hchecker⟩

end Analysis

end SubmissionGrader
