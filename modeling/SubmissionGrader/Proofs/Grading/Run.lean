import SubmissionGrader.Grading.Grader
import Mathlib.Logic.Equiv.Defs

/-!
# What a run answers

A run is a function of the context of its source, which it asks for at the first
case that needs it and never again: `runSuite_eq` says so in any monad that can make
a context. Without a cache the context is the analysis of the source, so each result
is `resultOn`, a function of the configuration, the source and the case.
-/

namespace SubmissionGrader

/-- What a reporter is told: a result with the index of its case, or all results. -/
inductive Notice where
  | case (index : Nat) (result : TestResult)
  | suite (results : List TestResult)

def Reporter.hear {σ : Type} (reporter : Reporter σ) (report : σ) : Notice → σ
  | .case index result => reporter.onCase index result report
  | .suite results => reporter.onSuite results report

namespace Grader

/-- The notices about several results, of which the first one has the given index. -/
def caseNotices (index : Nat) (results : List TestResult) : List Notice :=
  results.mapIdx fun i result => .case (index + i) result

theorem caseNotices_nil (index : Nat) : caseNotices index [] = [] := rfl

theorem caseNotices_cons (index : Nat) (result : TestResult) (results : List TestResult) :
    caseNotices index (result :: results) =
      .case index result :: caseNotices (index + 1) results := by
  simp [caseNotices, List.mapIdx_cons, Nat.add_comm 1, Nat.add_assoc]

/-- The notices of a whole run: each result in order, and then all of them once. -/
def notices (results : List TestResult) : List Notice :=
  results.mapIdx .case ++ [.suite results]

theorem caseNotices_zero (results : List TestResult) :
    caseNotices 0 results = results.mapIdx .case := by
  simp [caseNotices]

section Results

variable [Pattern.Dialect] (config : GraderConfig) (source : String)

def outcomeIn (context : FeatureContext) (c : TestCase) : Except Crash Verdict :=
  match c.kind with
  | .ast checker => .ok (judgeContext checker context)
  | .pattern pattern least => .ok (judgePattern config source pattern least)
  | .runtime validator => judgeRuntime source validator
  | .unknown tag => .ok (.unknownType tag)

def resultIn (context : FeatureContext) (c : TestCase) : TestResult :=
  .ofVerdict c.description (contained (outcomeIn config source context c))

def resultOn [Syntax.Language] (c : TestCase) : TestResult :=
  resultIn config source (.analyzeWithDepth source config.maxNestingDepth) c

/-- Only the cases that the context decides depend on it. -/
theorem resultIn_congr {c : TestCase} (h : c.kind.isAst = false) (x y : FeatureContext) :
    resultIn config source x c = resultIn config source y c := by
  obtain ⟨description, kind⟩ := c
  cases kind with
  | ast checker => cases h
  | _ => rfl

theorem map_resultIn_congr {cases : List TestCase} (h : cases.any (·.kind.isAst) = false)
    (x y : FeatureContext) :
    cases.map (resultIn config source x) = cases.map (resultIn config source y) := by
  refine List.map_congr_left fun c hc => resultIn_congr config source ?_ x y
  simpa using List.any_eq_false.1 h c hc

theorem resultOn_crashed [Syntax.Language] {c : TestCase} {validator : Validator}
    {message : Option String}
    (hkind : c.kind = .runtime (some validator)) (h : validator source = .crashed message) :
    resultOn config source c =
      .fail c.description ("Test error: " ++ message.getD "Unknown error") := by
  rw [resultOn, resultIn, outcomeIn, hkind]
  simp only [judgeRuntime, h]
  rfl

end Results

/-! ## One question for the context -/

section Run

variable [Pattern.Dialect] {m : Type → Type} [Monad m] [LawfulMonad m] {σ : Type}
variable (config : GraderConfig) (source : String) (make : m FeatureContext)

/-- The context at hand after some cases, if there is one. -/
def slotAfter (cases : List TestCase) : Option FeatureContext → m (Option FeatureContext)
  | some context => pure (some context)
  | none => if cases.any (·.kind.isAst) then some <$> make else pure none

theorem run_runCase (c : TestCase) (slot : Option FeatureContext) :
    (runCase config source make c).run slot =
      (fun slot => (resultIn config source (slot.getD default) c, slot)) <$>
        slotAfter make [c] slot := by
  obtain ⟨description, kind⟩ := c
  cases kind with
  | ast checker =>
      cases slot <;>
        simp [runCase, judge, askContext, slotAfter, resultIn, outcomeIn, TestKind.isAst]
  | _ => cases slot <;> simp [runCase, judge, slotAfter, resultIn, outcomeIn, TestKind.isAst]

/-- What a run makes of cases in a context: the results and the state of its reporter. -/
def answerIn (reporter : Reporter σ) (index : Nat) (cases : List TestCase) (report : σ)
    (context : FeatureContext) : List TestResult × σ :=
  let results := cases.map (resultIn config source context)
  (results, (caseNotices index results).foldl reporter.hear report)

theorem answerIn_cons (reporter : Reporter σ) (index : Nat) (c : TestCase) (cases : List TestCase)
    (report : σ) (context : FeatureContext) :
    answerIn config source reporter index (c :: cases) report context =
      let result := resultIn config source context c
      let (results, report) := answerIn config source reporter (index + 1) cases
        (reporter.onCase index result report) context
      (result :: results, report) := by
  simp [answerIn, caseNotices_cons, Reporter.hear]

/-- The first case that needs the context fills the slot, and all later ones find it there. -/
theorem run_runCases (reporter : Reporter σ) (index : Nat) (cases : List TestCase) (report : σ)
    (slot : Option FeatureContext) :
    (runCases config source make reporter index cases report).run slot =
      (fun slot =>
        (answerIn config source reporter index cases report (slot.getD default), slot)) <$>
        slotAfter make cases slot := by
  induction cases generalizing index report slot with
  | nil => cases slot <;> simp [runCases, slotAfter, answerIn, caseNotices_nil]
  | cons c cases ih =>
      simp only [runCases, StateT.run_bind, run_runCase, ih]
      cases slot with
      | some context => simp [slotAfter, answerIn_cons]
      | none =>
          by_cases hc : c.kind.isAst = true
          · simp [slotAfter, answerIn_cons, hc]
          · -- This case does not look at the slot, so it does not matter what will be in it.
            have hresult : ∀ slot : Option FeatureContext,
                resultIn config source (slot.getD default) c = resultIn config source default c :=
              fun slot => resultIn_congr config source (by simpa using hc) _ _
            simp [slotAfter, answerIn_cons, hc, hresult]

/-- A run asks for the context if a case needs it, once, and answers by that context. -/
theorem runSuite_eq (reporter : Reporter σ) (report : σ) (cases : List TestCase) :
    runSuite config source make reporter report cases =
      (fun context =>
        let results := cases.map (resultIn config source context)
        (results, (notices results).foldl reporter.hear report)) <$>
        if cases.any (·.kind.isAst) then make else pure default := by
  simp only [runSuite, run_runCases, slotAfter, answerIn, caseNotices_zero, notices]
  by_cases h : cases.any (·.kind.isAst) = true
  · simp [h, Reporter.hear]
  · simp [h, Reporter.hear]

end Run

/-! ## Runs of a grader -/

section Graded

variable [Syntax.Language] {σ : Type} (config : GraderConfig) (source : String)

theorem makeContext_uncached :
    (makeContext config source { cache := none }).1 =
      .analyzeWithDepth source config.maxNestingDepth := rfl

variable [Pattern.Dialect]

theorem runAllWith_eq (reporter : Reporter σ) (report : σ) (cache : Option ContextCache)
    (cases : List TestCase) :
    runAllWith config reporter report cache source cases =
      let asked :=
        if cases.any (·.kind.isAst) then makeContext config source { cache }
        else (default, { cache })
      let results := cases.map (resultIn config source asked.1)
      (results, asked.2, (notices results).foldl reporter.hear report) := by
  rw [runAllWith, runSuite_eq]
  cases h : cases.any (·.kind.isAst) <;> rfl

/-- If the context is the analysis of the source, then nothing else in a run counts. -/
theorem runAllWith_of_makeContext (reporter : Reporter σ) (report : σ)
    (cache : Option ContextCache) (cases : List TestCase)
    (h : (makeContext config source { cache }).1 =
      .analyzeWithDepth source config.maxNestingDepth) :
    let run := runAllWith config reporter report cache source cases
    let results := cases.map (resultOn config source)
    run.1 = results ∧ run.2.2 = (notices results).foldl reporter.hear report := by
  have hresults (context : FeatureContext) (hcontext : cases.any (·.kind.isAst) = true →
        context = .analyzeWithDepth source config.maxNestingDepth) :
      cases.map (resultIn config source context) = cases.map (resultOn config source) := by
    cases hast : cases.any (·.kind.isAst) with
    | true => rw [hcontext hast]; rfl
    | false => exact map_resultIn_congr config source hast _ _
  rw [runAllWith_eq]
  dsimp only
  rw [hresults _ fun hast => by rw [if_pos hast, h]]
  exact ⟨rfl, rfl⟩

theorem runAll_uncached (cases : List TestCase) :
    (runAll config none source cases).1 = cases.map (resultOn config source) :=
  (runAllWith_of_makeContext config source .silent () none cases
    (makeContext_uncached config source)).1

/-- Without a cache, the result of a case is a function of the configuration, the source and the
case. So results go along with their cases when suites are joined or their cases are put in
another order, and a crash counts for its own case only. A reporter changes no result. It is
told each of them once, in order, and at the end all of them. -/
theorem runAll_casewise :
    (∀ cases, (runAll config none source cases).1 = cases.map (resultOn config source) ∧
      (runAll config none source cases).1.map (·.description) = cases.map (·.description)) ∧
    (∀ before after, (runAll config none source (before ++ after)).1 =
      (runAll config none source before).1 ++ (runAll config none source after).1) ∧
    (∀ (cases : List TestCase) (order : Equiv.Perm (Fin cases.length)) (i : Fin cases.length),
      (runAll config none source (List.ofFn fun i => cases[order i])).1[i]? =
        (runAll config none source cases).1[order i]?) ∧
    (∀ before c after validator message, c.kind = .runtime (some validator) →
      validator source = .crashed message →
        (runAll config none source (before ++ c :: after)).1 =
          (runAll config none source before).1 ++
            .fail c.description ("Test error: " ++ message.getD "Unknown error") ::
              (runAll config none source after).1) ∧
    ∀ {σ : Type} (reporter : Reporter σ) (report : σ) cases,
      let run := runAllWith config reporter report none source cases
      let results := (runAll config none source cases).1
      run.1 = results ∧ run.2.2 = (notices results).foldl reporter.hear report := by
  have hrun := runAll_uncached config source
  refine ⟨fun cases => ⟨hrun cases, ?_⟩, fun before after => ?_, fun cases order i => ?_, ?_, ?_⟩
  · rw [hrun, List.map_map]
    rfl
  · rw [hrun, hrun, hrun, List.map_append]
  · rw [hrun, hrun]
    simp
  · intro before c after validator message hkind hcrashed
    rw [hrun, hrun, hrun, List.map_append, List.map_cons,
      resultOn_crashed config source hkind hcrashed]
  · intro σ reporter report cases
    rw [hrun]
    exact runAllWith_of_makeContext config source reporter report none cases
      (makeContext_uncached config source)

end Graded

theorem runAll_crash_in_the_middle :
    (runAll {} none "x"
      [⟨"first", .unknown "odd"⟩, ⟨"second", .runtime (some fun _ => .crashed (some "boom"))⟩,
       ⟨"third", .ast none⟩]).1 =
      [.fail "first" "Unknown test type: odd", .fail "second" "Test error: boom",
       .fail "third" "No checker expression provided"] := by
  have h := runAll_casewise {} "x"
  have hcrash := h.2.2.2.1 [⟨"first", .unknown "odd"⟩]
    ⟨"second", .runtime (some fun _ => .crashed (some "boom"))⟩ [⟨"third", .ast none⟩]
    (fun _ => .crashed (some "boom")) (some "boom") rfl rfl
  rw [List.singleton_append] at hcrash
  rw [hcrash, (h.1 _).1, (h.1 _).1]
  rfl

end Grader

end SubmissionGrader
