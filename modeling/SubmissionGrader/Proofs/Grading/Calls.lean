import SubmissionGrader.Proofs.Grading.Run
import Mathlib.Logic.Function.Conjugate
import Mathlib.Logic.Function.Iterate

/-!
# Calls of graders

`Call.answer` is what a call of a grader answers when nothing else happens meanwhile. With a
cache, a call is also a program: it looks the context up, analyzes the source if there is none, and
stores the context. Other callers may come in between, so each of these is a step of its own. The
steps of an undisturbed call come to `Call.answer`: `iterate_step_program`.
-/

namespace SubmissionGrader.Grader

/-! ## Programs -/

/-- What is left of a call: its answer, or a step and what follows it. -/
inductive Program (α : Type) where
  | done (answer : α)
  | lookUp (source : String) (next : Option FeatureContext → Program α)
  | analyze (source : String) (limit : Nat) (next : FeatureContext → Program α)
  | store (source : String) (context : FeatureContext) (next : Program α)
  | clear (next : Program α)

namespace Program

variable {α β γ : Type}

def bind : Program α → (α → Program β) → Program β
  | done answer, f => f answer
  | lookUp source next, f => lookUp source fun found => (next found).bind f
  | analyze source limit next, f => analyze source limit fun context => (next context).bind f
  | store source context next, f => store source context (next.bind f)
  | clear next, f => clear (next.bind f)

instance : Monad Program where
  pure := done
  bind := bind

theorem bind_done (p : Program α) : p.bind done = p := by
  induction p with
  | done answer => rfl
  | lookUp source next ih => exact congrArg (lookUp source) (funext ih)
  | analyze source limit next ih => exact congrArg (analyze source limit) (funext ih)
  | store source context next ih => exact congrArg (store source context) ih
  | clear next ih => exact congrArg clear ih

theorem bind_assoc (p : Program α) (f : α → Program β) (g : β → Program γ) :
    (p.bind f).bind g = p.bind fun answer => (f answer).bind g := by
  induction p with
  | done answer => rfl
  | lookUp source next ih => exact congrArg (lookUp source) (funext ih)
  | analyze source limit next ih => exact congrArg (analyze source limit) (funext ih)
  | store source context next ih => exact congrArg (store source context) ih
  | clear next ih => exact congrArg clear ih

instance : LawfulMonad Program :=
  LawfulMonad.mk' Program bind_done (fun _ _ => rfl) bind_assoc

variable [Syntax.Language]

/-- The next step of a program, and what it makes of the cache. -/
def step : Program α × ContextCache → Program α × ContextCache
  | (done answer, cache) => (done answer, cache)
  | (lookUp source next, cache) =>
    let (found, cache) := cache.get (.ofText source)
    (next found, cache)
  | (analyze source limit next, cache) => (next (.analyzeWithDepth source limit), cache)
  | (store source context next, cache) => (next, cache.insert (.ofText source) context)
  | (clear next, cache) => (next, cache.clear)

theorem step_map (f : α → β) (p : Program α) (cache : ContextCache) :
    step (f <$> p, cache) = (step (p, cache)).map (f <$> ·) id := by
  cases p <;> rfl

theorem iterate_step_map (f : α → β) (n : Nat) (p : Program α) (cache : ContextCache) :
    step^[n] (f <$> p, cache) = (step^[n] (p, cache)).map (f <$> ·) id :=
  (Function.Semiconj.iterate_right (f := Prod.map (f <$> ·) id)
    (fun s : Program α × ContextCache => (step_map f s.1 s.2).symm) n (p, cache)).symm

theorem iterate_step_done (n : Nat) (answer : α) (cache : ContextCache) :
    step^[n] (done answer, cache) = (done answer, cache) :=
  Function.iterate_fixed rfl n

/-- Asks the cache for the context of a source, or makes it and leaves it there. -/
def context (config : GraderConfig) (source : String) : Program FeatureContext :=
  lookUp source fun
    | some context => done context
    | none =>
      analyze source config.maxNestingDepth fun context => store source context (done context)

end Program

/-! ## Calls -/

inductive Call (σ : Type) where
  | runAll (config : GraderConfig) (source : String) (cases : List TestCase)
  | runAllWith (config : GraderConfig) (reporter : Reporter σ) (report : σ) (source : String)
      (cases : List TestCase)
  | contextFor (config : GraderConfig) (source : String)
  | clear

inductive Answer (σ : Type) where
  | results (results : List TestResult)
  | report (results : List TestResult) (report : σ)
  | context (context : FeatureContext)
  | cleared

namespace Call

variable [Syntax.Language] [Pattern.Dialect] {σ : Type}

def asks : Call σ → Option (GraderConfig × String)
  | runAll config source cases => if cases.any (·.kind.isAst) then some (config, source) else none
  | runAllWith config _ _ source cases =>
    if cases.any (·.kind.isAst) then some (config, source) else none
  | contextFor config source => some (config, source)
  | clear => none

def asked (calls : Set (Call σ)) : Set String :=
  {source | ∃ call ∈ calls, ∃ config, call.asks = some (config, source)}

/-- The answer to a call if nothing else happens meanwhile, and the cache afterwards. -/
def answer (cache : Option ContextCache) : Call σ → Answer σ × Option ContextCache
  | runAll config source cases =>
    let (results, s) := Grader.runAll config cache source cases
    (.results results, s.cache)
  | runAllWith config reporter report source cases =>
    let (results, s, report) := Grader.runAllWith config reporter report cache source cases
    (.report results report, s.cache)
  | contextFor config source =>
    let (context, _, cache) := Grader.contextFor config cache source
    (.context context, cache)
  | clear => (.cleared, cache.map Cache.clear)

/-- The steps of a call of a grader that has a cache. -/
def program : Call σ → Program (Answer σ)
  | runAll config source cases => do
    let (results, _) ← runSuite config source (Program.context config source) .silent () cases
    return .results results
  | runAllWith config reporter report source cases => do
    let (results, report) ←
      runSuite config source (Program.context config source) reporter report cases
    return .report results report
  | contextFor config source => Answer.context <$> Program.context config source
  | clear => .clear (.done .cleared)

/-- What a call answers with a context. Only a call that asks for one depends on it. -/
def answerWith (context : FeatureContext) : Call σ → Answer σ
  | runAll config source cases => .results (cases.map (resultIn config source context))
  | runAllWith config reporter report source cases =>
    let results := cases.map (resultIn config source context)
    .report results ((notices results).foldl reporter.hear report)
  | contextFor _ _ => .context context
  | clear => .cleared

/-- The course of a call: it asks for a context and answers by it, or it answers at once, or it
clears the cache. -/
inductive Course (call : Call σ) : Prop where
  | asking (config : GraderConfig) (source : String) (hasks : call.asks = some (config, source))
      (hprogram : call.program = (call.answerWith ·) <$> Program.context config source)
      (hanswer : ∀ cache, call.answer cache =
        (call.answerWith (Grader.contextFor config cache source).1,
          (Grader.contextFor config cache source).2.2))
  | immediate (hasks : call.asks = none) (hprogram : call.program = .done (call.answerWith default))
      (hanswer : ∀ cache, call.answer cache = (call.answerWith default, cache))
  | clearing (hcall : call = .clear)

/-- A run asks for the context if one of its cases needs it. -/
theorem Course.of_run {call : Call σ} {config : GraderConfig} {source : String}
    {cases : List TestCase}
    (hasks : call.asks = if cases.any (·.kind.isAst) then some (config, source) else none)
    (hprogram : call.program = (call.answerWith ·) <$>
      if cases.any (·.kind.isAst) then Program.context config source else pure default)
    (hanswer : ∀ cache, call.answer cache =
      let asked :=
        if cases.any (·.kind.isAst) then makeContext config source { cache }
        else (default, { cache })
      (call.answerWith asked.1, asked.2.cache)) : call.Course := by
  cases hast : cases.any (·.kind.isAst) with
  | true =>
    rw [hast, if_pos rfl] at hasks hprogram
    refine .asking config source hasks hprogram fun cache => ?_
    rw [hanswer, hast]
    rfl
  | false =>
    rw [hast, if_neg Bool.false_ne_true] at hasks hprogram
    refine .immediate hasks hprogram fun cache => ?_
    rw [hanswer, hast]
    rfl

theorem course (call : Call σ) : call.Course := by
  cases call with
  | runAll config source cases =>
    refine .of_run rfl ?_ fun cache => ?_
    · simp [program, runSuite_eq, answerWith]
    · rw [answer, Grader.runAll, runAllWith_eq]
      rfl
  | runAllWith config reporter report source cases =>
    refine .of_run rfl ?_ fun cache => ?_
    · simp [program, runSuite_eq, answerWith]
    · rw [answer, runAllWith_eq]
      rfl
  | contextFor config source => exact .asking config source rfl rfl fun _ => rfl
  | clear => exact .clearing rfl

end Call

section Undisturbed

variable [Syntax.Language]

theorem contextFor_cached (config : GraderConfig) (cache : ContextCache) (source : String) :
    contextFor config (some cache) source =
      match cache.get (.ofText source) with
      | (some context, cache) => (context, false, some cache)
      | (none, cache) =>
        let context := FeatureContext.analyzeWithDepth source config.maxNestingDepth
        (context, true, some (cache.insert (.ofText source) context)) := by
  simp only [contextFor, Cache.getOrInsert]
  rcases cache.get (.ofText source) with ⟨_ | context, after⟩ <;> rfl

theorem iterate_step_context (config : GraderConfig) (cache : ContextCache) (source : String) :
    ∃ context computed after,
      contextFor config (some cache) source = (context, computed, some after) ∧
      Program.step^[3] (Program.context config source, cache) = (.done context, after) := by
  rw [contextFor_cached]
  cases hget : cache.get (.ofText source) with
  | mk found after =>
    cases found with
    | none =>
      refine ⟨_, _, _, rfl, ?_⟩
      simp only [Function.iterate_succ_apply, Program.step, Program.context, hget]
      rfl
    | some context =>
      refine ⟨_, _, _, rfl, ?_⟩
      simp only [Function.iterate_succ_apply, Program.step, Program.context, hget]
      rfl

/-- The steps of an undisturbed call come to its answer. -/
theorem iterate_step_program [Pattern.Dialect] {σ : Type} (cache : ContextCache) (call : Call σ) :
    ∃ answer after, call.answer (some cache) = (answer, some after) ∧
      Program.step^[3] (call.program, cache) = (.done answer, after) := by
  cases call.course with
  | asking config source hasks hprogram hanswer =>
    obtain ⟨context, computed, after, hcontext, hsteps⟩ :=
      iterate_step_context config cache source
    refine ⟨call.answerWith context, after, ?_, ?_⟩
    · rw [hanswer, hcontext]
    · rw [hprogram, Program.iterate_step_map, hsteps]
      rfl
  | immediate hasks hprogram hanswer =>
    rw [hprogram, Program.iterate_step_done]
    exact ⟨_, cache, hanswer _, rfl⟩
  | clearing hcall =>
    subst hcall
    exact ⟨.cleared, cache.clear, rfl, rfl⟩

end Undisturbed

end SubmissionGrader.Grader
