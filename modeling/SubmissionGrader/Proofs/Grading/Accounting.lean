import SubmissionGrader.Proofs.Grading.Interference
import SubmissionGrader.Proofs.Grading.Recency

/-!
# What a run costs

A run asks for the context of its source at most once, whatever its cases are and however they end
(`map_runSuite_const`), so its cost is that of one question (`runAll_state`). A cache with room
counts each question as a hit or a miss, and a source is analyzed exactly where the question is a
miss (`counts_contextFor`). Over all calls on a new cache the counters are the numbers of questions
and of analyses (`History.Balanced`).
-/

namespace SubmissionGrader.Grader

variable {σ : Type}

/-! ## One question -/

/-- In any monad that can make a context, a run has the effects of making it once, if a case needs
it, and no others. -/
theorem map_runSuite_const [Pattern.Dialect] {m : Type → Type} [Monad m] [LawfulMonad m]
    (config : GraderConfig) (source : String) (make : m FeatureContext) (reporter : Reporter σ)
    (report : σ) (cases : List TestCase) :
    (fun _ => ()) <$> runSuite config source make reporter report cases =
      if cases.any (·.kind.isAst) then (fun _ => ()) <$> make else pure () := by
  rw [runSuite_eq, ← comp_map]
  cases cases.any (·.kind.isAst) with
  | true => rfl
  | false => exact map_pure _ _

section Question

variable [Syntax.Language] (config : GraderConfig) (source : String)

theorem contextFor_snd_of_no_room {c : ContextCache} (h : c.capacity = 0) :
    (contextFor config (some c) source).2 = (true, some c) := by
  rw [contextFor_cached, Cache.get, if_pos h]
  dsimp only
  rw [Cache.insert, if_pos h]

/-- A cache with room counts a question, and as a miss exactly if the source is analyzed. -/
theorem counts_contextFor {c : ContextCache} (hroom : c.capacity ≠ 0) :
    ∃ d computed, (contextFor config (some c) source).2 = (computed, some d) ∧
      computed = (c.get (.ofText source)).1.isNone ∧ d.capacity = c.capacity ∧
      d.hits + d.misses = c.hits + c.misses + 1 ∧ d.misses = c.misses + computed.toNat := by
  have hcounts := c.counts_perform hroom (.getOrInsert (.ofText source) fun _ =>
    .analyzeWithDepth source config.maxNestingDepth)
  rw [Cache.perform_getOrInsert] at hcounts
  rw [contextFor_cached]
  rcases hget : c.get (.ofText source) with ⟨_ | context, d⟩
  · rw [hget] at hcounts
    refine ⟨_, _, rfl, rfl, hcounts.capacity, ?_, hcounts.misses⟩
    rw [hcounts.hits, hcounts.misses]
    exact Nat.add_assoc _ _ 1
  · rw [hget] at hcounts
    refine ⟨_, _, rfl, rfl, hcounts.capacity, ?_, hcounts.misses⟩
    rw [hcounts.hits, hcounts.misses]
    exact Nat.add_right_comm _ 1 _

variable [Pattern.Dialect]

/-- The state after a run is that after one question, or the one before the run. -/
theorem runAllWith_state (reporter : Reporter σ) (report : σ) (cache : Option ContextCache)
    (cases : List TestCase) :
    (runAllWith config reporter report cache source cases).2.1 =
      if cases.any (·.kind.isAst) then
        let asked := contextFor config cache source
        { cache := asked.2.2, lookups := 1, analyses := asked.2.1.toNat }
      else { cache } := by
  rw [runAllWith_eq]
  cases cases.any (·.kind.isAst) with
  | true =>
    have hstate : (makeContext config source { cache }).2 =
        { cache := (contextFor config cache source).2.2, lookups := 1
          analyses := 0 + (contextFor config cache source).2.1.toNat } := rfl
    rw [Nat.zero_add] at hstate
    exact hstate
  | false => rfl

theorem runAll_state (cache : Option ContextCache) (cases : List TestCase) :
    (runAll config cache source cases).2 =
      if cases.any (·.kind.isAst) then
        let asked := contextFor config cache source
        { cache := asked.2.2, lookups := 1, analyses := asked.2.1.toNat }
      else { cache } :=
  runAllWith_state config source .silent () cache cases

end Question

/-! ## All calls -/

namespace History

/-- A cache that has counted the given number of questions, and a miss for each analysis. -/
structure Balanced (capacity questions : Nat) (h : History) (c : ContextCache) : Prop where
  cache_eq : h.cache = some c
  capacity_eq : c.capacity = capacity
  questions_eq : c.hits + c.misses = questions
  analyses_eq : c.misses = h.analyses.length

variable [Syntax.Language] [Pattern.Dialect]
variable {capacity questions : Nat} {h : History} {c : ContextCache}

theorem Balanced.perform (hh : h.Balanced capacity questions c) (hroom : capacity ≠ 0)
    (call : Call σ) :
    ∃ d, (h.perform call).Balanced capacity (call.asks.isSome.toNat + questions) d := by
  rw [History.perform]
  cases call.course with
  | asking config source hasks hprogram hanswer =>
    have hcapacity : c.capacity ≠ 0 := hh.capacity_eq.symm ▸ hroom
    obtain ⟨d, computed, hasked, -, hkept, hquestions, hmisses⟩ :=
      counts_contextFor config source hcapacity
    rw [hasks, hanswer, hh.cache_eq]
    refine ⟨d, by rw [hasked], hkept.trans hh.capacity_eq, ?_, ?_⟩
    · rw [hquestions, hh.questions_eq]
      exact Nat.add_comm _ 1
    · dsimp only
      rw [analysesAfter, hh.cache_eq, hasked, hmisses, hh.analyses_eq]
      cases computed <;> rfl
  | immediate hasks hprogram hanswer =>
    rw [hasks, hanswer]
    exact ⟨c, hh.cache_eq, hh.capacity_eq, hh.questions_eq.trans (Nat.zero_add _).symm,
      hh.analyses_eq⟩
  | clearing hcall =>
    subst hcall
    refine ⟨c.clear, ?_, hh.capacity_eq, hh.questions_eq.trans (Nat.zero_add _).symm,
      hh.analyses_eq⟩
    rw [Call.answer, hh.cache_eq]
    rfl

theorem Balanced.foldl_perform (hh : h.Balanced capacity questions c) (hroom : capacity ≠ 0)
    (calls : List (Call σ)) : ∃ d, (calls.foldl History.perform h).Balanced capacity
      (calls.countP (·.asks.isSome) + questions) d := by
  induction calls generalizing h c questions with
  | nil => exact ⟨c, by simpa using hh⟩
  | cons call calls ih =>
    obtain ⟨d, hd⟩ := hh.perform hroom call
    rw [countP_cons_toNat, Nat.add_comm (call.asks.isSome.toNat), Nat.add_assoc]
    exact ih hd

/-- A cache with room for something counts the questions of all calls, the misses among them being
the analyses. -/
theorem balanced_ofCalls (hroom : capacity ≠ 0) (calls : List (Call σ)) :
    ∃ d, (ofCalls capacity calls).Balanced capacity (calls.countP (·.asks.isSome)) d :=
  Balanced.foldl_perform (c := .new capacity) ⟨rfl, rfl, rfl, rfl⟩ hroom calls

end History

/-- A run asks for the context of its source once if one of its cases needs it, and else never,
whatever the cases are and however their judges end. A cache with room counts a question once, and
the source is analyzed exactly if the question is a miss; without a cache, or without room in it,
every question is answered by an analysis. So the counters of a cache are those of all questions
and of all analyses before. -/
theorem run_accounting [Syntax.Language] [Pattern.Dialect] (config : GraderConfig) (source : String)
    (cases : List TestCase) :
    let asks := cases.any (·.kind.isAst)
    let state (cache : Option ContextCache) := (runAll config cache source cases).2
    (∀ (m : Type → Type) [Monad m] [LawfulMonad m] (make : m FeatureContext) (σ : Type)
      (reporter : Reporter σ) (report : σ),
        (fun _ => ()) <$> runSuite config source make reporter report cases =
          if asks then (fun _ => ()) <$> make else pure ()) ∧
    (∀ cache, (state cache).lookups = asks.toNat ∧
      ∀ (σ : Type) (reporter : Reporter σ) (report : σ),
        (runAllWith config reporter report cache source cases).2.1 = state cache) ∧
    (state none).analyses = asks.toNat ∧
    (∀ c : ContextCache, c.capacity = 0 →
      (state (some c)).analyses = asks.toNat ∧ (state (some c)).cache = some c) ∧
    (∀ c : ContextCache, c.capacity ≠ 0 → ∃ d, (state (some c)).cache = some d ∧
      d.hits + d.misses = c.hits + c.misses + asks.toNat ∧
      d.misses = c.misses + (state (some c)).analyses ∧
      (state (some c)).analyses = (asks && (c.get (.ofText source)).1.isNone).toNat) ∧
    ∀ (σ : Type) (capacity : Nat) (calls : List (Call σ)), capacity ≠ 0 →
      ∃ c, (History.ofCalls capacity calls).cache = some c ∧
        c.hits + c.misses = calls.countP (·.asks.isSome) ∧
        c.misses = (History.ofCalls capacity calls).analyses.length := by
  intro asks state
  have hstate (cache : Option ContextCache) : state cache = if asks then
      { cache := (contextFor config cache source).2.2, lookups := 1
        analyses := (contextFor config cache source).2.1.toNat }
      else { cache } := runAll_state config source cache cases
  refine ⟨fun m _ _ make σ reporter report => ?_, fun cache => ⟨?_, ?_⟩, ?_, ?_, ?_, ?_⟩
  · exact map_runSuite_const config source make reporter report cases
  · rw [hstate]
    cases asks <;> rfl
  · intro σ reporter report
    exact (runAllWith_state config source reporter report cache cases).trans (hstate cache).symm
  · rw [hstate]
    cases asks <;> rfl
  · intro c hroom
    rw [hstate, contextFor_snd_of_no_room config source hroom]
    cases asks <;> exact ⟨rfl, rfl⟩
  · intro c hroom
    obtain ⟨d, computed, hasked, hcomputed, -, hquestions, hmisses⟩ :=
      counts_contextFor config source hroom
    rw [hstate, hasked, ← hcomputed]
    cases asks with
    | true => exact ⟨d, rfl, hquestions, hmisses, rfl⟩
    | false => exact ⟨c, rfl, rfl, rfl, rfl⟩
  · intro σ capacity calls hroom
    obtain ⟨c, hc⟩ := History.balanced_ofCalls hroom calls
    exact ⟨c, hc.cache_eq, hc.questions_eq, hc.analyses_eq⟩

/-- A case without a checker asks for the context, once, though a validator crashes before it and
another case asks again. -/
theorem run_accounting_crash_before_question :
    let cases : List TestCase :=
      [⟨"first", .runtime (some fun _ => .crashed none)⟩, ⟨"second", .ast none⟩,
        .ast "third" "hasJSX"]
    let counted : StateM Nat FeatureContext := do modify (· + 1); return default
    (Cache.new 1 : ContextCache).capacity ≠ 0 ∧
      ((fun _ => ()) <$> runSuite {} "x" counted .silent () cases).run 0 = ((), 1) ∧
      ∃ d, (runAll {} (some (.new 1)) "x" cases).2.cache = some d ∧ d.hits + d.misses = 1 ∧
        d.misses = (runAll {} (some (.new 1)) "x" cases).2.analyses ∧
        (runAll {} (some (.new 1)) "x" cases).2.analyses = 1 := by
  intro cases counted
  have hroom : (Cache.new 1 : ContextCache).capacity ≠ 0 := by decide
  obtain ⟨hmonad, -, -, -, hcached, -⟩ := run_accounting {} "x" cases
  obtain ⟨d, hd, hquestions, hmisses, hanalyses⟩ := hcached (.new 1) hroom
  refine ⟨hroom, ?_, d, hd, hquestions, ?_, ?_⟩
  · rw [hmonad (StateM Nat) counted Unit .silent ()]
    rfl
  · rw [hmisses]
    exact Nat.zero_add _
  · rw [hanalyses, Cache.get_new]
    rfl

end SubmissionGrader.Grader
