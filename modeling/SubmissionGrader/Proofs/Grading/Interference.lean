import SubmissionGrader.Proofs.Grading.Calls
import SubmissionGrader.Proofs.Grading.Contents
import SubmissionGrader.Proofs.Syntax.Nesting
import Mathlib.Data.Set.Function

/-!
# Graders of different limits on one cache

The key of a context is the digest of its source alone. So a grader is given the analysis under the
limit of whichever grader analyzed the source last: `contextFor_ofCalls`. Two graders keep apart on
a source only if the cache has no room or their limits make no difference to the source:
`independent_iff`.
-/

namespace SubmissionGrader.Grader

variable {σ : Type}

/-- A cache after some calls. The sources that were analyzed stand with the limits under which they
were, the last one first. -/
structure History where
  cache : Option ContextCache
  analyses : List (String × Nat) := []

namespace History

variable [Syntax.Language] [Pattern.Dialect]

/-- The analyses after a question for a context. -/
def analysesAfter (h : History) (config : GraderConfig) (source : String) : List (String × Nat) :=
  if (contextFor config h.cache source).2.1 then (source, config.maxNestingDepth) :: h.analyses
  else h.analyses

def perform (h : History) (call : Call σ) : History where
  cache := (call.answer h.cache).2
  analyses :=
    match call.asks with
    | some (config, source) => h.analysesAfter config source
    | none => h.analyses

def ofCalls (capacity : Nat) (calls : List (Call σ)) : History :=
  calls.foldl perform { cache := some (.new capacity) }

theorem ofCalls_concat (capacity : Nat) (calls : List (Call σ)) (call : Call σ) :
    ofCalls capacity (calls ++ [call]) = (ofCalls capacity calls).perform call := by
  rw [ofCalls, List.foldl_append]
  rfl

/-- A cache in which each of the sources has no other context than its last analysis. -/
structure Faithful (capacity : Nat) (sources : Set String) (h : History) (cache : ContextCache) :
    Prop where
  cache_eq : h.cache = some cache
  capacity_eq : cache.capacity = capacity
  last : cache.Holds fun key context => ∀ source ∈ sources, .ofText source = key →
    ∃ limit, h.analyses.lookup source = some limit ∧ context = .analyzeWithDepth source limit

variable {capacity : Nat} {sources : Set String} {h : History} {cache : ContextCache}

omit [Pattern.Dialect] in
/-- A context is looked up, or it is analyzed and stored and is the last one from then on. -/
theorem Faithful.contextFor (hh : h.Faithful capacity sources cache)
    (hdigest : Set.InjOn Digest.ofText sources) (config : GraderConfig) {source : String}
    (hsource : source ∈ sources) :
    (∃ after, Faithful capacity sources
      ⟨(Grader.contextFor config h.cache source).2.2, h.analysesAfter config source⟩ after) ∧
    ∃ limit, (h.analysesAfter config source).lookup source = some limit ∧
      (Grader.contextFor config h.cache source).1 = .analyzeWithDepth source limit := by
  obtain ⟨hfound, hafter⟩ := hh.last.get (.ofText source)
  have hcapacity := (cache.get_capacity (.ofText source)).trans hh.capacity_eq
  rw [analysesAfter, hh.cache_eq, contextFor_cached]
  rcases hget : cache.get (.ofText source) with ⟨_ | context, after⟩
  · rw [hget] at hafter hcapacity
    refine ⟨⟨_, rfl, (after.insert_capacity _ _).trans hcapacity, hafter.insert ?_ ?_⟩,
      config.maxNestingDepth, by simp, rfl⟩
    · intro other hother hsame
      obtain rfl := hdigest hother hsource hsame
      exact ⟨config.maxNestingDepth, by simp, rfl⟩
    · -- Another key belongs to another source, of which no new analysis was made.
      intro key context hkey hlast other hother hsame
      obtain ⟨limit, hlimit, hcontext⟩ := hlast other hother hsame
      have hne : (other == source) = false := by
        rw [beq_eq_false_iff_ne]
        rintro rfl
        exact hkey hsame.symm
      exact ⟨limit, by simpa [List.lookup_cons, hne] using hlimit, hcontext⟩
  · rw [hget] at hfound hafter hcapacity
    exact ⟨⟨after, rfl, hcapacity, hafter⟩, hfound context rfl source hsource rfl⟩

theorem Faithful.perform (hh : h.Faithful capacity sources cache)
    (hdigest : Set.InjOn Digest.ofText sources) {call : Call σ}
    (hcall : ∀ config source, call.asks = some (config, source) → source ∈ sources) :
    ∃ after, (h.perform call).Faithful capacity sources after := by
  rw [History.perform]
  cases call.course with
  | asking config source hasks hprogram hanswer =>
    rw [hasks, hanswer]
    exact (hh.contextFor hdigest config (hcall config source hasks)).1
  | immediate hasks hprogram hanswer =>
    rw [hasks, hanswer]
    exact ⟨cache, hh⟩
  | clearing hcall =>
    subst hcall
    refine ⟨cache.clear, ?_, hh.capacity_eq, hh.last.clear⟩
    rw [Call.answer, hh.cache_eq]
    rfl

theorem Faithful.foldl_perform (hh : h.Faithful capacity sources cache)
    (hdigest : Set.InjOn Digest.ofText sources) {calls : List (Call σ)}
    (hcalls : ∀ call ∈ calls, ∀ config source,
      call.asks = some (config, source) → source ∈ sources) :
    ∃ after, (calls.foldl History.perform h).Faithful capacity sources after := by
  induction calls generalizing h cache with
  | nil => exact ⟨cache, hh⟩
  | cons call calls ih =>
    obtain ⟨after, hafter⟩ := hh.perform hdigest (hcalls call List.mem_cons_self)
    exact ih hafter fun other hother => hcalls other (List.mem_cons_of_mem call hother)

/-- Each analysis was made for a call that asked for it. -/
theorem mem_analyses_foldl {source : String} {limit : Nat} {calls : List (Call σ)}
    (hmem : (source, limit) ∈ (calls.foldl perform h).analyses) :
    (source, limit) ∈ h.analyses ∨ ∃ call ∈ calls, ∃ config,
      call.asks = some (config, source) ∧ config.maxNestingDepth = limit := by
  induction calls generalizing h with
  | nil => exact .inl hmem
  | cons call calls ih =>
    rcases ih hmem with hnow | ⟨other, hother, hasks⟩
    · rw [perform] at hnow
      cases hasks : call.asks with
      | none =>
        rw [hasks] at hnow
        exact .inl hnow
      | some asked =>
        rw [hasks] at hnow
        dsimp only [analysesAfter] at hnow
        split at hnow
        · rcases List.mem_cons.1 hnow with heq | hold
          · obtain ⟨rfl, rfl⟩ := Prod.mk.inj heq
            exact .inr ⟨call, List.mem_cons_self, asked.1, hasks, rfl⟩
          · exact .inl hold
        · exact .inl hnow
    · exact .inr ⟨other, List.mem_cons_of_mem call hother, hasks⟩

end History

/-! ## Two graders -/

open History

theorem injOn_asked_contextFor {β : Type} (config : GraderConfig) (source : String)
    (f : String → β) :
    Set.InjOn f (insert source
      (Call.asked {call | call ∈ [(.contextFor config source : Call σ)]})) := by
  have hall : ∀ other ∈ insert source
      (Call.asked {call | call ∈ [(.contextFor config source : Call σ)]}), other = source := by
    rintro other (rfl | ⟨call, hcall, c, hasks⟩)
    · rfl
    · obtain rfl := List.mem_singleton.1 hcall
      cases hasks
      rfl
  intro x hx y hy _
  rw [hall x hx, hall y hy]

section Graders

variable [Syntax.Language] [Pattern.Dialect]

/-- On a new cache that nobody else uses, each of two graders is given the analysis of a source
under its own limit, whatever both of them did before. -/
def Independent (σ : Type) (capacity : Nat) (a b : GraderConfig) (source : String) : Prop :=
  ∀ calls : List (Call σ),
    (∀ call ∈ calls, ∀ config other, call.asks = some (config, other) → config = a ∨ config = b) →
    Set.InjOn Digest.ofText (insert source (Call.asked {call | call ∈ calls})) →
    ∀ config, config = a ∨ config = b →
      (contextFor config (ofCalls capacity calls).cache source).1 =
        .analyzeWithDepth source config.maxNestingDepth

theorem faithful_ofCalls (capacity : Nat) {calls : List (Call σ)} {source : String}
    (hdigest : Set.InjOn Digest.ofText (insert source (Call.asked {call | call ∈ calls}))) :
    ∃ cache, (ofCalls capacity calls).Faithful capacity
      (insert source (Call.asked {call | call ∈ calls})) cache := by
  have hnew : Faithful capacity (insert source (Call.asked {call | call ∈ calls}))
      { cache := some (.new capacity) } (.new capacity) := ⟨rfl, rfl, .new capacity⟩
  refine hnew.foldl_perform hdigest fun call hcall config other hasks => ?_
  exact .inr ⟨call, hcall, config, hasks⟩

/-- A grader is given the last analysis of the source, under whosever limit it was made. -/
theorem contextFor_ofCalls (capacity : Nat) {calls : List (Call σ)} (config : GraderConfig)
    {source : String}
    (hdigest : Set.InjOn Digest.ofText (insert source (Call.asked {call | call ∈ calls}))) :
    ∃ limit,
      (ofCalls capacity (calls ++ [.contextFor config source])).analyses.lookup source =
        some limit ∧
      (contextFor config (ofCalls capacity calls).cache source).1 =
        .analyzeWithDepth source limit := by
  obtain ⟨cache, hcache⟩ := faithful_ofCalls capacity hdigest
  rw [ofCalls_concat]
  exact (hcache.contextFor hdigest config (.inl rfl)).2

/-- Among the calls of two graders, an analysis was made under the limit of one of them. -/
theorem limit_of_lookup {capacity limit : Nat} {a b config : GraderConfig} {source : String}
    {calls : List (Call σ)}
    (hcalls : ∀ call ∈ calls, ∀ config other,
      call.asks = some (config, other) → config = a ∨ config = b)
    (hconfig : config = a ∨ config = b)
    (hlimit : (ofCalls capacity (calls ++ [.contextFor config source])).analyses.lookup source =
      some limit) :
    ∃ other : GraderConfig, (other = a ∨ other = b) ∧ other.maxNestingDepth = limit := by
  obtain ⟨before, after, hsplit, -⟩ := List.lookup_eq_some_iff.1 hlimit
  have hmem :
      (source, limit) ∈ (ofCalls capacity (calls ++ [.contextFor config source])).analyses :=
    hsplit ▸ List.mem_append_right before List.mem_cons_self
  rcases mem_analyses_foldl hmem with hstart | ⟨call, hcall, other, hasks, hother⟩
  · cases hstart
  · refine ⟨other, ?_, hother⟩
    rcases List.mem_append.1 hcall with hold | hnew
    · exact hcalls call hold other source hasks
    · obtain rfl := List.mem_singleton.1 hnew
      cases hasks
      exact hconfig

omit [Pattern.Dialect] in
theorem contextFor_no_room (config : GraderConfig) {cache : ContextCache}
    (h : cache.capacity = 0) (source : String) :
    (contextFor config (some cache) source).1 =
      .analyzeWithDepth source config.maxNestingDepth := by
  rw [contextFor_cached, Cache.get, if_pos h]

omit [Pattern.Dialect] in
/-- With room for its context, the source is not analyzed again. -/
theorem contextFor_again (a b : GraderConfig) {capacity : Nat} (hroom : capacity ≠ 0)
    (source : String) :
    (contextFor b (contextFor a (some (.new capacity)) source).2.2 source).1 =
      .analyzeWithDepth source a.maxNestingDepth := by
  have hmiss := Cache.get_new (α := FeatureContext) capacity (Digest.ofText source)
  have hcapacity := (Cache.new capacity : ContextCache).get_capacity (.ofText source)
  rw [contextFor_cached a]
  rcases hget : (Cache.new capacity : ContextCache).get (.ofText source) with ⟨found, after⟩
  rw [hget] at hmiss hcapacity
  obtain rfl := hmiss
  have hafter : after.capacity ≠ 0 := hcapacity ▸ hroom
  have hhit := Cache.get_insert_self hafter (.ofText source)
    (FeatureContext.analyzeWithDepth source a.maxNestingDepth)
  dsimp only
  rw [contextFor_cached b]
  rcases hagain : (after.insert (.ofText source)
    (FeatureContext.analyzeWithDepth source a.maxNestingDepth)).get (.ofText source)
    with ⟨found, later⟩
  rw [hagain] at hhit
  obtain rfl := hhit
  rfl

theorem independent_iff (capacity : Nat) (a b : GraderConfig) (source : String) :
    Independent σ capacity a b source ↔ capacity = 0 ∨
      FeatureContext.analyzeWithDepth source a.maxNestingDepth =
        .analyzeWithDepth source b.maxNestingDepth := by
  constructor
  · intro h
    by_cases hroom : capacity = 0
    · exact .inl hroom
    · have hcalls : ∀ call ∈ [(.contextFor a source : Call σ)], ∀ config other,
          call.asks = some (config, other) → config = a ∨ config = b := by
        intro call hcall config other hasks
        obtain rfl := List.mem_singleton.1 hcall
        cases hasks
        exact .inl rfl
      have hown := h _ hcalls (injOn_asked_contextFor a source Digest.ofText) b (.inr rfl)
      exact .inr ((contextFor_again a b hroom source).symm.trans hown)
  · rintro (rfl | hsame) calls hcalls hdigest config hconfig
    · obtain ⟨cache, hcache⟩ := faithful_ofCalls 0 hdigest
      rw [hcache.cache_eq]
      exact contextFor_no_room config hcache.capacity_eq source
    · obtain ⟨limit, hlimit, hcontext⟩ := contextFor_ofCalls capacity config hdigest
      have hboth : ∀ c : GraderConfig, c = a ∨ c = b →
          FeatureContext.analyzeWithDepth source c.maxNestingDepth =
            .analyzeWithDepth source b.maxNestingDepth := by
        rintro c (rfl | rfl)
        · exact hsame
        · rfl
      obtain ⟨other, hother, rfl⟩ := limit_of_lookup hcalls hconfig hlimit
      exact hcontext.trans ((hboth other hother).trans (hboth config hconfig).symm)

omit [Pattern.Dialect] in
/-- Sources that nest deeper than a limit are the only ones on which graders interfere. -/
theorem analyzeWithDepth_congr_limit {source : String} {a b : Nat}
    (ha : (Syntax.Language.concrete source.toList).NestsWithin a)
    (hb : (Syntax.Language.concrete source.toList).NestsWithin b) :
    FeatureContext.analyzeWithDepth source a = .analyzeWithDepth source b :=
  congrArg FeatureContext.ofResult (Syntax.parseWithDepth_congr_limit ha hb)

/-- On a new cache, a grader is given the analysis of a source under the limit of whichever grader
analyzed it last. So two graders keep apart exactly if the cache has no room or both limits
determine the same context, as they do if the source nests within both. -/
theorem shared_cache_contexts (σ : Type) (capacity : Nat) :
    (∀ (calls : List (Call σ)) config source,
      Set.InjOn Digest.ofText (insert source (Call.asked {call | call ∈ calls})) →
      ∃ limit,
        (ofCalls capacity (calls ++ [.contextFor config source])).analyses.lookup source =
          some limit ∧
        (contextFor config (ofCalls capacity calls).cache source).1 =
          .analyzeWithDepth source limit) ∧
    ∀ a b source,
      (Independent σ capacity a b source ↔ capacity = 0 ∨
        FeatureContext.analyzeWithDepth source a.maxNestingDepth =
          .analyzeWithDepth source b.maxNestingDepth) ∧
      ((Syntax.Language.concrete source.toList).NestsWithin a.maxNestingDepth →
        (Syntax.Language.concrete source.toList).NestsWithin b.maxNestingDepth →
          Independent σ capacity a b source) := by
  refine ⟨fun calls config source => contextFor_ofCalls capacity config, fun a b source => ?_⟩
  refine ⟨independent_iff capacity a b source, fun ha hb => ?_⟩
  exact (independent_iff capacity a b source).2 (.inr (analyzeWithDepth_congr_limit ha hb))

end Graders

theorem shared_cache_contexts_parentheses :
    (∃ limit,
      (ofCalls 1 ([.contextFor { maxNestingDepth := 4 } "((((1))))"] ++
        [(.contextFor {} "((((1))))" : Call Unit)])).analyses.lookup "((((1))))" = some limit ∧
      (contextFor {} (ofCalls 1
        [(.contextFor { maxNestingDepth := 4 } "((((1))))" : Call Unit)]).cache "((((1))))").1 =
        .analyzeWithDepth "((((1))))" limit) ∧
    Independent Unit 1 { maxNestingDepth := 4 } {} "1" := by
  have h := shared_cache_contexts Unit 1
  refine ⟨h.1 _ {} _ (injOn_asked_contextFor _ _ _), (h.2 _ _ _).2 ?_ ?_⟩
  · decide +kernel
  · decide +kernel

/-- The refusal of a grader with a low limit comes back to a grader that accepts the source. -/
theorem shared_cache_foreign_refusal :
    (contextFor {} (ofCalls 1
        [(.contextFor { maxNestingDepth := 4 } "((((1))))" : Call Unit)]).cache
      "((((1))))").1.parseError = some "Maximum nesting depth of 4 exceeded (1:4)" ∧
    (FeatureContext.analyzeWithDepth "((((1))))" 256).parseError = none ∧
    ¬ Independent Unit 1 { maxNestingDepth := 4 } {} "((((1))))" := by
  have hdeep : (FeatureContext.analyzeWithDepth "((((1))))" 256).parseError = none := by
    decide +kernel
  have hlow : (FeatureContext.analyzeWithDepth "((((1))))" 4).parseError =
      some "Maximum nesting depth of 4 exceeded (1:4)" := by decide +kernel
  refine ⟨?_, hdeep, fun h => ?_⟩
  · exact (congrArg FeatureContext.parseError
      (contextFor_again { maxNestingDepth := 4 } {} (Nat.succ_ne_zero 0) "((((1))))")).trans hlow
  · rcases (independent_iff 1 { maxNestingDepth := 4 } {} "((((1))))").1 h with hroom | hsame
    · cases hroom
    · have hnone := (congrArg FeatureContext.parseError hsame).trans hdeep
      rw [hlow] at hnone
      cases hnone

end SubmissionGrader.Grader
