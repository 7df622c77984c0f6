import SubmissionGrader.Proofs.Grading.Calls
import SubmissionGrader.Proofs.Grading.Contents
import Mathlib.Data.Set.Function

/-!
# Callers that share a cache

Any number of callers share a cache, and their steps come in any order. If all graders have the
same nesting limit and the digests of their sources differ, then the cache only ever holds what a
grader would compute itself, so every call answers as it does without a cache. `Shared.Sound` is
what each step keeps.
-/

namespace SubmissionGrader.Grader

/-- A call, and what is left of it. -/
structure Caller (σ : Type) where
  call : Call σ
  rest : Program (Answer σ)

/-- Callers, and the cache that they share. -/
structure Shared (σ : Type) where
  cache : ContextCache
  callers : List (Caller σ) := []

/-- A call begins, or the caller of an index takes its next step. -/
inductive Event (σ : Type) where
  | enter (call : Call σ)
  | act (index : Nat)

variable {σ : Type}

def Event.acts (index : Nat) : Event σ → Bool
  | enter _ => false
  | act i => i = index

namespace Shared

variable [Syntax.Language] [Pattern.Dialect]

def step (s : Shared σ) : Event σ → Shared σ
  | .enter call => { s with callers := s.callers ++ [⟨call, call.program⟩] }
  | .act index =>
    match s.callers[index]? with
    | none => s
    | some caller =>
      let (rest, cache) := Program.step (caller.rest, s.cache)
      { cache, callers := s.callers.set index { caller with rest } }

def run (s : Shared σ) (events : List (Event σ)) : Shared σ := events.foldl step s

end Shared

def entered (events : List (Event σ)) : Set (Call σ) := {call | .enter call ∈ events}

def Call.plain [Syntax.Language] [Pattern.Dialect] (call : Call σ) : Answer σ :=
  (call.answer none).1

/-! ## Programs by what lookups find -/

section Programs

variable [Syntax.Language] {α β : Type} (limit : Nat) (sources : Set String)

/-- Each of the sources has no other context in the cache than its analysis. -/
def Coherent (cache : ContextCache) : Prop :=
  cache.Holds fun key context =>
    ∀ source ∈ sources, .ofText source = key → context = .analyzeWithDepth source limit

/-- The program comes to the answer in at most so many steps if each lookup finds nothing or the
analysis of the source, and it stores nothing but analyses. -/
inductive Program.Yields (answer : α) : Nat → Program α → Prop
  | done (n : Nat) : Yields answer n (.done answer)
  | lookUp {n : Nat} {source : String} {next : Option FeatureContext → Program α}
      (hsource : source ∈ sources)
      (hnext : ∀ found : Option FeatureContext,
        (∀ context ∈ found, context = .analyzeWithDepth source limit) →
          Yields answer n (next found)) :
      Yields answer (n + 1) (.lookUp source next)
  | analyze {n : Nat} {source : String} {next : FeatureContext → Program α}
      (hnext : Yields answer n (next (.analyzeWithDepth source limit))) :
      Yields answer (n + 1) (.analyze source limit next)
  | store {n : Nat} {source : String} {next : Program α} (hsource : source ∈ sources)
      (hnext : Yields answer n next) :
      Yields answer (n + 1) (.store source (.analyzeWithDepth source limit) next)
  | clear {n : Nat} {next : Program α} (hnext : Yields answer n next) :
      Yields answer (n + 1) (.clear next)

namespace Program

variable {limit sources} {answer : α} {n : Nat} {p : Program α}

theorem Yields.map (h : p.Yields limit sources answer n) (f : α → β) :
    (f <$> p).Yields limit sources (f answer) n := by
  induction h with
  | done n => exact .done n
  | lookUp hsource _ ih => exact .lookUp hsource ih
  | analyze _ ih => exact .analyze ih
  | store hsource _ ih => exact .store hsource ih
  | clear _ ih => exact .clear ih

theorem Yields.succ (h : p.Yields limit sources answer n) :
    p.Yields limit sources answer (n + 1) := by
  induction h with
  | done n => exact .done (n + 1)
  | lookUp hsource _ ih => exact .lookUp hsource ih
  | analyze _ ih => exact .analyze ih
  | store hsource _ ih => exact .store hsource ih
  | clear _ ih => exact .clear ih

theorem Yields.eq_done (h : p.Yields limit sources answer 0) : p = .done answer := by
  cases h
  rfl

theorem Yields.answer_eq {other : α} (h : (Program.done other).Yields limit sources answer n) :
    other = answer := by
  cases h
  rfl

theorem yields_context {config : GraderConfig} {source : String}
    (hlimit : config.maxNestingDepth = limit) (hsource : source ∈ sources) :
    (context config source).Yields limit sources (.analyzeWithDepth source limit) 3 := by
  subst hlimit
  refine .lookUp hsource fun found hfound => ?_
  cases found with
  | none => exact .analyze (.store hsource (.done 0))
  | some context =>
    obtain rfl := hfound context rfl
    exact .done 2

/-- A step leaves the cache coherent, because a digest stands for one source only. -/
theorem Yields.step (h : p.Yields limit sources answer n)
    (hdigest : Set.InjOn Digest.ofText sources) {cache : ContextCache}
    (hcache : Coherent limit sources cache) :
    (step (p, cache)).1.Yields limit sources answer (n - 1) ∧
      Coherent limit sources (step (p, cache)).2 := by
  cases h with
  | done n => exact ⟨.done (n - 1), hcache⟩
  | @lookUp n source next hsource hnext =>
    obtain ⟨hfound, hafter⟩ := hcache.get (.ofText source)
    exact ⟨hnext _ fun context hcontext => hfound context hcontext source hsource rfl, hafter⟩
  | analyze hnext => exact ⟨hnext, hcache⟩
  | @store n source next hsource hnext =>
    refine ⟨hnext, hcache.insert ?_ fun key context _ hkey => hkey⟩
    intro other hother hsame
    rw [hdigest hother hsource hsame]
  | clear hnext => exact ⟨hnext, hcache.clear⟩

end Program

/-! ## Calls -/

/-- A call of a grader with the limit that asks for none but the sources. -/
def Call.Within (call : Call σ) : Prop :=
  ∀ config source, call.asks = some (config, source) →
    config.maxNestingDepth = limit ∧ source ∈ sources

variable {limit sources}

theorem Call.Within.yields_plain [Pattern.Dialect] {call : Call σ} (h : call.Within limit sources) :
    call.program.Yields limit sources call.plain 3 := by
  cases call.course with
  | asking config source hasks hprogram hanswer =>
    obtain ⟨hlimit, hsource⟩ := h config source hasks
    have hplain : call.plain = call.answerWith (.analyzeWithDepth source limit) := by
      rw [plain, hanswer, ← hlimit]
      rfl
    rw [hprogram, hplain]
    exact (Program.yields_context hlimit hsource).map (call.answerWith ·)
  | immediate hasks hprogram hanswer =>
    have hplain : call.plain = call.answerWith default := by rw [plain, hanswer]
    rw [hprogram, hplain]
    exact .done 3
  | clearing hcall =>
    subst hcall
    exact .clear (.done 2)

end Programs

/-! ## Callers -/

namespace Shared

section Runs

variable [Syntax.Language] [Pattern.Dialect]
variable {limit : Nat} {sources : Set String} {s : Shared σ}

/-- The cache is coherent, and each caller is on the way to its plain answer. -/
structure Sound (limit : Nat) (sources : Set String) (s : Shared σ) : Prop where
  cache : Coherent limit sources s.cache
  callers : ∀ caller ∈ s.callers, caller.rest.Yields limit sources caller.call.plain 3

theorem sound_new (limit : Nat) (sources : Set String) (capacity : Nat) :
    Sound limit sources ({ cache := .new capacity } : Shared σ) :=
  ⟨.new capacity, by simp⟩

theorem Sound.step (h : Sound limit sources s) (hdigest : Set.InjOn Digest.ofText sources)
    {event : Event σ} (hevent : ∀ call, event = .enter call → call.Within limit sources) :
    Sound limit sources (s.step event) := by
  cases event with
  | enter call =>
    refine ⟨h.cache, fun caller hcaller => ?_⟩
    rcases List.mem_append.1 hcaller with hold | hnew
    · exact h.callers caller hold
    · obtain rfl := List.mem_singleton.1 hnew
      exact (hevent call rfl).yields_plain
  | act index =>
    rw [Shared.step]
    cases hcaller : s.callers[index]? with
    | none => exact h
    | some caller =>
      have hrest := h.callers caller (List.mem_of_getElem? hcaller)
      obtain ⟨hnext, hcache⟩ := hrest.step hdigest h.cache
      refine ⟨hcache, fun other hother => ?_⟩
      rcases List.mem_or_eq_of_mem_set hother with hold | rfl
      · exact h.callers other hold
      · exact hnext.succ

theorem Sound.run (h : Sound limit sources s) (hdigest : Set.InjOn Digest.ofText sources)
    {events : List (Event σ)} (hevents : ∀ call, .enter call ∈ events → call.Within limit sources) :
    Sound limit sources (s.run events) := by
  induction events generalizing s with
  | nil => exact h
  | cons event events ih =>
    refine ih (h.step hdigest fun call hcall => hevents call ?_) fun call hcall => hevents call ?_
    · exact hcall ▸ List.mem_cons_self
    · exact List.mem_cons_of_mem event hcall

/-- A caller changes by its own steps only. -/
theorem getElem?_step {index : Nat} {caller : Caller σ} (h : s.callers[index]? = some caller)
    (event : Event σ) :
    (s.step event).callers[index]? = some
      (if event.acts index then { caller with rest := (Program.step (caller.rest, s.cache)).1 }
      else caller) := by
  have hlt : index < s.callers.length := (List.getElem?_eq_some_iff.1 h).1
  cases event with
  | enter call =>
    rw [Shared.step, List.getElem?_append_left hlt]
    exact h
  | act i =>
    by_cases hi : i = index
    · subst hi
      rw [Shared.step, h, if_pos (by simp [Event.acts])]
      exact List.getElem?_set_self hlt
    · rw [Shared.step]
      cases hother : s.callers[i]? with
      | none => simp [h, hi, Event.acts]
      | some other => simp [h, hi, Event.acts]

/-- Whatever the others do, each step of a caller brings it nearer to its answer. -/
theorem Sound.getElem?_run (h : Sound limit sources s)
    (hdigest : Set.InjOn Digest.ofText sources) {events : List (Event σ)}
    (hevents : ∀ call, .enter call ∈ events → call.Within limit sources) {index n : Nat}
    {caller : Caller σ} (hcaller : s.callers[index]? = some caller)
    (hrest : caller.rest.Yields limit sources caller.call.plain n) :
    ∃ rest, (s.run events).callers[index]? = some { caller with rest } ∧
      rest.Yields limit sources caller.call.plain (n - events.countP (·.acts index)) := by
  -- The steps of others leave the rest of the call as it is. They may change what its next lookup
  -- finds, but `Yields` covers all that a coherent cache can give.
  induction events generalizing s caller n with
  | nil => exact ⟨caller.rest, hcaller, hrest⟩
  | cons event events ih =>
    have hnow : ∀ call, event = .enter call → call.Within limit sources :=
      fun call hcall => hevents call (hcall ▸ List.mem_cons_self)
    have hlater : ∀ call, .enter call ∈ events → call.Within limit sources :=
      fun call hcall => hevents call (List.mem_cons_of_mem event hcall)
    have hnext := getElem?_step hcaller event
    by_cases hacts : event.acts index = true
    · rw [if_pos hacts] at hnext
      obtain ⟨rest, hfinal, hyields⟩ :=
        ih (h.step hdigest hnow) hlater hnext (hrest.step hdigest h.cache).1
      refine ⟨rest, hfinal, ?_⟩
      rwa [List.countP_cons_of_pos hacts, Nat.add_comm, ← Nat.sub_sub]
    · rw [if_neg hacts] at hnext
      obtain ⟨rest, hfinal, hyields⟩ := ih (h.step hdigest hnow) hlater hnext hrest
      refine ⟨rest, hfinal, ?_⟩
      rwa [List.countP_cons_of_neg hacts]

/-- Graders with one nesting limit share a new cache, and the digests of their sources differ.
Then, in whichever order their callers take their steps, a lookup finds nothing but the analysis
of the source, each call answers as it does without a cache, and it does so at the latest when
its caller has taken three steps. -/
theorem run_eq_plain (capacity limit : Nat) (events : List (Event σ))
    (hlimit : ∀ call ∈ entered events, ∀ config source, call.asks = some (config, source) →
      config.maxNestingDepth = limit)
    (hdigest : Set.InjOn Digest.ofText (Call.asked (entered events))) :
    let start : Shared σ := { cache := .new capacity }
    (∀ source ∈ Call.asked (entered events), ∀ context,
      ((start.run events).cache.get (.ofText source)).1 = some context →
        context = .analyzeWithDepth source limit) ∧
    (∀ caller ∈ (start.run events).callers, ∀ answer, caller.rest = .done answer →
      answer = caller.call.plain ∧ ∀ config source, caller.call = .contextFor config source →
        answer = .context (.analyzeWithDepth source config.maxNestingDepth)) ∧
    ∀ before after index caller, events = before ++ after →
      (start.run before).callers[index]? = some caller →
      3 ≤ after.countP (·.acts index) →
        (start.run events).callers[index]? = some ⟨caller.call, .done caller.call.plain⟩ := by
  intro start
  have hevents (call : Call σ) (hcall : .enter call ∈ events) :
      call.Within limit (Call.asked (entered events)) := by
    intro config source hasks
    exact ⟨hlimit call hcall config source hasks, call, hcall, config, hasks⟩
  have hnew : Sound limit (Call.asked (entered events)) start := sound_new _ _ capacity
  have hsound := hnew.run hdigest hevents
  refine ⟨fun source hsource context hcontext => ?_, fun caller hcaller answer hdone => ?_, ?_⟩
  · exact (hsound.cache.get (.ofText source)).1 context hcontext source hsource rfl
  · have hyields := hsound.callers caller hcaller
    rw [hdone] at hyields
    obtain rfl := hyields.answer_eq
    refine ⟨rfl, fun config source hcall => ?_⟩
    rw [hcall]
    rfl
  · rintro before after index caller hsplit hcaller hsteps
    have hbefore (call : Call σ) (hcall : .enter call ∈ before) :
        call.Within limit (Call.asked (entered events)) :=
      hevents call (hsplit ▸ List.mem_append_left after hcall)
    have hafter (call : Call σ) (hcall : .enter call ∈ after) :
        call.Within limit (Call.asked (entered events)) :=
      hevents call (hsplit ▸ List.mem_append_right before hcall)
    have hmid := hnew.run hdigest hbefore
    have hrest := hmid.callers caller (List.mem_of_getElem? hcaller)
    obtain ⟨rest, hfinal, hyields⟩ := hmid.getElem?_run hdigest hafter hcaller hrest
    rw [Nat.sub_eq_zero_of_le hsteps] at hyields
    have hrun : start.run events = (start.run before).run after := by
      rw [hsplit, Shared.run, List.foldl_append]
      rfl
    rw [hrun, hfinal, hyields.eq_done]

end Runs

/-- The cache has room for one context, and it is cleared before the second context is stored. -/
theorem run_two_callers_and_clear :
    let events : List (Event Unit) :=
      [.enter (.contextFor {} "a"), .enter (.contextFor {} "b"), .act 0, .act 1, .act 0, .act 1,
       .act 0, .enter .clear, .act 2, .act 1]
    (run { cache := .new 1 } events).callers[1]? =
      some ⟨.contextFor {} "b", .done (.context (.analyzeWithDepth "b" 256))⟩ := by
  intro events
  have hasked {call : Call Unit} {config : GraderConfig} {source : String}
      (hcall : call ∈ entered events) (hasks : call.asks = some (config, source)) :
      config = {} ∧ (source = "a" ∨ source = "b") := by
    have hcalls : call = .contextFor {} "a" ∨ call = .contextFor {} "b" ∨ call = .clear := by
      simpa [entered, events] using hcall
    rcases hcalls with rfl | rfl | rfl
    · cases hasks
      exact ⟨rfl, .inl rfl⟩
    · cases hasks
      exact ⟨rfl, .inr rfl⟩
    · cases hasks
  have hdifferent : Digest.ofText "a" ≠ Digest.ofText "b" := by decide +kernel
  have hdigest : Set.InjOn Digest.ofText (Call.asked (entered events)) := by
    refine (Set.injOn_pair.2 fun h => absurd h hdifferent).mono ?_
    rintro source ⟨call, hcall, config, hasks⟩
    exact (hasked hcall hasks).2
  have hlimit : ∀ call ∈ entered events, ∀ config source, call.asks = some (config, source) →
      config.maxNestingDepth = 256 := by
    intro call hcall config source hasks
    obtain ⟨rfl, -⟩ := hasked hcall hasks
    rfl
  exact (run_eq_plain 1 256 events hlimit hdigest).2.2 (events.take 2) (events.drop 2) 1 _
    (List.take_append_drop 2 events).symm rfl (by decide)

end Shared

end SubmissionGrader.Grader
