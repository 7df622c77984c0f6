import Mathlib.Logic.ExistsUnique
import SubmissionGrader.Features.Extraction
import SubmissionGrader.Proofs.Syntax.Lowering

/-!
# Sources within a nesting limit

A limit counts for nothing but the sources that nest deeper. What lowering does without a limit is
`Lowering.lowerUnlimited`, and every source has a threshold (`IsThreshold`): limits below it make
the source be refused for its nesting, and from it on the result is the one without a limit.
-/

namespace SubmissionGrader.Syntax

open Lowering

def Concrete.NestsWithin (limit : Nat) (root : Concrete) : Prop :=
  ∀ v ∈ visitsAll [] root.children, v.depth ≤ limit

instance (limit : Nat) (root : Concrete) : Decidable (root.NestsWithin limit) :=
  inferInstanceAs (Decidable (∀ v ∈ visitsAll [] root.children, v.depth ≤ limit))

theorem findSome?_congr {α β : Type} {f g : α → Option β} {xs : List α}
    (h : ∀ x ∈ xs, f x = g x) : xs.findSome? f = xs.findSome? g := by
  induction xs with
  | nil => rfl
  | cons x xs ih =>
    rw [List.findSome?_cons, List.findSome?_cons, h x List.mem_cons_self,
      ih fun y hy => h y (List.mem_cons_of_mem x hy)]

theorem Lowering.Visit.error?_of_depth_le (source : List Char) {limit : Nat} {v : Visit}
    (h : v.depth ≤ limit) : v.error? source limit = earlyError? source v.functions v.node := by
  rw [Visit.error?, if_neg (Nat.not_lt.2 h), Option.or_none]

theorem lower_congr_limit (source : List Char) {a b : Nat} {root : Concrete}
    (ha : root.NestsWithin a) (hb : root.NestsWithin b) :
    lower source a root = lower source b root := by
  rw [lower_eq_elim_findSome?, lower_eq_elim_findSome?]
  have herrors : (visitsAll [] root.children).findSome? (Visit.error? source a) =
      (visitsAll [] root.children).findSome? (Visit.error? source b) :=
    findSome?_congr fun v hv => by
      rw [Visit.error?_of_depth_le source (ha v hv), Visit.error?_of_depth_le source (hb v hv)]
  rw [herrors]

theorem parseWithDepth_congr_limit [Language] {source : String} {a b : Nat}
    (ha : (Language.concrete source.toList).NestsWithin a)
    (hb : (Language.concrete source.toList).NestsWithin b) :
    parseWithDepth source a = parseWithDepth source b := by
  rw [parseWithDepth, parseWithDepth, parseConcrete, parseConcrete, lower_congr_limit _ ha hb]

/-! ## The threshold of a source -/

def SyntaxError.isTooDeep (e : SyntaxError) : Bool :=
  match e.fault with
  | .tooDeep _ => true
  | _ => false

def isTooDeep : Except SyntaxError Node → Bool
  | .ok _ => false
  | .error e => e.isTooDeep

/-- Faults that the grammar or a check of a node names: neither that of the limit nor the one
without a place. -/
def Fault.isFound : Fault → Bool
  | .unexpected | .tooDeep _ => false
  | _ => true

theorem SyntaxError.isTooDeep_of_isFound {e : SyntaxError} (h : e.fault.isFound = true) :
    e.isTooDeep = false := by
  rw [isTooDeep]
  split
  next heq =>
    rw [heq] at h
    cases h
  next => rfl

theorem isFound_of_earlyError? {source : List Char} {functions : Nat} {t : Concrete}
    {e : SyntaxError} (h : earlyError? source functions t = some e) : e.fault.isFound = true := by
  simp only [earlyError?, bindingError?, targetError?, numberError?, tagError?] at h
  -- Every check of a node refuses it with a fault of its own.
  repeat' split at h
  all_goals cases h
  all_goals rfl

theorem isFound_describeError (source : List Char) (t : Concrete) :
    (describeError source t).fault.isFound = true := by
  rw [describeError]
  split
  next => rfl
  next =>
    dsimp only
    split <;> rfl

namespace Lowering

variable {source : List Char} {limit : Nat} {vs : List Visit}

def Visit.earlyError? (source : List Char) (v : Visit) : Option SyntaxError :=
  Syntax.earlyError? source v.functions v.node

/-- The least limit under which none of the visits in front of the first early error is refused for
its nesting. -/
def requiredLimit (source : List Char) : List Visit → Nat
  | [] => 0
  | v :: rest =>
    if (v.earlyError? source).isSome then 0 else max v.depth (requiredLimit source rest)

theorem findSome?_error?_of_requiredLimit_le (h : requiredLimit source vs ≤ limit) :
    vs.findSome? (Visit.error? source limit) = vs.findSome? (Visit.earlyError? source) := by
  induction vs with
  | nil => rfl
  | cons v rest ih =>
    rw [List.findSome?_cons, List.findSome?_cons, Visit.error?]
    rw [requiredLimit] at h
    cases hearly : v.earlyError? source with
    | some e =>
      rw [Visit.earlyError?] at hearly
      rw [hearly, Option.some_or]
    | none =>
      rw [hearly, Option.isSome_none, if_neg Bool.false_ne_true, Nat.max_le] at h
      rw [Visit.earlyError?] at hearly
      rw [hearly, if_neg (Nat.not_lt.2 h.1), Option.or_none]
      exact ih h.2

theorem findSome?_error?_of_lt_requiredLimit (h : limit < requiredLimit source vs) :
    ∃ v ∈ vs, vs.findSome? (Visit.error? source limit) = some (depthError source limit v.node) := by
  induction vs with
  | nil => exact absurd h (Nat.not_lt_zero limit)
  | cons v rest ih =>
    rw [List.findSome?_cons, Visit.error?]
    rw [requiredLimit] at h
    cases hearly : v.earlyError? source with
    | some e =>
      rw [hearly, Option.isSome_some, if_pos rfl] at h
      exact absurd h (Nat.not_lt_zero limit)
    | none =>
      rw [hearly, Option.isSome_none, if_neg Bool.false_ne_true] at h
      rw [Visit.earlyError?] at hearly
      rw [hearly, Option.none_or]
      by_cases hdeep : limit < v.depth
      · exact ⟨v, by simp, by rw [if_pos hdeep]⟩
      · obtain ⟨u, hu, herror⟩ := ih (by omega)
        exact ⟨u, by simp [hu], by rw [if_neg hdeep, herror]⟩

def lowerUnlimited (source : List Char) (root : Concrete) : Except SyntaxError Node :=
  ((visitsAll [] root.children).findSome? (Visit.earlyError? source)).elim
    (.ok (.node .program (contributions source none root.children))) .error

theorem lower_of_requiredLimit_le {source : List Char} {limit : Nat} {root : Concrete}
    (h : requiredLimit source (visitsAll [] root.children) ≤ limit) :
    lower source limit root = lowerUnlimited source root := by
  rw [lower_eq_elim_findSome?, findSome?_error?_of_requiredLimit_le h, lowerUnlimited]

theorem lower_of_lt_requiredLimit {source : List Char} {limit : Nat} {root : Concrete}
    (h : limit < requiredLimit source (visitsAll [] root.children)) :
    ∃ v ∈ visitsAll [] root.children,
      lower source limit root = .error (depthError source limit v.node) := by
  obtain ⟨v, hv, herror⟩ := findSome?_error?_of_lt_requiredLimit h
  exact ⟨v, hv, by rw [lower_eq_elim_findSome?, herror]; rfl⟩

theorem isTooDeep_lowerUnlimited (source : List Char) (root : Concrete) :
    isTooDeep (lowerUnlimited source root) = false := by
  rw [lowerUnlimited]
  cases hearly : (visitsAll [] root.children).findSome? (Visit.earlyError? source) with
  | none => rfl
  | some error =>
    obtain ⟨v, -, hv⟩ := List.exists_of_findSome?_eq_some hearly
    exact SyntaxError.isTooDeep_of_isFound (isFound_of_earlyError? hv)

/-- Unless a tree is refused for its nesting, the limit does not matter. -/
theorem lower_eq_lowerUnlimited {source : List Char} {limit : Nat} {root : Concrete}
    (h : isTooDeep (lower source limit root) = false) :
    lower source limit root = lowerUnlimited source root := by
  refine lower_of_requiredLimit_le (Nat.le_of_not_lt fun hlimit => ?_)
  obtain ⟨v, -, hv⟩ := lower_of_lt_requiredLimit hlimit
  rw [hv] at h
  cases h

end Lowering

/-- Below the threshold a source is refused for its nesting, from it on the result is the same. -/
structure IsThreshold (result : Nat → Except SyntaxError Node) (threshold : Nat) : Prop where
  below : ∀ limit, limit < threshold →
    ∃ error, error.fault = .tooDeep limit ∧ result limit = .error error
  above : ∀ limit, threshold ≤ limit →
    isTooDeep (result limit) = false ∧ result limit = result threshold

namespace IsThreshold

variable {result : Nat → Except SyntaxError Node} {threshold : Nat}

theorem le_of_not_isTooDeep (h : IsThreshold result threshold) {limit : Nat}
    (hlimit : isTooDeep (result limit) = false) : threshold ≤ limit := by
  refine Nat.le_of_not_lt fun hlt => ?_
  obtain ⟨error, hfault, herror⟩ := h.below limit hlt
  rw [herror, isTooDeep, SyntaxError.isTooDeep, hfault] at hlimit
  cases hlimit

theorem unique (h : IsThreshold result threshold) {other : Nat}
    (hother : IsThreshold result other) :
    other = threshold :=
  Nat.le_antisymm (hother.le_of_not_isTooDeep (h.above threshold (Nat.le_refl _)).1)
    (h.le_of_not_isTooDeep (hother.above other (Nat.le_refl _)).1)

/-- A result other than the refusal for nesting stays under every higher limit. -/
theorem kept (h : IsThreshold result threshold) {limit : Nat}
    (hlimit : isTooDeep (result limit) = false) {higher : Nat} (hle : limit ≤ higher) :
    result higher = result limit := by
  have hthreshold := h.le_of_not_isTooDeep hlimit
  rw [(h.above limit hthreshold).2, (h.above higher (Nat.le_trans hthreshold hle)).2]

end IsThreshold

theorem isThreshold_zero {result : Except SyntaxError Node} (h : isTooDeep result = false) :
    IsThreshold (fun _ => result) 0 :=
  ⟨fun limit hlimit => absurd hlimit (Nat.not_lt_zero limit), fun _ _ => ⟨h, rfl⟩⟩

theorem isThreshold_lower (source : List Char) (root : Concrete) :
    IsThreshold (fun limit => lower source limit root)
      (Lowering.requiredLimit source (visitsAll [] root.children)) where
  below limit hlimit := by
    obtain ⟨v, -, hv⟩ := lower_of_lt_requiredLimit hlimit
    exact ⟨depthError source limit v.node, rfl, hv⟩
  above limit hlimit := by
    rw [lower_of_requiredLimit_le hlimit, lower_of_requiredLimit_le (Nat.le_refl _)]
    exact ⟨isTooDeep_lowerUnlimited source root, rfl⟩

theorem exists_isThreshold_parseConcrete (source : List Char) (tree : Concrete) :
    ∃ threshold, IsThreshold (fun limit => parseConcrete source limit tree) threshold := by
  simp only [parseConcrete]
  split
  next =>
    refine ⟨0, isThreshold_zero ?_⟩
    cases tree.firstError? with
    | none => rfl
    | some fault => exact SyntaxError.isTooDeep_of_isFound (isFound_describeError source fault)
  next => exact ⟨_, isThreshold_lower source tree⟩

/-- Raising the limit keeps every outcome but the refusal for nesting. So a source has one
threshold: under a limit below it the features are those of a source that is refused for its
nesting, and from it on they are always the same. -/
theorem nesting_limit_threshold (source : String) (grammar : Concrete) :
    let result := fun limit => parseConcrete source.toList limit grammar
    (∀ limit tree, result limit = .ok tree →
      ∀ higher, limit ≤ higher → result higher = .ok tree) ∧
    (∀ limit error, result limit = .error error → error.isTooDeep = false →
      ∀ higher, limit ≤ higher → result higher = .error error) ∧
    ∃! threshold, IsThreshold result threshold ∧
      (∀ limit, limit < threshold → ∃ error : SyntaxError, error.fault = .tooDeep limit ∧
        FeatureContext.ofResult (result limit) = .broken error.text) ∧
      ∀ limit, threshold ≤ limit →
        FeatureContext.ofResult (result limit) = FeatureContext.ofResult (result threshold) := by
  intro result
  obtain ⟨threshold, h⟩ : ∃ threshold, IsThreshold result threshold :=
    exists_isThreshold_parseConcrete source.toList grammar
  refine ⟨fun limit tree htree higher hle => ?_, fun limit error herror hfault higher hle => ?_,
    threshold, ⟨h, fun limit hlimit => ?_, fun limit hlimit => ?_⟩, fun other hother => ?_⟩
  · rw [← htree]
    exact h.kept (by rw [htree]; rfl) hle
  · rw [← herror]
    exact h.kept (by rw [herror]; exact hfault) hle
  · obtain ⟨error, hfault, herror⟩ := h.below limit hlimit
    exact ⟨error, hfault, by rw [herror]; rfl⟩
  · rw [(h.above limit hlimit).2]
  · exact h.unique hother.1

/-- Two groups around a number, and behind them a reserved name: a limit of five lets the name be
found, and so does every higher one. -/
theorem nesting_limit_threshold_reserved_name :
    let source := "f(((1))); let let = 2;"
    isTooDeep (parseWithDepth source 4) = true ∧
      ∀ higher, 5 ≤ higher →
        parseWithDepth source higher = .error ⟨.reservedWord "let", 1, 15⟩ := by
  intro source
  refine ⟨by decide +kernel, fun higher hle => ?_⟩
  have hfive : (match parseWithDepth source 5 with
      | .error error => error == ⟨.reservedWord "let", 1, 15⟩
      | .ok _ => false) = true := by
    decide +kernel
  split at hfive
  next error herror =>
    have hkept := (nesting_limit_threshold source (.ofSource source.toList)).2.1 5 error herror
    rw [eq_of_beq hfive] at hkept
    exact hkept rfl higher hle
  next => cases hfive

end SubmissionGrader.Syntax
