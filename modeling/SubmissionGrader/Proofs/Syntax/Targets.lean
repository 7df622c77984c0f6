import SubmissionGrader.Proofs.Outcome
import SubmissionGrader.Proofs.Syntax.Lowering
import SubmissionGrader.Syntax.Parse

/-!
# Targets of assignments

An assignment, a compound assignment or an update stores into the expression in one of its fields.
Something can be stored into a place, also one in parentheses, and a plain assignment can store into
a pattern (`Target.isStorable`). Lowering compares the kind of the whole target with a list on which
parentheses stand too. Of the targets without parentheses it refuses exactly those into which
nothing can be stored (`Lowering.Visit.passes_iff_target`), and what stands in parentheses passes.
-/

namespace SubmissionGrader.Syntax

open Lowering

namespace Kind

def targetField? : Kind → Option Field
  | assignmentExpression | augmentedAssignmentExpression => some .left
  | updateExpression => some .argument
  | _ => none

def isPlace : Kind → Bool
  | identifier | undefined | memberExpression | subscriptExpression | nonNullExpression => true
  | _ => false

/-- The patterns that can take the place of a target. -/
def isTargetPattern : Kind → Bool
  | objectPattern | arrayPattern => true
  | _ => false

end Kind

namespace Concrete

mutual

/-- The expression within any number of parentheses. -/
def unwrapped : Concrete → Concrete
  | node head children =>
    if (node head children).is .parenthesizedExpression then
      unwrappedAmong (node head children) children
    else node head children

/-- The expression within the first of several nodes that is no token and is not left out, or the
given node if there is none. -/
def unwrappedAmong (t : Concrete) : List Concrete → Concrete
  | [] => t
  | child :: rest => if isEntered child then unwrapped child else unwrappedAmong t rest

end

theorem unwrapped_eq_self {t : Concrete} (h : t.is .parenthesizedExpression = false) :
    t.unwrapped = t := by
  cases t with
  | node head children => rw [unwrapped, h, if_neg Bool.false_ne_true]

end Concrete

/-- What a construct stores into. -/
structure Target where
  construct : Kind
  node : Concrete

namespace Target

variable (t : Target)

def isParenthesized : Bool := t.node.is .parenthesizedExpression

/-- Whether something can be stored into the target: within its parentheses it is a place, or it is
a pattern without parentheses in a plain assignment. -/
def isStorable : Bool :=
  t.node.unwrapped.kind?.any Kind.isPlace ||
    t.construct == .assignmentExpression && t.node.kind?.any Kind.isTargetPattern

end Target

namespace Concrete

def ownTarget? (t : Concrete) : Option Target :=
  t.kind?.bind fun kind => (kind.targetField?.bind t.child?).map fun node => ⟨kind, node⟩

def targets (root : Concrete) : List Target :=
  (visitsAll [] root.children).filterMap fun v => v.node.ownTarget?

def stores (t : Concrete) : Bool := t.kind?.any fun kind => kind.targetField?.isSome

end Concrete

theorem Concrete.ownTarget?_eq_none {t : Concrete} (h : t.stores = false) :
    t.ownTarget? = none := by
  rw [stores] at h
  rw [ownTarget?]
  cases hkind : t.kind? with
  | none => rfl
  | some kind =>
    rw [hkind, Option.any_some, Option.isSome_eq_false_iff, Option.isNone_iff_eq_none] at h
    rw [Option.bind_some, h]
    rfl

/-! ## Early errors -/

def Kind.allowedTargets : Kind → List Kind
  | assignmentExpression => assignmentTargets
  | _ => simpleTargets

theorem mem_simpleTargets_iff {kind : Kind} :
    kind ∈ simpleTargets ↔ kind = .parenthesizedExpression ∨ kind.isPlace = true := by
  cases kind <;> simp [simpleTargets, Kind.isPlace]

theorem Kind.mem_allowedTargets_iff (construct : Kind) {kind : Kind} :
    kind ∈ construct.allowedTargets ↔ kind = .parenthesizedExpression ∨ kind.isPlace = true ∨
      construct = .assignmentExpression ∧ kind.isTargetPattern = true := by
  have hpatterns : kind ∈ [Kind.objectPattern, .arrayPattern] ↔ kind.isTargetPattern = true := by
    cases kind <;> simp [isTargetPattern]
  by_cases h : construct = .assignmentExpression
  · rw [h, allowedTargets, assignmentTargets, List.mem_append, mem_simpleTargets_iff, hpatterns,
      or_assoc]
    simp
  · have hsimple : construct.allowedTargets = simpleTargets := by
      cases construct <;> first | rfl | exact absurd rfl h
    rw [hsimple, mem_simpleTargets_iff]
    simp [h]

theorem Concrete.any_is_iff {t : Concrete} {kinds : List Kind} :
    kinds.any t.is = true ↔ ∃ kind, t.kind? = some kind ∧ kind ∈ kinds := by
  simp [is_iff, and_comm]

/-- A target is allowed if it stands in parentheses or something can be stored into it. -/
theorem Target.any_allowedTargets_iff (t : Target) :
    t.construct.allowedTargets.any t.node.is = true ↔
      (t.isParenthesized = false → t.isStorable = true) := by
  rw [Concrete.any_is_iff]
  cases h : t.isParenthesized with
  | true =>
    have hkind := Concrete.is_iff.1 h
    simp [hkind, Kind.mem_allowedTargets_iff]
  | false =>
    rw [isStorable, Concrete.unwrapped_eq_self h]
    cases hnode : t.node.kind? with
    | none => simp
    | some kind =>
      have hkind : kind ≠ .parenthesizedExpression := by
        rintro rfl
        exact absurd (Concrete.is_iff.2 hnode) (ne_true_of_eq_false h)
      simp [Kind.mem_allowedTargets_iff, hkind]

section EarlyErrors

variable {source : List Char} {functions : Nat} {t : Concrete}

theorem earlyError?_of_targetField? {kind : Kind} {field : Field} (hkind : t.kind? = some kind)
    (hfield : kind.targetField? = some field) :
    earlyError? source functions t = targetError? source (t.child? field) kind.allowedTargets := by
  rw [earlyError?, hkind]
  cases kind
  all_goals first | (cases hfield; rfl) | cases hfield

theorem targetError?_eq_none_iff {target : Option Concrete} {allowed : List Kind} :
    targetError? source target allowed = none ↔ ∀ t ∈ target, allowed.any t.is = true := by
  cases target with
  | none => simp [targetError?]
  | some t => simp [targetError?]

end EarlyErrors

namespace Lowering.Visit

variable (source : List Char) (limit : Nat) (v : Visit)

/-- The node passes but for its target: it is not nested too deeply, and it has no early error
unless it is one that stores into a target. -/
def PassesButForTarget : Prop :=
  (v.node.stores = false → Syntax.earlyError? source v.functions v.node = none) ∧ v.depth ≤ limit

theorem passes_iff_target : v.Passes source limit ↔ v.PassesButForTarget source limit ∧
    ∀ t ∈ v.node.ownTarget?, t.isParenthesized = false → t.isStorable = true := by
  rw [Passes, PassesButForTarget, and_right_comm]
  refine and_congr_left fun _ => ?_
  cases hstores : v.node.stores with
  | false =>
    rw [Concrete.ownTarget?_eq_none hstores]
    simp
  | true =>
    -- Such a construct has no other early error than the one of its target.
    obtain ⟨kind, hkind, hsome⟩ := (Option.any_eq_true _ _).1 hstores
    obtain ⟨field, hfield⟩ := Option.isSome_iff_exists.1 hsome
    rw [earlyError?_of_targetField? hkind hfield, targetError?_eq_none_iff, Concrete.ownTarget?,
      hkind, Option.bind_some, hfield, Option.bind_some]
    have hallowed (node : Concrete) := Target.any_allowedTargets_iff ⟨kind, node⟩
    simp [hallowed]

/-- A target in parentheses is never refused, whatever stands in them. -/
theorem passes_iff_of_isParenthesized {t : Target} (ht : t ∈ v.node.ownTarget?)
    (h : t.isParenthesized = true) : v.Passes source limit ↔ v.depth ≤ limit := by
  have hstores : v.node.stores = true := by
    cases hstores : v.node.stores with
    | false =>
      rw [Concrete.ownTarget?_eq_none hstores] at ht
      cases ht
    | true => rfl
  rw [passes_iff_target, PassesButForTarget, hstores]
  constructor
  · exact fun hpasses => hpasses.1.2
  · refine fun hdepth => ⟨⟨fun heq => absurd heq (by simp), hdepth⟩, fun u hu hbare => ?_⟩
    cases Option.mem_unique ht hu
    exact absurd h (ne_true_of_eq_false hbare)

end Lowering.Visit

/-- A tree is accepted if and only if its nodes pass but for their targets and something can be
stored into each target that stands without parentheses. So something can be stored into all targets
of an accepted tree as soon as it can into those in parentheses. These are not looked into: the node
of such a target passes unless it is nested too deeply. -/
theorem lower_targets (source : List Char) (limit : Nat) (root : Concrete) :
    ((∃ tree, lower source limit root = .ok tree) ↔
      (∀ v ∈ visitsAll [] root.children, v.PassesButForTarget source limit) ∧
        ∀ t ∈ root.targets, t.isParenthesized = false → t.isStorable = true) ∧
    (∀ tree, lower source limit root = .ok tree →
      ((∀ t ∈ root.targets, t.isStorable = true) ↔
        ∀ t ∈ root.targets, t.isParenthesized = true → t.isStorable = true)) ∧
    ∀ v : Visit, ∀ t ∈ v.node.ownTarget?, t.isParenthesized = true →
      (v.Passes source limit ↔ v.depth ≤ limit) := by
  have haccepted : (∃ tree, lower source limit root = .ok tree) ↔
      (∀ v ∈ visitsAll [] root.children, v.PassesButForTarget source limit) ∧
        ∀ t ∈ root.targets, t.isParenthesized = false → t.isStorable = true := by
    simp only [lower_eq_ok_iff, exists_and_left, exists_eq, and_true, Visit.passes_iff_target,
      Concrete.targets, List.mem_filterMap]
    constructor
    · intro h
      refine ⟨fun v hv => (h v hv).1, ?_⟩
      rintro t ⟨v, hv, ht⟩
      exact (h v hv).2 t ht
    · rintro ⟨hpasses, hstorable⟩ v hv
      exact ⟨hpasses v hv, fun t ht => hstorable t ⟨v, hv, ht⟩⟩
  refine ⟨haccepted, fun tree htree => ⟨fun hall t ht _ => hall t ht, fun hinner t ht => ?_⟩,
    fun v t ht h => v.passes_iff_of_isParenthesized source limit ht h⟩
  cases hparenthesized : t.isParenthesized with
  | false => exact (haccepted.1 ⟨tree, htree⟩).2 t ht hparenthesized
  | true => exact hinner t ht hparenthesized

/-- A source with targets of all forms, some of them in parentheses: it is accepted, and nothing but
the depth of such a target's node is looked at. -/
theorem lower_targets_parenthesized_places :
    let source := "((a)) = [b] = (c!)++;".toList
    let root := Concrete.ofSource source
    (lower source defaultMaxDepth root).toOption.isSome = true ∧
      (∀ t ∈ root.targets, t.isStorable = true) ∧
      ∃ v : Visit, ∃ t ∈ v.node.ownTarget?, t.isParenthesized = true ∧
        v.Passes source defaultMaxDepth := by
  intro source root
  obtain ⟨haccepted, hinner, hvisit⟩ : (lower source defaultMaxDepth root).toOption.isSome = true ∧
      (∀ t ∈ root.targets, t.isParenthesized = true → t.isStorable = true) ∧
      ∃ v ∈ visitsAll [] root.children, ∃ t ∈ v.node.ownTarget?.toList,
        t.isParenthesized = true ∧ v.depth ≤ defaultMaxDepth := by
    decide +kernel +revert
  obtain ⟨tree, htree⟩ := isSome_toOption_iff.1 haccepted
  obtain ⟨-, hstorable, hpasses⟩ := lower_targets source defaultMaxDepth root
  obtain ⟨v, -, t, ht, hparenthesized, hdepth⟩ := hvisit
  have hown : t ∈ v.node.ownTarget? := Option.mem_toList.1 ht
  exact ⟨haccepted, (hstorable tree htree).2 hinner, v, t, hown, hparenthesized,
    (hpasses v t hown hparenthesized).2 hdepth⟩

/-- Sources that are accepted although nothing can be stored into a target: it stands in
parentheses. -/
theorem targets_in_parentheses_accepted :
    ["(a + b) = 1;", "((f())) += 2;", "(1)++;"].all (fun source =>
      (parse source).toOption.isSome &&
        (Concrete.ofSource source.toList).targets.any fun t => !t.isStorable) = true := by
  decide +kernel

end SubmissionGrader.Syntax
