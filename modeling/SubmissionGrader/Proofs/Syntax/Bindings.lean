import SubmissionGrader.Proofs.Outcome
import SubmissionGrader.Proofs.Syntax.Lowering
import SubmissionGrader.Syntax.Parse

/-!
# Reserved words as names

A declaration, a parameter or a catch clause binds the names in one of its fields: the word that
stands there, or the words that a pattern binds in its place (`Concrete.bindings`). Lowering looks
at words that stand alone, and only in some constructs (`Binding.isChecked`). Among these it refuses
the reserved words (`Lowering.Visit.passes_iff`). Within patterns, and as names of generators and of
classes, reserved words pass.
-/

namespace SubmissionGrader.Syntax

open Lowering

namespace Kind

def bindingField? : Kind → Option Field
  | variableDeclarator | functionDeclaration | generatorFunctionDeclaration | functionExpression
  | function | generatorFunction | classDeclaration | other "abstract_class_declaration"
  | other "class" => some .name
  | requiredParameter | optionalParameter => some .pattern
  | arrowFunction | catchClause => some .parameter
  | _ => none

/-- The constructs in which a name is compared with the reserved words. -/
def checksName : Kind → Bool
  | variableDeclarator | functionDeclaration | functionExpression | classDeclaration
  | requiredParameter | optionalParameter | arrowFunction | catchClause => true
  | _ => false

end Kind

/-- A name, the pattern it is bound by, and the construct that this is the pattern of. -/
structure Binding where
  construct : Kind
  pattern : Concrete
  name : Concrete

namespace Binding

variable (b : Binding)

def word (source : List Char) : String := b.name.text source

/-- Whether the name is compared with the reserved words: in some constructs, and if it is all of
the pattern. -/
def isChecked : Bool := b.construct.checksName && b.pattern.is .identifier

end Binding

namespace Concrete

mutual

/-- The names that a pattern binds. Of an entry with a key the key binds nothing, and of an entry
with a default only what is left of it does. -/
def boundNames : Concrete → List Concrete
  | node head children =>
    match (node head children).kind? with
    | some .identifier | some .typeIdentifier | some .shorthandPropertyIdentifierPattern =>
      [node head children]
    | some .arrayPattern | some .objectPattern | some .restPattern =>
      boundNamesWhere (fun _ => true) children
    | some .pairPattern => boundNamesWhere (· != some .key) children
    | some .objectAssignmentPattern | some (.other "assignment_pattern") =>
      boundNamesWhere (· == some .left) children
    | _ => []

/-- The names that patterns bind in the fields that count. -/
def boundNamesWhere (counts : Option Field → Bool) : List Concrete → List Concrete
  | [] => []
  | t :: rest => (if counts t.field then boundNames t else []) ++ boundNamesWhere counts rest

end

/-- What a construct binds itself. -/
def ownBindings (t : Concrete) : List Binding :=
  match t.kind? with
  | none => []
  | some kind =>
    match kind.bindingField?.bind t.child? with
    | none => []
    | some pattern => pattern.boundNames.map fun name => ⟨kind, pattern, name⟩

def bindings (root : Concrete) : List Binding :=
  (visitsAll [] root.children).flatMap fun v => v.node.ownBindings

theorem mem_ownBindings {t : Concrete} {b : Binding} :
    b ∈ t.ownBindings ↔ t.kind? = some b.construct ∧
      b.construct.bindingField?.bind t.child? = some b.pattern ∧ b.name ∈ b.pattern.boundNames := by
  rw [ownBindings]
  split
  next hkind => simp [hkind]
  next kind hkind =>
    split
    next hfield =>
      constructor
      · simp
      · rintro ⟨hconstruct, hpattern, -⟩
        rw [hkind, Option.some.injEq] at hconstruct
        rw [← hconstruct, hfield] at hpattern
        cases hpattern
    next pattern hfield =>
      rw [List.mem_map]
      constructor
      · rintro ⟨name, hname, rfl⟩
        exact ⟨hkind, hfield, hname⟩
      · rintro ⟨hconstruct, hpattern, hname⟩
        obtain ⟨construct, whole, name⟩ := b
        cases hkind.symm.trans hconstruct
        cases hfield.symm.trans hpattern
        exact ⟨name, hname, rfl⟩

def checksName (t : Concrete) : Bool := t.kind?.any Kind.checksName

theorem checksName_of_mem_ownBindings {t : Concrete} {b : Binding} (h : b ∈ t.ownBindings) :
    t.checksName = b.construct.checksName := by
  rw [checksName, (mem_ownBindings.1 h).1, Option.any_some]

/-- A word that stands alone is all that it binds. -/
theorem boundNames_of_is_identifier {t : Concrete} (h : t.is .identifier = true) :
    t.boundNames = [t] := by
  cases t with
  | node head children => rw [boundNames, is_iff.1 h]

end Concrete

/-! ## Early errors -/

section EarlyErrors

variable {source : List Char} {functions : Nat} {t : Concrete}

theorem earlyError?_of_checksName {kind : Kind} (hkind : t.kind? = some kind)
    (hchecks : kind.checksName = true) :
    earlyError? source functions t = bindingError? source (kind.bindingField?.bind t.child?) := by
  rw [earlyError?, hkind]
  cases kind
  all_goals first | rfl | cases hchecks

theorem bindingError?_eq_none_iff {pattern : Option Concrete} :
    bindingError? source pattern = none ↔
      ∀ p ∈ pattern, p.is .identifier = true → p.text source ∉ reservedBindings := by
  cases pattern with
  | none => simp [bindingError?]
  | some p => simp [bindingError?]

end EarlyErrors

namespace Lowering.Visit

variable (source : List Char) (limit : Nat) (v : Visit)

/-- The node passes but for its name: it is not nested too deeply, and it has no early error unless
it is one of a construct whose name is checked. -/
def PassesButForName : Prop :=
  (v.node.checksName = false → earlyError? source v.functions v.node = none) ∧ v.depth ≤ limit

theorem passes_iff : v.Passes source limit ↔ v.PassesButForName source limit ∧
    ∀ b ∈ v.node.ownBindings, b.isChecked = true → b.word source ∉ reservedBindings := by
  rw [Passes, PassesButForName, and_right_comm]
  refine and_congr_left fun _ => ?_
  cases hchecks : v.node.checksName with
  | false =>
    have hunchecked : ∀ b ∈ v.node.ownBindings, b.isChecked = false := by
      intro b hb
      rw [Binding.isChecked, ← Concrete.checksName_of_mem_ownBindings hb, hchecks, Bool.false_and]
    constructor
    · intro hnone
      refine ⟨fun _ => hnone, fun b hb hchecked => ?_⟩
      rw [hunchecked b hb] at hchecked
      cases hchecked
    · rintro ⟨hnone, -⟩
      exact hnone rfl
  | true =>
    -- Such a construct has no other early error than the one of its name.
    obtain ⟨kind, hkind, hkindChecks⟩ := (Option.any_eq_true _ _).1 hchecks
    rw [earlyError?_of_checksName hkind hkindChecks, bindingError?_eq_none_iff]
    constructor
    · intro hfree
      refine ⟨fun heq => absurd heq (by simp), fun b hb hchecked => ?_⟩
      obtain ⟨hconstruct, hpattern, hname⟩ := Concrete.mem_ownBindings.1 hb
      have hword := (Bool.and_eq_true_iff.1 hchecked).2
      rw [Concrete.boundNames_of_is_identifier hword, List.mem_singleton] at hname
      cases hkind.symm.trans hconstruct
      rw [Binding.word, hname]
      exact hfree b.pattern hpattern hword
    · rintro ⟨-, hfree⟩ pattern hpattern hword
      refine hfree ⟨kind, pattern, pattern⟩ (Concrete.mem_ownBindings.2 ⟨hkind, hpattern, ?_⟩) ?_
      · simp [Concrete.boundNames_of_is_identifier hword]
      · simp [Binding.isChecked, hkindChecks, hword]

end Lowering.Visit

/-- A tree is accepted if and only if its nodes pass but for their names and no name that is checked
is a reserved word. So the bindings of an accepted tree are free of reserved words as soon as the
ones that are not checked are. -/
theorem lower_reserved_bindings (source : List Char) (limit : Nat) (root : Concrete) :
    ((∃ tree, lower source limit root = .ok tree) ↔
      (∀ v ∈ visitsAll [] root.children, v.PassesButForName source limit) ∧
        ∀ b ∈ root.bindings, b.isChecked = true → b.word source ∉ reservedBindings) ∧
    ∀ tree, lower source limit root = .ok tree →
      ((∀ b ∈ root.bindings, b.word source ∉ reservedBindings) ↔
        ∀ b ∈ root.bindings, b.isChecked = false → b.word source ∉ reservedBindings) := by
  have haccepted : (∃ tree, lower source limit root = .ok tree) ↔
      (∀ v ∈ visitsAll [] root.children, v.PassesButForName source limit) ∧
        ∀ b ∈ root.bindings, b.isChecked = true → b.word source ∉ reservedBindings := by
    simp only [lower_eq_ok_iff, exists_and_left, exists_eq, and_true, Visit.passes_iff,
      Concrete.bindings, List.mem_flatMap]
    constructor
    · intro h
      refine ⟨fun v hv => (h v hv).1, ?_⟩
      rintro b ⟨v, hv, hb⟩
      exact (h v hv).2 b hb
    · rintro ⟨hpasses, hfree⟩ v hv
      exact ⟨hpasses v hv, fun b hb => hfree b ⟨v, hv, hb⟩⟩
  refine ⟨haccepted, fun tree htree => ⟨fun hfree b hb _ => hfree b hb, fun hfree b hb => ?_⟩⟩
  cases hchecked : b.isChecked with
  | false => exact hfree b hb hchecked
  | true => exact (haccepted.1 ⟨tree, htree⟩).2 b hb hchecked

/-- A source whose names are all free of reserved words, though a pattern is not checked; its keys
may be reserved words. -/
theorem lower_reserved_bindings_let_key :
    let source := "const \x7b let: alias, ...rest \x7d = f();".toList
    let root := Concrete.ofSource source
    (lower source defaultMaxDepth root).toOption.isSome = true ∧
      ∀ b ∈ root.bindings, b.word source ∉ reservedBindings := by
  intro source root
  obtain ⟨haccepted, hunchecked⟩ : (lower source defaultMaxDepth root).toOption.isSome = true ∧
      ∀ b ∈ root.bindings, b.isChecked = false → b.word source ∉ reservedBindings := by
    decide +kernel +revert
  obtain ⟨tree, htree⟩ := isSome_toOption_iff.1 haccepted
  exact ⟨haccepted,
    ((lower_reserved_bindings source defaultMaxDepth root).2 tree htree).2 hunchecked⟩

/-- Sources that are accepted although they bind a reserved word: within patterns, as the name of a
generator and as the name of a class. -/
theorem reserved_bindings_accepted :
    ["const [eval] = x;", "const \x7b let \x7d = x;", "function* eval() \x7b\x7d",
        "class let \x7b\x7d", "([eval]) => 1"].all (fun source =>
      (parse source).toOption.isSome &&
        (Concrete.ofSource source.toList).bindings.any fun b =>
          b.word source.toList ∈ reservedBindings) = true := by
  decide +kernel

end SubmissionGrader.Syntax
