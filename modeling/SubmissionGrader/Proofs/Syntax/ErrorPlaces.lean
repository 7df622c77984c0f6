import SubmissionGrader.Proofs.Lists
import SubmissionGrader.Proofs.Syntax.Bindings
import SubmissionGrader.Proofs.Syntax.Nesting
import SubmissionGrader.Proofs.Syntax.Places
import SubmissionGrader.Proofs.Syntax.Targets

/-!
# The places of errors

The text in front of an offset is made of whole lines and the beginning of one more (`IsBefore`). An
error counts the lines, and the characters of that beginning (`characterColumn_eq`); the refusal for
nesting counts its bytes. Which node an error points at is `Concrete.culprit?`.
-/

namespace SubmissionGrader.Syntax

open Text (byteCount)

/-! ## The text in front of an offset -/

/-- The text in front of a byte offset: whole lines, and the beginning of one more. -/
@[mk_iff]
structure IsBefore (source : List Char) (offset : Nat) (above line : List Char) : Prop where
  isPrefix : above ++ line <+: source
  byteCount_eq : byteCount (above ++ line) = offset
  isWhole : ∀ c ∈ above.getLast?, c = '\n'
  newline_not_mem : '\n' ∉ line

instance (source : List Char) (offset : Nat) (above line : List Char) :
    Decidable (IsBefore source offset above line) :=
  have : Decidable (∀ c ∈ above.getLast?, c = '\n') := Option.decidableForallMem _
  decidable_of_iff' _ (isBefore_iff source offset above line)

section Offsets

variable {source above line : List Char} {offset : Nat}

theorem lastLine_append (habove : ∀ c ∈ above.getLast?, c = '\n') (hline : '\n' ∉ line) :
    lastLine (above ++ line) = line := by
  rw [lastLine, List.reverse_append, Lists.takeWhile_append_eq, List.reverse_reverse]
  · intro c hc
    have hne : c ≠ '\n' := fun heq => hline (heq ▸ List.mem_reverse.1 hc)
    exact bne_iff_ne.2 hne
  · intro c hc
    rw [List.head?_reverse] at hc
    rw [habove c hc, bne_self_eq_false]

/-- Every text is made of whole lines and the beginning of one more. -/
theorem exists_eq_append_lastLine (cs : List Char) :
    ∃ above, cs = above ++ lastLine cs ∧ ∀ c ∈ above.getLast?, c = '\n' := by
  refine ⟨(cs.reverse.dropWhile (· != '\n')).reverse, ?_, fun c hc => ?_⟩
  · rw [lastLine, ← List.reverse_append, List.takeWhile_append_dropWhile, List.reverse_reverse]
  · rw [List.getLast?_reverse] at hc
    have hstop := List.head?_dropWhile_not (· != '\n') cs.reverse
    rw [Option.mem_def.1 hc] at hstop
    simpa using hstop

/-- Such text is there for the offsets between two characters. -/
theorem exists_isBefore_iff :
    (∃ above line, IsBefore source offset above line) ↔ (prefixOf source offset).isSome = true := by
  rw [Option.isSome_iff_exists]
  constructor
  · rintro ⟨above, line, h⟩
    exact ⟨above ++ line, prefixOf_eq_some_iff.2 ⟨h.isPrefix, h.byteCount_eq⟩⟩
  · rintro ⟨before, h⟩
    obtain ⟨hbefore, hcount⟩ := prefixOf_eq_some_iff.1 h
    obtain ⟨above, heq, hwhole⟩ := exists_eq_append_lastLine before
    refine ⟨above, lastLine before, ?_, ?_, hwhole, fun hmem => ?_⟩
    · rwa [← heq]
    · rwa [← heq]
    · rw [lastLine, List.mem_reverse] at hmem
      simpa using List.mem_takeWhile_imp hmem

namespace IsBefore

theorem ofOffset_eq (h : IsBefore source offset above line) :
    Position.ofOffset source offset = ⟨above.count '\n', byteCount line⟩ := by
  have hbefore := prefixOf_eq_some_iff.2 ⟨h.isPrefix, h.byteCount_eq⟩
  have hcount : line.count '\n' = 0 := List.count_eq_zero.2 h.newline_not_mem
  rw [Position.ofOffset, hbefore, Option.getD_some, lastLine_append h.isWhole h.newline_not_mem,
    List.count_append, hcount, Nat.add_zero]

/-- The bytes in front of an offset in its line are characters of the source, and these are
counted. -/
theorem characterColumn_eq (h : IsBefore source offset above line) :
    characterColumn source offset = line.length := by
  obtain ⟨rest, hrest⟩ := h.isPrefix
  have hoffset : byteCount above + byteCount line = offset := by
    rw [← Text.byteCount_append, h.byteCount_eq]
  have hstart : offset - byteCount line = byteCount above := by omega
  have hinner := charactersBetween?_append above line rest
  rw [hrest, h.byteCount_eq] at hinner
  rw [characterColumn, h.ofOffset_eq]
  dsimp only
  rw [if_pos (by omega), hstart, hinner, Option.elim_some]

end IsBefore

end Offsets

/-! ## The node that an error points at -/

namespace Concrete

/-- The node that a fault of a construct points at: the name it binds, the target it stores into,
its closing tag, or the construct itself. -/
def culprit? (t : Concrete) : Fault → Option Concrete
  | .reservedWord _ => t.kind?.bind fun kind => kind.bindingField?.bind t.child?
  | .invalidTarget => t.ownTarget?.map Target.node
  | .unclosedFragment | .unclosedElement _ => t.child? .closeTag
  | _ => some t

/-- Whether an error is one of the construct, with the place of the node that it points at. -/
def IsBlamed (source : List Char) (t : Concrete) (e : SyntaxError) : Prop :=
  ∃ culprit ∈ t.culprit? e.fault, e = .atNode source culprit e.fault

end Concrete

section EarlyErrors

variable {source : List Char} {functions : Nat} {t : Concrete} {e : SyntaxError}

theorem isBlamed_of_bindingError? {kind : Kind} (hkind : t.kind? = some kind)
    (h : bindingError? source (kind.bindingField?.bind t.child?) = some e) :
    t.IsBlamed source e := by
  cases hname : kind.bindingField?.bind t.child? with
  | none =>
    rw [hname] at h
    cases h
  | some name =>
    rw [hname, bindingError?] at h
    split at h
    next =>
      cases h
      exact ⟨name, by simp [Concrete.culprit?, SyntaxError.atNode, hkind, hname], rfl⟩
    next => cases h

theorem isBlamed_of_targetError? {kind : Kind} {field : Field} (hkind : t.kind? = some kind)
    (hfield : kind.targetField? = some field)
    (h : targetError? source (t.child? field) kind.allowedTargets = some e) :
    t.IsBlamed source e := by
  cases htarget : t.child? field with
  | none =>
    rw [htarget] at h
    cases h
  | some target =>
    rw [htarget, targetError?] at h
    split at h
    next => cases h
    next =>
      cases h
      refine ⟨target, ?_, rfl⟩
      simp [Concrete.culprit?, SyntaxError.atNode, Concrete.ownTarget?, hkind, hfield, htarget]

theorem isBlamed_of_numberError? (h : numberError? source t = some e) : t.IsBlamed source e := by
  rw [numberError?] at h
  split at h
  next =>
    cases h
    exact ⟨t, rfl, rfl⟩
  next =>
    split at h
    next =>
      cases h
      exact ⟨t, rfl, rfl⟩
    next => cases h

theorem isBlamed_of_tagError? (h : tagError? source t = some e) : t.IsBlamed source e := by
  rw [tagError?] at h
  dsimp only at h
  split at h
  next => cases h
  next closeTag hclose =>
    split at h
    next => cases h
    next =>
      cases h
      exact ⟨closeTag, hclose, rfl⟩
    next =>
      split at h
      next => cases h
      next =>
        cases h
        exact ⟨closeTag, hclose, rfl⟩

theorem isBlamed_of_earlyError? (h : earlyError? source functions t = some e) :
    t.IsBlamed source e := by
  cases hkind : t.kind? with
  | none =>
    rw [earlyError?, hkind] at h
    cases h
  | some kind =>
    cases hchecks : kind.checksName with
    | true =>
      rw [earlyError?_of_checksName hkind hchecks] at h
      exact isBlamed_of_bindingError? hkind h
    | false =>
      cases htarget : kind.targetField? with
      | some field =>
        rw [earlyError?_of_targetField? hkind htarget] at h
        exact isBlamed_of_targetError? hkind htarget h
      | none =>
        rw [earlyError?, hkind] at h
        cases kind with
        | number => exact isBlamed_of_numberError? h
        | jsxElement => exact isBlamed_of_tagError? h
        | returnStatement =>
          dsimp only at h
          split at h
          next =>
            cases h
            exact ⟨t, rfl, rfl⟩
          next => cases h
        | identifier | propertyIdentifier | shorthandPropertyIdentifier
        | shorthandPropertyIdentifierPattern | typeIdentifier =>
          dsimp only at h
          split at h
          next => cases h
          next =>
            cases h
            exact ⟨t, rfl, rfl⟩
        | variableDeclarator | functionDeclaration | functionExpression | classDeclaration
        | requiredParameter | optionalParameter | arrowFunction | catchClause => cases hchecks
        | assignmentExpression | augmentedAssignmentExpression | updateExpression => cases htarget
        | _ => cases h

end EarlyErrors

/-! ## Refusals -/

section Refusals

open Lowering

variable {source : List Char} {limit : Nat} {root : Concrete} {e : SyntaxError}

theorem SyntaxError.place_atNode {t : Concrete} {fault : Fault} {above line : List Char}
    (h : IsBefore source t.span.start above line) :
    SyntaxError.atNode source t fault = ⟨fault, above.count '\n' + 1, line.length + 1⟩ := by
  rw [atNode, h.ofOffset_eq, h.characterColumn_eq]

theorem Lowering.place_depthError {t : Concrete} {above line : List Char}
    (h : IsBefore source t.span.start above line) :
    depthError source limit t = ⟨.tooDeep limit, above.count '\n' + 1, byteCount line + 1⟩ := by
  rw [depthError, h.ofOffset_eq]

/-- The error of a node points at its culprit, in lines and characters if it is an early error and
in lines and bytes if the node is nested too deeply. -/
theorem Lowering.Visit.exists_culprit {v : Visit} (h : v.error? source limit = some e) :
    ∃ culprit ∈ v.node.culprit? e.fault, ∀ above line,
      IsBefore source culprit.span.start above line →
        e.line = above.count '\n' + 1 ∧
          e.column = (if e.isTooDeep then byteCount line else line.length) + 1 := by
  rw [Visit.error?, Option.or_eq_some_iff] at h
  rcases h with h | ⟨-, h⟩
  · obtain ⟨culprit, hculprit, he⟩ := isBlamed_of_earlyError? h
    refine ⟨culprit, hculprit, fun above line hbefore => ?_⟩
    rw [SyntaxError.isTooDeep_of_isFound (isFound_of_earlyError? h), he,
      SyntaxError.place_atNode hbefore]
    exact ⟨rfl, rfl⟩
  · split at h
    next =>
      cases h
      refine ⟨v.node, rfl, fun above line hbefore => ?_⟩
      rw [place_depthError hbefore]
      exact ⟨rfl, rfl⟩
    next => cases h

/-- The error of a source is the first one of its visits. -/
theorem Lowering.lower_eq_error_iff : lower source limit root = .error e ↔
    (visitsAll [] root.children).findSome? (Visit.error? source limit) = some e := by
  rw [lower_eq_elim_findSome?]
  cases (visitsAll [] root.children).findSome? (Visit.error? source limit) with
  | none => simp
  | some error => simp

/-- A source is refused at the first node in document order that does not pass, and the error points
at the culprit of that node: its line is the one behind the line feeds in front, counted from one.
Its column counts the characters in front of the culprit in that line, and the bytes if the source
is refused for its nesting. So the column of that refusal counts characters only if each of them
takes a single byte. -/
theorem lower_error_place (h : lower source limit root = .error e) :
    ∃ before v after, visitsAll [] root.children = before ++ v :: after ∧
      (∀ u ∈ before, u.Passes source limit) ∧ v.error? source limit = some e ∧
      ∃ culprit ∈ v.node.culprit? e.fault, ∀ above line,
        IsBefore source culprit.span.start above line →
          e.line = above.count '\n' + 1 ∧
          e.column = (if e.isTooDeep then byteCount line else line.length) + 1 ∧
          (e.column = line.length + 1 ↔ e.isTooDeep = false ∨ ∀ c ∈ line, c.utf8Size = 1) := by
  obtain ⟨before, v, after, hvisits, hv, hbefore⟩ :=
    List.findSome?_eq_some_iff.1 (lower_eq_error_iff.1 h)
  have hpasses : ∀ u ∈ before, u.Passes source limit :=
    fun u hu => (Visit.error?_eq_none_iff source limit u).1 (hbefore u hu)
  obtain ⟨culprit, hculprit, hplace⟩ := Visit.exists_culprit hv
  refine ⟨before, v, after, hvisits, hpasses, hv, culprit, hculprit, fun above line hoffset => ?_⟩
  obtain ⟨hline, hcolumn⟩ := hplace above line hoffset
  refine ⟨hline, hcolumn, ?_⟩
  rw [hcolumn, ← Text.byteCount_eq_length_iff]
  cases e.isTooDeep with
  | false => simp
  | true => simp

/-- A reserved name behind a character of two bytes. -/
theorem lower_error_place_reserved_name :
    let source := "const s = 'é'; let let = 1;".toList
    let root := Concrete.ofSource source
    lower source defaultMaxDepth root = .error ⟨.reservedWord "let", 1, 20⟩ ∧
      ∃ v ∈ visitsAll [] root.children, ∃ culprit ∈ v.node.culprit? (.reservedWord "let"),
        ∀ above line, IsBefore source culprit.span.start above line →
          above.count '\n' = 0 ∧ line.length = 19 := by
  intro source root
  have herror : lower source defaultMaxDepth root = .error ⟨.reservedWord "let", 1, 20⟩ := by
    rw [lower_eq_error_iff]
    decide +kernel +revert
  obtain ⟨before, v, after, hvisits, -, -, culprit, hculprit, hplace⟩ := lower_error_place herror
  refine ⟨herror, v, by simp [hvisits], culprit, hculprit, fun above line hoffset => ?_⟩
  obtain ⟨hline, hcolumn, -⟩ := hplace above line hoffset
  exact ⟨(Nat.succ.inj hline).symm, (Nat.succ.inj hcolumn).symm⟩

/-- The refusal for nesting counts a character of two bytes twice: the number stands in the third
column. -/
theorem nesting_error_column_counts_bytes :
    let source := "é(1);".toList
    let root := Concrete.ofSource source
    lower source 2 root = .error ⟨.tooDeep 2, 1, 4⟩ ∧
      ∃ v ∈ visitsAll [] root.children, v.error? source 2 = some ⟨.tooDeep 2, 1, 4⟩ ∧
        ∃ culprit ∈ v.node.culprit? (.tooDeep 2),
          IsBefore source culprit.span.start [] ['é', '('] ∧ ['é', '('].length + 1 = 3 := by
  intro source root
  rw [lower_eq_error_iff]
  decide +kernel +revert

end Refusals

end SubmissionGrader.Syntax
