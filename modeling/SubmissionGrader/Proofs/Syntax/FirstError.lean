import SubmissionGrader.Proofs.Syntax.ErrorPlaces

/-!
# The first error is the first in pre-order

The search for an error leaves out the trees without one. From a cursor on, the places of a tree in
pre-order are those below it and those behind it (`TreeCursor.onward`). A step of the search passes
over some of them, none of which is faulty (`onward_of_advance?`), so what it finds is the first
faulty place of all (`TreeCursor.findFault?_eq_find?`).
-/

namespace SubmissionGrader.Syntax

namespace Concrete

mutual

/-- The nodes of a concrete tree, parents before children, from left to right. -/
def preorder : Concrete → List Concrete
  | node head children => node head children :: preorderAmong children

def preorderAmong : List Concrete → List Concrete
  | [] => []
  | t :: rest => preorder t ++ preorderAmong rest

end

theorem anyHasError_iff {ts : List Concrete}
    (h : ∀ t ∈ ts, t.hasError = true ↔ ∃ u ∈ t.preorder, u.isFaulty = true) :
    anyHasError ts = true ↔ ∃ u ∈ preorderAmong ts, u.isFaulty = true := by
  induction ts with
  | nil => simp [anyHasError, preorderAmong]
  | cons t rest ih =>
    have hrest := ih fun u hu => h u (List.mem_cons_of_mem t hu)
    simp only [anyHasError, preorderAmong, Bool.or_eq_true, List.mem_append, or_and_right,
      exists_or, h t List.mem_cons_self, hrest]

/-- A tree has an error if there is a faulty node in it. -/
theorem hasError_iff (t : Concrete) :
    t.hasError = true ↔ ∃ u ∈ t.preorder, u.isFaulty = true := by
  induction t with
  | node head children ih =>
    simp only [hasError, preorder, Bool.or_eq_true, List.exists_mem_cons_iff, anyHasError_iff ih]

end Concrete

namespace TreeCursor

open Concrete (preorder preorderAmong)

/-! ## The places of a tree in pre-order -/

mutual

/-- The places of the nodes of a tree that has these siblings behind it and nodes above it. -/
def places (behind : List Concrete) (above : List (Concrete × List Concrete)) :
    Concrete → List TreeCursor
  | .node head children =>
    ⟨.node head children, behind, above⟩ ::
      placesAmong ((.node head children, behind) :: above) children

def placesAmong (above : List (Concrete × List Concrete)) : List Concrete → List TreeCursor
  | [] => []
  | t :: rest => places rest above t ++ placesAmong above rest

end

/-- The places behind a node: among its siblings, and behind the nodes above it. -/
def placesBehind (behind : List Concrete) : List (Concrete × List Concrete) → List TreeCursor
  | [] => placesAmong [] behind
  | (parent, siblings) :: above =>
    placesAmong ((parent, siblings) :: above) behind ++ placesBehind siblings above

def below (c : TreeCursor) : List TreeCursor :=
  placesAmong ((c.node, c.behind) :: c.above) c.node.children

/-- The places behind the node of the cursor that are not below it. -/
def beyond (c : TreeCursor) : List TreeCursor := placesBehind c.behind c.above

def onward (c : TreeCursor) : List TreeCursor := places c.behind c.above c.node ++ c.beyond

theorem map_node_placesAmong {ts : List Concrete}
    (h : ∀ t ∈ ts, ∀ behind above, (places behind above t).map node = t.preorder)
    (above : List (Concrete × List Concrete)) :
    (placesAmong above ts).map node = preorderAmong ts := by
  induction ts with
  | nil => rfl
  | cons t rest ih =>
    rw [placesAmong, preorderAmong, List.map_append, h t List.mem_cons_self,
      ih fun u hu => h u (List.mem_cons_of_mem t hu)]

theorem map_node_places (t : Concrete) (behind : List Concrete)
    (above : List (Concrete × List Concrete)) :
    (places behind above t).map node = t.preorder := by
  induction t generalizing behind above with
  | node head children ih =>
    rw [places, preorder, List.map_cons, map_node_placesAmong ih]

theorem map_node_below (c : TreeCursor) : c.below.map node = preorderAmong c.node.children :=
  map_node_placesAmong (fun t _ => map_node_places t) _

theorem onward_eq_cons (c : TreeCursor) : c.onward = c :: (c.below ++ c.beyond) := by
  obtain ⟨⟨head, children⟩, behind, above⟩ := c
  rw [onward, places, below]
  rfl

theorem onward_start (t : Concrete) : (start t).onward = places [] [] t := by
  rw [onward, beyond, start, placesBehind, placesAmong, List.append_nil]

theorem map_node_onward_start (t : Concrete) : (start t).onward.map node = t.preorder := by
  rw [onward_start, map_node_places]

/-! ## The moves of the search -/

theorem onward_of_nextSibling? {c sibling : TreeCursor} (h : c.nextSibling? = some sibling) :
    sibling.onward = c.beyond := by
  obtain ⟨node, behind, above⟩ := c
  cases behind with
  | nil => cases h
  | cons first rest =>
    cases h
    cases above with
    | nil => rw [onward, beyond, beyond, placesBehind, placesBehind, placesAmong]
    | cons =>
      rw [onward, beyond, beyond, placesBehind, placesBehind, placesAmong, List.append_assoc]

theorem beyond_of_parent? {c parent : TreeCursor} (hlast : c.nextSibling? = none)
    (h : c.parent? = some parent) : parent.beyond = c.beyond := by
  obtain ⟨node, behind, above⟩ := c
  cases behind with
  | cons => cases hlast
  | nil =>
    cases above with
    | nil => cases h
    | cons first rest =>
      cases h
      rw [beyond, beyond, placesBehind, placesAmong, List.nil_append]

theorem beyond_of_root {c : TreeCursor} (hlast : c.nextSibling? = none) (h : c.parent? = none) :
    c.beyond = [] := by
  obtain ⟨node, behind, above⟩ := c
  cases behind with
  | cons => cases hlast
  | nil =>
    cases above with
    | nil => rw [beyond, placesBehind, placesAmong]
    | cons => cases h

/-- Moving on past the nodes below leads to the places beyond. -/
theorem elim_skip? (c : TreeCursor) : c.skip?.elim [] onward = c.beyond := by
  fun_induction skip? c with
  | case1 c sibling hsibling => exact onward_of_nextSibling? hsibling
  | case2 c hlast parent hparent ih => rw [ih, beyond_of_parent? hlast hparent]
  | case3 c hlast hroot => exact (beyond_of_root hlast hroot).symm

theorem onward_of_firstChild? {c child : TreeCursor} (h : c.firstChild? = some child) :
    child.onward = c.below ++ c.beyond := by
  obtain ⟨⟨head, children⟩, behind, above⟩ := c
  cases children with
  | nil => cases h
  | cons first rest =>
    cases h
    rw [onward, beyond, below, beyond, placesBehind, Concrete.children_node, placesAmong,
      List.append_assoc]

theorem below_of_firstChild? {c : TreeCursor} (h : c.firstChild? = none) : c.below = [] := by
  obtain ⟨⟨head, children⟩, behind, above⟩ := c
  cases children with
  | nil => rw [below, Concrete.children_node, placesAmong]
  | cons => cases h

/-- A tree without an error has no faulty place to pass over. -/
theorem isFaulty_of_mem_below {c d : TreeCursor} (h : c.node.hasError = false) (hd : d ∈ c.below) :
    d.node.isFaulty = false := by
  have hmem : d.node ∈ preorderAmong c.node.children := by
    rw [← map_node_below]
    exact List.mem_map_of_mem hd
  refine eq_false_of_ne_true fun hfaulty => Bool.eq_false_iff.1 h ?_
  rw [Concrete.hasError_iff]
  obtain ⟨⟨head, children⟩, behind, above⟩ := c
  rw [preorder]
  exact ⟨d.node, List.mem_cons_of_mem _ hmem, hfaulty⟩

/-- A step of the search passes over the node that it stands at and over nodes below that one, and
those are not faulty. Where there is no step, no place is left. -/
theorem exists_passed (c : TreeCursor) :
    ∃ passed, c.onward = c :: passed ++ c.advance?.elim [] onward ∧
      ∀ d ∈ passed, d.node.isFaulty = false := by
  have hskipped : c.below ++ c.skip?.elim [] onward = c.below ++ c.beyond := by rw [elim_skip?]
  rw [onward_eq_cons, advance?]
  cases herror : c.node.hasError with
  | false =>
    refine ⟨c.below, ?_, fun d hd => isFaulty_of_mem_below herror hd⟩
    rw [if_neg Bool.false_ne_true, Option.none_or, List.cons_append, hskipped]
  | true =>
    refine ⟨[], ?_, List.forall_mem_nil _⟩
    rw [if_pos rfl]
    cases hchild : c.firstChild? with
    | some child => exact congrArg (List.cons c) (onward_of_firstChild? hchild).symm
    | none =>
      rw [Option.none_or, elim_skip?, below_of_firstChild? hchild]
      rfl

/-- The search leaves out nothing: it finds the first faulty place from the cursor on. -/
theorem findFault?_eq_find? (c : TreeCursor) :
    c.findFault? = c.onward.find? fun d => d.node.isFaulty := by
  fun_induction findFault? c with
  | case1 c hfaulty => rw [onward_eq_cons, List.find?_cons, hfaulty]
  | case2 c hfaulty next hnext ih =>
    obtain ⟨passed, honward, hpassed⟩ := exists_passed c
    have hnone : (c :: passed).find? (fun d => d.node.isFaulty) = none :=
      List.find?_eq_none.2 <| List.forall_mem_cons.2
        ⟨hfaulty, fun d hd => ne_true_of_eq_false (hpassed d hd)⟩
    rw [honward, List.find?_append, hnone, Option.none_or, hnext, Option.elim_some, ih]
  | case3 c hfaulty hnext =>
    obtain ⟨passed, honward, hpassed⟩ := exists_passed c
    rw [honward, hnext, Option.elim_none, List.append_nil, eq_comm, List.find?_eq_none]
    exact List.forall_mem_cons.2 ⟨hfaulty, fun d hd => ne_true_of_eq_false (hpassed d hd)⟩

end TreeCursor

namespace Concrete

theorem firstError?_eq_find? (t : Concrete) : t.firstError? = t.preorder.find? isFaulty := by
  rw [firstError?, TreeCursor.findFault?_eq_find?, ← TreeCursor.map_node_onward_start,
    List.find?_map]
  rfl

theorem firstError?_eq_none_iff (t : Concrete) :
    t.firstError? = none ↔ ∀ u ∈ t.preorder, u.isFaulty = false := by
  simp [firstError?_eq_find?]

theorem exists_firstError?_iff (t : Concrete) :
    (∃ fault, t.firstError? = some fault) ↔ t.hasError = true := by
  rw [firstError?_eq_find?, ← Option.isSome_iff_exists, List.find?_isSome, hasError_iff]

end Concrete

/-! ## The refusal of a source -/

section Refusal

variable {source : List Char} {limit : Nat} {t : Concrete} {e : SyntaxError}

theorem Fault.ne_unexpected_of_isFound {fault : Fault} (h : fault.isFound = true) :
    fault ≠ .unexpected := by
  rintro rfl
  cases h

theorem fault_of_lower (h : lower source limit t = .error e) : e.fault ≠ .unexpected := by
  obtain ⟨v, -, hv⟩ := List.exists_of_findSome?_eq_some (Lowering.lower_eq_error_iff.1 h)
  rw [Lowering.Visit.error?, Option.or_eq_some_iff] at hv
  rcases hv with hv | ⟨-, hv⟩
  · exact Fault.ne_unexpected_of_isFound (isFound_of_earlyError? hv)
  · split at hv
    next =>
      cases hv
      intro hfault
      cases hfault
    next => cases hv

/-- A source is refused with its first faulty node, and lowered if it has none. -/
theorem parseConcrete_eq_elim (source : List Char) (limit : Nat) (t : Concrete) :
    parseConcrete source limit t =
      t.firstError?.elim (lower source limit t) fun fault =>
        .error (describeError source fault) := by
  rw [parseConcrete]
  cases hfirst : t.firstError? with
  | some fault =>
    rw [if_pos ((Concrete.exists_firstError?_iff t).1 ⟨fault, hfirst⟩), Option.elim_some]
  | none =>
    have herror : ¬t.hasError = true := by
      rw [← Concrete.exists_firstError?_iff, hfirst]
      rintro ⟨fault, hfault⟩
      cases hfault
    rw [if_neg herror, Option.elim_none]

theorem fault_of_parseConcrete (h : parseConcrete source limit t = .error e) :
    e.fault ≠ .unexpected := by
  rw [parseConcrete_eq_elim] at h
  cases hfirst : t.firstError? with
  | some fault =>
    rw [hfirst] at h
    cases h
    exact Fault.ne_unexpected_of_isFound (isFound_describeError source fault)
  | none =>
    rw [hfirst] at h
    exact fault_of_lower h

end Refusal

/-- In every concrete tree, the nodes with an error are those with a faulty node in their tree. The
search enters no others, and it ends: a step leaves fewer nodes to come, and within a step, going up
leaves fewer nodes above. It finds the first faulty place, which holds the first faulty node in
pre-order, or nothing if there is none. So a source with an error is refused at that node, and never
without naming a place. -/
theorem first_error_in_preorder (t : Concrete) :
    (∀ u ∈ t.preorder, u.hasError = true ↔ ∃ v ∈ u.preorder, v.isFaulty = true) ∧
      (∀ c d : TreeCursor, c.advance? = some d → d.remaining < c.remaining) ∧
      (∀ c d : TreeCursor, c.parent? = some d → d.above.length < c.above.length) ∧
      (TreeCursor.start t).findFault? =
        (TreeCursor.places [] [] t).find? (fun c => c.node.isFaulty) ∧
      (TreeCursor.places [] [] t).map TreeCursor.node = t.preorder ∧
      t.firstError? = t.preorder.find? Concrete.isFaulty ∧
      (t.firstError? = none ↔ ∀ u ∈ t.preorder, u.isFaulty = false) ∧
      ∀ source limit,
        parseConcrete source limit t =
          t.firstError?.elim (lower source limit t)
            (fun fault => .error (describeError source fault)) ∧
        ∀ e, parseConcrete source limit t = .error e → e.fault ≠ .unexpected := by
  have hplaces := TreeCursor.findFault?_eq_find? (TreeCursor.start t)
  rw [TreeCursor.onward_start] at hplaces
  exact ⟨fun u _ => u.hasError_iff, fun _ _ => TreeCursor.remaining_of_advance?,
    fun _ _ => TreeCursor.length_above_of_parent?, hplaces,
    TreeCursor.map_node_places t [] [], t.firstError?_eq_find?, t.firstError?_eq_none_iff,
    fun source limit => ⟨parseConcrete_eq_elim source limit t, fun _ => fault_of_parseConcrete⟩⟩

end SubmissionGrader.Syntax
