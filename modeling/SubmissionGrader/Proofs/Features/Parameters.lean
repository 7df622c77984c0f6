import Mathlib.Data.List.Find
import SubmissionGrader.Proofs.Features.Extraction
import SubmissionGrader.Proofs.Lists
import SubmissionGrader.Proofs.Outcome
import SubmissionGrader.Proofs.Syntax.Preorder

/-!
# First parameters

What a function shows of its first parameter depends on the first node within the parameters of the
lowered function. For functions of the form that the grammar gives them
(`Concrete.isFormedFunction`) that node is the pattern of the parameter, as long as nothing that is
lowered stands in front of it (`Concrete.leadingPattern?`). Decorators and most modifiers are
lowered, and behind them a pattern is not seen.
-/

namespace SubmissionGrader

open Syntax Lowering

/-! ## Kinds of lowered nodes -/

namespace Syntax.Lowering

variable {source : List Char} {t : Concrete}

/-- The kind of a lowered node tells whether the node was a function, a list of parameters, a name
or an object pattern. -/
theorem kindOf_tells (source : List Char) (t : Concrete) :
    (isFunction t = true ↔ ∃ form name, kindOf source t = .function form name) ∧
    (kindOf source t = .params ↔ t.is .formalParameters = true) ∧
    (∀ name, kindOf source t = .identifier name ↔
      t.is .identifier = true ∧ t.text source = name) ∧
    (kindOf source t = .objectPattern ↔ t.is .objectPattern = true) := by
  simp only [isFunction, Concrete.is, kindOf]
  cases t.kind? with
  | none => simp
  | some kind =>
    cases kind
    all_goals try simp [Kind.isFunction]
    -- An operator and a tag decide between two kinds, and neither is one of the four.
    all_goals split
    all_goals simp

theorem isFunction_iff_kindOf (source : List Char) :
    isFunction t = true ↔ ∃ form name, kindOf source t = .function form name :=
  (kindOf_tells source t).1

theorem kindOf_eq_params_iff : kindOf source t = .params ↔ t.is .formalParameters = true :=
  (kindOf_tells source t).2.1

theorem kindOf_eq_identifier_iff {name : String} :
    kindOf source t = .identifier name ↔ t.is .identifier = true ∧ t.text source = name :=
  (kindOf_tells source t).2.2.1 name

theorem kindOf_eq_objectPattern_iff (source : List Char) :
    kindOf source t = .objectPattern ↔ t.is .objectPattern = true :=
  (kindOf_tells source t).2.2.2

end Syntax.Lowering

/-! ## Parameters and patterns -/

namespace Syntax.Concrete

/-- The functions below the root, parents before children. -/
def functions (root : Concrete) : List Concrete :=
  ((visitsAll [] root.children).map Visit.node).filter Lowering.isFunction

/-- Whether a child of a function holds its parameters: a list in parentheses, or a bare one. -/
def holdsParameters (f c : Concrete) : Bool := c.is .formalParameters || isBare (some f) c

def isParameter (t : Concrete) : Bool := t.is .requiredParameter || t.is .optionalParameter

def firstParameter? (f : Concrete) : Option Concrete :=
  (f.children.find? (holdsParameters f)).bind fun c =>
    if c.is .formalParameters then c.children.find? isParameter else some c

/-- The pattern of a parameter; a bare parameter is a pattern itself. -/
def pattern? (p : Concrete) : Option Concrete :=
  if p.isParameter then p.child? .pattern else some p

/-- The first node that is lowered within a parameter. -/
def firstNode? (p : Concrete) : Option Concrete :=
  if p.isParameter then p.children.find? isEntered else some p

def firstPattern? (f : Concrete) : Option Concrete := f.firstParameter?.bind pattern?

/-- Whether nothing that is lowered stands in front of the pattern of a parameter. -/
def leadsWithPattern (p : Concrete) : Bool :=
  !p.isParameter || p.firstNode?.any (·.field == some .pattern)

/-- The pattern of the first parameter of a function, if nothing that is lowered stands in front of
it. -/
def leadingPattern? (f : Concrete) : Option Concrete :=
  (f.firstParameter?.filter leadsWithPattern).bind pattern?

section Keys

variable (source : List Char)

/-- The key that an entry of an object pattern names. Computed keys and rest elements have none. -/
def entryKey? (t : Concrete) : Option String :=
  match t.kind? with
  | some .shorthandPropertyIdentifierPattern => some (t.text source)
  | some .pairPattern => (t.child? .key).bind (keyName? source)
  | some .objectAssignmentPattern =>
    ((t.child? .left).filter (·.is .shorthandPropertyIdentifierPattern)).map fun c => c.text source
  | _ => none

def keys (t : Concrete) : List String :=
  if t.is .objectPattern then t.children.filterMap (entryKey? source) else []

end Keys

/-! ## The form of functions -/

/-- What may stand in front of the pattern of a parameter, tokens and comments apart. -/
def isMark (t : Concrete) : Bool :=
  t.is (.other "decorator") || t.is (.other "accessibility_modifier") ||
    t.is (.other "override_modifier")

/-- A pattern is lowered and no group. An object pattern has no group among its entries. -/
def isFormedPattern (t : Concrete) : Bool :=
  isEntered t && !isGroup t && (!t.is .objectPattern || t.children.all (!isGroup ·))

/-- A parameter has a pattern and only marks in front of it. -/
def isFormedParameter (p : Concrete) : Bool :=
  (p.child? .pattern).any isFormedPattern &&
    (p.children.takeWhile (·.field != some .pattern)).all fun c => !isEntered c || c.isMark

/-- A function has no group in front of its parameters, and what is entered of a list of parameters
are parameters. -/
def isFormedFunction (f : Concrete) : Bool :=
  (f.children.takeWhile (!holdsParameters f ·)).all (!isGroup ·) &&
    (f.children.find? (holdsParameters f)).all fun c =>
      if c.is .formalParameters then
        !isBare (some f) c &&
          c.children.all fun p => !isEntered p || p.isParameter && p.isFormedParameter
      else isFormedPattern c

end Syntax.Concrete

/-! ## What lowering makes of parameters -/

namespace Syntax.Lowering

variable {source : List Char} {parent : Option Concrete} {t : Concrete} {ts : List Concrete}

theorem contributions_eq_flatMap :
    contributions source parent ts = ts.flatMap (contribution source parent) := by
  induction ts with
  | nil => rfl
  | cons t rest ih => rw [contributions, ih, List.flatMap_cons]

theorem contribution_of_not_isEntered (h : isEntered t = false) :
    contribution source parent t = [] := by
  rw [contribution_eq, h]
  rfl

theorem contribution_eq_lowered (hentered : isEntered t = true) (hgroup : isGroup t = false)
    (hbare : isBare parent t = false) : contribution source parent t = [lowered source t] := by
  rw [contribution_eq, if_pos hentered, assemble, hgroup, hbare]
  rfl

theorem contribution_of_isBare (hentered : isEntered t = true) (hgroup : isGroup t = false)
    (hbare : isBare parent t = true) :
    contribution source parent t = [.node .params [lowered source t]] := by
  rw [contribution_eq, if_pos hentered, assemble, hgroup, hbare]
  rfl

theorem contribution_of_isGroup (hentered : isEntered t = true) (hgroup : isGroup t = true)
    (hbare : isBare parent t = false) :
    contribution source parent t = contributions source (some t) t.children := by
  rw [contribution_eq, if_pos hentered, assemble, hgroup, hbare]
  rfl

/-- Only arrow functions have bare parameters. -/
theorem isBare_eq_false {kind : Kind} (h : t.is kind = true) (hkind : kind ≠ .arrowFunction)
    (c : Concrete) : isBare (some t) c = false := by
  have harrow : t.is .arrowFunction = false := by
    rw [Concrete.is, Concrete.is_iff.1 h]
    simpa using hkind
  rw [isBare, Option.any_some, harrow, Bool.false_and]

theorem isEntered_of_is {kind : Kind} (h : t.is kind = true) (hkind : kind.isSkipped = false) :
    isEntered t = true := by
  have hkind? := Concrete.is_iff.1 h
  rw [isEntered, Concrete.isNamed_of_kind? hkind?, isSkipped, hkind?, Option.map_some,
    Option.getD_some, hkind]
  rfl

/-- What comes first is what the first node that is entered adds. -/
theorem contributions_of_find? (source : List Char) (parent : Option Concrete)
    (h : ts.find? isEntered = some t) :
    ∃ behind, contributions source parent ts = contribution source parent t ++ behind := by
  obtain ⟨-, before, after, rfl, hbefore⟩ := List.find?_eq_some_iff_append.1 h
  have hnothing : before.flatMap (contribution source parent) = [] := by
    rw [List.flatMap_eq_nil_iff]
    intro c hc
    exact contribution_of_not_isEntered (by simpa using hbefore c hc)
  rw [contributions_eq_flatMap, List.flatMap_append, hnothing, List.nil_append, List.flatMap_cons]
  exact ⟨_, rfl⟩

theorem contributions_eq_nil (h : ts.find? isEntered = none) :
    contributions source parent ts = [] := by
  rw [contributions_eq_flatMap, List.flatMap_eq_nil_iff]
  intro c hc
  exact contribution_of_not_isEntered (by simpa using List.find?_eq_none.1 h c hc)

end Syntax.Lowering

namespace Syntax.Concrete

theorem not_isGroup_of_isMark {t : Concrete} (h : t.isMark = true) : isGroup t = false := by
  rw [isMark, Bool.or_eq_true, Bool.or_eq_true, or_assoc] at h
  rcases h with h | h | h <;> simp [isGroup, is, is_iff.1 h]

theorem kindOf_of_isMark (source : List Char) {t : Concrete} (h : t.isMark = true) :
    ∃ name, kindOf source t = .other name := by
  rw [isMark, Bool.or_eq_true, Bool.or_eq_true, or_assoc] at h
  rcases h with h | h | h <;> simp [kindOf, is_iff.1 h]

section Patterns

variable {t : Concrete} (h : t.isFormedPattern = true)
include h

theorem isFormedPattern.isEntered : Lowering.isEntered t = true := by
  simp only [isFormedPattern, Bool.and_eq_true] at h
  exact h.1.1

theorem isFormedPattern.isGroup : Lowering.isGroup t = false := by
  simp only [isFormedPattern, Bool.and_eq_true, Bool.not_eq_true'] at h
  exact h.1.2

theorem isFormedPattern.isParameter : t.isParameter = false := by
  have hgroup := isFormedPattern.isGroup h
  simp only [Lowering.isGroup, Bool.or_eq_false_iff] at hgroup
  simp [Concrete.isParameter, hgroup]

end Patterns

/-- What is lowered first of a parameter in a list is its pattern or a mark. -/
theorem isFormedParameter.first {p : Concrete} (h : p.isFormedParameter = true) :
    ∃ u, p.children.find? isEntered = some u ∧
      ((u.field = some .pattern ∧ p.child? .pattern = some u ∧ u.isFormedPattern = true) ∨
        (u.field ≠ some .pattern ∧ u.isMark = true)) := by
  rw [isFormedParameter, Bool.and_eq_true, Option.any_eq_true] at h
  obtain ⟨⟨pattern, hpattern, hformed⟩, hmarks⟩ := h
  obtain ⟨front, after, hchildren, hfront⟩ : ∃ front after,
      p.children = front ++ pattern :: after ∧
        ∀ c ∈ front, c.field ≠ some .pattern ∧ (isEntered c = true → c.isMark = true) := by
    obtain ⟨after, hchildren⟩ := Lists.eq_takeWhile_append_of_find? hpattern
    refine ⟨_, after, hchildren, fun c hc => ⟨by simpa using List.mem_takeWhile_imp hc, ?_⟩⟩
    intro hentered
    simpa [hentered] using List.all_eq_true.1 hmarks c hc
  rw [hchildren, List.find?_append]
  cases hfirst : front.find? isEntered with
  | some m =>
    obtain ⟨hfield, hmark⟩ := hfront m (List.mem_of_find?_eq_some hfirst)
    exact ⟨m, rfl, .inr ⟨hfield, hmark (List.find?_some hfirst)⟩⟩
  | none =>
    have hfield : pattern.field = some .pattern := by simpa using List.find?_some hpattern
    exact ⟨pattern, by simp [isFormedPattern.isEntered hformed], .inl ⟨hfield, hpattern, hformed⟩⟩

theorem isEntered_of_isParameter {p : Concrete} (h : p.isParameter = true) :
    isEntered p = true := by
  rcases Bool.or_eq_true_iff.1 h with h | h
  · exact isEntered_of_is h rfl
  · exact isEntered_of_is h rfl

theorem isGroup_of_isParameter {p : Concrete} (h : p.isParameter = true) : isGroup p = true := by
  rw [isGroup, Bool.or_assoc]
  exact Bool.or_eq_true_iff.2 (.inr h)

theorem isBare_of_isParameter {p : Concrete} (h : p.isParameter = true) (c : Concrete) :
    isBare (some p) c = false := by
  rcases Bool.or_eq_true_iff.1 h with h | h
  · exact isBare_eq_false h (by simp) c
  · exact isBare_eq_false h (by simp) c

theorem isGroup_of_is_formalParameters {c : Concrete} (h : c.is .formalParameters = true) :
    isGroup c = false := by
  simp [isGroup, is, is_iff.1 h]

section Lowered

variable {source : List Char}

/-- In front of the parameters of a function, nothing is lowered to parameters. -/
theorem find?_params_eq_none (source : List Char) {f : Concrete} {front : List Concrete}
    (hfront : ∀ c ∈ front, holdsParameters f c = false ∧ isGroup c = false) :
    (contributions source (some f) front).find? (·.kind == .params) = none := by
  rw [List.find?_eq_none, contributions_eq_flatMap]
  intro n hn
  obtain ⟨c, hc, hn⟩ := List.mem_flatMap.1 hn
  obtain ⟨hholds, hgroup⟩ := hfront c hc
  obtain ⟨hlist, hbare⟩ := Bool.or_eq_false_iff.1 hholds
  cases hentered : isEntered c with
  | false =>
    rw [contribution_of_not_isEntered hentered] at hn
    cases hn
  | true =>
    rw [contribution_eq_lowered hentered hgroup hbare, List.mem_singleton] at hn
    have hkind : kindOf source c ≠ .params := by
      rw [Ne, kindOf_eq_params_iff, hlist]
      simp
    simpa [hn] using hkind

/-- The first node in a lowered list of parameters is the first one within the first parameter. -/
theorem first?_lowered (source : List Char) {c : Concrete} (hlist : c.is .formalParameters = true)
    (hformed : ∀ p ∈ c.children, isEntered p = true →
      p.isParameter = true ∧ p.isFormedParameter = true) :
    (lowered source c).first? =
      ((c.children.find? isParameter).bind firstNode?).map (lowered source) := by
  have hfind : c.children.find? isParameter = c.children.find? isEntered := by
    refine List.find?_congr fun p hp => Bool.eq_iff_iff.2 ⟨isEntered_of_isParameter, fun h => ?_⟩
    exact (hformed p hp h).1
  rw [hfind, lowered, Node.first?, Node.children_node]
  cases hfirst : c.children.find? isEntered with
  | none =>
    rw [contributions_eq_nil hfirst]
    rfl
  | some p =>
    have hentered : isEntered p = true := List.find?_some hfirst
    obtain ⟨hparameter, hp⟩ := hformed p (List.mem_of_find?_eq_some hfirst) hentered
    obtain ⟨u, hu, hkinds⟩ := isFormedParameter.first hp
    have hgroup : isGroup u = false := by
      rcases hkinds with ⟨-, -, hpattern⟩ | ⟨-, hmark⟩
      · exact isFormedPattern.isGroup hpattern
      · exact not_isGroup_of_isMark hmark
    obtain ⟨behind, hbehind⟩ := contributions_of_find? source (some c) hfirst
    obtain ⟨more, hmore⟩ := contributions_of_find? source (some p) hu
    rw [hbehind, contribution_of_isGroup hentered (isGroup_of_isParameter hparameter)
      (isBare_eq_false hlist (by simp) p), hmore,
      contribution_eq_lowered (List.find?_some hu) hgroup (isBare_of_isParameter hparameter u),
      Option.bind_some, firstNode?, if_pos hparameter, hu]
    rfl

/-- What a child of a function that holds its parameters is lowered to. -/
def loweredParameters (source : List Char) (c : Concrete) : Node :=
  if c.is .formalParameters then lowered source c else .node .params [lowered source c]

variable {f : Concrete}

theorem isFormedFunction.front (h : f.isFormedFunction = true) :
    ∀ c ∈ f.children.takeWhile (!holdsParameters f ·),
      holdsParameters f c = false ∧ isGroup c = false := by
  intro c hc
  have hgroup := List.all_eq_true.1 (Bool.and_eq_true_iff.1 h).1 c hc
  exact ⟨by simpa using List.mem_takeWhile_imp hc, by simpa using hgroup⟩

theorem isFormedFunction.list (h : f.isFormedFunction = true) {c : Concrete}
    (hc : f.children.find? (holdsParameters f) = some c) (hlist : c.is .formalParameters = true) :
    isBare (some f) c = false ∧
      ∀ p ∈ c.children, isEntered p = true →
        p.isParameter = true ∧ p.isFormedParameter = true := by
  have hholder := (Bool.and_eq_true_iff.1 h).2
  rw [hc, Option.all_some, if_pos hlist, Bool.and_eq_true, List.all_eq_true] at hholder
  refine ⟨by simpa using hholder.1, fun p hp hentered => ?_⟩
  simpa [hentered] using hholder.2 p hp

theorem isFormedFunction.bare (h : f.isFormedFunction = true) {c : Concrete}
    (hc : f.children.find? (holdsParameters f) = some c) (hlist : c.is .formalParameters = false) :
    isBare (some f) c = true ∧ c.isFormedPattern = true := by
  have hholds := List.find?_some hc
  have hholder := (Bool.and_eq_true_iff.1 h).2
  rw [hc, Option.all_some, hlist] at hholder
  rw [holdsParameters, hlist] at hholds
  exact ⟨hholds, hholder⟩

/-- The parameters of a lowered function. -/
theorem find?_params_lowered (h : f.isFormedFunction = true) :
    (lowered source f).children.find? (·.kind == .params) =
      (f.children.find? (holdsParameters f)).map (loweredParameters source) := by
  rw [lowered, Node.children_node]
  cases hfind : f.children.find? (holdsParameters f) with
  | none =>
    have hall : f.children.takeWhile (!holdsParameters f ·) = f.children := by
      rw [List.takeWhile_eq_self_iff]
      intro c hc
      simpa using List.find?_eq_none.1 hfind c hc
    exact find?_params_eq_none source (hall ▸ isFormedFunction.front h)
  | some c =>
    obtain ⟨after, hchildren⟩ := Lists.eq_takeWhile_append_of_find? hfind
    have hfront := find?_params_eq_none source (isFormedFunction.front h)
    -- What the child that holds the parameters adds comes behind nodes that are no parameters.
    have hcontribution : contribution source (some f) c = [loweredParameters source c] := by
      cases hlist : c.is .formalParameters with
      | true =>
        rw [loweredParameters, if_pos hlist]
        exact contribution_eq_lowered (isEntered_of_is hlist rfl)
          (isGroup_of_is_formalParameters hlist) (isFormedFunction.list h hfind hlist).1
      | false =>
        obtain ⟨hbare, hpattern⟩ := isFormedFunction.bare h hfind hlist
        rw [loweredParameters, hlist]
        exact contribution_of_isBare (isFormedPattern.isEntered hpattern)
          (isFormedPattern.isGroup hpattern) hbare
    have hkind : (loweredParameters source c).kind = .params := by
      rw [loweredParameters]
      split
      next hlist => exact kindOf_eq_params_iff.2 hlist
      next => rfl
    rw [contributions_eq_flatMap] at hfront ⊢
    rw [hchildren, List.flatMap_append, List.flatMap_cons, hcontribution, List.find?_append, hfront]
    simp [hkind]

theorem firstParameter?_lowered (h : f.isFormedFunction = true) :
    FeatureContext.firstParameter? (lowered source f) =
      (f.firstParameter?.bind firstNode?).map (lowered source) := by
  rw [FeatureContext.firstParameter?, find?_params_lowered h, Concrete.firstParameter?]
  cases hfind : f.children.find? (holdsParameters f) with
  | none => rfl
  | some c =>
    cases hlist : c.is .formalParameters with
    | true =>
      have hfirst := first?_lowered source hlist (isFormedFunction.list h hfind hlist).2
      simpa [loweredParameters, hlist] using hfirst
    | false =>
      have hpattern := (isFormedFunction.bare h hfind hlist).2
      simp [loweredParameters, hlist, firstNode?, isFormedPattern.isParameter hpattern, Node.first?]

/-- The first node within the first parameter is the leading pattern or a mark. -/
theorem isFormedFunction.firstNode (h : f.isFormedFunction = true) {p : Concrete}
    (hp : f.firstParameter? = some p) :
    ∃ u, p.firstNode? = some u ∧
      ((f.leadingPattern? = some u ∧ u.isFormedPattern = true) ∨
        (f.leadingPattern? = none ∧ u.isMark = true)) := by
  rw [leadingPattern?, hp]
  obtain ⟨c, hc, hfirst⟩ := Option.bind_eq_some_iff.1 hp
  cases hlist : c.is .formalParameters with
  | true =>
    rw [if_pos hlist] at hfirst
    have hparameter : p.isParameter = true := List.find?_some hfirst
    have hformed := ((isFormedFunction.list h hc hlist).2 p (List.mem_of_find?_eq_some hfirst)
      (isEntered_of_isParameter hparameter)).2
    obtain ⟨u, hu, hkinds⟩ := isFormedParameter.first hformed
    have hnode : p.firstNode? = some u := by rw [firstNode?, if_pos hparameter, hu]
    refine ⟨u, hnode, ?_⟩
    rcases hkinds with ⟨hfield, hpattern, hu⟩ | ⟨hfield, hmark⟩
    · have hleads : p.leadsWithPattern = true := by simp [leadsWithPattern, hnode, hfield]
      refine .inl ⟨?_, hu⟩
      rw [Option.filter_some, if_pos hleads, Option.bind_some, pattern?, if_pos hparameter,
        hpattern]
    · have hleads : ¬p.leadsWithPattern = true := by
        simp [leadsWithPattern, hparameter, hnode, hfield]
      exact .inr ⟨by rw [Option.filter_some, if_neg hleads, Option.bind_none], hmark⟩
  | false =>
    rw [hlist] at hfirst
    cases hfirst
    obtain ⟨-, hpattern⟩ := isFormedFunction.bare h hc hlist
    have hparameter := isFormedPattern.isParameter hpattern
    have hleads : p.leadsWithPattern = true := by simp [leadsWithPattern, hparameter]
    refine ⟨p, by simp [firstNode?, hparameter], .inl ⟨?_, hpattern⟩⟩
    rw [Option.filter_some, if_pos hleads, Option.bind_some, pattern?, hparameter]
    rfl

/-- What a function shows as its first parameter is the leading pattern, or a node that shows
nothing. -/
theorem isFormedFunction.parameter?_lowered (source : List Char)
    (hfunction : Lowering.isFunction f = true) (h : f.isFormedFunction = true) :
    (∃ p, f.leadingPattern? = some p ∧ p.isFormedPattern = true ∧
      (lowered source f).parameter? = some (lowered source p)) ∨
    (f.leadingPattern? = none ∧
      ∀ n ∈ (lowered source f).parameter?, ∃ name, n.kind = .other name) := by
  obtain ⟨form, name, hkind⟩ := (isFunction_iff_kindOf source).1 hfunction
  have hparameter : (lowered source f).parameter? =
      (f.firstParameter?.bind firstNode?).map (lowered source) := by
    rw [← firstParameter?_lowered h, Node.parameter?, kind_lowered, hkind]
  rw [hparameter]
  cases hfirst : f.firstParameter? with
  | none => exact .inr ⟨by rw [leadingPattern?, hfirst]; rfl, by simp⟩
  | some p =>
    obtain ⟨u, hu, hkinds⟩ := isFormedFunction.firstNode h hfirst
    rw [Option.bind_some, hu, Option.map_some]
    rcases hkinds with ⟨hleading, hpattern⟩ | ⟨hnone, hmark⟩
    · exact .inl ⟨u, hleading, hpattern, rfl⟩
    · refine .inr ⟨hnone, fun n hn => ?_⟩
      cases hn
      exact kindOf_of_isMark source hmark

theorem entryKey?_eq (source : List Char) (t : Concrete) :
    entryKey? source t =
      match kindOf source t with
      | .patternProperty key => key
      | _ => none := by
  rw [entryKey?, kindOf]
  cases t.kind? with
  | none => rfl
  | some kind =>
    cases kind
    case binaryExpression | jsxElement =>
      dsimp only
      split
      next heq => split at heq <;> cases heq
      next => rfl
    all_goals rfl

/-- Nodes that are left out are no entries of object patterns. -/
theorem entryKey?_of_not_isEntered {t : Concrete} (h : isEntered t = false) :
    entryKey? source t = none := by
  cases hkind : t.kind? with
  | none => rw [entryKey?, hkind]
  | some kind =>
    have hskipped : kind.isSkipped = true := by
      rw [← Bool.not_eq_false]
      intro hkept
      rw [isEntered_of_is (is_iff.2 hkind) hkept] at h
      cases h
    cases kind
    all_goals first | exact absurd hskipped (by decide) | rw [entryKey?, hkind]

/-- The keys that a lowered object pattern names. -/
theorem patternKeys_lowered {p : Concrete} (h : p.isFormedPattern = true)
    (hobject : p.is .objectPattern = true) :
    FeatureContext.patternKeys (lowered source p).children =
      p.children.filterMap (entryKey? source) := by
  have hgroups : ∀ c ∈ p.children, isGroup c = false := by
    simp only [isFormedPattern, hobject, Bool.and_eq_true, Bool.not_true, Bool.false_or,
      List.all_eq_true, Bool.not_eq_true'] at h
    exact h.2
  rw [lowered, Node.children_node, FeatureContext.patternKeys, contributions_eq_flatMap,
    List.filterMap_flatMap, List.filterMap_eq_flatMap_toList]
  refine List.flatMap_congr fun c hc => ?_
  cases hentered : isEntered c with
  | false => rw [contribution_of_not_isEntered hentered, entryKey?_of_not_isEntered hentered]; rfl
  | true =>
    rw [contribution_eq_lowered hentered (hgroups c hc) (isBare_eq_false hobject (by simp) c),
      entryKey?_eq, List.filterMap_eq_flatMap_toList, List.flatMap_singleton]
    rfl

end Lowered

end Syntax.Concrete

namespace FeatureContext

variable {source : List Char} {root : Concrete}

theorem parameter?_lowered_of_not_isFunction {t : Concrete} (h : Lowering.isFunction t = false) :
    (lowered source t).parameter? = none := by
  rw [Node.parameter?, kind_lowered]
  split
  next form name hkind =>
    rw [(isFunction_iff_kindOf source).2 ⟨form, name, hkind⟩] at h
    cases h
  next => rfl

theorem isFunction_of_isGroup {t : Concrete} (h : isGroup t = true) :
    Lowering.isFunction t = false := by
  simp only [isGroup, Bool.or_eq_true, Concrete.is_iff] at h
  rw [Lowering.isFunction]
  rcases h with (h | h) | h
  all_goals
    rw [h]
    rfl

theorem filterMap_parameter?_nodes (v : Visit) :
    (v.nodes source).filterMap Node.parameter? =
      if Lowering.isFunction v.node then (lowered source v.node).parameter?.toList else [] := by
  have hparams : ∀ ns, (Node.node .params ns).parameter? = none := fun _ => rfl
  -- The parameters around a bare one are no function, so only the node itself shows anything.
  have hown : (if isGroup v.node then [] else [lowered source v.node]).filterMap Node.parameter? =
      if Lowering.isFunction v.node then (lowered source v.node).parameter?.toList else [] := by
    cases hfunction : Lowering.isFunction v.node with
    | false =>
      split <;> simp [parameter?_lowered_of_not_isFunction hfunction]
    | true =>
      cases hgroup : isGroup v.node with
      | true =>
        rw [isFunction_of_isGroup hgroup] at hfunction
        cases hfunction
      | false => simp [List.filterMap_eq_flatMap_toList]
  simp only [Visit.nodes]
  split
  next => rw [List.filterMap_cons_none (hparams _), hown]
  next => exact hown

/-- The first parameters that the nodes of a lowered tree show are those of its functions. -/
theorem filterMap_parameter?_preorder (source : List Char) (root : Concrete) :
    (Node.node .program (contributions source none root.children)).preorder.filterMap
      Node.parameter? =
    root.functions.filterMap fun f => (lowered source f).parameter? := by
  have hprogram : ∀ ns, (Node.node .program ns).parameter? = none := fun _ => rfl
  rw [preorder_program, List.filterMap_cons_none (hprogram _), List.filterMap_flatMap,
    Concrete.functions, List.filterMap_filter, List.filterMap_map,
    List.filterMap_eq_flatMap_toList]
  refine List.flatMap_congr fun v _ => ?_
  rw [filterMap_parameter?_nodes, Function.comp_apply]
  split <;> rfl

theorem any_parameter? (ns : List Node) (kind : NodeKind) :
    (ns.any fun n => n.parameter?.any (·.kind = kind)) = true ↔
      ∃ q ∈ ns.filterMap Node.parameter?, q.kind = kind := by
  simp only [List.any_eq_true, Option.any_eq_true, List.mem_filterMap, decide_eq_true_eq]
  constructor
  · rintro ⟨n, hn, q, hq, hkind⟩
    exact ⟨q, ⟨n, hn, hq⟩, hkind⟩
  · rintro ⟨q, ⟨n, hn, hq⟩, hkind⟩
    exact ⟨n, hn, q, hq, hkind⟩

/-- Nodes without a first parameter contribute no names. -/
theorem flatMap_patternNames {α : Type} (xs : List α) (parameter : α → Option Node) :
    (xs.flatMap fun x => patternNames (parameter x)) =
      (xs.filterMap parameter).flatMap fun p => patternNames (some p) := by
  rw [List.filterMap_eq_flatMap_toList, List.flatMap_assoc]
  refine List.flatMap_congr fun x _ => ?_
  cases parameter x with
  | none => rfl
  | some p => rw [Option.toList_some, List.flatMap_singleton]

section Formed

variable (hformed : ∀ f ∈ root.functions, f.isFormedFunction = true)
include hformed

/-- A kind that marks are not lowered to is shown by the leading patterns. -/
theorem exists_parameter?_iff {kind : NodeKind} (hkind : ∀ name, kind ≠ .other name) :
    (∃ q ∈ root.functions.filterMap fun f => (lowered source f).parameter?, q.kind = kind) ↔
      ∃ f ∈ root.functions, ∃ p ∈ f.leadingPattern?, kindOf source p = kind := by
  simp only [List.mem_filterMap]
  constructor
  · rintro ⟨q, ⟨f, hf, hq⟩, rfl⟩
    refine ⟨f, hf, ?_⟩
    rcases Concrete.isFormedFunction.parameter?_lowered source (List.mem_filter.1 hf).2
      (hformed f hf) with ⟨p, hp, -, hparameter⟩ | ⟨-, hmark⟩
    · cases hparameter.symm.trans hq
      exact ⟨p, hp, rfl⟩
    · obtain ⟨name, hname⟩ := hmark q hq
      exact absurd hname (hkind name)
  · rintro ⟨f, hf, p, hp, rfl⟩
    rcases Concrete.isFormedFunction.parameter?_lowered source (List.mem_filter.1 hf).2
      (hformed f hf) with ⟨u, hu, -, hparameter⟩ | ⟨hnone, -⟩
    · cases hu.symm.trans hp
      exact ⟨lowered source p, ⟨f, hf, hparameter⟩, rfl⟩
    · cases hnone.symm.trans hp

/-- The names that a function takes apart are the keys of the leading pattern. -/
theorem patternNames_parameter?_lowered {f : Concrete} (hf : f ∈ root.functions) :
    patternNames (lowered source f).parameter? =
      f.leadingPattern?.elim [] (Concrete.keys source) := by
  rcases Concrete.isFormedFunction.parameter?_lowered source (List.mem_filter.1 hf).2
    (hformed f hf) with ⟨p, hp, hpattern, hparameter⟩ | ⟨hnone, hmark⟩
  · rw [hparameter, hp, patternNames, Option.elim_some, Concrete.keys, kind_lowered]
    by_cases hobject : p.is .objectPattern = true
    · rw [if_pos ((kindOf_eq_objectPattern_iff source).2 hobject), if_pos hobject,
        Concrete.patternKeys_lowered hpattern hobject]
    · rw [if_neg (mt (kindOf_eq_objectPattern_iff source).1 hobject), if_neg hobject]
  · rw [hnone, Option.elim_none]
    cases hparameter : (lowered source f).parameter? with
    | none => rfl
    | some n =>
      obtain ⟨name, hname⟩ := hmark n hparameter
      rw [patternNames, hname]
      rfl

end Formed

/-- What a context shows of first parameters: the flags and the names come from the first parameters
of all functions, each of them through its pattern, unless something is lowered in front of it. -/
theorem first_parameter_rule {limit : Nat} {tree : Node}
    (h : lower source limit root = .ok tree)
    (hformed : ∀ f ∈ root.functions, f.isFormedFunction = true) :
    ((ofTree tree).hasPropsParameter = true ↔ ∃ f ∈ root.functions, ∃ p ∈ f.leadingPattern?,
      p.is .identifier = true ∧ p.text source = "props") ∧
    ((ofTree tree).hasPropsDestructuring = true ↔ ∃ f ∈ root.functions, ∃ p ∈ f.leadingPattern?,
      p.is .objectPattern = true) ∧
    (ofTree tree).propsNames = (root.functions.flatMap fun f =>
      f.leadingPattern?.elim [] (Concrete.keys source)).eraseDups := by
  obtain ⟨-, rfl⟩ := lower_eq_ok_iff.1 h
  have hparameters := filterMap_parameter?_preorder source root
  have hflag : ∀ (flag : Flag) (kind : NodeKind), (∀ name, kind ≠ .other name) →
      (∀ n, flag.rule n = n.parameter?.any (·.kind = kind)) →
      (flag.value (ofTree (.node .program (contributions source none root.children))) = true ↔
        ∃ f ∈ root.functions, ∃ p ∈ f.leadingPattern?, kindOf source p = kind) := by
    intro flag kind hkind hrule
    rw [← exists_parameter?_iff hformed hkind, ← hparameters, value_ofTree, funext hrule,
      any_parameter?]
  -- Both flags are about the kind of the first parameter, and the names about its children.
  refine ⟨?_, ?_, ?_⟩
  · simp only [← kindOf_eq_identifier_iff]
    exact hflag .hasPropsParameter (.identifier "props") (by simp) fun n => rfl
  · simp only [← kindOf_eq_objectPattern_iff source]
    exact hflag .hasPropsDestructuring .objectPattern (by simp) fun n => rfl
  · have hnames := NameList.value_ofTree .propsNames
      (.node .program (contributions source none root.children))
    refine hnames.trans (congrArg List.eraseDups ?_)
    calc (Node.node .program (contributions source none root.children)).preorder.flatMap
          (fun n => patternNames n.parameter?)
      _ = ((Node.node .program (contributions source none root.children)).preorder.filterMap
            Node.parameter?).flatMap fun p => patternNames (some p) :=
          flatMap_patternNames _ Node.parameter?
      _ = root.functions.flatMap fun f => patternNames (lowered source f).parameter? := by
          rw [hparameters]
          exact (flatMap_patternNames root.functions fun f => (lowered source f).parameter?).symm
      _ = root.functions.flatMap fun f => f.leadingPattern?.elim [] (Concrete.keys source) :=
          List.flatMap_congr fun f hf => patternNames_parameter?_lowered hformed hf

/-- The keys of a function, and none from behind the decorator of a method. -/
theorem first_parameter_rule_keys :
    let text := "function f(\x7ba, 'b': c = 1\x7d) \x7b\x7d class A \x7b m(@w \x7bz\x7d) \x7b\x7d \x7d"
    let source := text.toList
    let root := Concrete.ofSource source
    (∀ f ∈ root.functions, f.isFormedFunction = true) ∧
      ∃ tree, lower source defaultMaxDepth root = .ok tree ∧
        (ofTree tree).propsNames = ["a", "b"] := by
  intro text source root
  obtain ⟨hformed, haccepted, hkeys⟩ :
      (∀ f ∈ root.functions, f.isFormedFunction = true) ∧
        (lower source defaultMaxDepth root).toOption.isSome = true ∧
        (root.functions.flatMap fun f =>
          f.leadingPattern?.elim [] (Concrete.keys source)).eraseDups = ["a", "b"] := by
    decide +kernel +revert
  obtain ⟨tree, htree⟩ := isSome_toOption_iff.1 haccepted
  exact ⟨hformed, tree, htree, (first_parameter_rule htree hformed).2.2.trans hkeys⟩

/-- Behind a modifier the parameter `props` is not seen, and behind a decorator no pattern is. -/
theorem first_parameter_behind_mark :
    let source := "class A \x7b constructor(private props) \x7b\x7d m(@w \x7b z \x7d) \x7b\x7d \x7d"
    let root := Concrete.ofSource source.toList
    (∃ f ∈ root.functions, ∃ p ∈ f.firstPattern?,
      p.is .identifier = true ∧ p.text source.toList = "props") ∧
    (∃ f ∈ root.functions, ∃ p ∈ f.firstPattern?,
      p.is .objectPattern = true ∧ p.keys source.toList = ["z"]) ∧
    (analyze source).parseError = none ∧ (analyze source).hasPropsParameter = false ∧
      (analyze source).hasPropsDestructuring = false ∧ (analyze source).propsNames = [] := by
  decide +kernel

end FeatureContext

end SubmissionGrader
