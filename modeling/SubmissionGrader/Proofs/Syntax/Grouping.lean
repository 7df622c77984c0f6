import SubmissionGrader.Proofs.Features.Parameters
import SubmissionGrader.Proofs.Syntax.Nesting
import SubmissionGrader.Proofs.Syntax.Reading
import SubmissionGrader.Proofs.Syntax.Renaming

/-!
# Parentheses only group

Parentheses around a node change what becomes of a source in the names of methods at most. The
induction over the tree (`Site.induction`) goes through the nodes with their counterparts in the
tree with parentheses: each counterpart adds the same nodes, and it is refused for the same fault.
-/

namespace SubmissionGrader.Syntax

open Lowering

namespace Site

variable {source other : List Char} {x t t' c : Concrete} {σ : Site} {j : Nat}

/-- Induction over the nodes of a tree with their counterparts. Within the parentheses stands the
node that they are put around, one byte further on. -/
theorem induction (hx : Surrounded source other x) {motive : Site → Concrete → Concrete → Prop}
    (step : ∀ σ t t', σ ≠ around [] → σ.Carries source other x t t' →
      (∀ j c, t.children[j]? = some c → motive (σ.child j) c ((σ.child j).place c)) → motive σ t t')
    (wrap : motive (apart 1) x (x.shift 1).withoutField → motive (around []) x x.parenthesized)
    {σ : Site} {t : Concrete} (h : σ.Fits source other x t) : motive σ t (σ.place t) := by
  induction t generalizing σ with
  | node head children ih =>
    have hstep : ∀ (τ : Site) (t' : Concrete), τ ≠ around [] →
        τ.Carries source other x (.node head children) t' → motive τ (.node head children) t' :=
      fun τ t' hτ hcarries => step τ _ t' hτ hcarries fun j c hc =>
        ih c (List.mem_of_getElem? hc) (hcarries.fits.child hx hc)
    by_cases hσ : σ = around []
    -- The node that the parentheses are put around is this one, so the step for it comes first.
    · subst hσ
      have hnested := h.1
      cases h.2
      exact wrap (hstep (apart 1) _ (by simp) (carries_within hx hnested))
    · exact hstep σ _ hσ (carries_place h hσ)

theorem around_ne_nil {path : List Nat} (h : path ≠ []) : around path ≠ around [] :=
  fun heq => h (Site.around.inj heq)

theorem pathAfter_cons (hσ : σ ≠ around []) (j : Nat) (q : List Nat) :
    σ.pathAfter (j :: q) = j :: (σ.child j).pathAfter q := by
  match σ with
  | apart n => rfl
  | around [] => exact absurd rfl hσ
  | around (i :: path) =>
    rw [pathAfter, Concrete.pathAfter, child]
    split
    next heq => rw [if_neg (by omega)]; rfl
    next hne => split <;> rfl

theorem pathAfter_nil (hσ : σ ≠ around []) : σ.pathAfter [] = [] := by
  match σ with
  | apart n => rfl
  | around [] => exact absurd rfl hσ
  | around (i :: path) => rfl

/-- Every node around the parentheses satisfies a condition. -/
def Passes (condition : Concrete → Prop) : Site → Concrete → Prop
  | apart _, _ => True
  | around path, t => ∀ u ∈ t.passed path, condition u

theorem passes_child {condition : Concrete → Prop} {path : List Nat}
    (h : ∀ u ∈ t.between path, condition u) (hc : t.children[j]? = some c) :
    ((around path).child j).Passes condition c := by
  cases path with
  | nil => trivial
  | cons i path =>
    rw [Site.child]
    split
    next => trivial
    next =>
      split
      next heq =>
        cases heq
        intro u hu
        refine h u ?_
        rw [Concrete.between, Concrete.passed, hc]
        exact hu
      next => trivial

theorem Passes.child {condition : Concrete → Prop} (h : σ.Passes condition t)
    (hc : t.children[j]? = some c) : (σ.child j).Passes condition c := by
  cases σ with
  | apart n => trivial
  | around path => exact passes_child (fun u hu => h u (List.mem_of_mem_tail hu)) hc

theorem Passes.self {condition : Concrete → Prop} (h : σ.Passes condition t) (hσ : σ ≠ around [])
    (haround : σ.isAround = true) : condition t := by
  match σ with
  | apart n => cases haround
  | around [] => exact absurd rfl hσ
  | around (i :: path) => exact h t (by simp [Concrete.passed])

end Site

theorem isEntered_congr {t t' : Concrete} (h : t'.symbol = t.symbol) :
    isEntered t' = isEntered t := by
  rw [isEntered, isEntered, isSkipped, isSkipped, Concrete.isNamed_congr h, Concrete.kind?_congr h]

theorem isGroup_congr {t t' : Concrete} (h : t'.symbol = t.symbol) : isGroup t' = isGroup t := by
  simp only [isGroup, Concrete.is_congr h]

theorem isFunction_congr {t t' : Concrete} (h : t'.symbol = t.symbol) :
    isFunction t' = isFunction t := by
  rw [isFunction, isFunction, Concrete.kind?_congr h]

theorem isBare_congr {t t' c c' : Concrete} (h : t'.symbol = t.symbol) (hc : c'.field = c.field) :
    isBare (some t') c' = isBare (some t) c := by
  rw [isBare, isBare, Option.any_some, Option.any_some, Concrete.is_congr h, hc]

/-! ## What the nodes add -/

/-- No text that decides what a node becomes has the second node in it. -/
def Concrete.NamesApart (t x : Concrete) : Prop := ∀ r ∈ t.nameTexts, r.span.covers x.span = false

/-- No text that decides whether a node is refused has the second node in it. -/
def Concrete.ChecksApart (t x : Concrete) : Prop :=
  ∀ r ∈ t.checkedTexts, r.span.covers x.span = false

instance (t x : Concrete) : Decidable (t.NamesApart x) :=
  inferInstanceAs (Decidable (∀ r ∈ t.nameTexts, r.span.covers x.span = false))

instance (t x : Concrete) : Decidable (t.ChecksApart x) :=
  inferInstanceAs (Decidable (∀ r ∈ t.checkedTexts, r.span.covers x.span = false))

/-- What the node at the second path becomes, with parentheses around the node at the first one: a
method on the way to them whose name has that node in it is named as the other source writes it, and
every other node becomes what it becomes in the source. -/
def Concrete.keptKind (source other : List Char) (t : Concrete) (path : List Nat) (x : Concrete)
    (p : List Nat) (u : Concrete) : NodeKind :=
  if p <+: path ∧ p ≠ path ∧ u.is .methodDefinition = true ∧ ¬u.NamesApart x then
    .function .method (((t.parenthesizeAt path).descendant? p).bind (fieldText? other · .name))
  else kindOf source u

namespace Site

section KindAt

variable (source other : List Char) (x t : Concrete)

/-- What the nodes below the given one become, with the parentheses where the site says. -/
def kindAt : Site → List Nat → Concrete → NodeKind
  | apart _ => fun _ => kindOf source
  | around path => t.keptKind source other path x

/-- Within the parentheses no method is named anew. -/
theorem kindAt_around_nil : kindAt source other x t (around []) = fun _ => kindOf source :=
  funext fun _ => funext fun _ => if_neg fun h => h.2.1 (List.prefix_nil.1 h.1)

theorem kindAt_child {c : Concrete} {σ : Site} {j : Nat} (hσ : σ ≠ around [])
    (hc : t.children[j]? = some c) :
    (fun p => kindAt source other x t σ (j :: p)) = kindAt source other x c (σ.child j) := by
  match σ with
  | apart n => rfl
  | around [] => exact absurd rfl hσ
  | around (i :: path) =>
    rw [Site.child]
    rcases Nat.lt_trichotomy j i with hlt | rfl | hgt
    · rw [if_pos hlt]
      exact funext fun p => funext fun u =>
        if_neg fun h => Nat.ne_of_lt hlt (List.cons_prefix_cons.1 h.1).1
    · rw [if_neg (Nat.lt_irrefl j), if_pos rfl]
      refine funext fun p => funext fun u => ?_
      have hplace : (t.parenthesizeAt (j :: path)).descendant? (j :: p) =
          (c.parenthesizeAt path).descendant? p := by
        simp [Concrete.parenthesizeAt, Concrete.descendant?, hc]
      simp only [kindAt, Concrete.keptKind, hplace, List.cons_prefix_cons, true_and, ne_eq,
        List.cons.injEq]
    · rw [if_neg (Nat.lt_asymm hgt), if_neg (Nat.ne_of_gt hgt)]
      exact funext fun p => funext fun u =>
        if_neg fun h => Nat.ne_of_gt hgt (List.cons_prefix_cons.1 h.1).1

end KindAt

end Site

section Contributions

variable {source other : List Char} {x t t' : Concrete} {σ : Site}

/-- Parentheses around the first node do not show in what the second one becomes: they are in no
text that decides it, or only in the name of a method. -/
def KeepsKind (x t : Concrete) : Prop := t.NamesApart x ∨ t.is .methodDefinition = true

theorem kindOf_eq_of_namesApart (hx : Surrounded source other x)
    (h : σ.Carries source other x t t') (hnames : σ.isAround = true → t.NamesApart x) :
    kindOf other t' = kindOf source t :=
  kindOf_eq_of_mirrors (h.mirrors hx hnames)

/-- The name of a method is the text of the counterpart in the other source. -/
theorem kindOf_of_methodDefinition {path : List Nat} {i : Nat}
    (h : (Site.around (i :: path)).Carries source other x t t')
    (hmethod : t.is .methodDefinition = true) :
    kindOf other t' =
      .function .method (fieldText? other (t.parenthesizeAt (i :: path)) .name) := by
  have hkind := (Concrete.kind?_congr h.symbol_eq).trans (Concrete.is_iff.1 hmethod)
  have hchildren : t'.children = (t.parenthesizeAt (i :: path)).children :=
    h.children_eq.trans (Site.carries_parenthesizeAt h.fits).children_eq.symm
  have hname : t'.child? .name = (t.parenthesizeAt (i :: path)).child? .name := by
    rw [Concrete.child?, Concrete.child?, hchildren]
  simp only [kindOf, hkind, fieldText?, hname]

theorem kindOf_eq_kindAt (hx : Surrounded source other x) (hσ : σ ≠ .around [])
    (h : σ.Carries source other x t t') (hkeeps : σ.isAround = true → KeepsKind x t) :
    kindOf other t' = Site.kindAt source other x t σ [] t := by
  match σ with
  | .apart n => exact kindOf_eq_of_namesApart hx h fun haround => by cases haround
  | .around [] => exact absurd rfl hσ
  | .around (i :: path) =>
    rw [Site.kindAt, Concrete.keptKind]
    by_cases hnames : t.NamesApart x
    · rw [if_neg fun hkept => hkept.2.2.2 hnames]
      exact kindOf_eq_of_namesApart hx h fun _ => hnames
    · have hmethod := (hkeeps rfl).resolve_left hnames
      have hfront : [] <+: i :: path := List.nil_prefix
      rw [if_pos ⟨hfront, (List.cons_ne_nil _ _).symm, hmethod, hnames⟩]
      exact kindOf_of_methodDefinition h hmethod

/-- The counterpart of a node adds the same nodes, but for the names of methods. -/
def SameContribution (source other : List Char) (x : Concrete) (σ : Site) (t t' : Concrete) :
    Prop :=
  ∀ parent parent', isBare parent' t' = isBare parent t →
    contribution other parent' t' = contributionBy (Site.kindAt source other x t σ) parent t

theorem contribution_eq_contributionBy {kind : List Nat → Concrete → NodeKind}
    {parent parent' : Option Concrete} (hsymbol : t'.symbol = t.symbol)
    (hkind : kindOf other t' = kind [] t) (hbare : isBare parent' t' = isBare parent t)
    (hbelow : contributions other (some t') t'.children =
      contributionsBy (fun j path => kind (j :: path)) (some t) t.children) :
    contribution other parent' t' = contributionBy kind parent t := by
  rw [contribution_eq, contributionBy_eq, isEntered_congr hsymbol, assemble, assembleAs,
    isGroup_congr hsymbol, hkind, hbare, hbelow]

/-- The children of the counterpart add the same nodes, if each of them does. -/
theorem Site.Carries.contributions_children {parent parent' : Option Concrete} (hσ : σ ≠ .around [])
    (h : σ.Carries source other x t t')
    (hchildren : ∀ j c, t.children[j]? = some c →
      SameContribution source other x (σ.child j) c ((σ.child j).place c))
    (hbare : ∀ j c, isBare parent' ((σ.child j).place c) = isBare parent c) :
    contributions other parent' t'.children =
      contributionsBy (fun j path => Site.kindAt source other x t σ (j :: path)) parent
        t.children := by
  rw [h.children_eq]
  refine contributions_mapIdx fun j c hc => ?_
  rw [kindAt_child source other x t hσ hc]
  exact hchildren j c hc parent parent' (hbare j c)

theorem isBare_of_surrounded (hx : Surrounded source other x) (parent : Option Concrete) :
    isBare parent x = false := by
  have hfield : x.field ≠ some .parameter := by
    intro hfield
    obtain ⟨label, hlabel⟩ := hx.isUnread _ hfield
    cases hlabel
  rw [isBare, beq_eq_false_iff_ne.2 hfield, Bool.and_false]

theorem contribution_token (source : List Char) (parent : Option Concrete) (text : String)
    (span : Span) : contribution source parent (.token text span) = [] :=
  contribution_of_not_isEntered rfl

/-- Parentheses add what stands within them. -/
theorem contribution_parenthesized {parent : Option Concrete}
    (hbare : isBare parent x.parenthesized = false) :
    contribution source parent x.parenthesized =
      contribution source (some x.parenthesized) (x.shift 1).withoutField := by
  rw [contribution_of_isGroup rfl rfl hbare, Concrete.children_parenthesized]
  simp only [contributions, contribution_token, List.nil_append, List.append_nil]

theorem sameContribution_place (hx : Surrounded source other x) (h : σ.Fits source other x t)
    (hpasses : σ.Passes (KeepsKind x) t) : SameContribution source other x σ t (σ.place t) := by
  revert hpasses
  refine Site.induction hx
    (motive := fun σ t t' => σ.Passes (KeepsKind x) t → SameContribution source other x σ t t')
    ?step ?wrap h
  case step =>
    intro σ t t' hσ hcarries ih hpasses parent parent' hbare
    refine contribution_eq_contributionBy hcarries.symbol_eq
      (kindOf_eq_kindAt hx hσ hcarries fun haround => hpasses.self hσ haround) hbare ?_
    exact hcarries.contributions_children hσ (fun j c hc => ih j c hc (hpasses.child hc))
      fun _ _ => isBare_congr hcarries.symbol_eq (Site.field_place _ _)
  case wrap =>
    intro hwithin _ parent parent' hbare
    have hunbare := isBare_of_surrounded hx parent
    have hinner : isBare (some x.parenthesized) (x.shift 1).withoutField = isBare parent x := by
      rw [hunbare, isBare, Concrete.field_withoutField]
      rfl
    rw [contribution_parenthesized (hbare.trans hunbare), hwithin trivial parent _ hinner,
      Site.kindAt_around_nil, Site.kindAt]

end Contributions

/-! ## Where a tree is refused -/

section Refusals

variable {source other : List Char} {x t t' : Concrete} {σ : Site}

/-- Early errors for the same fault, of a node at some path and of the node at the path that becomes
of it. -/
def SameFault (source other : List Char) (move : List Nat → List Nat) (t t' : Concrete)
    (e e' : SyntaxError) : Prop :=
  ∃ path node node' functions, t.descendant? path = some node ∧
    t'.descendant? (move path) = some node' ∧ earlyError? source functions node = some e ∧
    earlyError? other functions node' = some e' ∧ e'.fault = e.fault

/-- The counterpart of a node is refused for the same fault. -/
def SameRefusal (source other : List Char) (σ : Site) (t t' : Concrete) : Prop :=
  ∀ around around' : List Concrete, around'.countP isFunction = around.countP isFunction →
    Option.Rel (SameFault source other σ.pathAfter t t')
      ((visits around t).findSome? (Visit.earlyError? source))
      ((visits around' t').findSome? (Visit.earlyError? other))

theorem rel_earlyError? (hx : Surrounded source other x) (hσ : σ ≠ .around [])
    (h : σ.Carries source other x t t') (hchecks : σ.isAround = true → t.ChecksApart x)
    (functions : Nat) :
    Option.Rel (SameFault source other σ.pathAfter t t') (earlyError? source functions t)
      (earlyError? other functions t') := by
  have hfault := earlyFault?_eq_of_mirrors (h.mirrors hx hchecks) functions
  rw [earlyFault?, earlyFault?] at hfault
  cases hearly : earlyError? source functions t with
  | none =>
    rw [hearly, Option.map_none, Option.map_eq_none_iff] at hfault
    rw [hfault]
    exact .none
  | some e =>
    rw [hearly, Option.map_some, Option.map_eq_some_iff] at hfault
    obtain ⟨e', hearly', hfault⟩ := hfault
    rw [hearly']
    refine .some ⟨[], t, t', functions, rfl, ?_, hearly, hearly', hfault⟩
    rw [Site.pathAfter_nil hσ]
    rfl

theorem findSome?_cons_eq_or {α β : Type} (f : α → Option β) (a : α) (as : List α) :
    (a :: as).findSome? f = (f a).or (as.findSome? f) := by
  rw [List.findSome?_cons]
  cases f a <;> rfl

/-- Parentheses are not refused themselves. -/
theorem findSome?_visits_parenthesized (source : List Char) (around : List Concrete)
    (x : Concrete) :
    (visits around x.parenthesized).findSome? (Visit.earlyError? source) =
      (visits (x.parenthesized :: around) (x.shift 1).withoutField).findSome?
        (Visit.earlyError? source) := by
  have htoken : ∀ (around : List Concrete) (text : String) (span : Span),
      visits around (.token text span) = [] := fun around text span => visits_eq around _
  have hentered : isEntered x.parenthesized = true := rfl
  rw [visits_eq, if_pos hentered, findSome?_cons_eq_or, Concrete.children_parenthesized]
  simp only [visitsAll, htoken, List.nil_append, List.append_nil]
  rfl

theorem rel_findSome?_visitsAll {S : SyntaxError → SyntaxError → Prop}
    {around around' ts ts' : List Concrete}
    (h : List.Forall₂ (fun c c' => Option.Rel S
      ((visits around c).findSome? (Visit.earlyError? source))
      ((visits around' c').findSome? (Visit.earlyError? other))) ts ts') :
    Option.Rel S ((visitsAll around ts).findSome? (Visit.earlyError? source))
      ((visitsAll around' ts').findSome? (Visit.earlyError? other)) := by
  induction h with
  | nil => exact .none
  | cons hc h ih =>
    rw [visitsAll, visitsAll, List.findSome?_append, List.findSome?_append]
    exact rel_or hc ih

/-- What is refused in a child and its counterpart is refused in the node and its counterpart. -/
theorem SameFault.of_child {c : Concrete} {j : Nat} {e e' : SyntaxError} (hσ : σ ≠ .around [])
    (h : σ.Carries source other x t t') (hc : t.children[j]? = some c)
    (hfault : SameFault source other (σ.child j).pathAfter c ((σ.child j).place c) e e') :
    SameFault source other σ.pathAfter t t' e e' := by
  obtain ⟨path, node, node', functions, hnode, hnode', hfault⟩ := hfault
  refine ⟨j :: path, node, node', functions, ?_, ?_, hfault⟩
  · rw [Concrete.descendant?, hc]
    exact hnode
  · rw [Site.pathAfter_cons hσ, Concrete.descendant?, h.children_eq, List.getElem?_mapIdx, hc]
    exact hnode'

theorem Site.Carries.rel_children (hσ : σ ≠ .around []) (h : σ.Carries source other x t t')
    (ih : ∀ j c, t.children[j]? = some c →
      SameRefusal source other (σ.child j) c ((σ.child j).place c))
    {around around' : List Concrete}
    (hfunctions : around'.countP isFunction = around.countP isFunction) :
    Option.Rel (SameFault source other σ.pathAfter t t')
      ((visitsAll around t.children).findSome? (Visit.earlyError? source))
      ((visitsAll around' t'.children).findSome? (Visit.earlyError? other)) := by
  refine rel_findSome?_visitsAll (h.forall₂_children fun j c hc => ?_)
  exact rel_mono (ih j c hc around around' hfunctions) fun _ _ hfault => hfault.of_child hσ h hc

theorem sameRefusal_place (hx : Surrounded source other x) (h : σ.Fits source other x t)
    (hpasses : σ.Passes (Concrete.ChecksApart · x) t) :
    SameRefusal source other σ t (σ.place t) := by
  revert hpasses
  refine Site.induction hx
    (motive := fun σ t t' =>
      σ.Passes (Concrete.ChecksApart · x) t → SameRefusal source other σ t t')
    ?step ?wrap h
  case step =>
    intro σ t t' hσ hcarries ih hpasses around around' hfunctions
    rw [visits_eq, visits_eq, isEntered_congr hcarries.symbol_eq]
    split
    next =>
      rw [findSome?_cons_eq_or, findSome?_cons_eq_or]
      refine rel_or ?_ (hcarries.rel_children hσ (fun j c hc => ih j c hc (hpasses.child hc)) ?_)
      · rw [Visit.earlyError?, Visit.earlyError?, Visit.functions, Visit.functions, hfunctions]
        exact rel_earlyError? hx hσ hcarries (fun haround => hpasses.self hσ haround) _
      · rw [List.countP_cons, List.countP_cons, hfunctions, isFunction_congr hcarries.symbol_eq]
    next => exact .none
  case wrap =>
    intro hwithin _ around around' hfunctions
    have hcount : (x.parenthesized :: around').countP isFunction = around.countP isFunction := by
      rw [List.countP_cons_of_neg (Bool.eq_false_iff.1 rfl), hfunctions]
    rw [findSome?_visits_parenthesized]
    refine rel_mono (hwithin trivial around _ hcount) ?_
    rintro e e' ⟨path, node, node', functions, hnode, hnode', hfault⟩
    exact ⟨path, node, node', functions, hnode, hnode', hfault⟩

end Refusals

/-! ## Parentheses below the root -/

section Root

variable {source other : List Char} {x root : Concrete} {path : List Nat}
  (hx : Surrounded source other x) (hfits : (Site.around path).Fits source other x root)
  (hpath : path ≠ [])
include hx hfits hpath

theorem rel_firstErrors (hchecks : ∀ u ∈ root.between path, u.ChecksApart x) :
    Option.Rel (SameFault source other (Concrete.pathAfter path) root (root.parenthesizeAt path))
      ((visitsAll [] root.children).findSome? (Visit.earlyError? source))
      ((visitsAll [] (root.parenthesizeAt path).children).findSome? (Visit.earlyError? other)) := by
  have hσ := Site.around_ne_nil hpath
  refine (Site.carries_place hfits hσ).rel_children hσ (fun j c hc => ?_) rfl
  exact sameRefusal_place hx (hfits.child hx hc) (Site.passes_child hchecks hc)

/-- The tree of the other source, made of the given one. -/
theorem program_contributions_parenthesizeAt (hkeeps : ∀ u ∈ root.between path, KeepsKind x u) :
    Node.node .program (contributions other none (root.parenthesizeAt path).children) =
      root.loweredBy (root.keptKind source other path x) := by
  have hσ := Site.around_ne_nil hpath
  refine congrArg (Node.node .program) <|
    (Site.carries_place hfits hσ).contributions_children hσ (fun j c hc => ?_) fun _ _ => rfl
  exact sameContribution_place hx (hfits.child hx hc) (Site.passes_child hkeeps hc)

end Root

end SubmissionGrader.Syntax
