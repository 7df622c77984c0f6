import SubmissionGrader.Proofs.Syntax.Bindings
import SubmissionGrader.Proofs.Syntax.Parentheses

/-!
# What is read of a node

What a node becomes depends on some texts (`Concrete.nameTexts`), and whether it is refused on
others (`Concrete.checkedTexts`); beyond these only symbols and roles count. So two nodes that show
the same of these (`Mirrors`) become the same and have the same early errors, wherever they stand.
-/

namespace SubmissionGrader.Syntax

open Lowering

namespace Concrete

/-- The nodes whose texts decide what a node becomes. -/
def nameTexts (t : Concrete) : List Concrete :=
  match t.kind? with
  | some .identifier | some .shorthandPropertyIdentifierPattern => [t]
  | some .functionDeclaration | some .generatorFunctionDeclaration | some .functionExpression
  | some .function | some .generatorFunction | some .methodDefinition
  | some .jsxSelfClosingElement => (t.child? .name).toList
  | some .importStatement => (t.child? .source).toList
  | some .pairPattern =>
    ((t.child? .key).filter fun c =>
      c.is .propertyIdentifier || c.is .number || c.is .string).toList
  | some .objectAssignmentPattern =>
    ((t.child? .left).filter (·.is .shorthandPropertyIdentifierPattern)).toList
  | some .memberExpression =>
    ((t.child? .property).filter fun c =>
      c.is .propertyIdentifier || c.is .privatePropertyIdentifier).toList
  | some .jsxElement => ((t.child? .openTag).bind (child? · .name)).toList
  | some .jsxAttribute => (t.children.find? isNamed).toList
  | _ => []

/-- The nodes whose texts decide whether a node is refused. -/
def checkedTexts (t : Concrete) : List Concrete :=
  match t.kind? with
  | some .number | some .identifier | some .propertyIdentifier | some .shorthandPropertyIdentifier
  | some .shorthandPropertyIdentifierPattern | some .typeIdentifier => [t]
  | some .jsxElement =>
    ((t.child? .openTag).bind (child? · .name)).toList ++
      ((t.child? .closeTag).bind (child? · .name)).toList
  | some kind =>
    if kind.checksName then ((kind.bindingField?.bind t.child?).filter (·.is .identifier)).toList
    else []
  | none => []

end Concrete

/-- A node of another source has the same symbol, and the same text if it is one of the given ones.
-/
structure ReadsAs (source other : List Char) (texts : List Concrete) (c c' : Concrete) : Prop where
  symbol_eq : c'.symbol = c.symbol
  text_eq : c ∈ texts → c'.text other = c.text source

/-- A node of another source shows the same symbols, and of the given texts the same. -/
structure Mirrors (source other : List Char) (texts : List Concrete) (t t' : Concrete) : Prop where
  self : ReadsAs source other texts t t'
  child : ∀ field, (∀ label, field ≠ .other label) →
    Option.Rel (ReadsAs source other texts) (t.child? field) (t'.child? field)
  tagName : ∀ field, (∀ label, field ≠ .other label) →
    Option.Rel (ReadsAs source other texts) ((t.child? field).bind (Concrete.child? · .name))
      ((t'.child? field).bind (Concrete.child? · .name))
  first : Option.Rel (fun c c' => c ∈ texts → c'.text other = c.text source)
    (t.children.find? Concrete.isNamed) (t'.children.find? Concrete.isNamed)

section Kinds

variable {source other : List Char} {texts : List Concrete} {t t' c c' : Concrete}

theorem Concrete.kind?_congr (h : t'.symbol = t.symbol) : t'.kind? = t.kind? := by
  rw [kind?, kind?, h]

theorem Concrete.is_congr (h : t'.symbol = t.symbol) (kind : Kind) : t'.is kind = t.is kind := by
  rw [is, is, kind?_congr h]

theorem Concrete.isNamed_congr (h : t'.symbol = t.symbol) : t'.isNamed = t.isNamed := by
  rw [isNamed, isNamed, h]

theorem ReadsAs.is_eq (h : ReadsAs source other texts c c') (kind : Kind) :
    c'.is kind = c.is kind :=
  Concrete.is_congr h.symbol_eq kind

theorem rel_filter {o o' : Option Concrete} (h : Option.Rel (ReadsAs source other texts) o o')
    {p : Concrete → Bool} (hp : ∀ c c', c'.symbol = c.symbol → p c' = p c) :
    Option.Rel (ReadsAs source other texts) (o.filter p) (o'.filter p) := by
  cases h with
  | none => exact .none
  | @some c c' h =>
    rw [Option.filter_some, Option.filter_some, hp c c' h.symbol_eq]
    split
    next => exact .some h
    next => exact .none

/-- The name that a key gives depends on the text of the key, unless it is computed. -/
theorem keyName?_eq (h : ReadsAs source other texts c c')
    (hread : (c.is .propertyIdentifier || c.is .number || c.is .string) = true → c ∈ texts) :
    keyName? other c' = keyName? source c := by
  rw [keyName?, keyName?, Concrete.kind?_congr h.symbol_eq]
  split
  next hkind => rw [h.text_eq (hread (by simp [Concrete.is, hkind]))]
  next hkind => rw [h.text_eq (hread (by simp [Concrete.is, hkind]))]
  next hkind => rw [h.text_eq (hread (by simp [Concrete.is, hkind]))]
  next => rfl

section Texts

variable {o o' : Option Concrete} (h : Option.Rel (ReadsAs source other texts) o o')
include h

theorem map_text_eq (hread : o.toList = texts) :
    o'.map (·.text other) = o.map (·.text source) :=
  map_eq_of_rel h fun _ _ hc hmem => hc.text_eq (hread ▸ Option.mem_toList.2 hmem)

theorem map_symbol_eq : o'.map (·.symbol.name) = o.map (·.symbol.name) :=
  map_eq_of_rel h fun _ _ hc _ => by rw [hc.symbol_eq]

theorem bind_keyName?_eq
    (hread : (o.filter fun c =>
      c.is .propertyIdentifier || c.is .number || c.is .string).toList = texts) :
    o'.bind (keyName? other) = o.bind (keyName? source) := by
  cases h with
  | none => rfl
  | some hc =>
    rw [Option.bind_some, Option.bind_some, keyName?_eq hc fun hkey => ?_]
    rw [← hread, Option.filter_some, if_pos hkey]
    simp

end Texts

/-- What a node becomes depends on its texts. -/
theorem kindOf_eq_of_mirrors (h : Mirrors source other t.nameTexts t t') :
    kindOf other t' = kindOf source t := by
  have hkind := Concrete.kind?_congr h.self.symbol_eq
  cases hk : t.kind? with
  | none => simp only [kindOf, hkind, hk, h.self.symbol_eq]
  | some kind =>
    rw [hk] at hkind
    cases kind <;> simp only [kindOf, hkind, hk, h.self.symbol_eq]
    case identifier | shorthandPropertyIdentifierPattern =>
      rw [h.self.text_eq (by simp [Concrete.nameTexts, hk])]
    case functionDeclaration | generatorFunctionDeclaration | functionExpression | function
        | generatorFunction | methodDefinition | jsxSelfClosingElement =>
      rw [fieldText?, fieldText?,
        map_text_eq (h.child .name (by simp)) (by simp [Concrete.nameTexts, hk])]
    case lexicalDeclaration => rw [map_symbol_eq (h.child .kind (by simp))]
    case importStatement =>
      rw [fieldText?, fieldText?,
        map_text_eq (h.child .source (by simp)) (by simp [Concrete.nameTexts, hk])]
    case pairPattern =>
      rw [bind_keyName?_eq (h.child .key (by simp)) (by simp [Concrete.nameTexts, hk])]
    case objectAssignmentPattern =>
      have hleft := rel_filter (h.child .left (by simp))
        fun _ _ hc => Concrete.is_congr hc .shorthandPropertyIdentifierPattern
      rw [map_text_eq hleft (by simp [Concrete.nameTexts, hk])]
    case memberExpression =>
      have hproperty := rel_filter (h.child .property (by simp)) (p := fun c =>
        c.is .propertyIdentifier || c.is .privatePropertyIdentifier)
        fun _ _ hc => by simp only [Concrete.is_congr hc]
      rw [map_text_eq hproperty (by simp [Concrete.nameTexts, hk])]
    case binaryExpression => rw [map_symbol_eq (h.child .operator (by simp))]
    case jsxElement =>
      have hname := map_text_eq (h.tagName .openTag (by simp)) (by simp [Concrete.nameTexts, hk])
      generalize (t'.child? .openTag).bind (Concrete.child? · .name) = opening' at hname ⊢
      generalize (t.child? .openTag).bind (Concrete.child? · .name) = opening at hname ⊢
      cases opening with
      | none =>
        rw [Option.map_none, Option.map_eq_none_iff] at hname
        rw [hname]
      | some name =>
        obtain ⟨name', rfl, htext⟩ := Option.map_eq_some_iff.1 hname
        dsimp only
        rw [htext]
    case jsxAttribute =>
      have hname : (t'.children.find? Concrete.isNamed).map (fun c => tagName (c.text other)) =
          (t.children.find? Concrete.isNamed).map (fun c => tagName (c.text source)) :=
        map_eq_of_rel h.first fun c c' hc hmem => by
          rw [hc (by rw [Concrete.nameTexts, hk]; exact Option.mem_toList.2 hmem)]
      rw [hname]

/-! ## Early errors -/

def earlyFault? (source : List Char) (functions : Nat) (t : Concrete) : Option Fault :=
  (earlyError? source functions t).map SyntaxError.fault

theorem bindingFault?_eq {o o' : Option Concrete}
    (h : Option.Rel (ReadsAs source other texts) o o')
    (hread : (o.filter (·.is .identifier)).toList = texts) :
    (bindingError? other o').map SyntaxError.fault =
      (bindingError? source o).map SyntaxError.fault := by
  cases h with
  | none => rfl
  | @some c c' hc =>
    rw [bindingError?, bindingError?, hc.is_eq]
    cases hword : c.is .identifier with
    | false => rfl
    | true =>
      have hmem : c ∈ texts := by
        rw [← hread, Option.filter_some, if_pos hword]
        simp
      rw [hc.text_eq hmem, Bool.true_and]
      split <;> rfl

theorem targetFault?_eq {o o' : Option Concrete}
    (h : Option.Rel (ReadsAs source other texts) o o') (allowed : List Kind) :
    (targetError? other o' allowed).map SyntaxError.fault =
      (targetError? source o allowed).map SyntaxError.fault := by
  cases h with
  | none => rfl
  | @some c c' hc =>
    have his : c'.is = c.is := funext fun kind => hc.is_eq kind
    rw [targetError?, targetError?, his]
    split <;> rfl

theorem numberFault?_eq (h : t'.text other = t.text source) :
    (numberError? other t').map SyntaxError.fault =
      (numberError? source t).map SyntaxError.fault := by
  simp only [numberError?, h]
  split
  next => rfl
  next => split <;> rfl

theorem tagFault?_eq (h : Mirrors source other texts t t')
    (hopening : ∀ c ∈ (t.child? .openTag).bind (Concrete.child? · .name), c ∈ texts)
    (hclosing : ∀ c ∈ (t.child? .closeTag).bind (Concrete.child? · .name), c ∈ texts) :
    (tagError? other t').map SyntaxError.fault = (tagError? source t).map SyntaxError.fault := by
  have hopen := h.tagName .openTag (by simp)
  have hclose := h.child .closeTag (by simp)
  have hname := h.tagName .closeTag (by simp)
  rw [tagError?, tagError?]
  generalize (t.child? .openTag).bind (Concrete.child? · .name) = opening at hopen hopening ⊢
  generalize (t'.child? .openTag).bind (Concrete.child? · .name) = opening' at hopen ⊢
  generalize t.child? .closeTag = close at hclose hname hclosing ⊢
  generalize t'.child? .closeTag = close' at hclose hname ⊢
  cases hclose with
  | none => rfl
  | @some c c' hc =>
    rw [Option.bind_some, Option.bind_some] at hname
    rw [Option.bind_some] at hclosing
    dsimp only
    generalize c.child? .name = closing at hname hclosing ⊢
    generalize c'.child? .name = closing' at hname ⊢
    cases hopen with
    | none => cases hname <;> rfl
    | some ho =>
      have hexpected := ho.text_eq (hopening _ rfl)
      have hfound : closing'.map (fun c => tagName (c.text other)) =
          closing.map (fun c => tagName (c.text source)) :=
        map_eq_of_rel hname fun c c' hc hmem => by rw [hc.text_eq (hclosing c hmem)]
      dsimp only
      rw [hexpected, hfound]
      split <;> rfl

/-- Whether a node is refused, and why, depends on its texts and on whether there is a function
around it. -/
theorem earlyFault?_eq_of_mirrors (h : Mirrors source other t.checkedTexts t t') (functions : Nat) :
    earlyFault? other functions t' = earlyFault? source functions t := by
  have hkind := Concrete.kind?_congr h.self.symbol_eq
  rw [earlyFault?, earlyFault?]
  cases hk : t.kind? with
  | none => simp only [earlyError?, hkind, hk]
  | some kind =>
    rw [hk] at hkind
    cases kind <;> simp only [earlyError?, hkind, hk]
    case identifier | propertyIdentifier | typeIdentifier | shorthandPropertyIdentifier
        | shorthandPropertyIdentifierPattern =>
      rw [h.self.text_eq (by simp [Concrete.checkedTexts, hk])]
      split <;> rfl
    case number => exact numberFault?_eq (h.self.text_eq (by simp [Concrete.checkedTexts, hk]))
    case variableDeclarator | functionDeclaration | functionExpression | classDeclaration =>
      exact bindingFault?_eq (h.child .name (by simp))
        (by simp [Concrete.checkedTexts, hk, Kind.checksName, Kind.bindingField?])
    case arrowFunction | catchClause =>
      exact bindingFault?_eq (h.child .parameter (by simp))
        (by simp [Concrete.checkedTexts, hk, Kind.checksName, Kind.bindingField?])
    case requiredParameter | optionalParameter =>
      exact bindingFault?_eq (h.child .pattern (by simp))
        (by simp [Concrete.checkedTexts, hk, Kind.checksName, Kind.bindingField?])
    case returnStatement => split <;> rfl
    case assignmentExpression | augmentedAssignmentExpression =>
      exact targetFault?_eq (h.child .left (by simp)) _
    case updateExpression => exact targetFault?_eq (h.child .argument (by simp)) _
    case jsxElement =>
      refine tagFault?_eq h (fun c hc => ?_) fun c hc => ?_
      · simp [Concrete.checkedTexts, hk, Option.mem_def.1 hc]
      · simp [Concrete.checkedTexts, hk, Option.mem_def.1 hc]

end Kinds

/-! ## Behind parentheses -/

namespace Site

variable {source other : List Char} {x t t' c c' : Concrete} {σ τ : Site} {texts : List Concrete}

theorem Carries.readsAs (h : τ.Carries source other x c c')
    (hclear : τ.isAround = true → ∀ r ∈ texts, r.span.covers x.span = false) :
    ReadsAs source other texts c c' where
  symbol_eq := h.symbol_eq
  text_eq hc := by
    refine h.text_eq ?_
    cases τ with
    | apart n => rfl
    | around path =>
      have hcovers := h.fits.covers
      rw [hclear rfl c hc] at hcovers
      cases hcovers

/-- A node in the tree with parentheses mirrors the given one, if the parentheses are in none of the
texts. -/
theorem Carries.mirrors (hx : Surrounded source other x) (h : σ.Carries source other x t t')
    (hclear : σ.isAround = true → ∀ r ∈ texts, r.span.covers x.span = false) :
    Mirrors source other texts t t' where
  self := h.readsAs hclear
  child field hfield := by
    refine rel_mono (h.child? hx hfield) ?_
    rintro c c' ⟨τ, hc, haround⟩
    exact hc.readsAs fun hτ => hclear (haround hτ)
  tagName field hfield := by
    refine rel_bind (h.child? hx hfield) ?_
    rintro tag tag' ⟨τ, htag, haround⟩
    refine rel_mono (htag.child? hx (by simp)) ?_
    rintro c c' ⟨ρ, hc, haround'⟩
    exact hc.readsAs fun hρ => hclear (haround (haround' hρ))
  first := by
    refine rel_mono (Lists.rel_find? (h.children hx) ?_) ?_
    · rintro c - ⟨τ, hfits, rfl, -⟩
      exact isNamed_place hx hfits
    · rintro c - ⟨⟨τ, hfits, rfl, haround⟩, -⟩ hc
      cases τ with
      | apart n => exact (carries_shift hfits).text_eq rfl
      | around path =>
        have hcovers := hfits.covers
        rw [hclear (haround rfl) c hc] at hcovers
        cases hcovers

end Site

end SubmissionGrader.Syntax
