import SubmissionGrader.Proofs.Syntax.Grouping

/-!
# Parentheses change no features

A node below the root can be put in parentheses if its role is none that is read
(`Concrete.IsGroupable`). Then the same tree and the same features come out, or the same fault at
the same place, as long as no text that is read has the node in it. The name of a method is the only
such text that an expression can stand in: it is kept as it is written, with the parentheses in a
computed name, and no feature depends on it.
-/

namespace SubmissionGrader

open Syntax Lowering

/-! ## Names of methods -/

/-- What does not tell one method from another does not see that names are left out. -/
theorem Syntax.NodeKind.apply_withoutMethodName {α : Type} {f : NodeKind → α}
    (hf : ∀ name, f (.function .method name) = f (.function .method none)) (kind : NodeKind) :
    f kind.withoutMethodName = f kind := by
  cases kind with
  | function form name =>
    cases form with
    | method => exact (hf name).symm
    | _ => rfl
  | _ => rfl

namespace FeatureContext

variable (c : FeatureContext)

theorem seeReturn_withoutMethodNames (value : Option Node) :
    c.seeReturn (value.map Node.withoutMethodNames) = c.seeReturn value := by
  cases value with
  | none => rfl
  | some n =>
    rw [seeReturn, seeReturn, Option.map_some, Option.map_some, Option.map_some,
      Node.withoutMethodNames, Node.kind_mapKinds]
    exact NodeKind.apply_withoutMethodName (f := fun kind => c.seeReturn (some (.node kind [])))
      (fun _ => rfl) n.kind

theorem seeCall_withoutMethodNames (callee : Option Node) :
    c.seeCall (callee.map Node.withoutMethodNames) = c.seeCall callee := by
  cases callee with
  | none => rfl
  | some n =>
    rw [seeCall, seeCall, Option.map_some, Option.map_some, Option.map_some,
      Node.withoutMethodNames, Node.kind_mapKinds]
    exact NodeKind.apply_withoutMethodName (f := fun kind => c.seeCall (some (.node kind [])))
      (fun _ => rfl) n.kind

theorem identifierName?_withoutMethodNames (n : Node) :
    n.withoutMethodNames.identifierName? = n.identifierName? := by
  rw [Node.identifierName?, Node.identifierName?, Node.withoutMethodNames, Node.kind_mapKinds]
  exact NodeKind.apply_withoutMethodName (f := fun kind => (Node.node kind []).identifierName?)
    (fun _ => rfl) n.kind

theorem patternKeys_withoutMethodNames (properties : List Node) :
    patternKeys (properties.map Node.withoutMethodNames) = patternKeys properties := by
  rw [patternKeys, List.filterMap_map, patternKeys]
  refine congrArg (List.filterMap · properties) (funext fun n => ?_)
  rw [Function.comp, Node.withoutMethodNames, Node.kind_mapKinds]
  cases n.kind with
  | function form name => cases form <;> rfl
  | _ => rfl

theorem firstParameter?_withoutMethodNames (n : Node) :
    firstParameter? n.withoutMethodNames =
      (firstParameter? n).map Node.withoutMethodNames := by
  have hparams : ((fun c : Node => c.kind == .params) ∘ Node.withoutMethodNames) =
      fun c => c.kind == .params := funext fun c => by
    rw [Function.comp, Node.withoutMethodNames, Node.kind_mapKinds]
    exact NodeKind.apply_withoutMethodName (f := (· == .params)) (fun _ => rfl) c.kind
  rw [firstParameter?, firstParameter?, Node.withoutMethodNames, Node.children_mapKinds,
    List.find?_map, ← Node.withoutMethodNames, hparams]
  cases n.children.find? fun c => c.kind == .params with
  | none => rfl
  | some params => exact Node.first?_mapKinds _ params

theorem seeFirstParameter_withoutMethodNames (n : Node) :
    c.seeFirstParameter n.withoutMethodNames = c.seeFirstParameter n := by
  rw [seeFirstParameter, seeFirstParameter, firstParameter?_withoutMethodNames]
  cases firstParameter? n with
  | none => rfl
  | some parameter =>
    rw [Option.map_some]
    dsimp only
    rw [Node.withoutMethodNames, Node.kind_mapKinds, Node.children_mapKinds,
      ← Node.withoutMethodNames, patternKeys_withoutMethodNames]
    cases parameter.kind with
    | function form name => cases form <;> rfl
    | _ => rfl

theorem see_withoutMethodNames (n : Node) : c.see n.withoutMethodNames = c.see n := by
  have hfirst : n.withoutMethodNames.first? = n.first?.map Node.withoutMethodNames :=
    Node.first?_mapKinds _ n
  have hkind : n.withoutMethodNames.kind = n.kind.withoutMethodName := Node.kind_mapKinds _ n
  rw [see, see, hkind, hfirst]
  cases n.kind with
  | function form name =>
    cases form <;> exact seeFirstParameter_withoutMethodNames _ n
  | «return» => exact seeReturn_withoutMethodNames c n.first?
  | call => exact seeCall_withoutMethodNames c n.first?
  | variableDeclarator =>
    have hname : (n.first?.map Node.withoutMethodNames).bind Node.identifierName? =
        n.first?.bind Node.identifierName? := by
      rw [Option.bind_map]
      exact congrArg (Option.bind n.first?) (funext identifierName?_withoutMethodNames)
    dsimp only [NodeKind.withoutMethodName]
    rw [hname]
  | _ => rfl

/-- No feature depends on the name of a method. -/
theorem ofTree_withoutMethodNames (tree : Node) :
    ofTree tree.withoutMethodNames = ofTree tree := by
  rw [ofTree, ofTree, Node.walk_eq_foldl, Node.walk_eq_foldl, Node.withoutMethodNames,
    Node.preorder_mapKinds, List.foldl_map]
  exact congrArg (tree.preorder.foldl · {}) (funext fun c => funext (see_withoutMethodNames c))

end FeatureContext

/-! ## Parentheses -/

namespace Syntax

open Text (byteCount)

/-- A named node below the root that can be put in parentheses: the lowering reads nothing from its
role. It has the given text, behind the given other one, in a tree with nested ranges. -/
structure Concrete.IsGroupable (root : Concrete) (path : List Nat) (x : Concrete)
    (front inner : List Char) : Prop where
  leads : root.descendant? path = some x
  below : path ≠ []
  isNamed : x.isNamed = true
  isUnread : ∀ field ∈ x.field, ∃ label, field = .other label
  span_eq : x.span = ⟨byteCount front, byteCount front + byteCount inner⟩
  isNested : root.isNested = true

theorem isUnread_of_field_eq_none {x : Concrete} (h : x.field = none) :
    ∀ field ∈ x.field, ∃ label, field = .other label := by
  intro field hfield
  rw [h] at hfield
  cases hfield

section Transparency

variable {front inner : List Char} {root x : Concrete} {path : List Nat}

/-- The method whose name is kept is left with no name. -/
theorem Concrete.withoutMethodName_keptKind (source other : List Char) (t x : Concrete)
    (path p : List Nat) (u : Concrete) :
    (t.keptKind source other path x p u).withoutMethodName =
      (kindOf source u).withoutMethodName := by
  rw [Concrete.keptKind]
  split
  next hkept =>
    have hkind := Concrete.is_iff.1 hkept.2.2.1
    simp only [kindOf, hkind, NodeKind.withoutMethodName]
  next => rfl

/-- Without a nesting limit, a tree and the one with parentheses are lowered to the same nodes but
for names of methods, or refused for the same fault. -/
theorem lowerUnlimited_parenthesizeAt (hx : root.IsGroupable path x front inner) (rest : List Char)
    (hchecks : ∀ u ∈ root.between path, u.ChecksApart x)
    (hkeeps : ∀ u ∈ root.between path, KeepsKind x u) :
    let source := front ++ inner ++ rest
    let other := surround front inner rest
    let grouped := root.parenthesizeAt path
    (lowerUnlimited source root = .ok (root.loweredBy fun _ => kindOf source) ∧
      lowerUnlimited other grouped = .ok (root.loweredBy (root.keptKind source other path x))) ∨
    ∃ error error', lowerUnlimited source root = .error error ∧
      lowerUnlimited other grouped = .error error' ∧
      SameFault source other (Concrete.pathAfter path) root grouped error error' := by
  intro source other grouped
  have hsurrounded : Surrounded source other x := surrounded hx.isNamed hx.isUnread hx.span_eq
  have hfits : (Site.around path).Fits source other x root := ⟨hx.isNested, hx.leads⟩
  have herrors := rel_firstErrors hsurrounded hfits hx.below hchecks
  rw [lowerUnlimited, lowerUnlimited, Concrete.loweredBy_kindOf,
    ← program_contributions_parenthesizeAt hsurrounded hfits hx.below hkeeps]
  generalize (visitsAll [] root.children).findSome? _ = error at herrors ⊢
  generalize (visitsAll [] grouped.children).findSome? _ = error' at herrors ⊢
  cases herrors with
  | none => exact .inl ⟨rfl, rfl⟩
  | some hfault => exact .inr ⟨_, _, rfl, rfl, hfault⟩

/-- Parentheses around a node are transparent, if they are in no text that is read, names of methods
aside. Unless a nesting limit is exceeded, the tree that comes out is the one of the source but for
the methods around the node whose names have it in them: these are named as the other source writes
it (`Concrete.keptKind`). The features are the same. Or both trees are refused for the same fault at
corresponding nodes. -/
theorem parentheses_transparent (hx : root.IsGroupable path x front inner)
    (hapart : ∀ u ∈ root.between path,
      u.ChecksApart x ∧ (u.NamesApart x ∨ u.is .methodDefinition = true))
    (rest : List Char) (limit : Nat) :
    let source := front ++ inner ++ rest
    let other := surround front inner rest
    let grouped := root.parenthesizeAt path
    isTooDeep (lower source limit root) = false → isTooDeep (lower other limit grouped) = false →
    (∃ tree tree', lower source limit root = .ok tree ∧ lower other limit grouped = .ok tree' ∧
      tree = root.loweredBy (fun _ => kindOf source) ∧
      tree' = root.loweredBy (root.keptKind source other path x) ∧
      tree'.withoutMethodNames = tree.withoutMethodNames ∧
      FeatureContext.ofTree tree' = FeatureContext.ofTree tree ∧
      ((∀ u ∈ root.between path, u.NamesApart x) → tree' = tree)) ∨
    ∃ error error', lower source limit root = .error error ∧
      lower other limit grouped = .error error' ∧
      SameFault source other (Concrete.pathAfter path) root grouped error error' := by
  intro source other grouped hlimit hlimit'
  rw [lower_eq_lowerUnlimited hlimit, lower_eq_lowerUnlimited hlimit']
  rcases lowerUnlimited_parenthesizeAt hx rest (fun u hu => (hapart u hu).1)
    (fun u hu => (hapart u hu).2) with ⟨htree, htree'⟩ | hrefused
  · have hnames : (root.loweredBy (root.keptKind source other path x)).withoutMethodNames =
        (root.loweredBy fun _ => kindOf source).withoutMethodNames := by
      rw [Node.withoutMethodNames, root.mapKinds_loweredBy rfl rfl,
        root.mapKinds_loweredBy rfl rfl]
      simp only [Concrete.withoutMethodName_keptKind]
    refine .inl ⟨_, _, htree, htree', rfl, rfl, hnames, ?_, fun hall => ?_⟩
    · rw [← FeatureContext.ofTree_withoutMethodNames, hnames,
        FeatureContext.ofTree_withoutMethodNames]
    · refine root.loweredBy_congr fun p u hbelow hu => if_neg fun hkept => ?_
      exact hkept.2.2.2 (hall u (Concrete.mem_between hu hkept.1 hkept.2.1 hbelow))
  · exact .inr hrefused

/-- Parentheses in the value of an attribute, with the names of the attribute, of the element and of
the method beside it. -/
theorem parentheses_transparent_attribute_value :
    let front := "class A \x7b m() \x7b return <b c=\x7b".toList
    let inner := "x".toList
    let rest := "\x7d/>; \x7d \x7d".toList
    let source := front ++ inner ++ rest
    let other := surround front inner rest
    let root := Concrete.ofSource source
    let path := [0, 2, 1, 2, 1, 1, 2, 2, 1]
    let x := Concrete.named .identifier ⟨29, 30⟩ []
    root.IsGroupable path x front inner ∧
      (∀ u ∈ root.between path, u.ChecksApart x ∧ u.NamesApart x) ∧
      Concrete.ofSource other = root.parenthesizeAt path ∧
      ∃ tree, lower source 256 root = .ok tree ∧
        lower other 256 (root.parenthesizeAt path) = .ok tree := by
  intro front inner rest source other root path x
  obtain ⟨hleads, hspan, hnested, hapart, hother, hok, hok'⟩ :
      root.descendant? path = some x ∧
      x.span = ⟨byteCount front, byteCount front + byteCount inner⟩ ∧ root.isNested = true ∧
      (∀ u ∈ root.between path, u.ChecksApart x ∧ u.NamesApart x) ∧
      Concrete.ofSource other = root.parenthesizeAt path ∧
      (lower source 256 root).toOption.isSome = true ∧
      (lower other 256 (root.parenthesizeAt path)).toOption.isSome = true := by
    decide +kernel +revert
  obtain ⟨tree, htree⟩ := isSome_toOption_iff.1 hok
  obtain ⟨tree', htree'⟩ := isSome_toOption_iff.1 hok'
  have hx : root.IsGroupable path x front inner :=
    ⟨hleads, List.cons_ne_nil _ _, rfl, isUnread_of_field_eq_none rfl, hspan, hnested⟩
  have htransparent := parentheses_transparent hx
    (fun u hu => ⟨(hapart u hu).1, .inl (hapart u hu).2⟩) rest 256
    (by rw [htree]; rfl) (by rw [htree']; rfl)
  refine ⟨hx, hapart, hother, ?_⟩
  rcases htransparent with ⟨tree, tree', htree, htree', -, -, -, -, hsame⟩ | ⟨error, -, herror, -⟩
  · rw [hsame fun u hu => (hapart u hu).2] at htree'
    exact ⟨tree, htree, htree'⟩
  · rw [htree] at herror
    cases herror

/-- Parentheses in the computed name of a method are kept in the name. -/
theorem parentheses_in_method_name :
    let front := "class A \x7b [".toList
    let inner := "x".toList
    let rest := "]() \x7b\x7d \x7d".toList
    let source := front ++ inner ++ rest
    let other := surround front inner rest
    let root := Concrete.ofSource source
    let path := [0, 2, 1, 0, 1]
    (∃ x, root.IsGroupable path x front inner) ∧
      (∀ u ∈ root.passed path, u.is .jsxAttribute = false) ∧
      Concrete.ofSource other = root.parenthesizeAt path ∧
      ∃ tree tree', lower source 256 root = .ok tree ∧
        lower other 256 (root.parenthesizeAt path) = .ok tree' ∧ tree' ≠ tree := by
  intro front inner rest source other root path
  let kinds := fun result : Except SyntaxError Node =>
    result.toOption.map fun tree => tree.preorder.map Node.kind
  let x := Concrete.named .identifier ⟨11, 12⟩ []
  obtain ⟨hleads, hspan, hnested, hattribute, hother, hok, hok', hkinds⟩ :
      root.descendant? path = some x ∧
      x.span = ⟨byteCount front, byteCount front + byteCount inner⟩ ∧ root.isNested = true ∧
      (∀ u ∈ root.passed path, u.is .jsxAttribute = false) ∧
      Concrete.ofSource other = root.parenthesizeAt path ∧
      (lower source 256 root).toOption.isSome = true ∧
      (lower other 256 (root.parenthesizeAt path)).toOption.isSome = true ∧
      kinds (lower other 256 (root.parenthesizeAt path)) ≠ kinds (lower source 256 root) := by
    decide +kernel +revert
  obtain ⟨tree, htree⟩ := isSome_toOption_iff.1 hok
  obtain ⟨tree', htree'⟩ := isSome_toOption_iff.1 hok'
  have hx : root.IsGroupable path x front inner :=
    ⟨hleads, List.cons_ne_nil _ _, rfl, isUnread_of_field_eq_none rfl, hspan, hnested⟩
  refine ⟨⟨x, hx⟩, hattribute, hother, tree, tree', htree, htree', fun hsame => hkinds ?_⟩
  rw [htree, htree', hsame]

end Transparency

end Syntax

end SubmissionGrader
