import SubmissionGrader.Proofs.Features.Extraction
import SubmissionGrader.Proofs.Syntax.Kinds

/-!
# Contexts without contradictions

The attributes of a feature context are set at different nodes, and still they go together. A
context is either that of a refused source, with all but its message at the default, or its
attributes agree with one another (`FeatureContext.IsCoherent`). An element that is returned, for
instance, is a child of the `return`, so the walk comes to it and records it.
-/

namespace SubmissionGrader

open Syntax

/-- The text of an error is not empty: it tells the place. -/
theorem Syntax.SyntaxError.text_ne_empty (e : SyntaxError) : e.text ≠ "" := by
  intro h
  have hlength := congrArg String.length h
  simp only [SyntaxError.text, String.length_append, String.length_empty] at hlength
  have hmark : " (".length = 2 := rfl
  omega

namespace Syntax.Node

theorem mem_preorder_self (n : Node) : n ∈ n.preorder := by
  cases n with
  | node kind children =>
    rw [preorder_node]
    exact List.mem_cons_self

/-- A walk comes to the children of each node that it comes to. -/
theorem mem_preorder_of_mem_children {tree n child : Node} (hn : n ∈ tree.preorder)
    (hchild : child ∈ n.children) : child ∈ tree.preorder := by
  induction tree with
  | node kind children ih =>
    rw [preorder_node, List.mem_cons, List.mem_flatMap] at hn ⊢
    refine .inr ?_
    rcases hn with rfl | ⟨c, hc, hn⟩
    · exact ⟨child, hchild, mem_preorder_self child⟩
    · exact ⟨c, hc, ih c hc hn⟩

theorem mem_preorder_of_first? {tree n child : Node} (hn : n ∈ tree.preorder)
    (hchild : n.first? = some child) : child ∈ tree.preorder :=
  mem_preorder_of_mem_children hn (List.mem_of_mem_head? hchild)

end Syntax.Node

namespace FeatureContext

/-- The attributes of an accepted source agree with one another. -/
structure IsCoherent (c : FeatureContext) : Prop where
  parseError_eq : c.parseError = none
  hasJSX_iff : c.hasJSX = true ↔ c.jsxElements ≠ []
  returnsElement : c.isJSXElement = true → c.hasReturnStatement = true ∧ c.hasJSX = true
  returnedName : ∀ name, c.jsxElementName = some name →
    c.isJSXElement = true ∧ name ∈ c.jsxElements ∧ '.' ∉ name.toList ∧ ':' ∉ name.toList
  arrows : c.hasArrowFunction = true → c.hasFunctionDeclaration = true
  functionNames : c.functionNames ≠ [] → c.hasFunctionDeclaration = true
  propsNames : c.propsNames ≠ [] → c.hasPropsDestructuring = true
  nodup : ∀ names : NameList, (names.value c).Nodup

section Tree

variable {tree : Node}

theorem value_ofTree_iff (flag : Flag) (tree : Node) :
    flag.value (ofTree tree) = true ↔ ∃ n ∈ tree.preorder, flag.rule n = true := by
  rw [value_ofTree, List.any_eq_true]

theorem mem_value_ofTree (names : NameList) {name : String} :
    name ∈ names.value (ofTree tree) ↔ ∃ n ∈ tree.preorder, name ∈ names.contributed n := by
  rw [NameList.value_ofTree, List.mem_eraseDups, List.mem_flatMap]

/-- A flag that every node raises which raises another one. -/
theorem value_ofTree_mono (flag other : Flag) (h : ∀ n, flag.rule n = true → other.rule n = true)
    (hflag : flag.value (ofTree tree) = true) : other.value (ofTree tree) = true := by
  rw [value_ofTree_iff] at hflag ⊢
  obtain ⟨n, hn, hrule⟩ := hflag
  exact ⟨n, hn, h n hrule⟩

/-- A flag that every node raises which contributes to a list of names. -/
theorem value_ofTree_of_ne_nil (names : NameList) (flag : Flag)
    (h : ∀ n, names.contributed n ≠ [] → flag.rule n = true)
    (hnames : names.value (ofTree tree) ≠ []) : flag.value (ofTree tree) = true := by
  obtain ⟨name, hname⟩ := List.exists_mem_of_ne_nil _ hnames
  obtain ⟨n, hn, hcontributed⟩ := (mem_value_ofTree names).1 hname
  exact (value_ofTree_iff flag tree).2 ⟨n, hn, h n (List.ne_nil_of_mem hcontributed)⟩

theorem nodup_foldl_pushUnique {names : List String} (h : names.Nodup) (more : List String) :
    (more.foldl pushUnique names).Nodup := by
  induction more generalizing names with
  | nil => exact h
  | cons name more ih => exact ih (nodup_pushUnique h name)

theorem isElement_iff {n : Node} :
    n.isElement = true ↔ NameList.jsxElements.contributed n ≠ [] := by
  rw [Node.isElement, NameList.contributed]
  cases n.kind <;> simp

theorem rule_isJSXElement_iff {n : Node} : Flag.isJSXElement.rule n = true ↔
    n.kind = .return ∧ ∃ element, n.first? = some element ∧ element.isElement = true := by
  simp [Flag.rule, Option.any_eq_true]

/-- A name that a node returns is that of an element, its first child. -/
theorem exists_element_of_returnedName? {n : Node} {name : String}
    (h : returnedName? n = some name) :
    n.kind = .return ∧ isPlainName name = true ∧
      ∃ element, n.first? = some element ∧ element.kind = .jsxElement name := by
  rw [returnedName?] at h
  split at h
  next hkind =>
    rw [plainName?] at h
    split at h
    next found hfound =>
      obtain ⟨element, hfirst, helement⟩ := Option.map_eq_some_iff.1 hfound
      split at h
      next hplain =>
        cases h
        exact ⟨hkind, hplain, element, hfirst, helement⟩
      next => cases h
    next => cases h
  next => cases h

theorem isFunction_of_isArrow {n : Node} (h : n.isArrow = true) : n.isFunction = true := by
  rw [Node.isArrow] at h
  rw [Node.isFunction]
  split at h
  next form name hkind =>
    rw [decide_eq_true_eq] at h
    simp [h]
  next => cases h

theorem isFunction_of_contributed {n : Node} (h : NameList.functionNames.contributed n ≠ []) :
    n.isFunction = true := by
  rw [NameList.contributed] at h
  rw [Node.isFunction]
  split at h
  next hkind => simp [hkind]
  next hkind => simp [hkind]
  next => exact absurd rfl h

theorem takesApart_of_contributed {n : Node} (h : NameList.propsNames.contributed n ≠ []) :
    Flag.hasPropsDestructuring.rule n = true := by
  rw [NameList.contributed] at h
  rw [Flag.rule]
  cases hp : n.parameter? with
  | none =>
    rw [hp] at h
    exact absurd rfl h
  | some p =>
    rw [hp, patternNames] at h
    split at h
    next hkind => simp [hkind]
    next => exact absurd rfl h

theorem isCoherent_ofTree (tree : Node) : (ofTree tree).IsCoherent where
  parseError_eq := parseError_ofTree tree
  hasJSX_iff := by
    constructor
    · intro hflag
      obtain ⟨n, hn, hrule⟩ := (value_ofTree_iff .hasJSX tree).1 hflag
      obtain ⟨name, hname⟩ := List.exists_mem_of_ne_nil _ (isElement_iff.1 hrule)
      exact List.ne_nil_of_mem ((mem_value_ofTree .jsxElements).2 ⟨n, hn, hname⟩)
    · exact value_ofTree_of_ne_nil .jsxElements .hasJSX fun _ => isElement_iff.2
  returnsElement h := by
    obtain ⟨n, hn, hrule⟩ := (value_ofTree_iff .isJSXElement tree).1 h
    obtain ⟨hkind, element, hfirst, helement⟩ := rule_isJSXElement_iff.1 hrule
    exact ⟨(value_ofTree_iff .hasReturnStatement tree).2 ⟨n, hn, by simp [Flag.rule, hkind]⟩,
      (value_ofTree_iff .hasJSX tree).2 ⟨element, Node.mem_preorder_of_first? hn hfirst, helement⟩⟩
  returnedName name h := by
    rw [jsxElementName_ofTree] at h
    obtain ⟨n, hn, hname⟩ := List.mem_filterMap.1 (List.mem_of_getLast? h)
    obtain ⟨hkind, hplain, element, hfirst, helement⟩ := exists_element_of_returnedName? hname
    have hmem := Node.mem_preorder_of_first? hn hfirst
    refine ⟨(value_ofTree_iff .isJSXElement tree).2 ⟨n, hn, ?_⟩,
      (mem_value_ofTree .jsxElements).2 ⟨element, hmem, ?_⟩, ?_⟩
    · exact rule_isJSXElement_iff.2 ⟨hkind, element, hfirst, by rw [Node.isElement, helement]⟩
    · rw [NameList.contributed, helement, List.mem_singleton]
    · simpa [isPlainName] using hplain
  arrows := value_ofTree_mono .hasArrowFunction .hasFunctionDeclaration fun _ =>
    isFunction_of_isArrow
  functionNames := value_ofTree_of_ne_nil .functionNames .hasFunctionDeclaration fun _ =>
    isFunction_of_contributed
  propsNames := value_ofTree_of_ne_nil .propsNames .hasPropsDestructuring fun _ =>
    takesApart_of_contributed
  nodup names := by
    rw [ofTree, Node.walk_eq_foldl, NameList.value_foldl_see]
    exact nodup_foldl_pushUnique (by cases names <;> exact List.nodup_nil) _

end Tree

/-- The features that go with a result of parsing: those of a refused source have a message, which
is not empty, and show nothing of what was read before the error, and those of an accepted source
are coherent. -/
def FitsResult (result : Except SyntaxError Node) (c : FeatureContext) : Prop :=
  (∃ error, result = .error error ∧ error.text ≠ "" ∧ c = .broken error.text) ∨
    (∃ tree, result = .ok tree) ∧ c.IsCoherent

/-- Whatever the result of parsing is, the features fit it, and so they do for every source under
every limit. -/
theorem analysis_coherent :
    (∀ result : Except SyntaxError Node, FitsResult result (ofResult result)) ∧
      ∀ (source : String) (limit : Nat),
        FitsResult (parseWithDepth source limit) (analyzeWithDepth source limit) := by
  have hfits : ∀ result : Except SyntaxError Node, FitsResult result (ofResult result) := by
    intro result
    cases result with
    | ok tree => exact .inr ⟨⟨tree, rfl⟩, isCoherent_ofTree tree⟩
    | error error => exact .inl ⟨error, rfl, error.text_ne_empty, rfl⟩
  exact ⟨hfits, fun source limit => hfits (parseWithDepth source limit)⟩

end FeatureContext

end SubmissionGrader
