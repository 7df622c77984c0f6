import SubmissionGrader.Proofs.Features.Rules

/-!
# The context that a walk extracts

Seeing a node joins the context with what the node shows by itself, so the context
after several nodes is read off them attribute by attribute: flags are joined by
`or`, lists of names keep first occurrences, imported modules are appended, and the
later of two returned elements counts.
-/

namespace SubmissionGrader

open Syntax

/-! ## First occurrences -/

theorem pushUnique_eraseDups (names : List String) (name : String) :
    pushUnique names.eraseDups name = (names ++ [name]).eraseDups := by
  rw [pushUnique, List.eraseDups_append]
  by_cases h : name ∈ names
  · have hmem : names.eraseDups.contains name = true :=
      List.contains_iff_mem.2 (List.mem_eraseDups.2 h)
    rw [if_pos hmem]
    simp [List.removeAll, h]
  · have hmem : ¬names.eraseDups.contains name = true := by
      rw [List.contains_iff_mem, List.mem_eraseDups]
      exact h
    rw [if_neg hmem]
    simp [List.removeAll, h, List.eraseDups_cons]

/-- Pushing names one after the other keeps the first occurrence of each. -/
theorem foldl_pushUnique_eraseDups (names more : List String) :
    more.foldl pushUnique names.eraseDups = (names ++ more).eraseDups := by
  induction more generalizing names with
  | nil => rw [List.foldl_nil, List.append_nil]
  | cons name more ih =>
      rw [List.foldl_cons, pushUnique_eraseDups, ih, List.append_assoc, List.singleton_append]

namespace FeatureContext

/-! ## Joining contexts -/

/-- The first context with what the second one shows on top of it. -/
def join (c d : FeatureContext) : FeatureContext where
  hasFunctionDeclaration := c.hasFunctionDeclaration || d.hasFunctionDeclaration
  hasArrowFunction := c.hasArrowFunction || d.hasArrowFunction
  functionNames := d.functionNames.foldl pushUnique c.functionNames
  hasReturnStatement := c.hasReturnStatement || d.hasReturnStatement
  isJSXElement := c.isJSXElement || d.isJSXElement
  jsxElementName := d.jsxElementName.or c.jsxElementName
  hasJSX := c.hasJSX || d.hasJSX
  jsxElements := d.jsxElements.foldl pushUnique c.jsxElements
  variableNames := d.variableNames.foldl pushUnique c.variableNames
  importedModules := c.importedModules ++ d.importedModules
  usesUseState := c.usesUseState || d.usesUseState
  usesUseEffect := c.usesUseEffect || d.usesUseEffect
  usesUseRef := c.usesUseRef || d.usesUseRef
  usesUseCallback := c.usesUseCallback || d.usesUseCallback
  usesUseMemo := c.usesUseMemo || d.usesUseMemo
  usesUseContext := c.usesUseContext || d.usesUseContext
  usesCreateContext := c.usesCreateContext || d.usesCreateContext
  hasPropsParameter := c.hasPropsParameter || d.hasPropsParameter
  hasPropsDestructuring := c.hasPropsDestructuring || d.hasPropsDestructuring
  propsNames := d.propsNames.foldl pushUnique c.propsNames
  hasConditionalRendering := c.hasConditionalRendering || d.hasConditionalRendering
  hasMapCall := c.hasMapCall || d.hasMapCall
  hasEventHandler := c.hasEventHandler || d.hasEventHandler
  parseError := c.parseError

/-- What a node shows by itself. -/
def shown (n : Node) : FeatureContext where
  hasFunctionDeclaration := Flag.hasFunctionDeclaration.rule n
  hasArrowFunction := Flag.hasArrowFunction.rule n
  functionNames := NameList.functionNames.contributed n
  hasReturnStatement := Flag.hasReturnStatement.rule n
  isJSXElement := Flag.isJSXElement.rule n
  jsxElementName := returnedName? n
  hasJSX := Flag.hasJSX.rule n
  jsxElements := NameList.jsxElements.contributed n
  variableNames := NameList.variableNames.contributed n
  importedModules := (importSource? n).toList
  usesUseState := Flag.usesUseState.rule n
  usesUseEffect := Flag.usesUseEffect.rule n
  usesUseRef := Flag.usesUseRef.rule n
  usesUseCallback := Flag.usesUseCallback.rule n
  usesUseMemo := Flag.usesUseMemo.rule n
  usesUseContext := Flag.usesUseContext.rule n
  usesCreateContext := Flag.usesCreateContext.rule n
  hasPropsParameter := Flag.hasPropsParameter.rule n
  hasPropsDestructuring := Flag.hasPropsDestructuring.rule n
  propsNames := NameList.propsNames.contributed n
  hasConditionalRendering := Flag.hasConditionalRendering.rule n
  hasMapCall := Flag.hasMapCall.rule n
  hasEventHandler := Flag.hasEventHandler.rule n

theorem value_join (flag : Flag) (c d : FeatureContext) :
    flag.value (c.join d) = (flag.value c || flag.value d) := by
  cases flag <;> rfl

theorem value_shown (flag : Flag) (n : Node) : flag.value (shown n) = flag.rule n := by
  cases flag <;> rfl

theorem NameList.value_join (names : NameList) (c d : FeatureContext) :
    names.value (c.join d) = (names.value d).foldl pushUnique (names.value c) := by
  cases names <;> rfl

theorem NameList.value_shown (names : NameList) (n : Node) :
    names.value (shown n) = names.contributed n := by
  cases names <;> rfl

theorem join_empty (c : FeatureContext) : c.join {} = c := by
  simp [join]

/-! ## Seeing a node -/

theorem seeFirstParameter_eq_join (c : FeatureContext) (n : Node) :
    c.seeFirstParameter n = c.join
      { hasPropsParameter := (firstParameter? n).any (·.kind = .identifier "props")
        hasPropsDestructuring := (firstParameter? n).any (·.kind = .objectPattern)
        propsNames := patternNames (firstParameter? n) } := by
  rw [seeFirstParameter]
  cases firstParameter? n with
  | none => simp [patternNames, join]
  | some p =>
      cases hkind : p.kind with
      | identifier name =>
          by_cases hname : name = "props" <;> simp [patternNames, hkind, hname, join]
      | objectPattern => simp [patternNames, hkind, join]
      | _ => simp [patternNames, hkind, join]

theorem seeFunction_eq_join (c : FeatureContext) (form : FunctionForm) (name : Option String)
    (children : List Node) :
    c.seeFunction form name = c.join
      { hasFunctionDeclaration := form ≠ .method
        hasArrowFunction := form = .arrow
        functionNames :=
          NameList.functionNames.contributed (.node (.function form name) children) } := by
  cases form <;> cases name <;> simp [seeFunction, NameList.contributed, join]

theorem seeCall_eq_join (c : FeatureContext) (callee : Option Node) :
    c.seeCall callee = c.join
      { usesUseState := callee.any (·.kind = .identifier "useState")
        usesUseEffect := callee.any (·.kind = .identifier "useEffect")
        usesUseRef := callee.any (·.kind = .identifier "useRef")
        usesUseCallback := callee.any (·.kind = .identifier "useCallback")
        usesUseMemo := callee.any (·.kind = .identifier "useMemo")
        usesUseContext := callee.any (·.kind = .identifier "useContext")
        usesCreateContext := callee.any (·.kind = .identifier "createContext")
        hasMapCall := callee.any (·.kind = .member (some "map")) } := by
  cases callee with
  | none => simp [seeCall, join]
  | some callee =>
      cases hkind : callee.kind with
      | identifier name =>
          simp only [seeCall, Option.map_some, hkind]
          split <;> simp_all [join]
      | member property =>
          cases property with
          | none => simp [seeCall, hkind, join]
          | some property =>
              by_cases hname : property = "map" <;> simp [seeCall, hkind, hname, join]
      | _ => simp [seeCall, hkind, join]

theorem seeReturn_eq_join (c : FeatureContext) (value : Option Node) :
    c.seeReturn value = c.join
      { hasReturnStatement := true
        isJSXElement := value.any Node.isElement
        jsxElementName := plainName? value } := by
  rw [plainName?]
  cases value with
  | none => simp [seeReturn, join]
  | some value =>
      cases hkind : value.kind with
      | jsxElement name =>
          cases hplain : isPlainName name <;>
            simp [seeReturn, hkind, Node.isElement, hplain, join]
      | _ => simp [seeReturn, hkind, Node.isElement, join]

/-- Seeing a node joins the context with what the node shows. -/
theorem see_eq_join (c : FeatureContext) (n : Node) : c.see n = c.join (shown n) := by
  obtain ⟨kind, children⟩ := n
  cases kind with
  | function form name =>
      refine (seeFirstParameter_eq_join (c.seeFunction form name) _).trans ?_
      rw [seeFunction_eq_join c form name children]
      -- A function and its first parameter show different attributes, so one join is enough.
      change _ = c.join
        { hasFunctionDeclaration := form ≠ .method
          hasArrowFunction := form = .arrow
          functionNames :=
            NameList.functionNames.contributed (.node (.function form name) children)
          hasPropsParameter :=
            (firstParameter? (.node (.function form name) children)).any
              (·.kind = .identifier "props")
          hasPropsDestructuring :=
            (firstParameter? (.node (.function form name) children)).any (·.kind = .objectPattern)
          propsNames := patternNames (firstParameter? (.node (.function form name) children)) }
      simp [join]
  | call => exact seeCall_eq_join c _
  | «return» => exact seeReturn_eq_join c _
  | variableDeclarator =>
      change _ = c.join
        { variableNames :=
            ((Node.node .variableDeclarator children).first?.bind Node.identifierName?).toList }
      rw [see, Node.kind_node]
      dsimp only
      cases (Node.node .variableDeclarator children).first?.bind Node.identifierName? with
      | none => exact (join_empty c).symm
      | some name => simp [join]
  | moduleImport source =>
      change _ = c.join { importedModules := [source] }
      simp [see, join]
  | jsxElement name =>
      change _ = c.join { hasJSX := true, jsxElements := [name] }
      simp [see, join]
  | jsxFragment =>
      change _ = c.join { hasJSX := true, jsxElements := ["Fragment"] }
      simp [see, join]
  | jsxAttribute name =>
      change _ = c.join { hasEventHandler := "on".toList.isPrefixOf name.toList }
      rw [see, Node.kind_node]
      dsimp only
      cases "on".toList.isPrefixOf name.toList with
      | false => exact (join_empty c).symm
      | true => simp [join]
  | conditional =>
      change _ = c.join { hasConditionalRendering := true }
      simp [see, join]
  | logical operator =>
      change _ = c.join
        { hasConditionalRendering := decide (NodeKind.logical operator = .logical "&&") }
      by_cases hname : operator = "&&"
      · subst hname
        simp [see, join]
      · simp [see, join, hname]
  | _ => exact (join_empty c).symm

/-! ## Seeing several nodes -/

theorem value_foldl_see (flag : Flag) (ns : List Node) (c : FeatureContext) :
    flag.value (ns.foldl see c) = (flag.value c || ns.any flag.rule) := by
  induction ns generalizing c with
  | nil => rw [List.foldl_nil, List.any_nil, Bool.or_false]
  | cons n ns ih =>
      rw [List.foldl_cons, ih, see_eq_join, value_join, value_shown, List.any_cons, Bool.or_assoc]

theorem NameList.value_foldl_see (names : NameList) (ns : List Node) (c : FeatureContext) :
    names.value (ns.foldl see c) =
      (ns.flatMap names.contributed).foldl pushUnique (names.value c) := by
  induction ns generalizing c with
  | nil => rfl
  | cons n ns ih =>
      rw [List.foldl_cons, ih, see_eq_join, value_join, value_shown, List.flatMap_cons,
        List.foldl_append]

theorem importedModules_foldl_see (ns : List Node) (c : FeatureContext) :
    (ns.foldl see c).importedModules = c.importedModules ++ ns.filterMap importSource? := by
  induction ns generalizing c with
  | nil => rw [List.foldl_nil, List.filterMap_nil, List.append_nil]
  | cons n ns ih =>
      rw [List.foldl_cons, ih, see_eq_join]
      cases hsource : importSource? n <;> simp [join, shown, hsource]

theorem jsxElementName_foldl_see (ns : List Node) (c : FeatureContext) :
    (ns.foldl see c).jsxElementName =
      ((ns.filterMap returnedName?).getLast?).or c.jsxElementName := by
  induction ns generalizing c with
  | nil => rfl
  | cons n ns ih =>
      rw [List.foldl_cons, ih, see_eq_join]
      cases hname : returnedName? n <;> simp [join, shown, hname, List.getLast?_cons]

theorem parseError_foldl_see (ns : List Node) (c : FeatureContext) :
    (ns.foldl see c).parseError = c.parseError := by
  induction ns generalizing c with
  | nil => rfl
  | cons n ns ih => rw [List.foldl_cons, ih, see_eq_join, join]

/-! ## The whole context -/

/-- A context is its flags, its lists of names and its three other attributes. -/
theorem eq_of_values {c d : FeatureContext} (hflags : ∀ flag : Flag, flag.value c = flag.value d)
    (hnames : ∀ names : NameList, names.value c = names.value d)
    (himports : c.importedModules = d.importedModules)
    (hname : c.jsxElementName = d.jsxElementName) (herror : c.parseError = d.parseError) :
    c = d := by
  cases c
  cases d
  rw [FeatureContext.mk.injEq]
  exact ⟨hflags .hasFunctionDeclaration, hflags .hasArrowFunction, hnames .functionNames,
    hflags .hasReturnStatement, hflags .isJSXElement, hname, hflags .hasJSX, hnames .jsxElements,
    hnames .variableNames, himports, hflags .usesUseState, hflags .usesUseEffect,
    hflags .usesUseRef, hflags .usesUseCallback, hflags .usesUseMemo, hflags .usesUseContext,
    hflags .usesCreateContext, hflags .hasPropsParameter, hflags .hasPropsDestructuring,
    hnames .propsNames, hflags .hasConditionalRendering, hflags .hasMapCall,
    hflags .hasEventHandler, herror⟩

/-! ## The context of a tree -/

theorem value_ofTree (flag : Flag) (tree : Node) :
    flag.value (ofTree tree) = tree.preorder.any flag.rule := by
  rw [ofTree, Node.walk_eq_foldl, value_foldl_see]
  cases flag <;> rfl

theorem NameList.value_ofTree (names : NameList) (tree : Node) :
    names.value (ofTree tree) = (tree.preorder.flatMap names.contributed).eraseDups := by
  have hempty : names.value {} = [].eraseDups := by cases names <;> rfl
  rw [ofTree, Node.walk_eq_foldl, NameList.value_foldl_see, hempty, foldl_pushUnique_eraseDups,
    List.nil_append]

theorem jsxElementName_ofTree (tree : Node) :
    (ofTree tree).jsxElementName = (tree.preorder.filterMap returnedName?).getLast? := by
  rw [ofTree, Node.walk_eq_foldl, jsxElementName_foldl_see, Option.or_none]

theorem parseError_ofTree (tree : Node) : (ofTree tree).parseError = none := by
  rw [ofTree, Node.walk_eq_foldl, parseError_foldl_see]

end FeatureContext

open FeatureContext in
/-- What the walk over a syntax tree extracts is the context described by the nodes in
preorder. A flag is raised if some node raises it, a list of names has the first
occurrences of the names that the nodes contribute, imported modules are listed as
often as they are imported, and the returned element is the last one with a name of
a single word. -/
theorem ofTree_eq_iff (tree : Node) (c : FeatureContext) :
    ofTree tree = c ↔
      (∀ flag : Flag, flag.value c = true ↔ ∃ n ∈ tree.preorder, flag.rule n = true) ∧
      (∀ names : NameList,
        names.value c = (tree.preorder.flatMap names.contributed).eraseDups) ∧
      c.importedModules = tree.preorder.filterMap importSource? ∧
      c.jsxElementName = (tree.preorder.filterMap returnedName?).getLast? ∧
      c.parseError = none := by
  have hflags : ∀ flag : Flag, flag.value (ofTree tree) = tree.preorder.any flag.rule := by
    intro flag
    rw [ofTree, Node.walk_eq_foldl, value_foldl_see]
    cases flag <;> rfl
  have hnames : ∀ names : NameList,
      names.value (ofTree tree) = (tree.preorder.flatMap names.contributed).eraseDups := by
    intro names
    have hempty : names.value {} = [].eraseDups := by cases names <;> rfl
    rw [ofTree, Node.walk_eq_foldl, NameList.value_foldl_see, hempty, foldl_pushUnique_eraseDups,
      List.nil_append]
  have himports : (ofTree tree).importedModules = tree.preorder.filterMap importSource? := by
    rw [ofTree, Node.walk_eq_foldl, importedModules_foldl_see, List.nil_append]
  have hname : (ofTree tree).jsxElementName =
      (tree.preorder.filterMap returnedName?).getLast? := by
    rw [ofTree, Node.walk_eq_foldl, jsxElementName_foldl_see, Option.or_none]
  have herror : (ofTree tree).parseError = none := by
    rw [ofTree, Node.walk_eq_foldl, parseError_foldl_see]
  constructor
  · rintro rfl
    exact ⟨fun flag => by rw [hflags, List.any_eq_true], hnames, himports, hname, herror⟩
  · rintro ⟨hflags', hnames', himports', hname', herror'⟩
    refine eq_of_values ?_ ?_ (himports.trans himports'.symm) (hname.trans hname'.symm)
      (herror.trans herror'.symm)
    · intro flag
      rw [Bool.eq_iff_iff, hflags', hflags, List.any_eq_true]
    · intro names
      rw [hnames, hnames']

end SubmissionGrader
