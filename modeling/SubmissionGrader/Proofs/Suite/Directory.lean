import Mathlib.Data.List.Lex
import Mathlib.Data.String.Basic
import SubmissionGrader.Proofs.Files.Tree
import SubmissionGrader.Suite.Directory

/-!
# Loading directories of suites

The files of a tree, and the directories that cannot be listed, come in the order of their places
(`leaves`). What is loaded from the tree is what is loaded from each of them
(`allOf_eq_gather_leaves`), so it only matters what is found at which place.
-/

namespace SubmissionGrader.Suite

mutual

/-- The files of a tree and the directories that cannot be listed, with their places. -/
def leaves : FileTree → List (List String × FileTree)
  | .directory entries =>
    (byName (leavesOf entries)).flatMap fun below =>
      below.2.map fun leaf => (below.1 :: leaf.1, leaf.2)
  | .file content => [([], .file content)]
  | .unreadable fault => [([], .unreadable fault)]
  | .unlistable fault => [([], .unlistable fault)]

def leavesOf : List (String × FileTree) → List (String × List (List String × FileTree))
  | [] => []
  | (name, tree) :: rest => (name, leaves tree) :: leavesOf rest

end

def pathOf (path : String) (place : List String) : String := place.foldl Files.join path

/-- The suite in what is found at a path, if it can be loaded. -/
def suiteIn? (path : String) : FileTree → Option Suite
  | .file content => if isSuitePath path then (parse path content).toOption else none
  | _ => none

/-- The error of a directory that cannot be listed. -/
def faultIn? (path : String) : FileTree → Option SuiteError
  | .unlistable fault => some (.unlistable path fault)
  | _ => none

def readAt? {β : Type} (f : String → FileTree → Option β) (path : String) (tree : FileTree)
    (place : List String) : Option β :=
  (tree.find? place).bind (f (pathOf path place))

/-- What is read off the leaves of a tree at a path, each with its place. -/
def listing {β : Type} (f : String → FileTree → Option β) (path : String) (tree : FileTree) :
    List (List String × β) :=
  (leaves tree).filterMap fun leaf => (f (pathOf path leaf.1) leaf.2).map fun x => (leaf.1, x)

/-- What is read off the places below a tree at a path, depth first and in the order of names. -/
structure IsListing {β : Type} (f : String → FileTree → Option β) (path : String) (tree : FileTree)
    (found : List (List String × β)) : Prop where
  sorted : found.Pairwise fun a b => a.1 < b.1
  mem_iff : ∀ place x, (place, x) ∈ found ↔ readAt? f path tree place = some x

variable {path : String} {tree other : FileTree} {place : List String}

/-! ## Entries in the order of their names -/

section Entries

variable {α β : Type} {entries : List (String × α)}

theorem byName_map (f : String × α → β) (entries : List (String × α)) :
    byName (entries.map fun e => (e.1, f e)) = (byName entries).map fun e => (e.1, f e) := by
  rw [byName, byName, List.map_mergeSort]
  exact fun _ _ _ _ => rfl

theorem mem_byName {e : String × α} : e ∈ byName entries ↔ e ∈ entries := List.mem_mergeSort

theorem byName_of_sorted (h : entries.Pairwise fun a b => a.1 ≤ b.1) : byName entries = entries :=
  List.mergeSort_of_pairwise (h.imp decide_eq_true)

theorem pairwise_byName (h : (entries.map Prod.fst).Nodup) :
    (byName entries).Pairwise fun a b => a.1 < b.1 := by
  have hsorted : (byName entries).Pairwise fun a b => decide (a.1 ≤ b.1) = true := by
    refine List.pairwise_mergeSort (fun a b c hab hbc => ?_) (fun a b => ?_) entries
    · exact decide_eq_true (le_trans (of_decide_eq_true hab) (of_decide_eq_true hbc))
    · simpa using le_total a.1 b.1
  have hdistinct : (byName entries).Pairwise fun a b => a.1 ≠ b.1 := by
    have hperm : (byName entries).Perm entries := List.mergeSort_perm _ _
    exact List.pairwise_map.1 ((hperm.map Prod.fst).nodup_iff.2 h)
  exact (hsorted.and hdistinct).imp fun hab => lt_of_le_of_ne (of_decide_eq_true hab.1) hab.2

end Entries

/-! ## Leaves -/

theorem leavesOf_eq_map (entries : List (String × FileTree)) :
    leavesOf entries = entries.map fun e => (e.1, leaves e.2) := by
  induction entries with
  | nil => rfl
  | cons e rest ih => rw [leavesOf, ih, List.map_cons]

theorem leaves_directory (entries : List (String × FileTree)) :
    leaves (.directory entries) =
      (byName entries).flatMap fun e => (leaves e.2).map fun leaf => (e.1 :: leaf.1, leaf.2) := by
  rw [leaves, leavesOf_eq_map, byName_map, List.flatMap_map]

theorem allOfEntries_eq_map (path : String) (entries : List (String × FileTree)) :
    allOfEntries path entries = entries.map fun e => (e.1, allOf (Files.join path e.1) e.2) := by
  induction entries with
  | nil => rfl
  | cons e rest ih => rw [allOfEntries, ih, List.map_cons]

theorem allOf_directory (path : String) (entries : List (String × FileTree)) :
    allOf path (.directory entries) =
      gather ((byName entries).map fun e => allOf (Files.join path e.1) e.2) := by
  rw [allOf, allOfEntries_eq_map, byName_map, List.map_map]
  rfl

theorem pairwise_leaves (h : tree.HasDistinctNames) :
    (leaves tree).Pairwise fun a b => a.1 < b.1 := by
  induction h with
  | file _ | unreadable _ | unlistable _ => exact List.pairwise_singleton _ _
  | directory hnodup _ ih =>
    rw [leaves_directory, List.pairwise_flatMap]
    refine ⟨fun e he => ?_, (pairwise_byName hnodup).imp fun {a b} hab => ?_⟩
    · rw [List.pairwise_map]
      refine (ih e (mem_byName.1 he)).imp fun hlt => ?_
      exact List.cons_lt_cons_iff.2 (.inr ⟨rfl, hlt⟩)
    · simp only [List.forall_mem_map]
      exact fun _ _ _ _ => List.cons_lt_cons_iff.2 (.inl hab)

theorem mem_leaves_iff (h : tree.HasDistinctNames) {leaf : FileTree} :
    (place, leaf) ∈ leaves tree ↔
      tree.find? place = some leaf ∧ ∀ entries, leaf ≠ .directory entries := by
  induction h generalizing place with
  | file _ | unreadable _ | unlistable _ =>
    rw [leaves, List.mem_singleton, Prod.mk.injEq]
    cases place with
    | nil =>
      rw [FileTree.find?, Option.some_inj]
      constructor
      · rintro ⟨-, rfl⟩
        exact ⟨rfl, fun _ => nofun⟩
      · rintro ⟨rfl, -⟩
        exact ⟨rfl, rfl⟩
    | cons name rest => simp [FileTree.find?]
  | @directory entries hnodup _ ih =>
    simp only [leaves_directory, List.mem_flatMap, List.mem_map, mem_byName, Prod.mk.injEq]
    cases place with
    | nil =>
      rw [FileTree.find?, Option.some_inj]
      constructor
      · rintro ⟨_, _, _, _, hnil, _⟩
        cases hnil
      · rintro ⟨rfl, hleaf⟩
        exact absurd rfl (hleaf entries)
    | cons name rest =>
      rw [FileTree.find?_directory_cons, Option.bind_eq_some_iff]
      constructor
      · rintro ⟨e, he, below, hbelow, heq, rfl⟩
        cases heq
        obtain ⟨hfound, hleaf⟩ := (ih e he).1 hbelow
        exact ⟨⟨e.2, (FileTree.child?_eq_some_iff hnodup).2 he, hfound⟩, hleaf⟩
      · rintro ⟨⟨t, ht, hfound⟩, hleaf⟩
        have he := (FileTree.child?_eq_some_iff hnodup).1 ht
        exact ⟨(name, t), he, (rest, leaf), (ih _ he).2 ⟨hfound, hleaf⟩, rfl, rfl⟩

/-! ## Listings -/

section Listings

variable {β : Type} {f : String → FileTree → Option β} {found more : List (List String × β)}

theorem IsListing.unique (h : IsListing f path tree found) (h' : IsListing f path tree more) :
    found = more :=
  Lists.eq_of_ascending_keys h.sorted h'.sorted fun x =>
    (h.mem_iff x.1 x.2).trans (h'.mem_iff x.1 x.2).symm

variable (hf : ∀ path entries, f path (.directory entries) = none)
include hf

theorem readAt?_congr
    (h : (tree.find? place).map FileTree.bare = (other.find? place).map FileTree.bare) :
    readAt? f path tree place = readAt? f path other place := by
  have hbare : ∀ (p : String) (t : FileTree), f p t.bare = f p t := by
    intro p t
    cases t with
    | directory entries => exact (hf p []).trans (hf p entries).symm
    | file _ | unreadable _ | unlistable _ => rfl
  have hread : ∀ t : FileTree, readAt? f path t place =
      ((t.find? place).map FileTree.bare).bind (f (pathOf path place)) := by
    intro t
    rw [readAt?, Option.bind_map]
    exact congrArg _ (funext fun u => (hbare _ u).symm)
  rw [hread, hread, h]

theorem isListing_listing (h : tree.HasDistinctNames) (path : String) :
    IsListing f path tree (listing f path tree) where
  sorted := by
    rw [listing, List.pairwise_filterMap]
    refine (pairwise_leaves h).imp fun {a b} hab x hx y hy => ?_
    rw [Option.map_eq_some_iff] at hx hy
    obtain ⟨_, _, rfl⟩ := hx
    obtain ⟨_, _, rfl⟩ := hy
    exact hab
  mem_iff place x := by
    rw [listing, List.mem_filterMap, readAt?, Option.bind_eq_some_iff]
    constructor
    · rintro ⟨leaf, hleaf, hx⟩
      rw [Option.map_eq_some_iff] at hx
      obtain ⟨_, hx, heq⟩ := hx
      cases heq
      exact ⟨leaf.2, ((mem_leaves_iff h).1 hleaf).1, hx⟩
    · rintro ⟨t, ht, hx⟩
      refine ⟨(place, t), (mem_leaves_iff h).2 ⟨ht, ?_⟩, by rw [hx]; rfl⟩
      rintro entries rfl
      cases (hf _ entries).symm.trans hx

/-- Only what is found at which place matters for a listing. -/
theorem listing_congr (h : tree.HasDistinctNames) (h' : other.HasDistinctNames)
    (hsame : ∀ place, readAt? f path tree place = readAt? f path other place) :
    listing f path tree = listing f path other := by
  have hlisting := isListing_listing hf h path
  refine IsListing.unique ⟨hlisting.sorted, fun place x => ?_⟩ (isListing_listing hf h' path)
  rw [hlisting.mem_iff, hsame]

end Listings

theorem suiteIn?_directory (path : String) (entries : List (String × FileTree)) :
    suiteIn? path (.directory entries) = none := rfl

theorem faultIn?_directory (path : String) (entries : List (String × FileTree)) :
    faultIn? path (.directory entries) = none := rfl

/-! ## Loading -/

theorem gather_append (xs ys : List (Except SuiteError (List Suite))) :
    gather (xs ++ ys) = do return (← gather xs) ++ (← gather ys) := by
  induction xs with
  | nil =>
    rw [List.nil_append, gather]
    cases gather ys <;> rfl
  | cons x xs ih =>
    rw [List.cons_append, gather, gather, ih]
    cases x with
    | error error => rfl
    | ok suites =>
      cases gather xs with
      | error error => rfl
      | ok more =>
        cases gather ys with
        | error error => rfl
        | ok rest => exact congrArg Except.ok (List.append_assoc suites more rest).symm

theorem gather_singleton (x : Except SuiteError (List Suite)) : gather [x] = x := by
  cases x with
  | error error => rfl
  | ok suites => exact congrArg Except.ok (List.append_nil suites)

theorem gather_flatMap {α : Type} (f : α → List (Except SuiteError (List Suite))) (xs : List α) :
    gather (xs.flatMap f) = gather (xs.map fun x => gather (f x)) := by
  induction xs with
  | nil => rfl
  | cons x xs ih => rw [List.flatMap_cons, gather_append, ih, List.map_cons, gather]

/-- There is an error, or all suites are found. -/
theorem gather_map_elim {α : Type} (fault : α → Option SuiteError) (suite : α → Option Suite)
    (xs : List α) :
    gather (xs.map fun x => (fault x).elim (.ok (suite x).toList) .error) =
      (xs.filterMap fault).head?.elim (.ok (xs.filterMap suite)) .error := by
  induction xs with
  | nil => rfl
  | cons x xs ih =>
    rw [List.map_cons, gather, ih, List.filterMap_cons, List.filterMap_cons]
    cases fault x with
    | some error => rfl
    | none =>
      dsimp only
      cases (xs.filterMap fault).head? with
      | some error => rfl
      | none => cases suite x <;> rfl

/-- What is loaded from a tree is what is loaded from each of its leaves. -/
theorem allOf_eq_gather_leaves (h : tree.HasDistinctNames) (path : String) :
    allOf path tree = gather ((leaves tree).map fun leaf =>
      (faultIn? (pathOf path leaf.1) leaf.2).elim
        (.ok (suiteIn? (pathOf path leaf.1) leaf.2).toList) .error) := by
  induction h generalizing path with
  | file content =>
    rw [leaves, List.map_singleton, gather_singleton, allOf]
    dsimp only [pathOf, List.foldl_nil, faultIn?, suiteIn?, Option.elim_none]
    split
    next => cases parse path content <;> rfl
    next => rfl
  | unreadable fault => rfl
  | unlistable fault => rfl
  | directory hnodup _ ih =>
    rw [allOf_directory, leaves_directory, List.map_flatMap, gather_flatMap]
    -- Below an entry, paths begin with the path of the entry.
    refine congrArg gather (List.map_congr_left fun e he => ?_)
    rw [ih e (mem_byName.1 he), List.map_map]
    rfl

theorem allOf_eq (h : tree.HasDistinctNames) (path : String) :
    allOf path tree = ((listing faultIn? path tree).map Prod.snd).head?.elim
      (.ok ((listing suiteIn? path tree).map Prod.snd)) .error := by
  have hread : ∀ {β : Type} (f : String → FileTree → Option β), (listing f path tree).map Prod.snd =
      (leaves tree).filterMap fun leaf => f (pathOf path leaf.1) leaf.2 := by
    intro β f
    rw [listing, List.map_filterMap]
    simp
  rw [allOf_eq_gather_leaves h, gather_map_elim, hread, hread]

theorem listing_faults_eq_nil_iff (h : tree.HasDistinctNames) (path : String) :
    listing faultIn? path tree = [] ↔
      ∀ place fault, tree.find? place ≠ some (.unlistable fault) := by
  have hlisting := isListing_listing faultIn?_directory h path
  rw [List.eq_nil_iff_forall_not_mem]
  constructor
  · intro hnone place fault hfound
    refine hnone (place, .unlistable (pathOf path place) fault) ((hlisting.mem_iff _ _).2 ?_)
    rw [readAt?, hfound]
    rfl
  · rintro hlisted ⟨place, error⟩ hmem
    rw [hlisting.mem_iff, readAt?, Option.bind_eq_some_iff] at hmem
    obtain ⟨t, ht, herror⟩ := hmem
    cases t with
    | unlistable fault => exact hlisted place fault ht
    | file _ | unreadable _ | directory _ => cases herror

theorem loadDirectory_some (path : String) (tree : FileTree) : loadDirectory path (some tree) =
    if tree.kind = .directory then allOf path tree else .error (.notDirectory path) := rfl

theorem loadDirectory_eq_ok_iff (h : tree.HasDistinctNames) {suites : List Suite} :
    loadDirectory path (some tree) = .ok suites ↔
      tree.IsListable ∧ (listing suiteIn? path tree).map Prod.snd = suites := by
  rw [loadDirectory_some, FileTree.isListable_iff, ← listing_faults_eq_nil_iff h path]
  split
  next hkind =>
    rw [allOf_eq h]
    cases listing faultIn? path tree with
    | nil => simp [hkind]
    | cons error rest => simp
  next hkind => simp [hkind]

theorem exists_loadDirectory_eq_error_iff (h : tree.HasDistinctNames) :
    (∃ error, loadDirectory path (some tree) = .error error) ↔ ¬tree.IsListable := by
  constructor
  · rintro ⟨error, herror⟩ hlistable
    cases herror.symm.trans ((loadDirectory_eq_ok_iff h).2 ⟨hlistable, rfl⟩)
  · intro hnot
    cases hload : loadDirectory path (some tree) with
    | error error => exact ⟨error, rfl⟩
    | ok suites => exact absurd ((loadDirectory_eq_ok_iff h).1 hload).1 hnot

/-- Of two trees with the same errors, only the suites can make a difference. -/
theorem loadDirectory_eq_of_listings (h : tree.HasDistinctNames) (h' : other.HasDistinctNames)
    (hkind : tree.kind = other.kind)
    (hfaults : listing faultIn? path tree = listing faultIn? path other) :
    loadDirectory path (some other) = (loadDirectory path (some tree)).map fun _ =>
      (listing suiteIn? path other).map Prod.snd := by
  rw [loadDirectory_some, loadDirectory_some, hkind]
  split
  next =>
    rw [allOf_eq h, allOf_eq h', hfaults]
    cases ((listing faultIn? path other).map Prod.snd).head? <;> rfl
  next => rfl

/-! ## Trees that differ in their order or in a file -/

theorem loadDirectory_relisted (h : tree.HasDistinctNames) (hrelisted : tree.Relisted other) :
    loadDirectory path (some other) = loadDirectory path (some tree) := by
  have h' := hrelisted.hasDistinctNames h
  have hsame : ∀ {β : Type} {f : String → FileTree → Option β},
      (∀ path entries, f path (.directory entries) = none) →
      listing f path tree = listing f path other := fun hf =>
    listing_congr hf h h' fun place => readAt?_congr hf (hrelisted.map_bare_find? h place)
  rw [loadDirectory_some, loadDirectory_some, allOf_eq h, allOf_eq h', hrelisted.kind_eq h,
    hsame suiteIn?_directory, hsame faultIn?_directory]

section Isolation

variable (hdiffer : FileTree.DifferInFile place tree other)
include hdiffer

theorem listing_faults_of_differInFile (h : tree.HasDistinctNames) (h' : other.HasDistinctNames) :
    listing faultIn? path tree = listing faultIn? path other := by
  have hnone : ∀ t : FileTree, (∀ file ∈ t.find? place, file.kind = .file) →
      readAt? faultIn? path t place = none := by
    intro t hfile
    rw [readAt?, Option.bind_eq_none_iff]
    intro file hfound
    have hkind := hfile file hfound
    cases file with
    | unlistable fault => cases hkind
    | file _ | unreadable _ | directory _ => rfl
  refine listing_congr faultIn?_directory h h' fun p => ?_
  by_cases hp : p = place
  · rw [hp, hnone tree hdiffer.isFile, hnone other hdiffer.isFile_other]
  · exact readAt?_congr faultIn?_directory (hdiffer.elsewhere p hp)

/-- What stays of a listing of suites if the file at a place holds none any more. -/
theorem IsListing.without {found : List (List String × Suite)}
    (hbad : readAt? suiteIn? path other place = none)
    (hfound : IsListing suiteIn? path tree found) :
    IsListing suiteIn? path other (found.filter fun entry => entry.1 ≠ place) where
  sorted := hfound.sorted.filter _
  mem_iff p suite := by
    rw [List.mem_filter, decide_eq_true_iff, hfound.mem_iff]
    by_cases hp : p = place
    · simp [hp, hbad]
    · rw [readAt?_congr suiteIn?_directory (hdiffer.elsewhere p hp)]
      exact and_iff_left hp

theorem loadDirectory_of_differInFile (h : tree.HasDistinctNames) (h' : other.HasDistinctNames)
    (hbad : readAt? suiteIn? path other place = none) {found : List (List String × Suite)}
    (hfound : IsListing suiteIn? path tree found) :
    loadDirectory path (some other) = (loadDirectory path (some tree)).map fun _ =>
      (found.filter fun entry => entry.1 ≠ place).map Prod.snd := by
  have hlisting := isListing_listing suiteIn?_directory h' path
  rw [loadDirectory_eq_of_listings h h' hdiffer.kind_eq
      (listing_faults_of_differInFile hdiffer h h'),
    hlisting.unique (hfound.without hdiffer hbad)]

/-- A file that holds no suite makes no difference. -/
theorem loadDirectory_of_differInFile_bad (h : tree.HasDistinctNames) (h' : other.HasDistinctNames)
    (hbad : readAt? suiteIn? path tree place = none)
    (hbad' : readAt? suiteIn? path other place = none) :
    loadDirectory path (some other) = loadDirectory path (some tree) := by
  have hlisting := isListing_listing suiteIn?_directory h path
  have hfilter : ((listing suiteIn? path tree).filter fun entry => entry.1 ≠ place) =
      listing suiteIn? path tree := by
    rw [List.filter_eq_self]
    rintro ⟨p, suite⟩ hmem
    rw [hlisting.mem_iff] at hmem
    refine decide_eq_true fun hp => ?_
    rw [← hp, hmem] at hbad
    cases hbad
  rw [loadDirectory_of_differInFile hdiffer h h' hbad' hlisting, hfilter]
  cases hload : loadDirectory path (some tree) with
  | error error => rfl
  | ok suites => exact congrArg Except.ok ((loadDirectory_eq_ok_iff h).1 hload).2

end Isolation

/-- All suites that can be loaded come in the order of their places, in whatever order directories
list their entries. A file that cannot be loaded makes no difference to the suites in other files,
whether it is added or removed or takes the place of another one. There is an error if and only if
there is no directory at the path, or one in it cannot be listed. -/
theorem directory_loading (path : String) {tree : FileTree} (hnames : tree.HasDistinctNames) :
    (∀ suites, loadDirectory path (some tree) = .ok suites ↔
      tree.IsListable ∧ ∃ found, IsListing suiteIn? path tree found ∧ found.map Prod.snd = suites) ∧
    (∀ other, tree.Relisted other →
      loadDirectory path (some other) = loadDirectory path (some tree)) ∧
    (∀ other place, other.HasDistinctNames → FileTree.DifferInFile place tree other →
      readAt? suiteIn? path other place = none →
      (readAt? suiteIn? path tree place = none →
        loadDirectory path (some other) = loadDirectory path (some tree)) ∧
      ∀ found, IsListing suiteIn? path tree found →
        loadDirectory path (some other) = (loadDirectory path (some tree)).map fun _ =>
          (found.filter fun entry => entry.1 ≠ place).map Prod.snd) ∧
    ((∃ error, loadDirectory path (some tree) = .error error) ↔
      tree.kind ≠ .directory ∨ ∃ place fault, tree.find? place = some (.unlistable fault)) ∧
    loadDirectory path none = .error (.notDirectory path) := by
  refine ⟨fun suites => ?_, fun other => loadDirectory_relisted hnames,
    fun other place hother hdiffer hbad => ⟨fun hbefore => ?_, fun found hfound => ?_⟩, ?_, rfl⟩
  · have hlisting := isListing_listing suiteIn?_directory hnames path
    rw [loadDirectory_eq_ok_iff hnames]
    refine and_congr_right fun _ => ⟨fun heq => ⟨_, hlisting, heq⟩, ?_⟩
    rintro ⟨found, hfound, rfl⟩
    rw [hlisting.unique hfound]
  · exact loadDirectory_of_differInFile_bad hdiffer hnames hother hbefore hbad
  · exact loadDirectory_of_differInFile hdiffer hnames hother hbad hfound
  · rw [exists_loadDirectory_eq_error_iff hnames, FileTree.isListable_iff, not_and_or]
    simp only [not_forall, not_not]

/-- A suite, and another one in a directory beside a file that holds none. -/
theorem directory_loading_broken_file :
    let a := FileTree.file "[suite]\nid = 'a'\nname = 'A'\n"
    let b := FileTree.file "\x7b\"suite\": \x7b\"id\": \"b\", \"name\": \"B\"\x7d\x7d"
    let nested := FileTree.directory [("b.json", b)]
    let mixed := FileTree.directory [("b.json", b), ("broken.toml", .file "[suite")]
    let tree := FileTree.directory [("a.toml", a), ("nested", mixed)]
    let relisted := FileTree.directory [("nested", mixed), ("a.toml", a)]
    let without := FileTree.directory [("a.toml", a), ("nested", nested)]
    tree.HasDistinctNames ∧
      loadDirectory "suites" (some relisted) = loadDirectory "suites" (some tree) ∧
      loadDirectory "suites" (some without) = loadDirectory "suites" (some tree) ∧
      (loadDirectory "suites" (some tree)).toOption.map (·.map Suite.id) = some ["a", "b"] := by
  intro a b nested mixed tree relisted without
  have hids : (gather [allOf "suites/a.toml" a,
      gather [allOf "suites/nested/b.json" b]]).toOption.map (·.map Suite.id) = some ["a", "b"] := by
    decide +kernel +revert
  have htop : byName [("a.toml", a), ("nested", nested)] = [("a.toml", a), ("nested", nested)] :=
    byName_of_sorted (by simp)
  have hbelow : byName [("b.json", b)] = [("b.json", b)] := byName_of_sorted (by simp)
  have hload : loadDirectory "suites" (some without) =
      gather [allOf "suites/a.toml" a, gather [allOf "suites/nested/b.json" b]] := by
    calc loadDirectory "suites" (some without)
        = gather [allOf "suites/a.toml" a, allOf "suites/nested" nested] :=
          (allOf_directory _ _).trans (by rw [htop]; rfl)
      _ = gather [allOf "suites/a.toml" a, gather [allOf "suites/nested/b.json" b]] := by
          rw [allOf_directory, hbelow]
          rfl
  have hmixed : mixed.HasDistinctNames := by
    refine .directory (by decide) ?_
    simp [b, FileTree.HasDistinctNames.file]
  have hnested : nested.HasDistinctNames :=
    .directory (by decide) (List.forall_mem_singleton.2 (.file _))
  have hnames : tree.HasDistinctNames := by
    refine .directory (by decide) ?_
    simp [hmixed, a, FileTree.HasDistinctNames.file]
  have hwithout : without.HasDistinctNames := by
    refine .directory (by decide) ?_
    simp [hnested, a, FileTree.HasDistinctNames.file]
  have hremoved : FileTree.DifferInFile ["nested", "broken.toml"] tree without :=
    .inside [("a.toml", a)] [] (.removed [("b.json", b)] [] rfl (by decide) (by decide)) (by decide)
  obtain ⟨-, hrelisted, hisolated, -⟩ := directory_loading "suites" hnames
  have hother := (hisolated without _ hwithout hremoved rfl).1 (by decide +kernel)
  refine ⟨hnames, hrelisted relisted (.reorder (List.reverse_perm _).symm), hother, ?_⟩
  rw [← hother, hload, hids]

end SubmissionGrader.Suite
