import SubmissionGrader.Files.Tree
import SubmissionGrader.Proofs.Lists

/-!
# Places in a tree of files

A place below a tree is a list of names, and `find?` is what is found there. The names of a
directory are distinct, so the order in which directories list their entries does not matter
(`Relisted.map_bare_find?`). A file that is removed leaves all other places as they are
(`DifferInFile`).
-/

namespace SubmissionGrader.FileTree

def find? : FileTree → List String → Option FileTree
  | tree, [] => some tree
  | directory entries, name :: rest => (child? name entries).bind (find? · rest)
  | file _, _ :: _ | unreadable _, _ :: _ | unlistable _, _ :: _ => none

/-- A tree without what a directory holds. -/
def bare : FileTree → FileTree
  | directory _ => directory []
  | tree => tree

inductive HasDistinctNames : FileTree → Prop where
  | file (content : String) : HasDistinctNames (file content)
  | unreadable (fault : FileFault) : HasDistinctNames (unreadable fault)
  | unlistable (fault : FileFault) : HasDistinctNames (unlistable fault)
  | directory {entries : List (String × FileTree)} :
      (entries.map Prod.fst).Nodup → (∀ entry ∈ entries, HasDistinctNames entry.2) →
      HasDistinctNames (directory entries)

/-- The same tree with the entries of directories in another order, at any depth. -/
inductive Relisted : FileTree → FileTree → Prop where
  | refl (tree : FileTree) : Relisted tree tree
  | trans {a b c : FileTree} : Relisted a b → Relisted b c → Relisted a c
  | reorder {entries others : List (String × FileTree)} :
      entries.Perm others → Relisted (directory entries) (directory others)
  | inside {a b : FileTree} (front back : List (String × FileTree)) (name : String) :
      Relisted a b →
      Relisted (directory (front ++ (name, a) :: back)) (directory (front ++ (name, b) :: back))

/-- Two trees that differ in the file at one place at most. There may be none in one of them. -/
structure DifferInFile (place : List String) (tree other : FileTree) : Prop where
  elsewhere : ∀ p, p ≠ place → (tree.find? p).map bare = (other.find? p).map bare
  isFile : ∀ t ∈ tree.find? place, t.kind = .file
  isFile_other : ∀ t ∈ other.find? place, t.kind = .file

/-- A directory in which all directories can be listed. -/
@[mk_iff]
structure IsListable (tree : FileTree) : Prop where
  kind_eq : tree.kind = .directory
  find?_ne : ∀ place fault, tree.find? place ≠ some (unlistable fault)

variable {tree other : FileTree} {entries others : List (String × FileTree)} {name : String}

theorem kind_bare (tree : FileTree) : tree.bare.kind = tree.kind := by cases tree <;> rfl

theorem child?_eq_some_iff (h : (entries.map Prod.fst).Nodup) :
    child? name entries = some tree ↔ (name, tree) ∈ entries := by
  rw [child?, Option.map_eq_some_iff]
  constructor
  · rintro ⟨entry, hentry, rfl⟩
    obtain ⟨hmem, rfl⟩ := (Lists.find?_key_eq_some_iff h).1 hentry
    exact hmem
  · intro hmem
    exact ⟨(name, tree), (Lists.find?_key_eq_some_iff h).2 ⟨hmem, rfl⟩, rfl⟩

theorem child?_perm (hperm : entries.Perm others) (h : (entries.map Prod.fst).Nodup)
    (name : String) : child? name entries = child? name others :=
  congrArg (Option.map Prod.snd) (Lists.find?_key_perm hperm h name)

theorem child?_append (front back : List (String × FileTree)) (name : String) :
    child? name (front ++ back) = (child? name front).or (child? name back) := by
  rw [child?, List.find?_append, Option.map_or, child?, child?]

theorem child?_cons (first : String) (tree : FileTree) (rest : List (String × FileTree))
    (name : String) :
    child? name ((first, tree) :: rest) = if first = name then some tree else child? name rest := by
  rw [child?, List.find?_cons]
  by_cases hname : first = name
  · simp [hname]
  · simp [hname, beq_false_of_ne hname, child?]

theorem child?_eq_none (h : name ∉ entries.map Prod.fst) : child? name entries = none := by
  rw [child?, Option.map_eq_none_iff, List.find?_eq_none]
  intro entry hentry hname
  exact h (List.mem_map.2 ⟨entry, hentry, beq_iff_eq.1 hname⟩)

theorem find?_directory_cons (entries : List (String × FileTree)) (name : String)
    (rest : List String) :
    (directory entries).find? (name :: rest) = (child? name entries).bind (find? · rest) := rfl

namespace Relisted

theorem hasDistinctNames (h : Relisted tree other) (hnames : tree.HasDistinctNames) :
    other.HasDistinctNames := by
  induction h with
  | refl tree => exact hnames
  | trans _ _ hab hbc => exact hbc (hab hnames)
  | reorder hperm =>
    cases hnames with
    | directory hnodup hbelow =>
      exact .directory ((hperm.map _).nodup_iff.1 hnodup) fun e he => hbelow e (hperm.mem_iff.2 he)
  | inside front back name _ ih =>
    cases hnames with
    | directory hnodup hbelow =>
      simp only [List.forall_mem_append, List.forall_mem_cons] at hbelow
      refine .directory (by simpa using hnodup) ?_
      simp only [List.forall_mem_append, List.forall_mem_cons]
      exact ⟨hbelow.1, ih hbelow.2.1, hbelow.2.2⟩

/-- The order of entries does not matter for what is found at a place. -/
theorem map_bare_find? (h : Relisted tree other) (hnames : tree.HasDistinctNames)
    (place : List String) : (tree.find? place).map bare = (other.find? place).map bare := by
  induction h generalizing place with
  | refl tree => rfl
  | trans hab _ hfirst hsecond =>
    exact (hfirst hnames place).trans (hsecond (hab.hasDistinctNames hnames) place)
  | reorder hperm =>
    cases hnames with
    | directory hnodup _ =>
      cases place with
      | nil => rfl
      | cons name rest => rw [find?_directory_cons, find?_directory_cons, child?_perm hperm hnodup]
  | @inside a b front back name _ ih =>
    cases hnames with
    | directory hnodup hbelow =>
      cases place with
      | nil => rfl
      | cons first rest =>
        have hinside := ih (hbelow (name, a) (by simp)) rest
        rw [find?_directory_cons, find?_directory_cons, child?_append, child?_append, child?_cons,
          child?_cons]
        cases child? first front with
        | some child => rfl
        | none =>
          rw [Option.none_or, Option.none_or]
          split
          next => exact hinside
          next => rfl

theorem kind_eq (h : Relisted tree other) (hnames : tree.HasDistinctNames) :
    tree.kind = other.kind := by
  have hbare := Option.some.inj (h.map_bare_find? hnames [])
  rw [← kind_bare tree, hbare, kind_bare]

end Relisted

namespace DifferInFile

theorem kind_eq {place : List String} (h : DifferInFile place tree other) :
    tree.kind = other.kind := by
  cases place with
  | nil => rw [h.isFile tree rfl, h.isFile_other other rfl]
  | cons name rest =>
    have hbare := Option.some.inj (h.elsewhere [] (by simp))
    rw [← kind_bare tree, hbare, kind_bare]

section Directories

variable {place : List String} {a b file : FileTree} (front back : List (String × FileTree))

/-- The trees before and after a file is removed from a directory. -/
theorem removed (hfile : file.kind = .file) (hfront : name ∉ front.map Prod.fst)
    (hback : name ∉ back.map Prod.fst) :
    DifferInFile [name] (directory (front ++ (name, file) :: back))
      (directory (front ++ back)) := by
  have hwith : child? name (front ++ (name, file) :: back) = some file := by
    rw [child?_append, child?_eq_none hfront, child?_cons, if_pos rfl, Option.none_or]
  have hwithout : child? name (front ++ back) = none := by
    rw [child?_append, child?_eq_none hfront, child?_eq_none hback, Option.none_or]
  refine ⟨fun p hp => ?_, ?_, ?_⟩
  · cases p with
    | nil => rfl
    | cons first rest =>
      rw [find?_directory_cons, find?_directory_cons]
      by_cases hname : name = first
      · subst hname
        rw [hwith, hwithout]
        -- There is nothing below a file.
        cases rest with
        | nil => exact absurd rfl hp
        | cons second rest => cases file <;> first | rfl | cases hfile
      · rw [child?_append, child?_append, child?_cons, if_neg hname]
  · rw [find?_directory_cons, hwith]
    rintro _ ⟨⟩
    exact hfile
  · rw [find?_directory_cons, hwithout]
    rintro _ ⟨⟩

/-- A difference in an entry of a directory is one in the directory. -/
theorem inside (h : DifferInFile place a b) (hfront : name ∉ front.map Prod.fst) :
    DifferInFile (name :: place) (directory (front ++ (name, a) :: back))
      (directory (front ++ (name, b) :: back)) := by
  have hfind : ∀ (t : FileTree) (p : List String),
      (directory (front ++ (name, t) :: back)).find? (name :: p) = t.find? p := by
    intro t p
    rw [find?_directory_cons, child?_append, child?_eq_none hfront, child?_cons, if_pos rfl]
    rfl
  refine ⟨fun p hp => ?_, ?_, ?_⟩
  · cases p with
    | nil => rfl
    | cons first rest =>
      by_cases hname : name = first
      · subst hname
        rw [hfind, hfind]
        exact h.elsewhere rest fun heq => hp (congrArg _ heq)
      · rw [find?_directory_cons, find?_directory_cons, child?_append, child?_append, child?_cons,
          child?_cons, if_neg hname, if_neg hname]
  · rw [hfind]
    exact h.isFile
  · rw [hfind]
    exact h.isFile_other

end Directories

end DifferInFile

end SubmissionGrader.FileTree
