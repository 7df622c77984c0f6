import SubmissionGrader.Json.Basic
import SubmissionGrader.Json.Record
import Mathlib.Data.List.Forall2

/-!
# Members of an object that is read

Two decoders go over the members of an object. The one of values keeps, of several members with a
key, the last (`member?_object_lastMembers_iff`), and the one of records wants every field at most
once. Where both succeed they find the same keys, so a field that is given once has the value of the
member with its name (`ofRaw?_of_field?`).
-/

namespace SubmissionGrader.Json

/-- Of the members with a key the last one is kept. -/
theorem find?_lastMembers (key : String) (members : List (String × Json)) :
    (lastMembers members).find? (·.1 == key) = members.reverse.find? (·.1 == key) := by
  induction members with
  | nil => rfl
  | cons member rest ih =>
    have hfold : lastMembers (member :: rest) =
        if (lastMembers rest).any (·.1 == member.1) then lastMembers rest
        else member :: lastMembers rest := rfl
    rw [hfold, List.reverse_cons, List.find?_append, ← ih]
    by_cases hkey : member.1 = key
    · subst hkey
      have hany : (lastMembers rest).any (·.1 == member.1) =
          ((lastMembers rest).find? (·.1 == member.1)).isSome := by
        rw [Bool.eq_iff_iff, List.any_eq_true, List.find?_isSome]
      rw [hany]
      cases hlast : (lastMembers rest).find? (·.1 == member.1) with
      | none => simp
      | some last => rw [Option.isSome_some, if_pos rfl, hlast, Option.some_or]
    · have hne : ¬(member.1 == key) = true := by simpa using hkey
      have hcons : ∀ ms : List (String × Json),
          (member :: ms).find? (·.1 == key) = ms.find? (·.1 == key) :=
        fun ms => List.find?_cons_of_neg hne
      rw [hcons [], List.find?_nil, Option.or_none]
      split
      next => rfl
      next => exact hcons _

def members? (text : String) : Option (List (String × Json)) :=
  match Raw.read? text with
  | some (.object members) => membersOfRaw? (maxLevels - 1) members
  | _ => none

theorem ofText?_of_members? {text : String} {members : List (String × Json)}
    (h : members? text = some members) : ofText? text = some (.object (lastMembers members)) := by
  rw [members?] at h
  split at h
  next raw hraw =>
    rw [ofText?, hraw, Option.bind_eq_bind, Option.bind_some, maxLevels, ofRaw?]
    rw [maxLevels] at h
    exact congrArg _ h
  next => cases h

/-- Only objects have members, and the members of an object are those of its text. -/
theorem exists_members?_of_member? {text key : String} {value found : Json}
    (h : ofText? text = some value) (hfound : value.member? key = some found) :
    ∃ members, members? text = some members ∧ value = .object (lastMembers members) := by
  obtain ⟨raw, hraw, hvalue⟩ := Option.bind_eq_some_iff.1 h
  cases raw with
  | object raw =>
    obtain ⟨members, hmembers, rfl⟩ := Option.map_eq_some_iff.1 hvalue
    exact ⟨members, by rw [members?, hraw]; exact hmembers, rfl⟩
  | array items =>
    obtain ⟨items, -, rfl⟩ := Option.map_eq_some_iff.1 hvalue
    cases hfound
  | string pieces =>
    rw [ofRaw?] at hvalue
    obtain ⟨cs, -, rfl⟩ := Option.map_eq_some_iff.1 hvalue
    cases hfound
  | number digits =>
    rw [ofRaw?] at hvalue
    split at hvalue
    next =>
      cases hvalue
      cases hfound
    next => cases hvalue
  | null =>
    cases hvalue
    cases hfound
  | boolean b =>
    cases hvalue
    cases hfound

/-- A member of an object is the last one with its key. -/
theorem member?_object_lastMembers_iff {members : List (String × Json)} {key : String}
    {value : Json} : (object (lastMembers members)).member? key = some value ↔
      ∃ before after, members = before ++ (key, value) :: after ∧ ∀ m ∈ after, m.1 ≠ key := by
  rw [member?, find?_lastMembers, Option.map_eq_some_iff]
  simp only [List.find?_eq_some_iff_append]
  constructor
  · rintro ⟨⟨found, value⟩, ⟨hkey, after, before, hmembers, hafter⟩, rfl⟩
    obtain rfl : found = key := by simpa using hkey
    refine ⟨before.reverse, after.reverse, ?_, by simpa using hafter⟩
    rw [← List.reverse_reverse members, hmembers]
    simp
  · rintro ⟨before, after, rfl, hafter⟩
    refine ⟨(key, value), ⟨by simp, after.reverse, before.reverse, by simp, ?_⟩, rfl⟩
    simpa using hafter

theorem keyed?_cons_eq_some_iff {key : List Piece} {value : Raw} {raw : List (List Piece × Raw)}
    {keyed : List (String × Raw)} : Raw.keyed? ((key, value) :: raw) = some keyed ↔
      ∃ cs rest, assemble? key = some cs ∧ Raw.keyed? raw = some rest ∧
        keyed = (String.ofList cs, value) :: rest := by
  simp only [Raw.keyed?, List.mapM_cons, Option.bind_eq_bind, Option.bind_eq_some_iff,
    Option.map_eq_some_iff, Option.pure_def, Option.some.injEq]
  constructor
  · rintro ⟨member, ⟨cs, hcs, rfl⟩, rest, hrest, rfl⟩
    exact ⟨cs, rest, hcs, hrest, rfl⟩
  · rintro ⟨cs, rest, hcs, hrest, rfl⟩
    exact ⟨_, ⟨cs, hcs, rfl⟩, rest, hrest, rfl⟩

theorem membersOfRaw?_cons_eq_some_iff {levels : Nat} {key : List Piece} {value : Raw}
    {raw : List (List Piece × Raw)} {members : List (String × Json)} :
    membersOfRaw? levels ((key, value) :: raw) = some members ↔
      ∃ cs v rest, assemble? key = some cs ∧ ofRaw? levels value = some v ∧
        membersOfRaw? levels raw = some rest ∧ members = (String.ofList cs, v) :: rest := by
  simp only [membersOfRaw?, Option.bind_eq_bind, Option.bind_eq_some_iff, Option.pure_def,
    Option.some.injEq]
  constructor
  · rintro ⟨cs, hcs, v, hv, rest, hrest, rfl⟩
    exact ⟨cs, v, rest, hcs, hv, hrest, rfl⟩
  · rintro ⟨cs, v, rest, hcs, hv, hrest, rfl⟩
    exact ⟨cs, hcs, v, hv, rest, hrest, rfl⟩

/-- The decoders of records and of values find the same keys, and the values go with one another. -/
theorem forall₂_members {levels : Nat} {raw : List (List Piece × Raw)}
    {keyed : List (String × Raw)} {members : List (String × Json)}
    (hkeyed : Raw.keyed? raw = some keyed) (hmembers : membersOfRaw? levels raw = some members) :
    List.Forall₂ (fun k m => k.1 = m.1 ∧ ofRaw? levels k.2 = some m.2) keyed members := by
  induction raw generalizing keyed members with
  | nil =>
    cases hkeyed
    cases hmembers
    exact .nil
  | cons member raw ih =>
    obtain ⟨key, value⟩ := member
    obtain ⟨cs, keyedRest, hcs, hkeyedRest, rfl⟩ := keyed?_cons_eq_some_iff.1 hkeyed
    obtain ⟨cs', v, rest, hcs', hv, hrest, rfl⟩ := membersOfRaw?_cons_eq_some_iff.1 hmembers
    cases hcs.symm.trans hcs'
    exact .cons ⟨rfl, hv⟩ (ih hkeyedRest hrest)

/-- A field that is given once has the value of every member with its name. -/
theorem ofRaw?_of_field? {levels : Nat} {raw : List (List Piece × Raw)}
    {keyed : List (String × Raw)} {members : List (String × Json)} {name : String} {value : Raw}
    {found : Json} (hkeyed : Raw.keyed? raw = some keyed)
    (hmembers : membersOfRaw? levels raw = some members)
    (hfield : Raw.field? keyed [name] = some (some value)) (hfound : (name, found) ∈ members) :
    ofRaw? levels value = some found := by
  have hfiltered := List.rel_filter (p := fun k => [name].contains k.1) (q := fun m => m.1 == name)
    (by
      rintro k m ⟨hkey, -⟩
      simp [hkey]) (forall₂_members hkeyed hmembers)
  rw [Raw.field?] at hfield
  split at hfield
  next => cases hfield
  next member hfilter =>
    cases hfield
    rw [hfilter] at hfiltered
    obtain ⟨m, rest, ⟨-, hm⟩, hrest, heq⟩ := List.forall₂_cons_left_iff.1 hfiltered
    have hmem : (name, found) ∈ members.filter (·.1 == name) := by simp [hfound]
    rw [heq, List.forall₂_nil_left_iff.1 hrest, List.mem_singleton] at hmem
    rw [hm, ← hmem]
  next => cases hfield

theorem text?_eq_of_ofRaw? {levels : Nat} {raw : Raw} {s t : String}
    (hvalue : ofRaw? levels raw = some (.string s)) (htext : raw.text? = some t) : t = s := by
  cases raw with
  | string pieces =>
    rw [Raw.text?] at htext
    rw [ofRaw?] at hvalue
    obtain ⟨cs, hcs, rfl⟩ := Option.map_eq_some_iff.1 htext
    rw [hcs, Option.map_some, Option.some.injEq, Json.string.injEq] at hvalue
    exact hvalue
  | _ => cases htext

end SubmissionGrader.Json
