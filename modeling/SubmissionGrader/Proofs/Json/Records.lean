import SubmissionGrader.Json.Record
import SubmissionGrader.Proofs.Json.Reading
import SubmissionGrader.Proofs.Lists

/-!
# Reading a record that was written

A record is written as an object with a member for each field that has a value. Where no field is
written under a name that belongs to another one, every field finds its own value among the members
(`fields?_writtenObject`), and nothing is found for the fields that were left out. What a decoder of
the fields makes of the values is said field by field (`Fields.Reads`).
-/

namespace SubmissionGrader.Json

/-! ## Fields among members -/

/-- A field of a record that is written: the names it is read under, the name it is written under,
and its value, if it has one. -/
structure Slot where
  spellings : List String
  key : String
  value : Option Json

namespace Slot

def named (field : String × Option Json) : Slot := ⟨[field.1], field.1, field.2⟩

def members (s : Slot) : List (String × Json) := s.value.toList.map fun value => (s.key, value)

def found (s : Slot) : Option Raw := s.value.map toRaw

/-- Each field is read under the name it is written under, and no other field is. -/
def Apart (slots : List Slot) : Prop :=
  (∀ s ∈ slots, s.key ∈ s.spellings) ∧
    slots.Pairwise fun s t => s.key ∉ t.spellings ∧ t.key ∉ s.spellings

theorem apart_named {fields : List (String × Option Json)} (h : (fields.map Prod.fst).Nodup) :
    Apart (fields.map named) := by
  refine ⟨fun s hs => ?_, ?_⟩
  · obtain ⟨field, -, rfl⟩ := List.mem_map.1 hs
    simp [named]
  · rw [List.pairwise_map]
    refine (List.pairwise_map.1 h).imp fun hne => ?_
    simp [named, hne, Ne.symm hne]

end Slot

theorem keyed?_rawMembers (members : List (String × Json)) :
    Raw.keyed? (rawMembers members) =
      some (members.map fun (key, value) => (key, toRaw value)) := by
  induction members with
  | nil => rfl
  | cons member members ih =>
    obtain ⟨key, value⟩ := member
    rw [Raw.keyed?] at ih ⊢
    simp [rawMembers, assemble?_map_ofChar, ih]

/-- The keys of what is written of some fields are the names of these fields. -/
theorem filter_members_eq_nil {slots : List Slot} {spellings : List String}
    (h : ∀ s ∈ slots, s.key ∉ spellings) :
    ((slots.flatMap Slot.members).map fun (key, value) => (key, toRaw value)).filter
      (fun member => spellings.contains member.1) = [] := by
  rw [List.filter_eq_nil_iff]
  intro member hmember
  obtain ⟨written, hwritten, rfl⟩ := List.mem_map.1 hmember
  obtain ⟨s, hs, hmem⟩ := List.mem_flatMap.1 hwritten
  obtain ⟨value, -, rfl⟩ := List.mem_map.1 hmem
  simpa using h s hs

/-- A field finds its value among the members of its record. -/
theorem field?_members {slots : List Slot} (h : Slot.Apart slots) {s : Slot} (hs : s ∈ slots) :
    Raw.field? ((slots.flatMap Slot.members).map fun (key, value) => (key, toRaw value))
      s.spellings = some s.found := by
  obtain ⟨before, after, rfl⟩ := List.append_of_mem hs
  obtain ⟨hkeys, hapart⟩ := h
  have hbefore : ∀ t ∈ before, t.key ∉ s.spellings := fun t ht =>
    ((List.pairwise_append.1 hapart).2.2 t ht s (by simp)).1
  have hafter : ∀ t ∈ after, t.key ∉ s.spellings := fun t ht =>
    ((List.pairwise_cons.1 (List.pairwise_append.1 hapart).2.1).1 t ht).2
  have hown := hkeys s (by simp)
  rw [Raw.field?, List.flatMap_append, List.flatMap_cons, List.map_append, List.map_append,
    List.filter_append, List.filter_append, filter_members_eq_nil hbefore,
    filter_members_eq_nil hafter, List.nil_append, List.append_nil]
  cases hvalue : s.value with
  | none => simp [Slot.members, Slot.found, hvalue]
  | some value => simp [Slot.members, Slot.found, hvalue, hown]

/-- Every field of a record finds its value in the object that was written. -/
theorem fields?_writtenObject {slots : List Slot} (h : Slot.Apart slots) (surplus : Surplus) :
    Raw.fields? surplus (slots.map Slot.spellings) (toRaw (object (slots.flatMap Slot.members))) =
      some (slots.map Slot.found) := by
  have hfields : (slots.map Slot.spellings).mapM
      (Raw.field? ((slots.flatMap Slot.members).map fun (key, value) => (key, toRaw value))) =
        some (slots.map Slot.found) := by
    rw [List.mapM_map]
    exact Lists.mapM_eq_some_map fun s hs => field?_members h hs
  rw [toRaw, Raw.fields?, keyed?_rawMembers]
  exact hfields

theorem readableItems_iff {items : List Json} :
    ReadableItems items ↔ ∀ item ∈ items, Readable item := by
  induction items with
  | nil => simp [ReadableItems]
  | cons item items ih => simp [ReadableItems, ih]

theorem readableMembers_iff {members : List (String × Json)} :
    ReadableMembers members ↔ ∀ member ∈ members, Readable member.2 := by
  induction members with
  | nil => simp [ReadableMembers]
  | cons member members ih => simp [ReadableMembers, ih]

/-- A record can be read if the values of its fields can. -/
theorem readable_writtenObject {slots : List Slot}
    (h : ∀ s ∈ slots, ∀ value ∈ s.value, Readable value) :
    Readable (object (slots.flatMap Slot.members)) := by
  rw [Readable, readableMembers_iff]
  intro member hmember
  obtain ⟨s, hs, hmem⟩ := List.mem_flatMap.1 hmember
  obtain ⟨value, hvalue, rfl⟩ := List.mem_map.1 hmem
  exact h s hs value (Option.mem_toList.1 hvalue)

theorem readable_strings (items : List String) : Readable (strings items) := by
  rw [strings, Readable, readableItems_iff]
  intro item hitem
  obtain ⟨s, -, rfl⟩ := List.mem_map.1 hitem
  trivial

/-! ## Decoding field by field -/

theorem text?_toRaw_string (s : String) : Raw.text? (toRaw (string s)) = some s := by
  rw [toRaw, Raw.text?, assemble?_map_ofChar, Option.map_some, String.ofList_toList]

theorem rawItems_eq_map (items : List Json) : rawItems items = items.map toRaw := by
  induction items with
  | nil => rfl
  | cons item items ih => rw [rawItems, ih, List.map_cons]

theorem listOf?_toRaw_strings (items : List String) :
    Raw.listOf? Raw.text? (toRaw (strings items)) = some items := by
  have hitems : items.mapM (Raw.text? ∘ toRaw ∘ string) = some (items.map id) :=
    Lists.mapM_eq_some_map fun s _ => text?_toRaw_string s
  rw [strings, toRaw, rawItems_eq_map, List.map_map, Raw.listOf?, List.mapM_map, hitems,
    List.map_id]

theorem orNull?_of_ne_null {α : Type} (decode? : Raw → Option α) {raw : Raw} (h : raw ≠ .null) :
    Raw.orNull? decode? raw = (decode? raw).map some := by
  cases raw with
  | null => exact absurd rfl h
  | _ => rfl

namespace Fields

variable {α β : Type}

/-- The decoder of a field makes a value of what is found for it, and leaves the fields behind. -/
def Reads (f : Fields α) (found : Option Raw) (a : α) : Prop :=
  ∀ rest, f (found :: rest) = some (a, rest)

theorem Reads.bind {f : Fields α} {found : Option Raw} {a : α} (h : f.Reads found a)
    (g : α → Fields β) (rest : List (Option Raw)) : (f >>= g) (found :: rest) = g a rest := by
  change (f (found :: rest) >>= fun p => g p.1 p.2) = g a rest
  rw [h rest]
  rfl

section Decoders

variable {decode? : Raw → Option α} {raw : Raw} {a : α}

theorem reads_required (h : decode? raw = some a) : (required decode?).Reads (some raw) a := by
  intro rest
  simp [required, h]

theorem reads_withDefault (default : α) (h : decode? raw = some a) :
    (withDefault default decode?).Reads (some raw) a := by
  intro rest
  simp [withDefault, h]

theorem reads_optional_none : (optional decode?).Reads none none := fun _ => rfl

theorem reads_optional_null : (optional decode?).Reads (some .null) none := fun _ => rfl

theorem reads_optional_some (hnull : raw ≠ .null) (h : decode? raw = some a) :
    (optional decode?).Reads (some raw) (some a) :=
  reads_withDefault none (by rw [orNull?_of_ne_null decode? hnull, h, Option.map_some])

end Decoders

/-- A field that is left out where it has no value is read back. -/
theorem reads_optional_map {decode? : Raw → Option α} {encode : α → Json}
    (hnull : ∀ a, toRaw (encode a) ≠ .null) (h : ∀ a, decode? (toRaw (encode a)) = some a)
    (value : Option α) : (optional decode?).Reads ((value.map encode).map toRaw) value := by
  cases value with
  | none => exact reads_optional_none
  | some a => exact reads_optional_some (hnull a) (h a)

theorem reads_optional_string (value : Option String) :
    (optional Raw.text?).Reads ((value.map string).map toRaw) value :=
  reads_optional_map (fun s => by simp [toRaw]) text?_toRaw_string value

theorem bind_eq_some_iff {f : Fields α} {g : α → Fields β} {found rest : List (Option Raw)}
    {b : β} :
    (f >>= g) found = some (b, rest) ↔
      ∃ a behind, f found = some (a, behind) ∧ g a behind = some (b, rest) := by
  change (f found >>= fun p => g p.1 p.2) = _ ↔ _
  rw [Option.bind_eq_bind, Option.bind_eq_some_iff]
  constructor
  · rintro ⟨⟨a, behind⟩, hf, hg⟩
    exact ⟨a, behind, hf, hg⟩
  · rintro ⟨a, behind, hf, hg⟩
    exact ⟨(a, behind), hf, hg⟩

theorem required_eq_some_iff {decode? : Raw → Option α} {found : Option Raw}
    {rest behind : List (Option Raw)} {a : α} :
    required decode? (found :: rest) = some (a, behind) ↔
      ∃ raw, found = some raw ∧ decode? raw = some a ∧ behind = rest := by
  cases found with
  | none => simp [required]
  | some raw =>
    rw [required, Option.map_eq_some_iff]
    constructor
    · rintro ⟨b, hb, heq⟩
      cases heq
      exact ⟨raw, rfl, hb, rfl⟩
    · rintro ⟨_, heq, hb, rfl⟩
      cases heq
      exact ⟨a, hb, rfl⟩

/-- A value of a field that may be missing comes from what is found for it. -/
theorem exists_of_optional_eq_some {decode? : Raw → Option α} {found rest : List (Option Raw)}
    {a : α} (h : optional decode? found = some (some a, rest)) : ∃ raw, decode? raw = some a := by
  rcases found with _ | ⟨_ | raw, found⟩
  · cases h
  · cases h
  · obtain ⟨value, hvalue, heq⟩ := Option.map_eq_some_iff.1 h
    cases heq
    cases hraw : raw with
    | null =>
      rw [hraw] at hvalue
      cases hvalue
    | _ =>
      rw [orNull?_of_ne_null decode? (by simp [hraw]), Option.map_eq_some_iff] at hvalue
      obtain ⟨b, hb, heq⟩ := hvalue
      cases heq
      exact ⟨raw, hb⟩

/-- A record that was written is decoded from the values of its fields. -/
theorem run?_writtenObject {slots : List Slot} (hapart : Slot.Apart slots) {f : Fields α} {a : α}
    {rest : List (Option Raw)} (h : f (slots.map Slot.found) = some (a, rest)) (surplus : Surplus) :
    f.run? surplus (slots.map Slot.spellings) (toRaw (object (slots.flatMap Slot.members))) =
      some a := by
  rw [run?, fields?_writtenObject hapart]
  change (f (slots.map Slot.found) >>= fun p => some p.1) = _
  rw [h]
  rfl

end Fields

end SubmissionGrader.Json
