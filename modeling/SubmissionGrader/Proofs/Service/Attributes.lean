import SubmissionGrader.Checker.Evaluation
import SubmissionGrader.Proofs.Checker.Names
import SubmissionGrader.Proofs.Service.Wire

/-!
# Attributes in responses

An attribute has one name in checkers and in responses. The object of a context has a member for
each attribute, in the order of their names, and the value of the member is that of the attribute
(`FeatureContext.writtenFields_eq`); only the message of a refused source is left out where there is
none. So a name in a checker denotes what a response shows under it (`Checker.Value.Shows`).
-/

namespace SubmissionGrader

open Json (Slot)

/-! ## Members of a record by their names -/

section Members

variable (names : List String) (value? : String → Option Json)

/-- The members of a record whose fields have the given names, where a field may have no value. -/
def namedMembers : List (String × Json) :=
  ((names.map fun name => (name, value? name)).map Slot.named).flatMap Slot.members

theorem namedMembers_cons (name : String) :
    namedMembers (name :: names) value? =
      (value? name).toList.map (fun value => (name, value)) ++ namedMembers names value? := rfl

theorem map_fst_namedMembers :
    (namedMembers names value?).map Prod.fst = names.filter fun name => (value? name).isSome := by
  induction names with
  | nil => rfl
  | cons name names ih =>
    rw [namedMembers_cons, List.map_append, ih]
    cases h : value? name <;> simp [h]

/-- A member is found by its name. -/
theorem member?_namedMembers {key : String} (h : key ∉ names → value? key = none) :
    (Json.object (namedMembers names value?)).member? key = value? key := by
  have hfind : (namedMembers names value?).find? (·.1 == key) =
      (value? key).map fun value => (key, value) := by
    induction names with
    | nil =>
      rw [h List.not_mem_nil]
      rfl
    | cons name names ih =>
      rw [namedMembers_cons, List.find?_append]
      by_cases hname : name = key
      · subst hname
        cases hvalue : value? name with
        | none =>
          -- A field without a value is not there, and another one of its name has none either.
          have hrest := ih fun _ => hvalue
          simpa [hvalue] using hrest
        | some value => simp
      · have hrest := ih fun hmem => h (by simp [hmem, Ne.symm hname])
        cases hvalue : value? name with
        | none => simpa using hrest
        | some value => simpa [hname] using hrest
  rw [Json.member?, hfind]
  cases value? key <;> rfl

end Members

/-! ## Attributes by their names -/

def Attribute.toJson : Attribute → Json
  | flag value => .boolean value
  | list value => .strings value
  | text value => FeatureContext.encodeText value

namespace FeatureContext

variable (c : FeatureContext)

/-- What is written for an attribute: its value, but nothing for a message that there is not. -/
def written? (name : String) : Option Json :=
  (c.attribute? name).bind fun a =>
    if name = "parseError" ∧ a = .text none then none else some a.toJson

theorem writtenFields_eq :
    c.writtenFields = attributeNames.map fun name => (name, c.written? name) := by
  cases c
  next message => cases message <;> rfl

theorem toJson_eq_namedMembers : c.toJson = .object (namedMembers attributeNames c.written?) := by
  rw [toJson_eq_writtenFields, writtenFields_eq]
  rfl

theorem exists_attribute?_iff (name : String) :
    isAttributeName name = true ↔ ∃ a, c.attribute? name = some a := by
  rw [← c.isSome_attribute?, Option.isSome_iff_exists]

theorem member?_toJson (name : String) : c.toJson.member? name = c.written? name := by
  rw [toJson_eq_namedMembers]
  refine member?_namedMembers attributeNames c.written? fun hname => ?_
  have hnone : c.attribute? name = none := by
    rw [← Option.not_isSome_iff_eq_none, isSome_attribute?]
    simpa [isAttributeName] using hname
  rw [written?, hnone, Option.bind_none]

/-- Only the message can be left out. -/
theorem isSome_written? {name : String} (h : name ∈ attributeNames) :
    (c.written? name).isSome = (name != "parseError" || c.parseError.isSome) := by
  have hname : isAttributeName name = true := by simpa [isAttributeName] using h
  obtain ⟨a, ha⟩ := (c.exists_attribute?_iff name).1 hname
  rw [written?, ha, Option.bind_some]
  by_cases hmessage : name = "parseError"
  · subst hmessage
    have hvalue : c.attribute? "parseError" = some (.text c.parseError) := rfl
    cases hvalue.symm.trans ha
    cases c.parseError <;> rfl
  · rw [if_neg fun h => hmessage h.1]
    simp [hmessage]

end FeatureContext

/-! ## What names denote -/

namespace Checker

/-- The value of a checker is what a response shows: a flag, a list, a text, or nothing, which may
be written as `null` or left out. -/
inductive Value.Shows : Value → Option Json → Prop
  | flag (value : Bool) : Shows (boolean value) (some (.boolean value))
  | list (items : List String) : Shows (list items) (some (.strings items))
  | text (value : String) : Shows (text value) (some (.string value))
  | null : Shows null (some .null)
  | absent : Shows null none

theorem Value.shows_toJson (a : Attribute) : (ofAttribute a).Shows (some a.toJson) := by
  cases a with
  | flag value => exact .flag value
  | list value => exact .list value
  | text value =>
    cases value with
    | none => exact .null
    | some value => exact .text value

end Checker

open Checker in
/-- The tables of attributes agree. The names are those for which a context has an attribute; the
keys of its object are the names, but for that of a message that there is not; and the member under
a name is the attribute of that name. So a name has the value in a checker that a response shows
under it, and is unknown if it is not that of an attribute. -/
theorem FeatureContext.attributes_agree (c : FeatureContext) (name : String) :
    (isAttributeName name = true ↔ ∃ a, c.attribute? name = some a) ∧
    (∃ members, c.toJson = .object members ∧ members.map Prod.fst =
      attributeNames.filter fun key => key != "parseError" || c.parseError.isSome) ∧
    (c.toJson.member? name = (c.attribute? name).bind fun a =>
      if name = "parseError" ∧ a = .text none then none else some a.toJson) ∧
    ((∃ v, lookUp c name = .ok v ∧ isAttributeName name = true ∧
        v.Shows (c.toJson.member? name)) ∨
      lookUp c name = .error (.undefinedName name) ∧ isAttributeName name = false ∧
        c.toJson.member? name = none) ∧
    ∀ id, (Response.parsed id c).toJson.member? "result" = some c.toJson := by
  refine ⟨c.exists_attribute?_iff name, ⟨_, c.toJson_eq_namedMembers, ?_⟩, c.member?_toJson name,
    ?_, fun id => rfl⟩
  · rw [map_fst_namedMembers]
    exact List.filter_congr fun key hkey => c.isSome_written? hkey
  · rw [member?_toJson, written?, lookUp, ← c.isSome_attribute?]
    cases ha : c.attribute? name with
    | none => exact .inr ⟨rfl, rfl, rfl⟩
    | some a =>
      refine .inl ⟨_, rfl, rfl, ?_⟩
      rw [Option.bind_some]
      split
      next habsent =>
        rw [habsent.2]
        exact .absent
      next => exact Value.shows_toJson a

end SubmissionGrader
