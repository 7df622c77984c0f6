import SubmissionGrader.Proofs.Json.Members
import SubmissionGrader.Proofs.Json.Records
import SubmissionGrader.Service.Answer

/-!
# Ids of requests

The text of a request is decoded as a record, and if that fails as a value. Whichever of them
succeeds, the id that the text gives comes back: with the request and its answer, or with the
response that refuses the text.
-/

namespace SubmissionGrader

open Json (Raw Fields)

namespace Request

/-- The text denotes an object whose member for the id, the last one if there are several, is a
string. -/
def GivesId (text id : String) : Prop :=
  ∃ before after, Json.members? text = some (before ++ ("id", .string id) :: after) ∧
    ∀ m ∈ after, m.1 ≠ "id"

theorem givesId_iff {text id : String} : GivesId text id ↔
    ∃ value, Json.ofText? text = some value ∧ value.member? "id" = some (.string id) := by
  constructor
  · rintro ⟨before, after, hmembers, hafter⟩
    exact ⟨_, Json.ofText?_of_members? hmembers,
      Json.member?_object_lastMembers_iff.2 ⟨before, after, rfl, hafter⟩⟩
  · rintro ⟨value, hvalue, hid⟩
    obtain ⟨members, hmembers, rfl⟩ := Json.exists_members?_of_member? hvalue hid
    obtain ⟨before, after, rfl, hafter⟩ := Json.member?_object_lastMembers_iff.1 hid
    exact ⟨before, after, hmembers, hafter⟩

theorem idOf_eq_of_member? {value : Json} {id : String}
    (h : value.member? "id" = some (.string id)) : idOf value = id := by
  rw [idOf, h]

theorem idOf_eq_empty {value : Json} (h : ∀ id, value.member? "id" ≠ some (.string id)) :
    idOf value = "" := by
  rw [idOf]
  split
  next id hid => exact absurd hid (h id)
  next => rfl

theorem member?_of_idOf {value : Json} {id : String} (h : idOf value = id) (hid : id ≠ "") :
    value.member? "id" = some (.string id) := by
  by_contra hnot
  refine hid (h ▸ idOf_eq_empty fun other hother => hnot ?_)
  rw [hother, ← h, idOf_eq_of_member? hother]

/-- The id of a request that is read from an object comes from the only field for it. -/
theorem exists_id_field {text : String} {request : Request} (h : ofText? text = some request)
    {raw : List (List Json.Piece × Raw)} (hraw : Raw.read? text = some (.object raw)) :
    ∃ keyed value, Raw.keyed? raw = some keyed ∧ Raw.field? keyed ["id"] = some (some value) ∧
      value.text? = some request.id := by
  rw [ofText?, hraw, Option.bind_eq_bind, Option.bind_some] at h
  obtain ⟨values, hvalues, hread⟩ := Option.bind_eq_some_iff.1 h
  obtain ⟨⟨record, rest⟩, hfields, heq⟩ := Option.bind_eq_some_iff.1 hread
  cases heq
  obtain ⟨keyed, hkeyed, hmapM⟩ := Option.bind_eq_some_iff.1 hvalues
  simp only [fieldNames, List.mapM_cons, List.mapM_nil, Option.bind_eq_bind,
    Option.bind_eq_some_iff, Option.pure_def, Option.some.injEq] at hmapM
  obtain ⟨type, -, -, ⟨id, hid, -, ⟨code, -, -, ⟨checker, -, -, rfl, rfl⟩, rfl⟩, rfl⟩, rfl⟩ := hmapM
  obtain ⟨_, _, htype, hfields⟩ := Fields.bind_eq_some_iff.1 hfields
  obtain ⟨_, -, -, rfl⟩ := Fields.required_eq_some_iff.1 htype
  obtain ⟨id', behind, hvalue, hfields⟩ := Fields.bind_eq_some_iff.1 hfields
  obtain ⟨value, rfl, htext, rfl⟩ := Fields.required_eq_some_iff.1 hvalue
  obtain ⟨_, _, -, hfields⟩ := Fields.bind_eq_some_iff.1 hfields
  obtain ⟨_, _, -, hfields⟩ := Fields.bind_eq_some_iff.1 hfields
  cases hfields
  exact ⟨keyed, value, hkeyed, hid, htext⟩

/-- A request has the id that its text gives. -/
theorem id_of_givesId {text id : String} {request : Request} (h : ofText? text = some request)
    (hid : GivesId text id) : request.id = id := by
  obtain ⟨before, after, hmembers, -⟩ := hid
  rw [Json.members?] at hmembers
  split at hmembers
  next raw hraw =>
    obtain ⟨keyed, value, hkeyed, hfield, htext⟩ := exists_id_field h hraw
    have hmem : ("id", Json.string id) ∈ before ++ ("id", Json.string id) :: after := by simp
    have hvalue := Json.ofRaw?_of_field? hkeyed hmembers hfield hmem
    exact Json.text?_eq_of_ofRaw? hvalue htext
  next => cases hmembers

section Decoding

variable {explain : String → Option String} {text : String}

theorem decode_eq_ok {request : Request} (h : decode text explain = .ok request) :
    ofText? text = some request := by
  rw [decode] at h
  split at h
  next found hfound =>
    cases h
    exact hfound
  next => split at h <;> cases h

/-- Why a text is refused that is no request: it denotes a value that is no request, or no value for
the cause that is told. -/
def refusalOf (explain : String → Option String) (text : String) : Refusal :=
  if (Json.ofText? text).isSome then .invalid else .malformed (explain text)

theorem decode_eq_error {response : Response} (h : decode text explain = .error response) :
    ofText? text = none ∧
      response = .refused (((Json.ofText? text).map idOf).getD "") (refusalOf explain text) := by
  rw [decode] at h
  split at h
  next => cases h
  next hnone =>
    refine ⟨hnone, ?_⟩
    rw [refusalOf]
    split at h
    next value hvalue =>
      cases h
      rw [hvalue]
      rfl
    next hvalue =>
      cases h
      rw [hvalue]
      rfl

/-- The id that a text gives comes back, be it with the request and its answer or with the refusal
of the text. Where a text gives none and is refused, the response has the empty id. A refusal has
neither features nor a verdict. It tells a value that is no request from a text that denotes
nothing, and it gives the cause that is told of such a text. -/
theorem decode_keeps_id [Syntax.Language] (explain : String → Option String) (text : String)
    (maxDepth : Nat) :
    (∀ id, GivesId text id →
      match decode text explain with
      | .ok request => request.id = id ∧ (request.answer maxDepth).id = id
      | .error response => response.id = id) ∧
    ∀ response, decode text explain = .error response →
      response.type = .error ∧ response.result = none ∧ response.passed = none ∧
        ((∀ id, ¬GivesId text id) → response.id = "") ∧
        response.error = some (if (Json.ofText? text).isSome then
          "Invalid request type or missing parameters"
          else (explain text).elim "Malformed request" ("Malformed request: " ++ ·)) := by
  constructor
  · intro id hid
    split
    next request hrequest =>
      have hkept := id_of_givesId (decode_eq_ok hrequest) hid
      exact ⟨hkept, by rw [answer_id, hkept]⟩
    next response hresponse =>
      obtain ⟨-, rfl⟩ := decode_eq_error hresponse
      obtain ⟨value, hvalue, hmember⟩ := givesId_iff.1 hid
      rw [hvalue]
      exact idOf_eq_of_member? hmember
  · intro response hresponse
    obtain ⟨-, rfl⟩ := decode_eq_error hresponse
    refine ⟨rfl, rfl, rfl, fun hnone => ?_, ?_⟩
    · cases hvalue : Json.ofText? text with
      | none => rfl
      | some value =>
        exact idOf_eq_empty fun id hid => hnone id (givesId_iff.2 ⟨value, hvalue, hid⟩)
    · rw [refusalOf]
      cases (Json.ofText? text).isSome with
      | true => rfl
      | false => cases explain text <;> rfl

end Decoding

/-- The last of two ids comes back with the refusal of a text in which the id is given twice. -/
theorem decode_keeps_id_of_two :
    let text := "\x7b\"type\": \"parse\", \"id\": \"a\", \"code\": \"1\", \"i\\u0064\": \"b\"\x7d"
    GivesId text "b" ∧ ∃ response, decode text = .error response ∧ response.id = "b" := by
  intro text
  have hrefused : (decode text).toOption.isSome = false := by decide +kernel +revert
  have hfound : (Json.ofText? text).map idOf = some "b" := by decide +kernel +revert
  obtain ⟨value, hvalue, hidOf⟩ := Option.map_eq_some_iff.1 hfound
  have hid : GivesId text "b" :=
    givesId_iff.2 ⟨value, hvalue, member?_of_idOf hidOf (by decide)⟩
  have hkept := (decode_keeps_id (fun _ => none) text 256).1 "b" hid
  cases hdecode : decode text with
  | ok request =>
    rw [hdecode] at hrefused
    cases hrefused
  | error response =>
    rw [hdecode] at hkept
    exact ⟨hid, response, rfl, hkept⟩

end Request

end SubmissionGrader
