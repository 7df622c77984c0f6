import SubmissionGrader.Proofs.Json.Records
import SubmissionGrader.Service.Answer

/-!
# Requests and responses on the wire

Requests, responses and the contexts in them are written as records on one line. What was written is
read back, whatever characters the texts in a record hold, and the lines can be told apart by the
line feeds between them (`wire_round_trip`). For each record, `writtenFields` lists the fields that
are written, in order; a field without a value is left out.
-/

namespace SubmissionGrader

open Json (Raw Fields Slot toRaw)

theorem attributeNames_nodup : attributeNames.Nodup := by decide

theorem caseName?_toRaw_string (s : String) : Raw.caseName? (toRaw (.string s)) = some s :=
  Json.text?_toRaw_string s

/-! ## Contexts -/

namespace FeatureContext

variable (c : FeatureContext)

def writtenFields : List (String × Option Json) :=
  [("hasFunctionDeclaration", some (.boolean c.hasFunctionDeclaration)),
   ("hasArrowFunction", some (.boolean c.hasArrowFunction)),
   ("functionNames", some (.strings c.functionNames)),
   ("hasReturnStatement", some (.boolean c.hasReturnStatement)),
   ("isJSXElement", some (.boolean c.isJSXElement)),
   ("jsxElementName", some (encodeText c.jsxElementName)),
   ("hasJSX", some (.boolean c.hasJSX)),
   ("jsxElements", some (.strings c.jsxElements)),
   ("variableNames", some (.strings c.variableNames)),
   ("importedModules", some (.strings c.importedModules)),
   ("usesUseState", some (.boolean c.usesUseState)),
   ("usesUseEffect", some (.boolean c.usesUseEffect)),
   ("usesUseRef", some (.boolean c.usesUseRef)),
   ("usesUseCallback", some (.boolean c.usesUseCallback)),
   ("usesUseMemo", some (.boolean c.usesUseMemo)),
   ("usesUseContext", some (.boolean c.usesUseContext)),
   ("usesCreateContext", some (.boolean c.usesCreateContext)),
   ("hasPropsParameter", some (.boolean c.hasPropsParameter)),
   ("hasPropsDestructuring", some (.boolean c.hasPropsDestructuring)),
   ("propsNames", some (.strings c.propsNames)),
   ("hasConditionalRendering", some (.boolean c.hasConditionalRendering)),
   ("hasMapCall", some (.boolean c.hasMapCall)),
   ("hasEventHandler", some (.boolean c.hasEventHandler)),
   ("parseError", c.parseError.map .string)]

theorem toJson_eq_writtenFields :
    c.toJson = .object ((c.writtenFields.map Slot.named).flatMap Slot.members) := by
  rw [toJson, writtenFields]
  cases c.parseError <;> rfl

theorem readable_toJson : c.toJson.Readable := by
  rw [toJson_eq_writtenFields]
  refine Json.readable_writtenObject ?_
  cases hname : c.jsxElementName <;>
    simp [writtenFields, Slot.named, encodeText, hname, Json.readable_strings, Json.Readable]

theorem reads_flagField (value : Bool) : flagField.Reads (some (toRaw (.boolean value))) value :=
  Fields.reads_withDefault false rfl

theorem reads_listField (items : List String) :
    listField.Reads (some (toRaw (.strings items))) items :=
  Fields.reads_withDefault [] (Json.listOf?_toRaw_strings items)

theorem reads_textField (value : Option String) :
    textField.Reads ((value.map Json.string).map toRaw) value :=
  Fields.reads_optional_string value

theorem reads_textField_encodeText (value : Option String) :
    textField.Reads (some (toRaw (encodeText value))) value := by
  cases value with
  | none => exact Fields.reads_optional_null
  | some s => exact reads_textField (some s)

/-- A context is read back, attribute by attribute. -/
theorem ofRaw?_toRaw_toJson : ofRaw? (toRaw c.toJson) = some c := by
  have hfields : fields ((c.writtenFields.map Slot.named).map Slot.found) = some (c, []) := by
    simp only [writtenFields, List.map_cons, List.map_nil, Slot.named, Slot.found, Option.map_some]
    simp only [fields, (reads_flagField _).bind, (reads_listField _).bind,
      (reads_textField_encodeText _).bind, (reads_textField _).bind]
    rfl
  have hnames : (c.writtenFields.map Prod.fst).Nodup := attributeNames_nodup
  have hspellings : attributeNames.map (fun name => [name]) =
      (c.writtenFields.map Slot.named).map Slot.spellings := rfl
  rw [ofRaw?, hspellings, toJson_eq_writtenFields]
  exact Fields.run?_writtenObject (Slot.apart_named hnames) hfields .refused

/-- A context that was written is read back. -/
theorem ofText?_compact_toJson : ofText? c.toJson.compact = some c := by
  rw [ofText?, Json.read?_compact c.readable_toJson, Option.bind_eq_bind, Option.bind_some]
  exact c.ofRaw?_toRaw_toJson

end FeatureContext

/-! ## Requests -/

namespace Request

variable (r : Request)

def writtenFields : List (String × Option Json) :=
  [("type", some (.string r.type.name)),
   ("id", some (.string r.id)),
   ("code", r.code.map .string),
   ("checker", r.checker.map .string)]

theorem toJson_eq_writtenFields :
    r.toJson = .object ((r.writtenFields.map Slot.named).flatMap Slot.members) := by
  rw [toJson, writtenFields]
  cases r.code <;> cases r.checker <;> rfl

theorem readable_toJson : r.toJson.Readable := by
  rw [toJson_eq_writtenFields]
  refine Json.readable_writtenObject ?_
  simp [writtenFields, Slot.named, Json.Readable]

theorem run?_toRaw_toJson : Fields.run? .refused fieldNames fields (toRaw r.toJson) = some r := by
  have hfields : fields ((r.writtenFields.map Slot.named).map Slot.found) = some (r, []) := by
    have htype : (Fields.required fun raw => do RequestType.ofName? (← raw.caseName?)).Reads
        (some (toRaw (.string r.type.name))) r.type :=
      Fields.reads_required (by simp [caseName?_toRaw_string])
    have hid := Fields.reads_required (Json.text?_toRaw_string r.id)
    simp only [writtenFields, List.map_cons, List.map_nil, Slot.named, Slot.found, Option.map_some]
    simp only [fields, htype.bind, hid.bind, (Fields.reads_optional_string _).bind]
    rfl
  have hnames : (r.writtenFields.map Prod.fst).Nodup := by simp [writtenFields]
  rw [toJson_eq_writtenFields]
  exact Fields.run?_writtenObject (Slot.apart_named hnames) hfields .refused

/-- A request that was written is decoded. -/
theorem decode_compact_toJson : decode r.toJson.compact = .ok r := by
  have hread : ofText? r.toJson.compact = some r := by
    rw [ofText?, Json.read?_compact r.readable_toJson, Option.bind_eq_bind, Option.bind_some]
    exact r.run?_toRaw_toJson
  rw [decode, hread]

end Request

/-! ## Responses -/

namespace Response

variable (r : Response)

def writtenFields : List (String × Option Json) :=
  [("type", some (.string r.type.name)),
   ("id", some (.string r.id)),
   ("result", r.result.map FeatureContext.toJson),
   ("passed", r.passed.map .boolean),
   ("error", r.error.map .string)]

theorem toJson_eq_writtenFields :
    r.toJson = .object ((r.writtenFields.map Slot.named).flatMap Slot.members) := by
  rw [toJson, writtenFields]
  cases r.result <;> cases r.passed <;> cases r.error <;> rfl

theorem readable_toJson : r.toJson.Readable := by
  rw [toJson_eq_writtenFields]
  refine Json.readable_writtenObject ?_
  cases hpassed : r.passed <;>
    simp [writtenFields, Slot.named, hpassed, Json.Readable, FeatureContext.readable_toJson]

theorem run?_toRaw_toJson : Fields.run? .refused fieldNames fields (toRaw r.toJson) = some r := by
  have hfields : fields ((r.writtenFields.map Slot.named).map Slot.found) = some (r, []) := by
    have htype : (Fields.required fun raw => do ResponseType.ofName? (← raw.caseName?)).Reads
        (some (toRaw (.string r.type.name))) r.type :=
      Fields.reads_required (by simp [caseName?_toRaw_string])
    have hid := Fields.reads_required (Json.text?_toRaw_string r.id)
    have hresult : (Fields.optional FeatureContext.ofRaw?).Reads
        ((r.result.map FeatureContext.toJson).map toRaw) r.result :=
      Fields.reads_optional_map (fun c => by simp [FeatureContext.toJson, toRaw])
        FeatureContext.ofRaw?_toRaw_toJson r.result
    have hpassed : (Fields.optional Raw.boolean?).Reads ((r.passed.map .boolean).map toRaw)
        r.passed :=
      Fields.reads_optional_map (fun b => by simp [toRaw]) (fun b => rfl) r.passed
    simp only [writtenFields, List.map_cons, List.map_nil, Slot.named, Slot.found, Option.map_some]
    simp only [fields, htype.bind, hid.bind, hresult.bind, hpassed.bind,
      (Fields.reads_optional_string _).bind]
    rfl
  have hnames : (r.writtenFields.map Prod.fst).Nodup := by simp [writtenFields]
  rw [toJson_eq_writtenFields]
  exact Fields.run?_writtenObject (Slot.apart_named hnames) hfields .refused

/-- A response that was written is read back. -/
theorem ofText?_compact_toJson : ofText? r.toJson.compact = some r := by
  rw [ofText?, Json.read?_compact r.readable_toJson, Option.bind_eq_bind, Option.bind_some]
  exact r.run?_toRaw_toJson

end Response

/-! ## Lines of bytes -/

/-- The byte of a line feed stands for nothing else. -/
theorem eq_newline_of_ten_mem_utf8EncodeChar {c : Char} (h : 10 ∈ String.utf8EncodeChar c) :
    c = '\n' := by
  have hhigh {n : Nat} (hn : 128 ≤ n % 256) : (10 : UInt8) ≠ UInt8.ofNat n := by
    intro heq
    have htoNat : 10 = n % 256 := congrArg UInt8.toNat heq
    omega
  simp only [String.utf8EncodeChar] at h
  split at h
  · have htoNat : 10 = c.val.toNat % 256 := congrArg UInt8.toNat (List.mem_singleton.1 h)
    exact Char.toNat_inj.1 (show c.val.toNat = 10 by omega)
  -- the bytes of a character with more than one of them are all high
  split at h
  · simp only [List.mem_cons, List.not_mem_nil, or_false] at h
    rcases h with h | h <;> exact absurd h (hhigh (by omega))
  split at h
  · simp only [List.mem_cons, List.not_mem_nil, or_false] at h
    rcases h with h | h | h <;> exact absurd h (hhigh (by omega))
  · simp only [List.mem_cons, List.not_mem_nil, or_false] at h
    rcases h with h | h | h | h <;> exact absurd h (hhigh (by omega))

/-- The bytes of a text. -/
theorem toList_data_toUTF8 (s : String) :
    s.toUTF8.data.toList = s.toList.flatMap String.utf8EncodeChar := by
  rw [String.toUTF8_eq_toByteArray, ← String.utf8Encode_toList, List.utf8Encode,
    List.data_toByteArray]

theorem ten_not_mem_toUTF8 {s : String} (h : '\n' ∉ s.toList) : 10 ∉ s.toUTF8.data.toList := by
  rw [toList_data_toUTF8, List.mem_flatMap]
  rintro ⟨c, hc, hten⟩
  exact h (eq_newline_of_ten_mem_utf8EncodeChar hten ▸ hc)

theorem fromUTF8?_toUTF8 (s : String) : String.fromUTF8? s.toUTF8 = some s := dif_pos s.isValidUTF8

theorem toByteArray_toList_data (bytes : ByteArray) : bytes.data.toList.toByteArray = bytes := by
  refine ByteArray.ext ?_
  rw [List.data_toByteArray, Array.toArray_toList]

namespace Response

def bytes (r : Response) : List UInt8 := r.line.toUTF8.data.toList

def ofBytes? (bytes : List UInt8) : Option Response := do
  ofText? (← String.fromUTF8? bytes.toByteArray)

theorem bytes_eq (r : Response) : r.bytes = r.toJson.compact.toUTF8.data.toList ++ [10] := by
  rw [bytes, line, toList_data_toUTF8, String.toList_append, List.flatMap_append,
    toList_data_toUTF8]
  rfl

theorem ofBytes?_toUTF8 (r : Response) :
    ofBytes? r.toJson.compact.toUTF8.data.toList = some r := by
  rw [ofBytes?, toByteArray_toList_data, fromUTF8?_toUTF8, Option.bind_eq_bind, Option.bind_some]
  exact r.ofText?_compact_toJson

/-- Between the line feeds stand the texts of the responses, and nothing stands behind the last
one. -/
theorem splitOn_bytes (rs : List Response) :
    (rs.flatMap bytes).splitOn 10 =
      (rs.map fun r => r.toJson.compact.toUTF8.data.toList) ++ [[]] := by
  induction rs with
  | nil => exact List.splitOn_nil 10
  | cons r rs ih =>
    have hline := ten_not_mem_toUTF8 (Json.newline_not_mem_compact r.readable_toJson)
    rw [List.flatMap_cons, bytes_eq, List.append_assoc, List.singleton_append,
      List.splitOn_append_cons_self_of_not_mem hline, ih]
    rfl

end Response

/-- What is written is read back: every request, context and response is the one that its JSON text
denotes. No text holds a line feed, so that the bytes written for responses one after the other,
split at the line feeds and decoded piece by piece, give these responses and nothing behind
them. -/
theorem wire_round_trip :
    (∀ r : Request, Request.decode r.toJson.compact = .ok r ∧ '\n' ∉ r.toJson.compact.toList) ∧
      (∀ c : FeatureContext, FeatureContext.ofText? c.toJson.compact = some c ∧
        '\n' ∉ c.toJson.compact.toList) ∧
      (∀ r : Response, Response.ofText? r.toJson.compact = some r ∧
        '\n' ∉ r.toJson.compact.toList) ∧
      ∀ rs : List Response, ∃ pieces, (rs.flatMap Response.bytes).splitOn 10 = pieces ++ [[]] ∧
        pieces.mapM Response.ofBytes? = some rs := by
  refine ⟨fun r => ⟨r.decode_compact_toJson, Json.newline_not_mem_compact r.readable_toJson⟩,
    fun c => ⟨c.ofText?_compact_toJson, Json.newline_not_mem_compact c.readable_toJson⟩,
    fun r => ⟨r.ofText?_compact_toJson, Json.newline_not_mem_compact r.readable_toJson⟩,
    fun rs => ⟨_, Response.splitOn_bytes rs, ?_⟩⟩
  have hpieces : rs.mapM (Response.ofBytes? ∘ fun r => r.toJson.compact.toUTF8.data.toList) =
      some (rs.map id) := Lists.mapM_eq_some_map fun r _ => r.ofBytes?_toUTF8
  rw [List.mapM_map, hpieces, List.map_id]

end SubmissionGrader
