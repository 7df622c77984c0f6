import SubmissionGrader.Grading.Case
import SubmissionGrader.Proofs.Json.Naturals
import SubmissionGrader.Proofs.Json.Records

/-!
# Test cases in JSON

A record of a case is read back from what was written of it, if its count is one that a reader
accepts (`CaseRecord.run?_toRaw_toJson`). Between cases and records nothing is lost as long as the
type of a case is told by its name and no validator is involved (`TestCase.Plain`). A case that was
read is of that form, whatever text it was read from (`TestCase.plain_of_ofText?`).
-/

namespace SubmissionGrader

open Json (Raw Fields Slot toRaw)

/-! ## Records -/

namespace CaseRecord

/-- The count of a record is one that a reader accepts. -/
def Counts (r : CaseRecord) : Prop := ∀ n ∈ r.minCount, n ≤ maxCount

section Writing

variable (r : CaseRecord)

def writtenSlots : List Slot :=
  [⟨["type"], "type", some (.string r.type)⟩,
   ⟨["description"], "description", some (.string r.description)⟩,
   ⟨["checker"], "checker", r.checker.map .string⟩,
   ⟨["pattern"], "pattern", r.pattern.map .string⟩,
   ⟨["minCount", "min_count"], "minCount", r.minCount.map .natural⟩]

theorem toJson_eq_writtenSlots : r.toJson = .object (r.writtenSlots.flatMap Slot.members) := by
  rw [toJson, writtenSlots]
  cases r.checker <;> cases r.pattern <;> cases r.minCount <;> rfl

theorem apart_writtenSlots : Slot.Apart r.writtenSlots := by
  constructor
  · simp [writtenSlots]
  · simp [writtenSlots]

theorem readable_toJson : r.toJson.Readable := by
  rw [toJson_eq_writtenSlots]
  apply Json.readable_writtenObject
  simp [writtenSlots, Json.Readable, Json.readable_natural]

variable {r}

/-- A record that was written is read back. -/
theorem run?_toRaw_toJson (h : r.Counts) (surplus : Json.Surplus) :
    Fields.run? surplus fieldNames fields (toRaw r.toJson) = some r := by
  have hcount : (Fields.optional (Raw.natural? maxCount)).Reads
      ((r.minCount.map .natural).map toRaw) r.minCount := by
    cases hvalue : r.minCount with
    | none => exact Fields.reads_optional_none
    | some n =>
      exact Fields.reads_optional_some (by simp [Json.natural, toRaw])
        (Json.natural?_toRaw_natural (h n hvalue))
  have hfields : fields (r.writtenSlots.map Slot.found) = some (r, []) := by
    have htype := Fields.reads_required (Json.text?_toRaw_string r.type)
    have hdescription := Fields.reads_withDefault "" (Json.text?_toRaw_string r.description)
    simp only [writtenSlots, List.map_cons, List.map_nil, Slot.found, Option.map_some]
    simp only [fields, htype.bind, hdescription.bind, hcount.bind,
      (Fields.reads_optional_string _).bind]
    rfl
  rw [toJson_eq_writtenSlots]
  exact Fields.run?_writtenObject (apart_writtenSlots r) hfields surplus

end Writing

/-- Whatever a record was read from, its count is one that a reader accepts. -/
theorem Counts.of_run? {surplus : Json.Surplus} {raw : Raw} {r : CaseRecord}
    (h : Fields.run? surplus fieldNames fields raw = some r) : r.Counts := by
  obtain ⟨values, -, hread⟩ := Option.bind_eq_some_iff.1 h
  obtain ⟨⟨record, rest⟩, hfields, heq⟩ := Option.bind_eq_some_iff.1 hread
  cases heq
  -- Of the fields in turn only the last one bounds its value.
  obtain ⟨type, values, -, hfields⟩ := Fields.bind_eq_some_iff.1 hfields
  obtain ⟨description, values, -, hfields⟩ := Fields.bind_eq_some_iff.1 hfields
  obtain ⟨checker, values, -, hfields⟩ := Fields.bind_eq_some_iff.1 hfields
  obtain ⟨pattern, values, -, hfields⟩ := Fields.bind_eq_some_iff.1 hfields
  obtain ⟨minCount, values, hcount, hfields⟩ := Fields.bind_eq_some_iff.1 hfields
  cases hfields
  intro n hn
  cases hn
  obtain ⟨raw, hraw⟩ := Fields.exists_of_optional_eq_some hcount
  exact Json.le_of_natural?_eq_some hraw

end CaseRecord

/-! ## Cases -/

namespace TestCase

/-- A case without a validator, whose type does not go by the name of another one and whose count is
one that a reader accepts. -/
def Plain (c : TestCase) : Prop :=
  match c.kind with
  | .ast _ => True
  | .pattern _ minCount => ∀ n ∈ minCount, n ≤ CaseRecord.maxCount
  | .runtime validator => validator = none
  | .unknown tag => tag ∉ ["ast", "pattern", "runtime"]

/-- A record of an unknown type stands for a case that keeps the type. -/
theorem kind_toCase_of_unknown {r : CaseRecord} (h : r.type ∉ ["ast", "pattern", "runtime"]) :
    r.toCase.kind = .unknown r.type := by
  have htype : r.type ≠ "ast" ∧ r.type ≠ "pattern" ∧ r.type ≠ "runtime" := by simpa using h
  rw [CaseRecord.toCase]
  dsimp only
  split
  next hast => exact absurd hast htype.1
  next hpattern => exact absurd hpattern htype.2.1
  next hruntime => exact absurd hruntime htype.2.2
  next => rfl

/-- Records stand for plain cases only. -/
theorem plain_toCase {r : CaseRecord} (h : r.Counts) : r.toCase.Plain := by
  by_cases hknown : r.type ∈ ["ast", "pattern", "runtime"]
  · obtain ⟨type, description, checker, pattern, minCount⟩ := r
    simp only [List.mem_cons, List.not_mem_nil, or_false] at hknown
    obtain rfl | rfl | rfl := hknown
    · trivial
    · exact h
    · rfl
  · rw [Plain, kind_toCase_of_unknown hknown]
    exact hknown

variable {c : TestCase}

theorem Plain.counts (h : c.Plain) : (CaseRecord.ofCase c).Counts := by
  obtain ⟨description, kind⟩ := c
  cases kind with
  | pattern pattern minCount => exact h
  | _ => simp [CaseRecord.ofCase, CaseRecord.Counts]

theorem Plain.toCase_ofCase (h : c.Plain) : (CaseRecord.ofCase c).toCase = c := by
  obtain ⟨description, kind⟩ := c
  cases kind with
  | ast checker => rfl
  | pattern pattern minCount => rfl
  | runtime validator =>
    cases show validator = none from h
    rfl
  | unknown tag =>
    have hkind := kind_toCase_of_unknown (r := CaseRecord.ofCase ⟨description, .unknown tag⟩) h
    exact congrArg (TestCase.mk description) hkind

/-- A plain case is read back from what was written of it. -/
theorem Plain.ofText?_compact_toJson (h : c.Plain) : ofText? c.toJson.compact = some c := by
  have hread : Raw.read? c.toJson.compact = some (toRaw c.toJson) :=
    Json.read?_compact (CaseRecord.ofCase c).readable_toJson
  have hrun := CaseRecord.run?_toRaw_toJson h.counts .refused
  rw [ofText?, hread, Option.bind_eq_bind, Option.bind_some, ofRaw?, toJson, hrun, Option.map_some,
    h.toCase_ofCase]

theorem ofText?_eq_some_iff {text : String} : ofText? text = some c ↔
    ∃ r, (Raw.read? text).bind (Fields.run? .refused CaseRecord.fieldNames CaseRecord.fields) =
      some r ∧ r.toCase = c := by
  rw [← Option.map_eq_some_iff, Option.map_bind]
  rfl

theorem plain_of_ofText? {text : String} (h : ofText? text = some c) : c.Plain := by
  obtain ⟨r, hr, rfl⟩ := ofText?_eq_some_iff.1 h
  obtain ⟨raw, -, hrun⟩ := Option.bind_eq_some_iff.1 hr
  exact plain_toCase (CaseRecord.Counts.of_run? hrun)

theorem plain_ast (description checker : String) : (ast description checker).Plain := trivial

theorem plain_pattern (description pattern : String) (minCount : Option UInt32) :
    (TestCase.pattern description pattern minCount).Plain := by
  intro n hn
  obtain ⟨count, -, rfl⟩ := Option.map_eq_some_iff.1 hn
  have hlt := count.toNat_lt_size
  rw [CaseRecord.maxCount]
  omega

/-- A validator is not written. -/
theorem ofText?_compact_toJson_runtime (description : String) (validator : Validator) :
    ofText? (runtime description validator).toJson.compact = some ⟨description, .runtime none⟩ :=
  Plain.ofText?_compact_toJson (c := ⟨description, .runtime none⟩) rfl

/-- A case that was read, whatever text it was read from, is read again from what is written of it,
and its type, if it is unknown, has none of the known names. A case that was built is read again
from what is written of it, but for its validator. -/
theorem case_round_trip :
    (∀ text c, ofText? text = some c → ofText? c.toJson.compact = some c ∧
      ∀ tag, c.kind = .unknown tag → tag ∉ ["ast", "pattern", "runtime"]) ∧
    (∀ description checker, ofText? (ast description checker).toJson.compact =
      some (ast description checker)) ∧
    (∀ description pattern minCount,
      ofText? (TestCase.pattern description pattern minCount).toJson.compact =
        some (TestCase.pattern description pattern minCount)) ∧
    ∀ description validator, ofText? (runtime description validator).toJson.compact =
      some ⟨description, .runtime none⟩ := by
  refine ⟨fun text c h => ?_, fun description checker => ?_, fun description pattern minCount => ?_,
    ofText?_compact_toJson_runtime⟩
  · have hplain := plain_of_ofText? h
    refine ⟨hplain.ofText?_compact_toJson, fun tag htag => ?_⟩
    rwa [Plain, htag] at hplain
  · exact (plain_ast description checker).ofText?_compact_toJson
  · exact (plain_pattern description pattern minCount).ofText?_compact_toJson

/-- A pattern case with the other spelling of the count and with fields that it does not use, and an
array of an unknown type. -/
theorem case_round_trip_permissive :
    (let text := "\x7b\"checker\": \"a\", \"x\": [1], \"min_count\": 2, \"type\": \"pattern\"\x7d"
      let c : TestCase := ⟨"", .pattern none (some 2)⟩
      ofText? text = some c ∧ ofText? c.toJson.compact = some c) ∧
    (let text := "[\"custom\", \"d\", null, \"x\"]"
      let c : TestCase := ⟨"d", .unknown "custom"⟩
      ofText? text = some c ∧ ofText? c.toJson.compact = some c ∧
        "custom" ∉ ["ast", "pattern", "runtime"]) := by
  refine ⟨?_, ?_⟩
  · intro text c
    have hread : ofText? text = some c :=
      ofText?_eq_some_iff.2
        ⟨{ type := "pattern", checker := some "a", minCount := some 2 },
          by decide +kernel +revert, rfl⟩
    exact ⟨hread, (case_round_trip.1 text c hread).1⟩
  · intro text c
    have hread : ofText? text = some c :=
      ofText?_eq_some_iff.2
        ⟨{ type := "custom", description := "d", pattern := some "x" },
          by decide +kernel +revert, rfl⟩
    have hkept := case_round_trip.1 text c hread
    exact ⟨hread, hkept.1, hkept.2 "custom" rfl⟩

end TestCase

end SubmissionGrader
