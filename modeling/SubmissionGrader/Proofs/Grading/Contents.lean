import SubmissionGrader.Grading.Cache

/-!
# What a cache may hold

`Holds p c` says that `p` admits each key of `c` with its value. A lookup gives only what `p`
admits, and an insertion asks `p` about nothing but the pair it inserts.
-/

namespace SubmissionGrader.Cache

variable {κ α : Type}

/-- A cache without room is empty, and each entry of a cache is admitted. -/
structure Holds (p : κ → α → Prop) (c : Cache κ α) : Prop where
  room : c.capacity = 0 → c.entries = []
  admitted : ∀ e ∈ c.entries, p e.key e.value

variable {p q : κ → α → Prop} {c : Cache κ α}

theorem Holds.new (capacity : Nat) : Holds p (Cache.new capacity) :=
  ⟨fun _ => rfl, by simp [Cache.new]⟩

theorem Holds.clear (_ : Holds p c) : Holds q c.clear := ⟨fun _ => rfl, by simp [Cache.clear]⟩

variable [DecidableEq κ]

theorem mem_evicted {e : CacheEntry κ α} (h : e ∈ c.evicted) : e ∈ c.entries := by
  rw [evicted] at h
  split at h
  · exact (List.mem_filter.1 h).1
  · exact h

/-- An inserted entry stays with some of the entries of other keys. -/
theorem mem_insert (hcapacity : c.capacity ≠ 0) {key : κ} {value : α} {e : CacheEntry κ α}
    (h : e ∈ (c.insert key value).entries) :
    e.key = key ∧ e.value = value ∨ e.key ≠ key ∧ e ∈ c.entries := by
  rw [insert, if_neg hcapacity] at h
  rcases List.mem_cons.1 h with rfl | h
  · exact .inl ⟨rfl, rfl⟩
  · refine .inr ?_
    by_cases hfound : (c.find? key).isSome = true
    · rw [if_pos hfound] at h
      obtain ⟨hmem, hkey⟩ := List.mem_filter.1 h
      exact ⟨by simpa using hkey, hmem⟩
    · rw [if_neg hfound] at h
      have hmem : e ∈ c.entries := by
        split at h
        · exact mem_evicted h
        · exact h
      have hnone : c.find? key = none := by simpa using hfound
      exact ⟨by simpa using List.find?_eq_none.1 hnone e hmem, hmem⟩

theorem get_new (capacity : Nat) (key : κ) : ((new capacity : Cache κ α).get key).1 = none := by
  rw [get]
  split <;> rfl

theorem get_insert_self (hcapacity : c.capacity ≠ 0) (key : κ) (value : α) :
    ((c.insert key value).get key).1 = some value := by
  rw [get, insert_capacity, if_neg hcapacity, insert, if_neg hcapacity]
  simp [find?]

namespace Holds

theorem get (h : Holds p c) (key : κ) :
    (∀ value, (c.get key).1 = some value → p key value) ∧ Holds p (c.get key).2 := by
  rw [Cache.get]
  by_cases hcapacity : c.capacity = 0
  · rw [if_pos hcapacity]
    exact ⟨by simp, h⟩
  · rw [if_neg hcapacity]
    cases hfind : c.find? key with
    | none => exact ⟨by simp, h.room, h.admitted⟩
    | some e =>
      have hkey : e.key = key := by simpa using List.find?_some hfind
      have he : p e.key e.value := h.admitted e (List.mem_of_find?_eq_some hfind)
      refine ⟨?_, fun h0 => absurd h0 hcapacity, List.forall_mem_cons.2 ⟨he, fun x hx => ?_⟩⟩
      · rintro value ⟨⟩
        exact hkey ▸ he
      · exact h.admitted x (List.mem_filter.1 hx).1

/-- What is admitted afterwards may differ, as long as nothing is lost for the other keys. -/
theorem insert (h : Holds p c) {key : κ} {value : α} (hnew : q key value)
    (hold : ∀ k v, k ≠ key → p k v → q k v) : Holds q (c.insert key value) := by
  by_cases hcapacity : c.capacity = 0
  · have hsame : c.insert key value = c := by rw [Cache.insert, if_pos hcapacity]
    rw [hsame]
    exact ⟨h.room, by simp [h.room hcapacity]⟩
  · refine ⟨fun h0 => ?_, fun e he => ?_⟩
    · rw [Cache.insert, if_neg hcapacity] at h0
      exact absurd h0 hcapacity
    · rcases mem_insert hcapacity he with ⟨rfl, rfl⟩ | ⟨hkey, hmem⟩
      · exact hnew
      · exact hold e.key e.value hkey (h.admitted e hmem)

end Holds

end SubmissionGrader.Cache
