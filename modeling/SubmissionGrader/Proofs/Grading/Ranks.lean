import SubmissionGrader.Grading.Cache
import SubmissionGrader.Proofs.Lists
import Mathlib.Data.List.Nodup
import Mathlib.Data.List.Perm.Basic

/-!
# Entries by their last use

A cache orders its entries by nothing but the ticks of their last uses. `Ranks c es`
says that `es` are the entries of `c` from the newest tick to the oldest one. It
speaks of the entries up to their order, so it holds for whatever order a cache lists
them in, and by it the entry that makes room is the last of `es`.
-/

namespace SubmissionGrader

variable {κ α : Type}

namespace CacheEntry

variable [DecidableEq κ] {es : List (CacheEntry κ α)}

theorem length_filter_key_lt {key : κ} {e : CacheEntry κ α}
    (h : es.find? (·.key = key) = some e) : (es.filter (·.key ≠ key)).length < es.length := by
  refine List.length_filter_lt_length_iff_exists.2 ⟨e, List.mem_of_find?_eq_some h, ?_⟩
  simpa using List.find?_some h

theorem filter_key_concat {last : CacheEntry κ α} (h : ((es ++ [last]).map (·.key)).Nodup) :
    (es ++ [last]).filter (·.key ≠ last.key) = es := by
  rw [List.map_append, List.nodup_append] at h
  have hes : es.filter (·.key ≠ last.key) = es := List.filter_eq_self.2 fun e he => by
    simpa using h.2.2 e.key (List.mem_map_of_mem he) last.key (by simp)
  rw [List.filter_append, hes]
  simp

end CacheEntry

namespace Cache

/-- The entries of a cache, of which the first one was used last. -/
structure Ranks (c : Cache κ α) (es : List (CacheEntry κ α)) : Prop where
  perm : es.Perm c.entries
  newest : es.Pairwise fun a b => b.lastUsed < a.lastUsed
  keys : (es.map (·.key)).Nodup
  le_tick : ∀ e ∈ es, e.lastUsed ≤ c.tick
  length_le : es.length ≤ c.capacity

namespace Ranks

theorem new (capacity : Nat) : Ranks (Cache.new capacity : Cache κ α) [] :=
  ⟨.refl _, .nil, List.nodup_nil, by simp, Nat.zero_le _⟩

variable {c : Cache κ α} {es : List (CacheEntry κ α)}

theorem relist (h : Ranks c es) {entries : List (CacheEntry κ α)}
    (hperm : entries.Perm c.entries) : Ranks { c with entries } es :=
  ⟨h.perm.trans hperm.symm, h.newest, h.keys, h.le_tick, h.length_le⟩

theorem length_eq (h : Ranks c es) : c.entries.length = es.length := h.perm.length_eq.symm

/-- An entry that is used now stands before all others. -/
theorem push (h : Ranks c es) {d : Cache κ α} {e : CacheEntry κ α} {rest : List (CacheEntry κ α)}
    (hrest : rest.Sublist es) (hkey : ∀ x ∈ rest, x.key ≠ e.key) (hroom : rest.length < c.capacity)
    (hlast : e.lastUsed = c.tick + 1) (hentries : d.entries.Perm (e :: rest))
    (htick : d.tick = c.tick + 1) (hcapacity : d.capacity = c.capacity) : Ranks d (e :: rest) where
  perm := hentries.symm
  newest := by
    refine List.pairwise_cons.2 ⟨fun x hx => ?_, h.newest.sublist hrest⟩
    rw [hlast]
    exact Nat.lt_succ_of_le (h.le_tick x (hrest.subset hx))
  keys := by
    refine List.nodup_cons.2 ⟨?_, h.keys.sublist (hrest.map _)⟩
    intro hmem
    obtain ⟨x, hx, hxe⟩ := List.mem_map.1 hmem
    exact hkey x hx hxe
  le_tick := by
    rw [htick]
    refine List.forall_mem_cons.2 ⟨Nat.le_of_eq hlast, fun x hx => ?_⟩
    exact Nat.le_succ_of_le (h.le_tick x (hrest.subset hx))
  length_le := by
    rw [hcapacity]
    exact hroom

theorem clear (_ : Ranks c es) : Ranks c.clear [] :=
  ⟨.refl _, .nil, List.nodup_nil, by simp, Nat.zero_le _⟩

variable [DecidableEq κ]

theorem find?_eq (h : Ranks c es) (key : κ) : c.find? key = es.find? (·.key = key) :=
  (Lists.find?_key_perm h.perm h.keys key).symm

theorem entriesWithout_perm (h : Ranks c es) (key : κ) :
    (c.entriesWithout key).Perm (es.filter (·.key ≠ key)) := (h.perm.filter _).symm

/-- The oldest entry is the last one, whichever order the cache lists its entries in. -/
theorem evicted_perm (h : Ranks c es) : c.evicted.Perm es.dropLast := by
  rcases List.eq_nil_or_concat es with rfl | ⟨init, last, rfl⟩
  · have hentries : c.entries = [] := h.perm.symm.eq_nil
    simp [evicted, hentries, oldest?]
  · rw [List.concat_eq_append] at h ⊢
    cases holdest : oldest? c.entries with
    | none =>
      have hnil : c.entries = [] := oldest?_eq_none_iff.1 holdest
      exact absurd (hnil ▸ h.perm).eq_nil (by simp)
    | some o =>
      obtain ⟨hmem, hle⟩ := oldest?_eq_some holdest
      have ho : o = last := by
        -- All entries before the last one were used after it, so none of them is the oldest.
        rcases List.mem_append.1 (h.perm.mem_iff.2 hmem) with hinit | hlast
        · have hlt : last.lastUsed < o.lastUsed :=
            (List.pairwise_append.1 h.newest).2.2 o hinit last (by simp)
          have hge : o.lastUsed ≤ last.lastUsed := hle last (h.perm.mem_iff.1 (by simp))
          omega
        · simpa using hlast
      rw [evicted, holdest, List.dropLast_concat, ho]
      have hperm := h.entriesWithout_perm last.key
      rwa [CacheEntry.filter_key_concat h.keys] at hperm

/-! ## Lookups and insertions -/

theorem get_hit (h : Ranks c es) (hcapacity : c.capacity ≠ 0) {key : κ} {e : CacheEntry κ α}
    (hfind : es.find? (·.key = key) = some e) :
    (c.get key).1 = some e.value ∧
      Ranks (c.get key).2 ({ e with lastUsed := c.tick + 1 } :: es.filter (·.key ≠ key)) := by
  have hkey : e.key = key := by simpa using List.find?_some hfind
  rw [get, if_neg hcapacity, h.find?_eq, hfind]
  refine ⟨rfl, h.push List.filter_sublist ?_ ?_ rfl ((h.entriesWithout_perm key).cons _) rfl rfl⟩
  · intro x hx
    rw [hkey]
    simpa using (List.mem_filter.1 hx).2
  · exact Nat.lt_of_lt_of_le (CacheEntry.length_filter_key_lt hfind) h.length_le

theorem get_miss (h : Ranks c es) (hcapacity : c.capacity ≠ 0) {key : κ}
    (hfind : es.find? (·.key = key) = none) :
    (c.get key).1 = none ∧ Ranks (c.get key).2 es := by
  rw [get, if_neg hcapacity, h.find?_eq, hfind]
  exact ⟨rfl, h.perm, h.newest, h.keys, fun e he => Nat.le_succ_of_le (h.le_tick e he),
    h.length_le⟩

/-- The entries that stay when a key gets a value. -/
def kept (capacity : Nat) (key : κ) (es : List (CacheEntry κ α)) : List (CacheEntry κ α) :=
  if (es.find? (·.key = key)).isSome then es.filter (·.key ≠ key)
  else if es.length = capacity then es.dropLast
  else es

theorem kept_sublist (capacity : Nat) (key : κ) (es : List (CacheEntry κ α)) :
    (kept capacity key es).Sublist es := by
  unfold kept
  split
  · exact List.filter_sublist
  · split
    · exact List.dropLast_sublist es
    · exact List.Sublist.refl es

theorem key_ne_of_mem_kept {capacity : Nat} {key : κ} {x : CacheEntry κ α}
    (hx : x ∈ kept capacity key es) : x.key ≠ key := by
  cases hfind : es.find? (·.key = key) with
  | some e =>
    rw [kept, hfind, if_pos Option.isSome_some] at hx
    simpa using (List.mem_filter.1 hx).2
  | none =>
    have hother : ∀ x ∈ es, x.key ≠ key := by simpa using List.find?_eq_none.1 hfind
    exact hother x ((kept_sublist capacity key es).subset hx)

theorem length_kept_lt {capacity : Nat} (hcapacity : capacity ≠ 0) (hle : es.length ≤ capacity)
    (key : κ) : (kept capacity key es).length < capacity := by
  cases hfind : es.find? (·.key = key) with
  | some e =>
    rw [kept, hfind, if_pos Option.isSome_some]
    exact Nat.lt_of_lt_of_le (CacheEntry.length_filter_key_lt hfind) hle
  | none =>
    rw [kept, hfind, if_neg (by simp)]
    split
    · rw [List.length_dropLast]
      omega
    · omega

theorem insert (h : Ranks c es) (hcapacity : c.capacity ≠ 0) (key : κ) (value : α) :
    Ranks (c.insert key value) (⟨key, value, c.tick + 1⟩ :: kept c.capacity key es) := by
  have hothers : (c.insert key value).entries.Perm
      (⟨key, value, c.tick + 1⟩ :: kept c.capacity key es) := by
    rw [Cache.insert, if_neg hcapacity, h.find?_eq, h.length_eq, kept]
    refine List.Perm.cons _ ?_
    split
    · exact h.entriesWithout_perm key
    · by_cases hfull : es.length = c.capacity
      · rw [if_pos (Nat.le_of_eq hfull.symm), if_pos hfull]
        exact h.evicted_perm
      · rw [if_neg fun hle => hfull (Nat.le_antisymm h.length_le hle), if_neg hfull]
        exact h.perm.symm
  have hinsert : (c.insert key value).tick = c.tick + 1 ∧
      (c.insert key value).capacity = c.capacity := by
    rw [Cache.insert, if_neg hcapacity]
    exact ⟨rfl, rfl⟩
  exact h.push (kept_sublist _ key es) (fun x hx => key_ne_of_mem_kept hx)
    (length_kept_lt hcapacity h.length_le key) rfl hothers hinsert.1 hinsert.2

end Ranks

end Cache

end SubmissionGrader
