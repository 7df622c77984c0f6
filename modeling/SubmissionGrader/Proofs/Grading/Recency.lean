import SubmissionGrader.Proofs.Grading.Ranks

/-!
# The cache as a list by recency

A recency list has the keys of a cache with their values, the key that was used last
in front. Whatever is called on a new cache, and in whichever order the cache lists its
entries at each call, it answers as such a list does. `Represents` is what each call keeps.
-/

namespace SubmissionGrader

variable {κ α : Type}

inductive CacheCall (κ α : Type) where
  | get (key : κ)
  | insert (key : κ) (value : α)
  | getOrInsert (key : κ) (compute : Unit → α)
  | clear

def CacheCall.isClear : CacheCall κ α → Bool
  | clear => true
  | _ => false

theorem countP_cons_toNat {β : Type} (p : β → Bool) (x : β) (l : List β) :
    (x :: l).countP p = (p x).toNat + l.countP p := by
  rw [List.countP_cons, Nat.add_comm]
  cases p x <;> rfl

inductive CacheReply (α : Type) where
  | found (value : Option α)
  | inserted
  | provided (value : α) (computed : Bool)
  | cleared

/-- The reply to a call if nothing is ever stored. -/
def CacheCall.unstored : CacheCall κ α → CacheReply α
  | get _ => .found none
  | insert _ _ => .inserted
  | getOrInsert _ compute => .provided (compute ()) true
  | clear => .cleared

namespace CacheReply

def isHit : CacheReply α → Bool
  | found value => value.isSome
  | provided _ computed => !computed
  | _ => false

def isMiss : CacheReply α → Bool
  | found value => value.isNone
  | provided _ computed => computed
  | _ => false

def isInsertion : CacheReply α → Bool
  | inserted => true
  | provided _ computed => computed
  | _ => false

end CacheReply

/-! ## Recency lists -/

/-- Keys with their values, of which the first one was used last. -/
abbrev Recency (κ α : Type) := List (κ × α)

section

variable [DecidableEq κ]

namespace Recency

def without (l : Recency κ α) (key : κ) : Recency κ α := l.filter (·.1 ≠ key)

/-- The value of a key, which moves to the front. -/
def get (l : Recency κ α) (key : κ) : Option α × Recency κ α :=
  match l.lookup key with
  | some value => (some value, (key, value) :: l.without key)
  | none => (none, l)

/-- Puts a key in front. If the list is full, its last key makes room for a new one. -/
def insert (capacity : Nat) (l : Recency κ α) (key : κ) (value : α) : Recency κ α :=
  (key, value) ::
    if (l.lookup key).isSome then l.without key
    else if l.length = capacity then l.dropLast
    else l

def perform (capacity : Nat) (l : Recency κ α) : CacheCall κ α → CacheReply α × Recency κ α
  | .get key => let (value, l) := l.get key; (.found value, l)
  | .insert key value => (.inserted, l.insert capacity key value)
  | .getOrInsert key compute =>
    match l.get key with
    | (some value, l) => (.provided value false, l)
    | (none, l) => (.provided (compute ()) true, l.insert capacity key (compute ()))
  | .clear => (.cleared, [])

def performAll (capacity : Nat) :
    Recency κ α → List (CacheCall κ α) → List (CacheReply α) × Recency κ α
  | l, [] => ([], l)
  | l, call :: rest =>
    let (reply, l) := l.perform capacity call
    let (replies, l) := performAll capacity l rest
    (reply :: replies, l)

end Recency

end

/-! ## Caches that list their entries in any order -/

/-- The order in which a cache lists its entries, which may differ from call to call. -/
structure Listing (κ α : Type) where
  list : Nat → List (CacheEntry κ α) → List (CacheEntry κ α)
  perm : ∀ n entries, (list n entries).Perm entries

/-- The entries are turned round at every second call. -/
def Listing.alternating : Listing κ α where
  list n entries := if n % 2 = 0 then entries else entries.reverse
  perm n entries := by
    split
    · exact .refl entries
    · exact entries.reverse_perm

def Listing.relist (listing : Listing κ α) (n : Nat) (c : Cache κ α) : Cache κ α :=
  { c with entries := listing.list n c.entries }

def CacheEntry.pair (e : CacheEntry κ α) : κ × α := (e.key, e.value)

namespace Cache

/-- The keys and values of a cache by recency. -/
def Represents (c : Cache κ α) (l : Recency κ α) : Prop :=
  ∃ es, Ranks c es ∧ es.map CacheEntry.pair = l

theorem Represents.relist {c : Cache κ α} {l : Recency κ α} (h : Represents c l)
    (listing : Listing κ α) (n : Nat) : Represents (listing.relist n c) l := by
  obtain ⟨es, hes, hl⟩ := h
  exact ⟨es, hes.relist (listing.perm n c.entries), hl⟩

/-- The counters of a cache after some hits, misses, clears and insertions. The clock counts
lookups and insertions. -/
structure Counts (c d : Cache κ α) (h m k i : Nat) : Prop where
  capacity : d.capacity = c.capacity
  hits : d.hits = c.hits + h
  misses : d.misses = c.misses + m
  generation : d.generation = c.generation + k
  tick : d.tick = c.tick + (h + m + i)

theorem Counts.trans {c d e : Cache κ α} {h m k i h' m' k' i' : Nat} (hcd : Counts c d h m k i)
    (hde : Counts d e h' m' k' i') : Counts c e (h + h') (m + m') (k + k') (i + i') where
  capacity := hde.capacity.trans hcd.capacity
  hits := by rw [hde.hits, hcd.hits, Nat.add_assoc]
  misses := by rw [hde.misses, hcd.misses, Nat.add_assoc]
  generation := by rw [hde.generation, hcd.generation, Nat.add_assoc]
  tick := by
    rw [hde.tick, hcd.tick]
    omega

end Cache

variable [DecidableEq κ]

namespace Cache

def perform (c : Cache κ α) : CacheCall κ α → CacheReply α × Cache κ α
  | .get key => let (value, c) := c.get key; (.found value, c)
  | .insert key value => (.inserted, c.insert key value)
  | .getOrInsert key compute =>
    let (value, computed, c) := c.getOrInsert key compute
    (.provided value computed, c)
  | .clear => (.cleared, c.clear)

def performAll (listing : Listing κ α) :
    Nat → Cache κ α → List (CacheCall κ α) → List (CacheReply α) × Cache κ α
  | _, c, [] => ([], c)
  | n, c, call :: rest =>
    let (reply, c) := (listing.relist n c).perform call
    let (replies, c) := performAll listing (n + 1) c rest
    (reply :: replies, c)

/-- A value is looked up first, and computed and inserted if there is none. -/
theorem perform_getOrInsert (c : Cache κ α) (key : κ) (compute : Unit → α) :
    c.perform (.getOrInsert key compute) =
      match c.get key with
      | (some value, d) => (.provided value false, d)
      | (none, d) => (.provided (compute ()) true, d.insert key (compute ())) := by
  simp only [perform, getOrInsert]
  rcases c.get key with ⟨_ | value, d⟩ <;> rfl

/-! ## Counters -/

theorem counts_get (c : Cache κ α) (hcapacity : c.capacity ≠ 0) (key : κ) :
    Counts c (c.get key).2 (c.get key).1.isSome.toNat (c.get key).1.isNone.toNat 0 0 := by
  rw [get, if_neg hcapacity]
  cases c.find? key <;> exact ⟨rfl, rfl, rfl, rfl, rfl⟩

theorem counts_insert (c : Cache κ α) (hcapacity : c.capacity ≠ 0) (key : κ) (value : α) :
    Counts c (c.insert key value) 0 0 0 1 := by
  rw [insert, if_neg hcapacity]
  exact ⟨rfl, rfl, rfl, rfl, rfl⟩

theorem counts_perform (c : Cache κ α) (hcapacity : c.capacity ≠ 0) (call : CacheCall κ α) :
    Counts c (c.perform call).2 (c.perform call).1.isHit.toNat (c.perform call).1.isMiss.toNat
      call.isClear.toNat (c.perform call).1.isInsertion.toNat := by
  cases call with
  | get key => exact c.counts_get hcapacity key
  | insert key value => exact c.counts_insert hcapacity key value
  | getOrInsert key compute =>
    have hget := c.counts_get hcapacity key
    rw [perform_getOrInsert]
    rcases hc : c.get key with ⟨_ | value, d⟩
    · rw [hc] at hget
      have hroom : d.capacity ≠ 0 := hget.capacity ▸ hcapacity
      exact hget.trans (d.counts_insert hroom key (compute ()))
    · rw [hc] at hget
      exact hget
  | clear => exact ⟨rfl, rfl, rfl, rfl, rfl⟩

end Cache

/-! ## Refinement -/

theorem lookup_map_pair (es : List (CacheEntry κ α)) (key : κ) :
    (es.map CacheEntry.pair).lookup key = (es.find? (·.key = key)).map (·.value) := by
  induction es with
  | nil => rfl
  | cons e es ih =>
      by_cases h : e.key = key
      · simp [CacheEntry.pair, h]
      · have hlookup : (key == e.key) = false := by simpa using Ne.symm h
        rw [List.map_cons, List.find?_cons_of_neg (by simpa using h), ← ih]
        simp [CacheEntry.pair, List.lookup_cons, hlookup]

theorem without_map_pair (es : List (CacheEntry κ α)) (key : κ) :
    Recency.without (es.map CacheEntry.pair) key =
      (es.filter (·.key ≠ key)).map CacheEntry.pair := by
  rw [Recency.without, List.filter_map]
  rfl

theorem insert_map_pair (capacity : Nat) (es : List (CacheEntry κ α)) (e : CacheEntry κ α) :
    Recency.insert capacity (es.map CacheEntry.pair) e.key e.value =
      (e :: Cache.Ranks.kept capacity e.key es).map CacheEntry.pair := by
  rw [Recency.insert, Cache.Ranks.kept, lookup_map_pair, without_map_pair, List.length_map,
    Option.isSome_map, List.map_cons]
  refine congrArg (e.pair :: ·) ?_
  split
  · rfl
  · split
    · rw [List.map_dropLast]
    · rfl

namespace Cache

namespace Represents

variable {c : Cache κ α} {l : Recency κ α}

theorem get (h : Represents c l) (hcapacity : c.capacity ≠ 0) (key : κ) :
    (c.get key).1 = (l.get key).1 ∧ Represents (c.get key).2 (l.get key).2 := by
  obtain ⟨es, hes, rfl⟩ := h
  rw [Recency.get, lookup_map_pair]
  cases hfind : es.find? (·.key = key) with
  | none =>
    obtain ⟨hvalue, hranks⟩ := hes.get_miss hcapacity hfind
    exact ⟨hvalue, es, hranks, rfl⟩
  | some e =>
    obtain ⟨hvalue, hranks⟩ := hes.get_hit hcapacity hfind
    have hkey : e.key = key := by simpa using List.find?_some hfind
    refine ⟨hvalue, _, hranks, ?_⟩
    rw [Option.map_some, without_map_pair, List.map_cons, CacheEntry.pair, hkey]

theorem insert (h : Represents c l) (hcapacity : c.capacity ≠ 0) (key : κ) (value : α) :
    Represents (c.insert key value) (l.insert c.capacity key value) := by
  obtain ⟨es, hes, rfl⟩ := h
  refine ⟨_, hes.insert hcapacity key value, ?_⟩
  rw [← insert_map_pair]

theorem perform (h : Represents c l) (hcapacity : c.capacity ≠ 0) (call : CacheCall κ α) :
    (c.perform call).1 = (l.perform c.capacity call).1 ∧
      Represents (c.perform call).2 (l.perform c.capacity call).2 := by
  cases call with
  | get key =>
    obtain ⟨hvalue, hrest⟩ := h.get hcapacity key
    exact ⟨congrArg CacheReply.found hvalue, hrest⟩
  | insert key value => exact ⟨rfl, h.insert hcapacity key value⟩
  | getOrInsert key compute =>
    have hget := h.get hcapacity key
    have hsame := c.get_capacity key
    rw [perform_getOrInsert, Recency.perform]
    rcases hc : c.get key with ⟨value, d⟩
    rcases hl : l.get key with ⟨value', l'⟩
    rw [hc, hl] at hget
    rw [hc] at hsame
    obtain ⟨rfl, hrest⟩ := hget
    cases value with
    | none =>
      have hroom : d.capacity ≠ 0 := hsame ▸ hcapacity
      have hinsert := hrest.insert hroom key (compute ())
      rw [hsame] at hinsert
      exact ⟨rfl, hinsert⟩
    | some value => exact ⟨rfl, hrest⟩
  | clear =>
    obtain ⟨es, hes, -⟩ := h
    exact ⟨rfl, [], hes.clear, rfl⟩

/-- However the entries are listed at each call, the replies are those of the recency list. -/
theorem performAll (listing : Listing κ α) (n : Nat) (h : Represents c l)
    (hcapacity : c.capacity ≠ 0) (calls : List (CacheCall κ α)) :
    (c.performAll listing n calls).1 = (l.performAll c.capacity calls).1 ∧
      Represents (c.performAll listing n calls).2 (l.performAll c.capacity calls).2 := by
  induction calls generalizing c l n with
  | nil => exact ⟨rfl, h⟩
  | cons call rest ih =>
    obtain ⟨hreply, hnext⟩ := (h.relist listing n).perform hcapacity call
    have hsame := (counts_perform (listing.relist n c) hcapacity call).capacity
    obtain ⟨hreplies, hlast⟩ := ih (n + 1) hnext (fun h0 => hcapacity (hsame.symm.trans h0))
    rw [hsame] at hreplies hlast
    exact ⟨congrArg₂ List.cons hreply hreplies, hlast⟩

end Represents

theorem counts_performAll (listing : Listing κ α) (n : Nat) (c : Cache κ α)
    (hcapacity : c.capacity ≠ 0) (calls : List (CacheCall κ α)) :
    let run := c.performAll listing n calls
    Counts c run.2 (run.1.countP CacheReply.isHit) (run.1.countP CacheReply.isMiss)
      (calls.countP CacheCall.isClear) (run.1.countP CacheReply.isInsertion) := by
  induction calls generalizing c n with
  | nil => exact ⟨rfl, rfl, rfl, rfl, rfl⟩
  | cons call rest ih =>
    have hcounts := counts_perform (listing.relist n c) hcapacity call
    have hrest := ih (n + 1) _ fun h0 => hcapacity (hcounts.capacity.symm.trans h0)
    have hsum := hcounts.trans hrest
    simp only [← countP_cons_toNat] at hsum
    exact ⟨hsum.capacity, hsum.hits, hsum.misses, hsum.generation, hsum.tick⟩

/-- A cache without room never stores anything, so its entries need no listing. -/
theorem performAll_no_room (listing : Listing κ α) (n generation : Nat)
    (calls : List (CacheCall κ α)) :
    performAll listing n { capacity := 0, generation } calls =
      (calls.map CacheCall.unstored,
        { capacity := 0, generation := generation + calls.countP CacheCall.isClear }) := by
  induction calls generalizing n generation with
  | nil => rfl
  | cons call rest ih =>
    have hlisted :
        listing.relist n { capacity := 0, generation } = { capacity := 0, generation } := by
      rw [Listing.relist, (listing.perm n []).eq_nil]
    have hperform : perform { capacity := 0, generation } call =
        (call.unstored, { capacity := 0, generation := generation + call.isClear.toNat }) := by
      cases call <;> rfl
    rw [performAll, hlisted, hperform]
    dsimp only
    rw [ih, countP_cons_toNat, Nat.add_assoc, List.map_cons]

/-- A cache with room for `capacity + 1` keys answers as a recency list of at most as many
different keys, however its entries are listed at each call. Hits, misses and generations count
calls, and the clock counts lookups and insertions. A cache without room keeps nothing and counts
nothing but generations. -/
theorem performAll_eq_recency (listing : Listing κ α) (capacity : Nat)
    (calls : List (CacheCall κ α)) :
    (let (replies, c) := performAll listing 0 (new (capacity + 1)) calls
     let (expected, l) := Recency.performAll (capacity + 1) [] calls
     replies = expected ∧ c.size = l.length ∧ l.length ≤ capacity + 1 ∧ (l.map (·.1)).Nodup ∧
       c.hits = expected.countP CacheReply.isHit ∧ c.misses = expected.countP CacheReply.isMiss ∧
       c.generation = calls.countP CacheCall.isClear ∧
       c.tick = c.hits + c.misses + expected.countP CacheReply.isInsertion) ∧
    performAll listing 0 (new 0) calls =
      (calls.map CacheCall.unstored,
        { capacity := 0, generation := calls.countP CacheCall.isClear }) := by
  refine ⟨?_, (performAll_no_room listing 0 0 calls).trans (by rw [Nat.zero_add])⟩
  have hroom : (new (capacity + 1) : Cache κ α).capacity ≠ 0 := Nat.succ_ne_zero capacity
  have hrun : (performAll listing 0 (new (capacity + 1)) calls).1 =
        (Recency.performAll (capacity + 1) [] calls).1 ∧
      Represents (performAll listing 0 (new (capacity + 1)) calls).2
        (Recency.performAll (capacity + 1) [] calls).2 :=
    Represents.performAll listing 0 ⟨[], Ranks.new (capacity + 1), rfl⟩ hroom calls
  have hcounts := counts_performAll listing 0 (new (capacity + 1)) hroom calls
  rcases hc : performAll listing 0 (new (capacity + 1)) calls with ⟨replies, c⟩
  rcases hl : Recency.performAll (capacity + 1) [] calls with ⟨expected, l⟩
  rw [hc, hl] at hrun
  rw [hc] at hcounts
  obtain ⟨rfl, es, hes, rfl⟩ := hrun
  obtain ⟨hcapacity, hhits, hmisses, hgeneration, htick⟩ := hcounts
  simp only [new, Nat.zero_add] at hcapacity hhits hmisses hgeneration htick
  refine ⟨rfl, ?_, ?_, ?_, hhits, hmisses, hgeneration, ?_⟩
  · rw [List.length_map]
    exact hes.length_eq
  · rw [List.length_map, ← hcapacity]
    exact hes.length_le
  · rw [List.map_map]
    exact hes.keys
  · rw [htick, hhits, hmisses]

/-- Of two keys the one that was looked up last stays when a third one comes. -/
theorem performAll_alternating_keeps_recent :
    let calls : List (CacheCall Nat Nat) :=
      [.insert 1 10, .insert 2 20, .get 1, .getOrInsert 3 fun _ => 30, .get 2, .get 1]
    let (replies, c) := performAll .alternating 0 (new 2) calls
    replies = [.inserted, .inserted, .found (some 10), .provided 30 true, .found none,
      .found (some 10)] ∧ c.size = 2 ∧ c.hits = 2 ∧ c.misses = 2 ∧ c.tick = 7 := by
  intro calls
  obtain ⟨hreplies, hsize, -, -, hhits, hmisses, -, htick⟩ :=
    (performAll_eq_recency .alternating 1 calls).1
  exact ⟨hreplies, hsize, hhits, hmisses, htick⟩

end Cache

end SubmissionGrader
