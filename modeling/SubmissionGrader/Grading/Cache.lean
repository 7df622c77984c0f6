/-!
# A cache that forgets what was used least recently

Every access is a tick of the clock, and an entry remembers the tick at which it was last used. When
the cache is full, the entry with the earliest tick makes room for a new one. A cache of capacity
zero holds nothing and counts nothing.
-/

namespace SubmissionGrader

/-- A key with its value, and the tick at which it was last used. -/
structure CacheEntry (κ α : Type) where
  key : κ
  value : α
  lastUsed : Nat
  deriving DecidableEq, Repr

/-- A cache with what happened to it so far. The order of the entries means nothing. -/
structure Cache (κ α : Type) where
  capacity : Nat
  entries : List (CacheEntry κ α) := []
  tick : Nat := 0
  generation : Nat := 0
  hits : Nat := 0
  misses : Nat := 0
  deriving DecidableEq, Repr

namespace Cache

variable {κ α : Type}

/-- The entry that was last used before all others. -/
def oldest? : List (CacheEntry κ α) → Option (CacheEntry κ α)
  | [] => none
  | e :: rest =>
    match oldest? rest with
    | none => some e
    | some o => some (if e.lastUsed ≤ o.lastUsed then e else o)

theorem oldest?_eq_none_iff {entries : List (CacheEntry κ α)} :
    oldest? entries = none ↔ entries = [] := by
  cases entries with
  | nil => simp [oldest?]
  | cons e rest => cases h : oldest? rest <;> simp [oldest?, h]

theorem oldest?_eq_some {entries : List (CacheEntry κ α)} {o : CacheEntry κ α}
    (h : oldest? entries = some o) : o ∈ entries ∧ ∀ e ∈ entries, o.lastUsed ≤ e.lastUsed := by
  induction entries generalizing o with
  | nil => cases h
  | cons e rest ih =>
    cases hrest : oldest? rest with
    | none =>
      obtain rfl := oldest?_eq_none_iff.1 hrest
      simp_all [oldest?]
    | some p =>
      obtain ⟨hp, hle⟩ := ih hrest
      simp only [oldest?, hrest, Option.some.injEq] at h
      by_cases hep : e.lastUsed ≤ p.lastUsed
      · obtain rfl := (if_pos hep).symm.trans h
        exact ⟨List.mem_cons_self, List.forall_mem_cons.2
          ⟨Nat.le_refl _, fun x hx => Nat.le_trans hep (hle x hx)⟩⟩
      · obtain rfl := (if_neg hep).symm.trans h
        exact ⟨List.mem_cons_of_mem e hp, List.forall_mem_cons.2 ⟨by omega, hle⟩⟩

variable [DecidableEq κ]

def new (capacity : Nat) : Cache κ α := { capacity }

def size (c : Cache κ α) : Nat := c.entries.length

def isEmpty (c : Cache κ α) : Bool := c.entries.isEmpty

def find? (c : Cache κ α) (key : κ) : Option (CacheEntry κ α) := c.entries.find? (·.key = key)

def entriesWithout (c : Cache κ α) (key : κ) : List (CacheEntry κ α) :=
  c.entries.filter (·.key ≠ key)

/-- The value of a key, which counts as used now. -/
def get (c : Cache κ α) (key : κ) : Option α × Cache κ α :=
  if c.capacity = 0 then (none, c)
  else
    let tick := c.tick + 1
    match c.find? key with
    | some e =>
      (some e.value,
        { c with
          tick, hits := c.hits + 1
          entries := { e with lastUsed := tick } :: c.entriesWithout key })
    | none => (none, { c with tick, misses := c.misses + 1 })

theorem get_capacity (c : Cache κ α) (key : κ) : (c.get key).2.capacity = c.capacity := by
  rw [get]
  split
  · rfl
  · split <;> rfl

/-- The entries with room for one more. -/
def evicted (c : Cache κ α) : List (CacheEntry κ α) :=
  match oldest? c.entries with
  | some o => c.entriesWithout o.key
  | none => c.entries

/-- Gives a key a value, which counts as used now. A new key may push out an old one. -/
def insert (c : Cache κ α) (key : κ) (value : α) : Cache κ α :=
  if c.capacity = 0 then c
  else
    let tick := c.tick + 1
    let others :=
      if (c.find? key).isSome then c.entriesWithout key
      else if c.capacity ≤ c.entries.length then c.evicted
      else c.entries
    { c with tick, entries := ⟨key, value, tick⟩ :: others }

theorem insert_capacity (c : Cache κ α) (key : κ) (value : α) :
    (c.insert key value).capacity = c.capacity := by
  rw [insert]
  split <;> rfl

/-- The value of a key, which is computed and inserted if it is not there, and whether it was
computed. -/
def getOrInsert (c : Cache κ α) (key : κ) (compute : Unit → α) : α × Bool × Cache κ α :=
  match c.get key with
  | (some value, c) => (value, false, c)
  | (none, c) =>
    let value := compute ()
    (value, true, c.insert key value)

def clear (c : Cache κ α) : Cache κ α :=
  { c with entries := [], generation := c.generation + 1 }

def shown (c : Cache κ α) : String :=
  "ContextCache \x7b capacity: " ++ toString c.capacity ++ ", stats: CacheStats \x7b hits: " ++
    toString c.hits ++ ", misses: " ++ toString c.misses ++ ", len: " ++ toString c.size ++
    ", generation: " ++ toString c.generation ++ " \x7d \x7d"

end Cache

end SubmissionGrader
