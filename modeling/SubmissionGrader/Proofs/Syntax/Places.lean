import SubmissionGrader.Proofs.Syntax.Tokens

/-!
# Places in a source and in a concrete tree

A place in a concrete tree is the path of child indices that leads to it (`Concrete.descendant?`).
In a tree whose ranges are nested (`Concrete.isNested`) the range of a node bounds the ranges of all
below it. `Span.Moves` says that a part of a source stands some bytes further on in another one.
-/

namespace SubmissionGrader.Syntax

open Text (byteCount)

namespace Span

def shift (n : Nat) (s : Span) : Span := ⟨s.start + n, s.stop + n⟩

/-- Whether a range lies within this one. -/
def covers (s r : Span) : Bool := decide (s.start ≤ r.start) && decide (r.stop ≤ s.stop)

theorem covers_iff {s r : Span} : s.covers r = true ↔ s.start ≤ r.start ∧ r.stop ≤ s.stop := by
  rw [covers, Bool.and_eq_true, decide_eq_true_iff, decide_eq_true_iff]

theorem covers_refl (s : Span) : s.covers s = true := covers_iff.2 ⟨Nat.le_refl _, Nat.le_refl _⟩

theorem covers_trans {s r q : Span} (h : s.covers r = true) (h' : r.covers q = true) :
    s.covers q = true := by
  rw [covers_iff] at *
  omega

theorem text_append_left {cs : List Char} {s : Span} (hle : s.start ≤ s.stop)
    (hstop : s.stop ≤ byteCount cs) (more : List Char) : s.text (cs ++ more) = s.text cs := by
  rw [text, text, suffixFrom_append (Nat.le_trans hle hstop)]
  cases hsuffix : suffixFrom cs s.start with
  | none => rfl
  | some ds =>
    have hcount := byteCount_of_suffixFrom hsuffix
    rw [Option.map_some]
    dsimp only
    rw [prefixOf_append (by omega)]

theorem text_append_right (cs ds : List Char) (s : Span) :
    (s.shift (byteCount cs)).text (cs ++ ds) = s.text ds := by
  have hsuffix : suffixFrom (cs ++ ds) (s.start + byteCount cs) = suffixFrom ds s.start := by
    rw [Nat.add_comm, suffixFrom_add (suffixFrom_byteCount_append cs ds)]
  rw [text, text, shift, hsuffix, Nat.add_sub_add_right]

/-- The text of every range within this one stands `n` bytes further on in another source. -/
def Moves (source other : List Char) (n : Nat) (s : Span) : Prop :=
  ∀ r : Span, s.covers r = true → r.start ≤ r.stop → (r.shift n).text other = r.text source

theorem Moves.mono {source other : List Char} {n : Nat} {s r : Span} (h : Moves source other n s)
    (hcovers : s.covers r = true) : Moves source other n r :=
  fun _ hr hle => h _ (covers_trans hcovers hr) hle

@[simp] theorem shift_zero (s : Span) : s.shift 0 = s := rfl

theorem moves_append_left (cs more otherMore : List Char) :
    Moves (cs ++ more) (cs ++ otherMore) 0 ⟨0, byteCount cs⟩ := by
  intro r hcovers hle
  have hstop := (covers_iff.1 hcovers).2
  rw [shift_zero, text_append_left hle hstop, text_append_left hle hstop]

theorem moves_self (cs : List Char) (s : Span) : Moves cs cs 0 s :=
  fun _ _ _ => rfl

/-- Other text in front moves what stands behind it. -/
theorem Moves.behind {cs ds front otherFront : List Char} {n stop : Nat}
    (h : Moves cs ds 0 ⟨0, stop⟩) (hfront : byteCount otherFront = byteCount front + n) :
    Moves (front ++ cs) (otherFront ++ ds) n ⟨byteCount front, byteCount front + stop⟩ := by
  intro r hcovers hle
  obtain ⟨hstart, hstop⟩ := covers_iff.1 hcovers
  dsimp only at hstart hstop
  -- The range, counted from the end of the text in front.
  obtain ⟨q, rfl⟩ : ∃ q : Span, r = q.shift (byteCount front) :=
    ⟨⟨r.start - byteCount front, r.stop - byteCount front⟩, by
      rw [shift, Nat.sub_add_cancel hstart, Nat.sub_add_cancel (Nat.le_trans hstart hle)]⟩
  have hshift : (q.shift (byteCount front)).shift n = q.shift (byteCount otherFront) := by
    rw [shift, shift, shift, hfront, Nat.add_assoc, Nat.add_assoc]
  have hcovers' : (⟨0, stop⟩ : Span).covers q = true := by
    rw [covers_iff]
    simp only [shift] at hstop ⊢
    omega
  have hle' : q.start ≤ q.stop := by
    simp only [shift] at hle
    omega
  have hq := h q hcovers' hle'
  rw [hshift, text_append_right, text_append_right, ← hq, shift_zero]

end Span

namespace Concrete

def descendant? : List Nat → Concrete → Option Concrete
  | [], t => some t
  | i :: path, t => t.children[i]?.bind (descendant? path)

/-- The nodes that a path of child indices passes, outermost first, without the one it leads to. -/
def passed : List Nat → Concrete → List Concrete
  | [], _ => []
  | i :: path, t => t :: (t.children[i]?.map (passed path)).getD []

def between (path : List Nat) (t : Concrete) : List Concrete := (t.passed path).tail

/-- On the way along a path stand the nodes that its proper beginnings lead to. -/
theorem mem_passed {t u : Concrete} {p path : List Nat} (hu : t.descendant? p = some u)
    (hp : p <+: path) (hne : p ≠ path) : u ∈ t.passed path := by
  induction path generalizing t p with
  | nil => exact absurd (List.prefix_nil.1 hp) hne
  | cons i path ih =>
    cases p with
    | nil =>
      cases hu
      exact List.mem_cons_self
    | cons j p =>
      obtain ⟨rfl, hrest⟩ := List.cons_prefix_cons.1 hp
      obtain ⟨c, hc, hu⟩ := Option.bind_eq_some_iff.1 hu
      rw [passed, hc]
      exact List.mem_cons_of_mem _ (ih hu hrest fun heq => hne (congrArg (j :: ·) heq))

theorem mem_between {t u : Concrete} {p path : List Nat} (hu : t.descendant? p = some u)
    (hp : p <+: path) (hne : p ≠ path) (hbelow : p ≠ []) : u ∈ t.between path := by
  obtain ⟨j, p, rfl⟩ := List.exists_cons_of_ne_nil hbelow
  obtain ⟨rest, rfl⟩ := hp
  obtain ⟨c, hc, hu⟩ := Option.bind_eq_some_iff.1 hu
  rw [between, List.cons_append, passed, hc]
  exact mem_passed hu ⟨rest, rfl⟩ fun heq => hne (congrArg (j :: ·) heq)

mutual

def decEq : (t u : Concrete) → Decidable (t = u)
  | node h ts, node k us =>
    match decEqAll ts us with
    | isTrue hts =>
      if hhead : h = k then isTrue (congr (congrArg node hhead) hts)
      else isFalse fun heq => hhead (node.inj heq).1
    | isFalse hts => isFalse fun heq => hts (node.inj heq).2

def decEqAll : (ts us : List Concrete) → Decidable (ts = us)
  | [], [] => isTrue rfl
  | [], _ :: _ => isFalse (List.cons_ne_nil _ _).symm
  | _ :: _, [] => isFalse (List.cons_ne_nil _ _)
  | t :: ts, u :: us =>
    match decEq t u, decEqAll ts us with
    | isTrue ht, isTrue hts => isTrue (congr (congrArg List.cons ht) hts)
    | isFalse ht, _ => isFalse fun heq => ht (List.cons.inj heq).1
    | _, isFalse hts => isFalse fun heq => hts (List.cons.inj heq).2

end

instance : DecidableEq Concrete := decEq

mutual

/-- Whether the children of every node follow one another within its range. -/
def isNested : Concrete → Bool
  | node head children =>
    decide (head.span.start ≤ head.span.stop) && children.all (head.span.covers ·.span) &&
      decide (children.Pairwise fun a b => a.span.stop ≤ b.span.start) && areNested children

/-- Whether the children of every node of several trees follow one another within its range. -/
def areNested : List Concrete → Bool
  | [] => true
  | t :: rest => isNested t && areNested rest

end

theorem areNested_iff {ts : List Concrete} :
    areNested ts = true ↔ ∀ t ∈ ts, t.isNested = true := by
  induction ts with
  | nil => simp [areNested]
  | cons t rest ih => rw [areNested, Bool.and_eq_true, ih, List.forall_mem_cons]

theorem isNested_iff {t : Concrete} : t.isNested = true ↔ t.span.start ≤ t.span.stop ∧
    (∀ c ∈ t.children, t.span.covers c.span = true) ∧
    (t.children.Pairwise fun a b => a.span.stop ≤ b.span.start) ∧
    ∀ c ∈ t.children, c.isNested = true := by
  cases t with
  | node head children =>
    rw [isNested, Bool.and_eq_true, Bool.and_eq_true, Bool.and_eq_true, decide_eq_true_iff,
      decide_eq_true_iff, List.all_eq_true, areNested_iff, and_assoc, and_assoc]
    rfl

theorem start_le_stop {t : Concrete} (h : t.isNested = true) : t.span.start ≤ t.span.stop :=
  (isNested_iff.1 h).1

theorem isNested_descendant? {t x : Concrete} {path : List Nat} (h : t.isNested = true)
    (hx : t.descendant? path = some x) : x.isNested = true ∧ t.span.covers x.span = true := by
  induction path generalizing t with
  | nil =>
    cases hx
    exact ⟨h, Span.covers_refl _⟩
  | cons i path ih =>
    obtain ⟨c, hc, hx⟩ := Option.bind_eq_some_iff.1 hx
    obtain ⟨-, hcovers, -, hnested⟩ := isNested_iff.1 h
    have hmem := List.mem_of_getElem? hc
    obtain ⟨hxnested, hxcovers⟩ := ih (hnested c hmem) hx
    exact ⟨hxnested, Span.covers_trans (hcovers c hmem) hxcovers⟩

/-- Of two children the one in front ends before the other one starts. -/
theorem stop_le_start {t a b : Concrete} {i j : Nat} (h : t.isNested = true)
    (ha : t.children[i]? = some a) (hb : t.children[j]? = some b) (hij : i < j) :
    a.span.stop ≤ b.span.start := by
  obtain ⟨hi, rfl⟩ := List.getElem?_eq_some_iff.1 ha
  obtain ⟨hj, rfl⟩ := List.getElem?_eq_some_iff.1 hb
  exact List.pairwise_iff_getElem.1 (isNested_iff.1 h).2.2.1 i j hi hj hij

end Concrete

end SubmissionGrader.Syntax
