import Mathlib.Data.List.Infix
import SubmissionGrader.Config.Interpolation
import SubmissionGrader.Proofs.Syntax.Slices

/-!
# One pass over the references of a text

A reference that begins in a text either ends in it or is copied. Where every reference of a front
part ends within the part (`ReferencesEnd`), the reader is outside of references behind it, so the
parts are read apart (`scan_append`), and a value is not read at all (`scan_reference`).

The same pass by byte offsets looks for the next reference and its end, copies what is in front of
it, and goes on behind it: `round?`. Its rounds come to an end with the interpolated text, and no
slice on the way has an end out of range or within a character (`replaces_iff`).
-/

namespace SubmissionGrader.Environment

open Syntax (suffixFrom charactersBetween? suffixFrom_byteCount_append charactersBetween?_append)
open Text (byteCount)

variable (env : Environment)

/-! ## References in a text -/

/-- Every reference that begins in the text also ends in it. -/
def ReferencesEnd (cs : List Char) : Prop :=
  ∀ front behind, cs = front ++ '$' :: '{' :: behind → '}' ∈ behind

/-- No reference that begins in the text ends in it. -/
def NoReferenceEnds (cs : List Char) : Prop :=
  ∀ front behind, cs = front ++ '$' :: '{' :: behind → '}' ∉ behind

theorem ReferencesEnd.of_cons {c : Char} {cs : List Char} (h : ReferencesEnd (c :: cs)) :
    ReferencesEnd cs :=
  fun front behind heq => h (c :: front) behind (by rw [heq, List.cons_append])

theorem NoReferenceEnds.of_cons {c : Char} {cs : List Char} (h : NoReferenceEnds (c :: cs)) :
    NoReferenceEnds cs :=
  fun front behind heq => h (c :: front) behind (by rw [heq, List.cons_append])

/-! ## Reading -/

theorem scan_cons {c : Char} {cs : List Char} (h : c = '$' → cs.head? ≠ some '{') :
    scan env none (c :: cs) = c :: scan env none cs := by
  rw [scan]
  rintro rest rfl rfl
  exact h rfl rfl

/-- A reference is replaced by its value, and the text goes on behind it. -/
theorem scan_reference {name : List Char} (hname : '}' ∉ name) (seen rest : List Char) :
    scan env (some seen) (name ++ '}' :: rest) =
      env.value (seen.reverse ++ name) ++ scan env none rest := by
  induction name generalizing seen with
  | nil => rw [List.nil_append, scan, if_pos rfl, List.append_nil]
  | cons c name ih =>
    have hc : c ≠ '}' := (List.ne_of_not_mem_cons hname).symm
    rw [List.cons_append, scan, if_neg hc, ih (List.not_mem_of_not_mem_cons hname),
      List.reverse_cons, List.append_assoc, List.singleton_append]

/-- A reference that does not end is copied. -/
theorem scan_open_reference {cs : List Char} (h : '}' ∉ cs) (seen : List Char) :
    scan env (some seen) cs = '$' :: '{' :: (seen.reverse ++ cs) := by
  induction cs generalizing seen with
  | nil => rw [scan, List.append_nil]
  | cons c cs ih =>
    have hc : c ≠ '}' := (List.ne_of_not_mem_cons h).symm
    rw [scan, if_neg hc, ih (List.not_mem_of_not_mem_cons h), List.reverse_cons, List.append_assoc,
      List.singleton_append]

/-- A text in which no reference ends is copied. -/
theorem scan_of_noReferenceEnds {cs : List Char} (h : NoReferenceEnds cs) :
    scan env none cs = cs := by
  match cs with
  | [] => rfl
  | c :: cs =>
    by_cases hopens : c = '$' ∧ cs.head? = some '{'
    · obtain ⟨rfl, hhead⟩ := hopens
      obtain ⟨behind, rfl⟩ := List.head?_eq_some_iff.1 hhead
      rw [scan, scan_open_reference env (h [] behind rfl), List.reverse_nil, List.nil_append]
    · rw [scan_cons env fun hc hhead => hopens ⟨hc, hhead⟩, scan_of_noReferenceEnds h.of_cons]

theorem getLast?_cons_of_getLast? {c d : Char} {cs : List Char} (h : cs.getLast? = some d) :
    (c :: cs).getLast? = some d := by
  rw [List.getLast?_cons, h, Option.getD_some]

/-- Behind a part in which every reference ends, the reader is outside of references. The parts are
cut neither within a reference nor within its mark. -/
theorem scan_append {state : Option (List Char)} {a b : List Char} (hends : ReferencesEnd a)
    (hstate : state.isSome = true → '}' ∈ a)
    (hcut : a.getLast? = some '$' → b.head? ≠ some '{') :
    scan env state (a ++ b) = scan env state a ++ scan env none b := by
  fun_induction scan env state a with
  | case1 => rfl
  | case2 name => simp at hstate
  | case3 rest ih =>
    have hend : '}' ∈ rest := hends [] rest rfl
    rw [List.cons_append, List.cons_append, scan, ih hends.of_cons.of_cons (fun _ => hend)
      fun hlast => hcut (getLast?_cons_of_getLast? (getLast?_cons_of_getLast? hlast))]
  | case4 c rest hopens ih =>
    -- If this character is the last one, it is the cut that keeps a mark from being made.
    have hcopied : c = '$' → (rest ++ b).head? ≠ some '{' := by
      rintro rfl hhead
      cases rest with
      | nil => exact hcut rfl hhead
      | cons d rest =>
        obtain rfl : d = '{' := Option.some.inj hhead
        exact hopens rest rfl rfl
    rw [List.cons_append, scan_cons env hcopied, ih hends.of_cons nofun
      fun hlast => hcut (getLast?_cons_of_getLast? hlast), List.cons_append]
  | case5 name rest ih =>
    rw [List.cons_append, scan, if_pos rfl, ih hends.of_cons nofun
      fun hlast => hcut (getLast?_cons_of_getLast? hlast), List.append_assoc]
  | case6 name c rest hc ih =>
    have hend : '}' ∈ rest := (List.mem_cons.1 (hstate rfl)).resolve_left (Ne.symm hc)
    rw [List.cons_append, scan, if_neg hc, ih hends.of_cons (fun _ => hend)
      fun hlast => hcut (getLast?_cons_of_getLast? hlast)]

/-- A value is copied as it is between what the parts around its reference give. -/
theorem scan_append_reference {a name : List Char} (hends : ReferencesEnd a) (hname : '}' ∉ name)
    (b : List Char) :
    scan env none (a ++ '$' :: '{' :: (name ++ '}' :: b)) =
      scan env none a ++ (env.value name ++ scan env none b) := by
  have hstate : (none : Option (List Char)).isSome = true → '}' ∈ a := nofun
  rw [scan_append env hends hstate (by simp), scan, scan_reference env hname, List.reverse_nil,
    List.nil_append]

/-! ## Rounds by byte offsets -/

def offsetOf? (part : List Char) : List Char → Option Nat
  | [] => if part.isEmpty then some 0 else none
  | c :: rest =>
    if part.isPrefixOf (c :: rest) then some 0
    else (offsetOf? part rest).map (c.utf8Size + ·)

/-- What a round makes of the text that is left: the end of the result, or the next part of it and
the text that is left then. -/
inductive Round where
  | last (text : List Char)
  | replaced (text rest : List Char)

/-- A round: everything up to the end of the next reference is cut off the text. There is none if an
end of a slice is out of range or within a character. -/
def round? (rest : List Char) : Option Round :=
  match offsetOf? ['$', '{'] rest with
  | none => some (.last rest)
  | some start => do
    let reference ← suffixFrom rest start
    match offsetOf? ['}'] reference with
    | none => return .last rest
    | some length =>
      let before ← charactersBetween? rest 0 start
      let name ← charactersBetween? rest (start + 2) (start + length)
      let behind ← suffixFrom rest (start + length + 1)
      return .replaced (before ++ env.value name) behind

/-- Round after round, the text that is left comes to its end with a result. -/
inductive Replaces : List Char → List Char → Prop
  | last {rest text : List Char} (h : round? env rest = some (.last text)) : Replaces rest text
  | replaced {rest text behind result : List Char}
      (h : round? env rest = some (.replaced text behind)) (hnext : Replaces behind result) :
      Replaces rest (text ++ result)

theorem absent_of_offsetOf? {part cs : List Char} (h : offsetOf? part cs = none) :
    ¬part <:+: cs := by
  induction cs with
  | nil =>
    intro hpart
    rw [offsetOf?, if_pos (List.isEmpty_iff.2 (List.infix_nil.1 hpart))] at h
    cases h
  | cons c cs ih =>
    rw [offsetOf?] at h
    split at h
    next => cases h
    next hstarts =>
      rw [List.infix_cons_iff, ← List.isPrefixOf_iff_prefix]
      exact not_or.2 ⟨hstarts, ih (Option.map_eq_none_iff.1 h)⟩

/-- The part stands at its offset, and nowhere in front of it. -/
theorem exists_append_of_offsetOf? {part cs : List Char} {n : Nat} (hne : part ≠ [])
    (h : offsetOf? part cs = some n) :
    ∃ front behind, cs = front ++ (part ++ behind) ∧ byteCount front = n ∧ ¬part <:+: front := by
  induction cs generalizing n with
  | nil =>
    rw [offsetOf?, if_neg (mt List.isEmpty_iff.1 hne)] at h
    cases h
  | cons c cs ih =>
    rw [offsetOf?] at h
    split at h
    next hstarts =>
      obtain ⟨behind, hbehind⟩ := List.isPrefixOf_iff_prefix.1 hstarts
      obtain rfl := Option.some.inj h
      exact ⟨[], behind, hbehind.symm, rfl, mt List.infix_nil.1 hne⟩
    next hstarts =>
      obtain ⟨m, hm, rfl⟩ := Option.map_eq_some_iff.1 h
      obtain ⟨front, behind, rfl, hcount, hfront⟩ := ih hm
      refine ⟨c :: front, behind, rfl, by rw [Text.byteCount_cons, hcount], ?_⟩
      rw [List.infix_cons_iff]
      refine not_or.2 ⟨fun hstart => hstarts ?_, hfront⟩
      rw [List.isPrefixOf_iff_prefix, ← List.cons_append]
      exact hstart.trans (List.prefix_append _ _)

theorem noReferenceEnds_of_absent {cs : List Char} (h : ¬['$', '{'] <:+: cs) :
    NoReferenceEnds cs :=
  fun front behind heq => absurd ⟨front, behind, by simp [heq]⟩ h

theorem referencesEnd_of_absent {cs : List Char} (h : ¬['$', '{'] <:+: cs) : ReferencesEnd cs :=
  fun front behind heq => absurd ⟨front, behind, by simp [heq]⟩ h

/-- The text in front of the first reference is copied. -/
theorem scan_append_mark {front : List Char} (hfront : ¬['$', '{'] <:+: front)
    (behind : List Char) :
    scan env none (front ++ '$' :: '{' :: behind) = front ++ scan env (some []) behind := by
  have hstate : (none : Option (List Char)).isSome = true → '}' ∈ front := nofun
  rw [scan_append env (referencesEnd_of_absent hfront) hstate (by simp),
    scan_of_noReferenceEnds env (noReferenceEnds_of_absent hfront), scan]

theorem exists_name_of_append {behind reference rest : List Char}
    (h : '$' :: '{' :: behind = reference ++ '}' :: rest) :
    ∃ name, reference = '$' :: '{' :: name ∧ behind = name ++ '}' :: rest := by
  match reference with
  | [] => simp at h
  | [c] => simp at h
  | c :: d :: name =>
    obtain ⟨hc, htail⟩ := List.cons.inj h
    obtain ⟨hd, hbehind⟩ := List.cons.inj htail
    exact ⟨name, by rw [hc, hd], hbehind⟩

/-- The slices of a round, on a text that is cut by a reference. -/
theorem round?_reference {front name : List Char} (rest : List Char)
    (hstart : offsetOf? ['$', '{'] (front ++ '$' :: '{' :: (name ++ '}' :: rest)) =
      some (byteCount front))
    (hlength : offsetOf? ['}'] ('$' :: '{' :: (name ++ '}' :: rest)) =
      some (byteCount ('$' :: '{' :: name))) :
    round? env (front ++ '$' :: '{' :: (name ++ '}' :: rest)) =
      some (.replaced (front ++ env.value name) rest) := by
  have hbefore := charactersBetween?_append [] front ('$' :: '{' :: (name ++ '}' :: rest))
  have hname := charactersBetween?_append (front ++ ['$', '{']) name ('}' :: rest)
  have hbehind := suffixFrom_byteCount_append (front ++ '$' :: '{' :: (name ++ ['}'])) rest
  have hmark : byteCount (front ++ ['$', '{']) = byteCount front + 2 := by
    rw [Text.byteCount_append]
    rfl
  have hstop : byteCount (front ++ ['$', '{'] ++ name) =
      byteCount front + byteCount ('$' :: '{' :: name) := by
    simp only [Text.byteCount_append, Text.byteCount_cons, Text.byteCount_nil]
    omega
  have hend : byteCount (front ++ '$' :: '{' :: (name ++ ['}'])) =
      byteCount front + byteCount ('$' :: '{' :: name) + 1 := by
    have hbrace : ('}' : Char).utf8Size = 1 := rfl
    simp only [Text.byteCount_append, Text.byteCount_cons, Text.byteCount_nil, hbrace]
    omega
  rw [hmark, hstop] at hname
  rw [hend] at hbehind
  simp only [List.nil_append, List.append_assoc, List.cons_append, Text.byteCount_nil]
    at hbefore hname hbehind
  rw [round?, hstart]
  dsimp only
  rw [suffixFrom_byteCount_append, Option.bind_eq_bind, Option.bind_some, hlength]
  dsimp only
  rw [hbefore, Option.bind_some, hname, Option.bind_some, hbehind, Option.bind_some]
  rfl

/-- A round always succeeds. It gives what the reader makes of the text that it cuts off. -/
theorem round?_spec (rest : List Char) :
    round? env rest = some (.last (scan env none rest)) ∨
      ∃ text behind, round? env rest = some (.replaced text behind) ∧
        behind.length < rest.length ∧ scan env none rest = text ++ scan env none behind := by
  cases hstart : offsetOf? ['$', '{'] rest with
  | none =>
    have hcopied := noReferenceEnds_of_absent (absent_of_offsetOf? hstart)
    exact .inl (by rw [round?, hstart, scan_of_noReferenceEnds env hcopied])
  | some start =>
    obtain ⟨front, behind, rfl, rfl, hfront⟩ := exists_append_of_offsetOf? (by simp) hstart
    rw [List.cons_append, List.singleton_append] at hstart ⊢
    cases hlength : offsetOf? ['}'] ('$' :: '{' :: behind) with
    | none =>
      have hend : '}' ∉ '$' :: '{' :: behind :=
        mt (List.singleton_infix_iff _ _).2 (absent_of_offsetOf? hlength)
      have hopen : '}' ∉ behind := fun hmem => hend (by simp [hmem])
      refine .inl ?_
      rw [round?, hstart, scan_append_mark env hfront, scan_open_reference env hopen]
      dsimp only
      rw [suffixFrom_byteCount_append, Option.bind_eq_bind, Option.bind_some, hlength]
      rfl
    | some length =>
      obtain ⟨reference, rest, heq, rfl, hreference⟩ := exists_append_of_offsetOf? (by simp) hlength
      rw [List.singleton_append] at heq
      obtain ⟨name, rfl, rfl⟩ := exists_name_of_append heq
      have hname : '}' ∉ name := fun hmem =>
        hreference ((List.singleton_infix_iff _ _).2 (by simp [hmem]))
      refine .inr ⟨_, rest, round?_reference env rest hstart hlength, ?_, ?_⟩
      · simp only [List.length_append, List.length_cons]
        omega
      · rw [scan_append_mark env hfront, scan_reference env hname, List.reverse_nil,
          List.nil_append, List.append_assoc]

theorem replaces_scan (rest : List Char) : Replaces env rest (scan env none rest) := by
  rcases round?_spec env rest with hlast | ⟨text, behind, hround, hlt, hscan⟩
  · exact .last hlast
  · rw [hscan]
    exact .replaced hround (replaces_scan behind)
termination_by rest.length

/-- The rounds come to an end with what the reader gives, and with nothing else. -/
theorem replaces_iff {rest result : List Char} :
    Replaces env rest result ↔ result = scan env none rest := by
  constructor
  · intro h
    induction h with
    | @last rest text h =>
      rcases round?_spec env rest with hlast | ⟨_, _, hround, -⟩
      · exact Round.last.inj (Option.some.inj (h.symm.trans hlast))
      · cases h.symm.trans hround
    | @replaced rest text behind result h _ ih =>
      rcases round?_spec env rest with hlast | ⟨_, _, hround, -, hscan⟩
      · cases h.symm.trans hlast
      · obtain ⟨rfl, rfl⟩ := Round.replaced.inj (Option.some.inj (h.symm.trans hround))
        rw [hscan, ih]
  · rintro rfl
    exact replaces_scan env rest

/-- Interpolation is a single pass from left to right. By byte offsets it is made of rounds that
come to an end, and cut the text only between characters. Where every reference of a front part ends
within it, and the cut is not within a mark, the parts of a text give the parts of the result; a
text in which no reference ends is copied; and the value of a reference is copied as it is, whatever
it holds. -/
theorem interpolate_single_pass (env : Environment) (text : String) :
    (∀ result, Replaces env text.toList result ↔ result = (env.interpolate text).toList) ∧
    (∀ a b : String, text = a ++ b → ReferencesEnd a.toList →
      ¬(a.toList.getLast? = some '$' ∧ b.toList.head? = some '{') →
        env.interpolate text = env.interpolate a ++ env.interpolate b) ∧
    (NoReferenceEnds text.toList → env.interpolate text = text) ∧
    (∀ a name b : String, text = a ++ "$\x7b" ++ name ++ "\x7d" ++ b → ReferencesEnd a.toList →
      '}' ∉ name.toList →
        env.interpolate text = env.interpolate a ++ (env name).getD "" ++ env.interpolate b) := by
  refine ⟨?_, ?_, ?_, ?_⟩
  · intro result
    rw [interpolate, String.toList_ofList]
    exact replaces_iff env
  · rintro a b rfl hends hcut
    have hstate : (none : Option (List Char)).isSome = true → '}' ∈ a.toList := nofun
    rw [interpolate, interpolate, interpolate, String.toList_append,
      scan_append env hends hstate fun hlast hhead => hcut ⟨hlast, hhead⟩, String.ofList_append]
  · intro hnone
    rw [interpolate, scan_of_noReferenceEnds env hnone, String.ofList_toList]
  · rintro a name b rfl hends hname
    have htext : (a ++ "$\x7b" ++ name ++ "\x7d" ++ b).toList =
        a.toList ++ '$' :: '{' :: (name.toList ++ '}' :: b.toList) := by
      simp
    rw [interpolate, interpolate, interpolate, htext, scan_append_reference env hends hname, value,
      String.ofList_append, String.ofList_append, String.ofList_toList, String.ofList_toList,
      String.append_assoc]

/-- A value that looks like a reference. -/
example : (ofList [("A", some "$\x7bB\x7d"), ("B", some "b")]).interpolate "$\x7bA\x7d$\x7bB\x7d" =
    "$\x7bB\x7db" := by
  decide +kernel

end SubmissionGrader.Environment
