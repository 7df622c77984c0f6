import SubmissionGrader.Proofs.Checker.Tokens
import SubmissionGrader.Proofs.Syntax.Slices

/-!
# Reading tokens from slices

The reader of tokens needs no more than a byte offset: `readAt?` cuts slices off the text, and has
no result if one of them is out of range or begins or ends within a character. From an offset
between two characters it gives what `nextLexeme` gives (`readAt?_append`). A run reads again and
again, each time behind the token before (`Run`). It ends, and the white space and the tokens of its
calls are the text that it has passed (`Run.exists_pieces`).
-/

namespace SubmissionGrader.Checker

open Text (byteCount)
open Syntax (suffixFrom prefixOf charactersBetween? suffixFrom_byteCount_append
  prefixOf_byteCount_append charactersBetween?_append isValid_iff_exists_prefix byteCount_toList)

/-! ## A call of the reader -/

/-- What a call of the reader gives. Behind a token, the next call goes on at its stop. -/
inductive Reading where
  | finish (offset : Nat)
  | fault (offset : Nat) (cause : Fault)
  | token (token : Token) (start stop : Nat)
  deriving DecidableEq, Repr

/-- The lexeme without the text behind it. -/
def Lexeme.reading : Lexeme → Reading
  | finish offset => .finish offset
  | fault offset cause => .fault offset cause
  | token t start stop _ => .token t start stop

/-- Whether a number begins here. Behind a point, the text is cut one byte further on. -/
def numberStart? : List Char → Option Bool
  | [] => some false
  | c :: cs =>
    if c.isDigit then some true
    else if c == '.' then
      (suffixFrom (c :: cs) 1).map fun behind => behind.head?.any Char.isDigit
    else some false

/-- The content of a quoted text whose next character has the given byte index, and the index of its
end quote. -/
def quotedUntil (quote : Char) : Nat → List Char → Option (List Char × Nat)
  | _, [] => none
  | _, '\\' :: [] => none
  | index, '\\' :: c :: rest =>
    (quotedUntil quote (index + '\\'.utf8Size + c.utf8Size) rest).map
      fun (content, stop) => (unescaped c :: content, stop)
  | index, c :: rest =>
    if c == quote then some ([], index)
    else if c == '\n' then none
    else
      (quotedUntil quote (index + c.utf8Size) rest).map fun (content, stop) => (c :: content, stop)

/-- The quoted text whose quote stands at `start`. -/
def readQuoted? (source : List Char) (quote : Char) (start : Nat) : Option Reading := do
  let inner ← suffixFrom source (start + 1)
  match quotedUntil quote 0 inner with
  | some (content, index) =>
    return .token (.text (String.ofList content)) start (start + 1 + index + 1)
  | none => return .fault start .unterminatedText

/-- The token at `start`, where the slice `trimmed` without white space at its front begins. -/
def readToken? (source : List Char) (start : Nat) (trimmed : List Char) : Option Reading :=
  match trimmed with
  | [] => some (.finish start)
  | c :: _ => do
    if ← numberStart? trimmed then
      let length := byteCount (trimmed.takeWhile isNumberPart)
      let text ← prefixOf trimmed length
      match Binary64.ofText? text with
      | some value => return .token (.number value) start (start + length)
      | none => return .fault start (.invalidNumber (String.ofList text))
    else if isNameStart c then
      let length := byteCount (trimmed.takeWhile isNamePart)
      let name ← prefixOf trimmed length
      return .token (.name (String.ofList name)) start (start + length)
    else if c == '\x22' || c == '\x27' then readQuoted? source c start
    else
      match Operator.atFront? trimmed with
      | some operator =>
        return .token (.operator operator) start (start + operator.symbol.utf8ByteSize)
      | none => return .fault start (.unexpectedCharacter c)

/-- Reads the next token of a text from a byte offset on. There is no result if a slice is out of
range or begins or ends within a character. -/
def readAt? (source : List Char) (position : Nat) : Option Reading := do
  let rest ← suffixFrom source position
  let trimmed := Text.dropBlanks rest
  readToken? source (position + (byteCount rest - byteCount trimmed)) trimmed

/-- A digit and a point take one byte each, so the cut behind a point is between two characters. -/
theorem numberStart?_eq (cs : List Char) : numberStart? cs = some (isNumberStart cs) := by
  cases cs with
  | nil => rfl
  | cons c cs =>
    by_cases hpoint : c = '.'
    · subst hpoint
      have hcut : suffixFrom ('.' :: cs) 1 = some cs := suffixFrom_byteCount_append ['.'] cs
      have hdigit : ¬Char.isDigit '.' = true := by decide
      rw [numberStart?, if_neg hdigit, if_pos (beq_self_eq_true '.'), hcut]
      cases cs <;> rfl
    · have hbeq : ¬(c == '.') = true := mt beq_iff_eq.1 hpoint
      rw [numberStart?, if_neg hbeq]
      cases hdigit : c.isDigit <;> simp [isNumberStart, hpoint, hdigit]

/-- Indices count the bytes in front of the end quote, which takes one byte itself. -/
theorem quotedUntil_eq {quote : Char} (hquote : quote.utf8Size = 1) (index : Nat) (cs : List Char) :
    quotedUntil quote index cs = (quotedContent quote cs).map
      fun r => (r.1, index + byteCount cs - byteCount r.2 - 1) := by
  fun_induction quotedUntil quote index cs with
  | case1 => rfl
  | case2 => rfl
  | case3 index c rest ih =>
    have hindex : index + byteCount ('\\' :: c :: rest) =
        index + '\\'.utf8Size + c.utf8Size + byteCount rest := by
      rw [Text.byteCount_cons, Text.byteCount_cons]
      omega
    rw [ih, quotedContent, Option.map_map, Option.map_map, hindex]
    rfl
  | case4 index c rest hlast hescape hend =>
    obtain rfl : c = quote := beq_iff_eq.1 hend
    have hindex : index + byteCount (c :: rest) - byteCount rest - 1 = index := by
      rw [Text.byteCount_cons, hquote]
      omega
    rw [quotedContent_cons (ne_backslash hlast hescape), if_pos hend, Option.map_some, hindex]
  | case5 index c rest hlast hescape hend hfeed =>
    rw [quotedContent_cons (ne_backslash hlast hescape), if_neg hend, if_pos hfeed, Option.map_none]
  | case6 index c rest hlast hescape hend hfeed ih =>
    rw [ih, quotedContent_cons (ne_backslash hlast hescape), if_neg hend, if_neg hfeed,
      Option.map_map, Option.map_map, Text.byteCount_cons, ← Nat.add_assoc]
    rfl

/-- The first characters of a kind are a slice of the text. -/
theorem prefixOf_takeWhile (p : Char → Bool) (cs : List Char) :
    prefixOf cs (byteCount (cs.takeWhile p)) = some (cs.takeWhile p) := by
  have h := prefixOf_byteCount_append (cs.takeWhile p) (cs.dropWhile p)
  rwa [List.takeWhile_append_dropWhile] at h

theorem byteCount_takeWhile {p : Char → Bool} (hp : ∀ c, p c = true → c.toNat ≤ 127)
    (cs : List Char) : byteCount (cs.takeWhile p) = (cs.takeWhile p).length :=
  Text.byteCount_eq_length_iff.2 fun c hc => utf8Size_eq_one (hp c (List.mem_takeWhile_imp hc))

theorem utf8Size_of_isQuote {c : Char} (h : (c == '\x22' || c == '\x27') = true) :
    c.utf8Size = 1 := by
  rcases Bool.or_eq_true_iff.1 h with h | h
  · rw [beq_iff_eq.1 h]
    rfl
  · rw [beq_iff_eq.1 h]
    rfl

theorem readQuoted?_append {quote : Char} (hquote : quote.utf8Size = 1) (front cs : List Char) :
    readQuoted? (front ++ quote :: cs) quote (byteCount front) =
      some (match quotedContent quote cs with
        | some (content, behind) =>
          .token (.text (String.ofList content)) (byteCount front)
            (byteCount front + (byteCount (quote :: cs) - byteCount behind))
        | none => .fault (byteCount front) .unterminatedText) := by
  have hinner : suffixFrom (front ++ quote :: cs) (byteCount front + 1) = some cs := by
    have h := suffixFrom_byteCount_append (front ++ [quote]) cs
    rwa [List.append_assoc, Text.byteCount_append, Text.byteCount_cons, hquote] at h
  rw [readQuoted?, hinner, Option.bind_eq_bind, Option.bind_some, quotedUntil_eq hquote]
  cases hcontent : quotedContent quote cs with
  | none => rfl
  | some r =>
    obtain ⟨content, behind⟩ := r
    -- The end quote stands between the content and what is behind.
    have hstop : byteCount front + 1 + (0 + byteCount cs - byteCount behind - 1) + 1 =
        byteCount front + (byteCount (quote :: cs) - byteCount behind) := by
      obtain ⟨body, rfl, -⟩ := exists_quotedContent_eq hcontent
      simp only [Text.byteCount_append, Text.byteCount_cons, hquote]
      omega
    rw [Option.map_some]
    dsimp only
    rw [hstop]
    rfl

/-- The slices of a token are those of the text that is read character by character. -/
theorem readToken?_append (front trimmed : List Char) :
    readToken? (front ++ trimmed) (byteCount front) trimmed =
      some (lexemeAt (byteCount front) trimmed).reading := by
  cases trimmed with
  | nil => rfl
  | cons c cs =>
    rw [readToken?, lexemeAt, numberStart?_eq, Option.bind_eq_bind, Option.bind_some]
    split
    next =>
      have hlength := byteCount_takeWhile (p := isNumberPart)
        (fun c hc => Nat.le_trans (toNat_of_isNumberPart hc).2 (by decide)) (c :: cs)
      dsimp only
      rw [prefixOf_takeWhile, Option.bind_eq_bind, Option.bind_some, hlength]
      cases Binary64.ofText? ((c :: cs).takeWhile isNumberPart) <;> rfl
    next =>
      split
      next =>
        have hlength := byteCount_takeWhile (p := isNamePart)
          (fun c hc => Nat.le_trans (toNat_of_isNamePart hc).2 (by decide)) (c :: cs)
        dsimp only
        rw [prefixOf_takeWhile, Option.bind_eq_bind, Option.bind_some, hlength]
        rfl
      next =>
        split
        next hquote =>
          rw [readQuoted?_append (utf8Size_of_isQuote hquote)]
          cases quotedContent c cs <;> rfl
        next =>
          cases Operator.atFront? (c :: cs) with
          | none => rfl
          | some op =>
            dsimp only
            rw [← byteCount_toList, op.byteCount_symbol]
            rfl

/-- From an offset between two characters on, all slices are in range, and the reader gives what it
gives for the text behind the offset. -/
theorem readAt?_append (front rest : List Char) :
    readAt? (front ++ rest) (byteCount front) =
      some (nextLexeme (byteCount front) rest).reading := by
  have hsplit : rest.takeWhile Text.isBlank ++ Text.dropBlanks rest = rest :=
    List.takeWhile_append_dropWhile
  have hblanks : byteCount rest - byteCount (Text.dropBlanks rest) =
      byteCount (rest.takeWhile Text.isBlank) := by
    have hcount := congrArg byteCount hsplit
    rw [Text.byteCount_append] at hcount
    omega
  have htoken := readToken?_append (front ++ rest.takeWhile Text.isBlank) (Text.dropBlanks rest)
  rw [List.append_assoc, hsplit, Text.byteCount_append] at htoken
  rw [readAt?, suffixFrom_byteCount_append, Option.bind_eq_bind, Option.bind_some]
  dsimp only
  rw [hblanks, htoken, nextLexeme]

/-- Offsets count bytes, and none of those within a character can be read from. -/
example : readAt? "ü 'ü'".toList 2 = some (.token (.text "ü") 3 7) ∧
    readAt? "ü 'ü'".toList 1 = none := by
  decide +kernel

/-! ## What a call can give -/

/-- What a call gives in front of a text: the white space at its front is skipped, and then there is
the end of the text, a fault, or a token. -/
inductive Gives (front : List Char) : List Char → Reading → Prop
  | finish {blanks : List Char} (hblanks : ∀ c ∈ blanks, Text.isBlank c = true) :
      Gives front blanks (.finish (byteCount (front ++ blanks)))
  | fault {blanks behind : List Char} (hblanks : ∀ c ∈ blanks, Text.isBlank c = true)
      (cause : Fault) :
      Gives front (blanks ++ behind) (.fault (byteCount (front ++ blanks)) cause)
  | token {blanks written behind : List Char} {t : Token}
      (hblanks : ∀ c ∈ blanks, Text.isBlank c = true) (hwritten : t.IsWritten written) :
      Gives front (blanks ++ (written ++ behind))
        (.token t (byteCount (front ++ blanks)) (byteCount (front ++ blanks ++ written)))

theorem offset_of_lexemeAt {offset stop : Nat} {cs : List Char} {cause : Fault}
    (h : lexemeAt offset cs = .fault stop cause) : stop = offset := by
  cases cs with
  | nil => cases h
  | cons c cs =>
    simp only [lexemeAt] at h
    repeat' split at h
    all_goals cases h
    all_goals rfl

theorem gives_nextLexeme (front rest : List Char) :
    Gives front rest (nextLexeme (byteCount front) rest).reading := by
  cases hnext : nextLexeme (byteCount front) rest with
  | finish offset =>
    obtain ⟨hblanks, rfl⟩ := nextLexeme_eq_finish_iff.1 hnext
    rw [← Text.byteCount_append]
    exact .finish hblanks
  | fault offset cause =>
    have hoffset := offset_of_lexemeAt hnext
    rw [← Text.byteCount_append] at hoffset
    have hfault : Gives front (rest.takeWhile Text.isBlank ++ rest.dropWhile Text.isBlank)
        (.fault (byteCount (front ++ rest.takeWhile Text.isBlank)) cause) :=
      .fault (fun c hc => List.mem_takeWhile_imp hc) cause
    rwa [List.takeWhile_append_dropWhile, ← hoffset] at hfault
  | token t start stop behind =>
    obtain ⟨blanks, written, rfl, hblanks, rfl, rfl, hwritten, -⟩ :=
      nextLexeme_eq_token_iff.1 hnext
    rw [Lexeme.reading, ← Text.byteCount_append, ← Text.byteCount_append]
    exact .token hblanks hwritten

/-! ## Runs -/

/-- A call that gives a token: where it begins, and where the token does and ends. -/
structure Call where
  token : Token
  position : Nat
  start : Nat
  stop : Nat

/-- Reading from an offset on, each time behind the token before, takes these calls and gives these
tokens. -/
inductive Run (source : List Char) : Nat → List Call → Tokens → Prop
  | finish {position offset : Nat} (h : readAt? source position = some (.finish offset)) :
      Run source position [] (.finish offset)
  | fault {position offset : Nat} {cause : Fault}
      (h : readAt? source position = some (.fault offset cause)) :
      Run source position [] (.fault offset cause)
  | token (call : Call) {calls : List Call} {tokens : Tokens}
      (h : readAt? source call.position = some (.token call.token call.start call.stop))
      (hnext : Run source call.stop calls tokens) :
      Run source call.position (call :: calls) (.cons call.token call.start tokens)

/-- With more fuel than characters, a run comes to its end and gives the tokens of the text. -/
theorem exists_run_read (front rest : List Char) {fuel : Nat} (hfuel : rest.length < fuel) :
    ∃ calls, Run (front ++ rest) (byteCount front) calls (.read fuel (byteCount front) rest) := by
  induction fuel generalizing front rest with
  | zero => exact absurd hfuel (Nat.not_lt_zero _)
  | succ fuel ih =>
    have hreading := readAt?_append front rest
    rw [Tokens.read]
    cases hnext : nextLexeme (byteCount front) rest with
    | finish offset =>
      rw [hnext] at hreading
      exact ⟨[], .finish hreading⟩
    | fault offset cause =>
      rw [hnext] at hreading
      exact ⟨[], .fault hreading⟩
    | token t start stop behind =>
      rw [hnext] at hreading
      have hlength := length_nextLexeme_lt hnext
      obtain ⟨blanks, written, rfl, -, rfl, rfl, -, -⟩ := nextLexeme_eq_token_iff.1 hnext
      obtain ⟨calls, hcalls⟩ := ih (front ++ blanks ++ written) behind (by omega)
      rw [Text.byteCount_append, Text.byteCount_append, List.append_assoc, List.append_assoc]
        at hcalls
      let call : Call := ⟨t, byteCount front, byteCount front + byteCount blanks,
        byteCount front + byteCount blanks + byteCount written⟩
      exact ⟨call :: calls, .token call hreading hcalls⟩

theorem exists_run (source : List Char) : ∃ calls, Run source 0 calls (.ofChars source) :=
  exists_run_read [] source (Nat.lt_succ_self _)

/-! ## The text that a run passes -/

/-- The text that a call passes: white space and a token as it is written. -/
structure Piece where
  blanks : List Char
  written : List Char

def Piece.text (piece : Piece) : List Char := piece.blanks ++ piece.written

/-- An offset within a text or at its end at which the text can be cut. -/
def IsBoundary (source : String) (offset : Nat) : Prop :=
  offset ≤ source.utf8ByteSize ∧ (String.Pos.Raw.mk offset).IsValid source

/-- The call moves on from one place between two characters to another one: up to the start of the
token there is white space, and from there to its stop the token is written. -/
structure Call.Passes (source : String) (call : Call) (piece : Piece) : Prop where
  position_isBoundary : IsBoundary source call.position
  start_isBoundary : IsBoundary source call.start
  stop_isBoundary : IsBoundary source call.stop
  position_le_start : call.position ≤ call.start
  start_lt_stop : call.start < call.stop
  skipped : charactersBetween? source.toList call.position call.start = some piece.blanks
  isBlank : ∀ c ∈ piece.blanks, Text.isBlank c = true
  taken : charactersBetween? source.toList call.start call.stop = some piece.written
  isWritten : call.token.IsWritten piece.written

/-- Where the tokens end: at the end of the text, or at its fault. -/
def Tokens.ending : Tokens → Nat
  | finish offset => offset
  | fault offset _ => offset
  | cons _ _ rest => rest.ending

def Tokens.isFinished : Tokens → Bool
  | finish _ => true
  | fault _ _ => false
  | cons _ _ rest => rest.isFinished

theorem isBoundary_byteCount {source : String} {front rest : List Char}
    (h : source.toList = front ++ rest) : IsBoundary source (byteCount front) := by
  refine ⟨?_, isValid_iff_exists_prefix.2 ⟨front, ⟨rest, h.symm⟩, rfl⟩⟩
  rw [← byteCount_toList, h, Text.byteCount_append]
  exact Nat.le_add_right _ _

theorem Token.IsWritten.byteCount_pos {t : Token} {written : List Char} (h : t.IsWritten written) :
    0 < byteCount written := by
  obtain ⟨c, cs, rfl, -⟩ := h.exists_eq_cons
  rw [Text.byteCount_cons]
  exact Nat.lt_of_lt_of_le c.utf8Size_pos (Nat.le_add_right _ _)

section Passing

variable {source : String} {front rest : List Char}

theorem gives_of_readAt? (hsource : source.toList = front ++ rest) {reading : Reading}
    (h : readAt? source.toList (byteCount front) = some reading) : Gives front rest reading := by
  rw [hsource, readAt?_append] at h
  exact Option.some.inj h ▸ gives_nextLexeme front rest

/-- A call between two characters passes a piece of the text. -/
theorem Call.exists_piece {call : Call} (hsource : source.toList = front ++ rest)
    (hposition : call.position = byteCount front)
    (h : readAt? source.toList call.position = some (.token call.token call.start call.stop)) :
    ∃ piece behind, rest = piece.text ++ behind ∧ call.stop = byteCount (front ++ piece.text) ∧
      call.Passes source piece := by
  obtain ⟨t, position, start, stop⟩ := call
  dsimp only at hposition h
  rw [hposition] at h
  cases gives_of_readAt? hsource h with
  | @token blanks written behind t hblanks hwritten =>
    have hstart : source.toList = front ++ blanks ++ (written ++ behind) := by
      rw [hsource, List.append_assoc]
    have hstop : source.toList = front ++ blanks ++ written ++ behind := by
      rw [hstart, List.append_assoc (front ++ blanks)]
    refine ⟨⟨blanks, written⟩, behind, by rw [Piece.text, List.append_assoc],
      by rw [Piece.text, List.append_assoc], ?_⟩
    exact {
      position_isBoundary := hposition ▸ isBoundary_byteCount hsource
      start_isBoundary := isBoundary_byteCount hstart
      stop_isBoundary := isBoundary_byteCount hstop
      position_le_start := by
        rw [hposition, Text.byteCount_append]
        exact Nat.le_add_right _ _
      start_lt_stop := by
        rw [Text.byteCount_append (front ++ blanks)]
        exact Nat.lt_add_of_pos_right hwritten.byteCount_pos
      skipped := by
        rw [hposition, hstart]
        exact charactersBetween?_append front blanks _
      isBlank := hblanks
      taken := by
        rw [hstop]
        exact charactersBetween?_append (front ++ blanks) written behind
      isWritten := hwritten }

/-- The pieces of the calls and the white space in front of the end make up the text from where the
run begins to where it ends, and that is the end of the text unless there is a fault. -/
theorem Run.exists_pieces {position : Nat} {calls : List Call} {tokens : Tokens}
    (h : Run source.toList position calls tokens) (hsource : source.toList = front ++ rest)
    (hposition : position = byteCount front) :
    ∃ pieces blanks behind, List.Forall₂ (Call.Passes source) calls pieces ∧
      (∀ c ∈ blanks, Text.isBlank c = true) ∧
      rest = pieces.flatMap Piece.text ++ blanks ++ behind ∧
      (tokens.isFinished = true → behind = []) ∧
      tokens.ending = byteCount (front ++ (pieces.flatMap Piece.text ++ blanks)) := by
  induction h generalizing front rest with
  | finish h =>
    subst hposition
    cases gives_of_readAt? hsource h with
    | finish hblanks =>
      exact ⟨[], rest, [], .nil, hblanks, by simp, fun _ => rfl, rfl⟩
  | fault h =>
    subst hposition
    cases gives_of_readAt? hsource h with
    | @fault blanks behind hblanks =>
      exact ⟨[], blanks, behind, .nil, hblanks, rfl,
        fun h => absurd h Bool.false_ne_true, rfl⟩
  | token call h hnext ih =>
    obtain ⟨piece, behind, rfl, hstop, hpasses⟩ := Call.exists_piece hsource hposition h
    obtain ⟨pieces, blanks, after, hpieces, hblanks, rfl, hafter, hending⟩ :=
      ih (hsource.trans (List.append_assoc _ _ _).symm) hstop
    refine ⟨piece :: pieces, blanks, after, .cons hpasses hpieces, hblanks, ?_, hafter, ?_⟩
    · simp only [List.flatMap_cons, List.append_assoc]
    · rw [Tokens.ending, hending, List.flatMap_cons, List.append_assoc, List.append_assoc]

end Passing

end SubmissionGrader.Checker
