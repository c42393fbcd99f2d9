import Arbitration.Yaml.Node

/-!
# Texts of plain lines

A YAML text whose lines each have a word, a colon, a space and another word is read as a mapping of
plain scalars, in the order of the lines, and a text without a line as nothing
(`Node.parse_lines`).

The scanner takes a line in three steps: the word before the colon, the colon, and the word after
it. Only when it comes to the colon does it know that the first word was a key, so it then puts the
token for the key in front of that word, and in the first line also the one that opens the mapping.
Each step leads from one known place to the next (`Scanner.lineStart`, `Scanner.beforeColon`,
`Scanner.afterColon`), the last one to the start of the next line, and so a text is read by an
induction over its lines (`Scanner.run_lines`).
-/

namespace Arbitration

namespace Yaml

/-! ### Words -/

/-- A small letter, a digit or an underscore. -/
def isWordChar (c : Char) : Bool := ('a' ≤ c && c ≤ 'z') || ('0' ≤ c && c ≤ '9') || c == '_'

theorem toNat_lt_of_isWordChar {c : Char} (h : isWordChar c = true) : c.toNat < 128 := by
  simp only [isWordChar, Bool.or_eq_true, Bool.and_eq_true, decide_eq_true_eq, beq_iff_eq] at h
  rcases h with (⟨-, hle⟩ | ⟨-, hle⟩) | rfl
  · exact Nat.lt_of_le_of_lt hle (by decide)
  · exact Nat.lt_of_le_of_lt hle (by decide)
  · decide

/-- Such a character has no meaning of its own anywhere. -/
theorem plain_of_isWordChar {c : Char} (h : isWordChar c = true) :
    isBlank c = false ∧ isBreak c = false ∧ Scanner.isIndicator c = false ∧ c ≠ '.' ∧
      isPrintable c = true := by
  have all : ∀ m : Fin 128, isWordChar (Char.ofNat m) = true →
      isBlank (Char.ofNat m) = false ∧ isBreak (Char.ofNat m) = false ∧
        Scanner.isIndicator (Char.ofNat m) = false ∧ Char.ofNat m ≠ '.' ∧
        isPrintable (Char.ofNat m) = true := by
    decide +kernel
  have hcode := all ⟨c.toNat, toNat_lt_of_isWordChar h⟩
  rw [Char.ofNat_toNat] at hcode
  exact hcode h

/-- It is none of the characters that have one. -/
theorem ne_of_isIndicator {c d : Char} (hc : isWordChar c = true)
    (hd : Scanner.isIndicator d = true) : c ≠ d := by
  rintro rfl
  obtain ⟨-, -, hindicator, -⟩ := plain_of_isWordChar hc
  rw [hd] at hindicator
  cases hindicator

/-- What may stand on either side of a colon without a mark of its own. -/
structure Word (cs : List Char) : Prop where
  ne_nil : cs ≠ []
  chars : ∀ c ∈ cs, isWordChar c = true

theorem word_iff {cs : List Char} : (!cs.isEmpty && cs.all isWordChar) = true ↔ Word cs := by
  rw [Bool.and_eq_true, Bool.not_eq_true', List.isEmpty_eq_false_iff, List.all_eq_true]
  exact ⟨fun h => ⟨h.1, h.2⟩, fun h => ⟨h.ne_nil, h.chars⟩⟩

instance (cs : List Char) : Decidable (Word cs) := decidable_of_iff _ word_iff

/-- A text that is empty or starts with a word. -/
def StartsWord (cs : List Char) : Prop := ∀ c ∈ cs.head?, isWordChar c = true

theorem Word.startsWord {cs : List Char} (h : Word cs) (rest : List Char) :
    StartsWord (cs ++ rest) := by
  intro c hc
  cases cs with
  | nil => exact absurd rfl h.ne_nil
  | cons d ds =>
    cases hc
    exact h.chars _ List.mem_cons_self

/-- A word goes up to where a plain scalar has to stop. -/
theorem Word.plainRun {cs : List Char} (h : ∀ c ∈ cs, isWordChar c = true) {rest : List Char}
    (hrest : plainRun false rest = some ([], rest)) :
    plainRun false (cs ++ rest) = some (cs, rest) := by
  induction cs with
  | nil => exact hrest
  | cons c cs ih =>
    obtain ⟨hc, hcs⟩ := List.forall_mem_cons.1 h
    obtain ⟨hblank, hbreak, -⟩ := plain_of_isWordChar hc
    have hcolon : (c == ':') = false := beq_false_of_ne (ne_of_isIndicator hc (by decide))
    rw [List.cons_append, Yaml.plainRun, hblank, hbreak, hcolon]
    simp only [Bool.false_or, Bool.false_and, Bool.false_eq_true, if_false, ih hcs, Option.map_some]

theorem plainRun_colon {rest : List Char} (h : startsBlank rest = true) :
    plainRun false (':' :: rest) = some ([], ':' :: rest) := by
  rw [plainRun, h]
  rfl

theorem plainRun_newline (rest : List Char) :
    plainRun false ('\n' :: rest) = some ([], '\n' :: rest) := rfl

namespace Scanner

/-! ### Where a scanner is -/

/-- At the start of a line, inside a mapping or before it. -/
def lineStart (opened : Bool) (tokens : List Token) (rest : List Char) (index line : Nat) :
    Scanner where
  cursor := ⟨rest, index, line, 0⟩
  indents := if opened then [0] else []
  tokens := tokens

/-- Before the colon of a line. -/
def beforeColon (opened : Bool) (tokens : List Token) (k rest : List Char) (index line : Nat) :
    Scanner where
  cursor := ⟨':' :: rest, index + k.length, line, k.length⟩
  indents := if opened then [0] else []
  keyAllowed := false
  keys := [some ⟨tokens.length, index, line, 0, opened⟩]
  tokens := .scalar .plain (String.ofList k) :: tokens

/-- After it. -/
def afterColon (tokens : List Token) (rest : List Char) (index line column : Nat) : Scanner where
  cursor := ⟨rest, index, line, column⟩
  indents := [0]
  keyAllowed := false
  tokens := tokens

variable {s s' : Scanner} {c : Char} {rest : List Char} {index line column : Nat}

/-- A token may start at any character that is no blank and starts no comment. -/
theorem seek_cons (inFlow allowed : Bool) (rest : List Char) (index line column : Nat)
    (hbreak : isBreak c = false) (hblank : isBlank c = false) (hhash : c ≠ '#')
    (hcode : c.toNat < 128) :
    seek inFlow allowed false index line column (c :: rest) =
      (⟨c :: rest, index, line, column⟩, allowed) := by
  rw [seek]
  · simp only [isBlank, Bool.or_eq_false_iff, beq_eq_false_iff_ne] at hblank
    have hmark : c.toNat ≠ 0xFEFF := by omega
    simp [hbreak, hblank, hmark, hhash]
  · rintro rest' rfl
    cases hbreak

theorem seek_isWordChar (inFlow allowed : Bool) (rest : List Char) (index line column : Nat)
    (hc : isWordChar c = true) :
    seek inFlow allowed false index line column (c :: rest) =
      (⟨c :: rest, index, line, column⟩, allowed) := by
  obtain ⟨hblank, hbreak, -⟩ := plain_of_isWordChar hc
  exact seek_cons inFlow allowed rest index line column hbreak hblank
    (ne_of_isIndicator hc (by decide)) (toNat_lt_of_isWordChar hc)

/-- A step from a place where a token starts. -/
theorem run_succ (fuel : Nat) (hnext : s.toNext = s') (hfresh : s'.dropStale = some s')
    (hlevel : s'.unroll s'.cursor.column = s') (hrest : s'.cursor.rest = c :: rest) :
    run (fuel + 1) s = (s'.token c rest).bind (run fuel) := by
  rw [run, hnext, hfresh]
  simp only [Option.bind_eq_bind, Option.bind_some, hlevel, hrest]

/-- A place at which another character follows is not the mark of a document. -/
theorem atMark_eq_false {at' : Cursor} {mark : Char} (hrest : at'.rest = c :: rest)
    (hne : c ≠ mark) : at'.atMark mark = false := by
  rw [Cursor.atMark, hrest]
  split
  · rename_i heq
    cases heq
    rw [beq_false_of_ne hne, Bool.false_and, Bool.false_and, Bool.false_and, Bool.and_false]
  · exact Bool.and_false _

/-- A word starts a plain scalar. -/
theorem token_of_isWordChar (hrest : s.cursor.rest = c :: rest) (hc : isWordChar c = true) :
    s.token c rest = s.plainScalar := by
  obtain ⟨hblank, -, hindicator, hdot, -⟩ := plain_of_isWordChar hc
  have hplain : startsPlain s.inFlow c rest = true := by simp [startsPlain, hindicator, hblank]
  simp only [isIndicator, List.contains_cons, List.contains_nil, Bool.or_eq_false_iff,
    beq_eq_false_iff_ne] at hindicator
  simp only [token, atMark_eq_false hrest hdot, atMark_eq_false hrest hindicator.1, hindicator,
    hplain, false_and, and_false, or_false, if_false, if_true, Bool.false_eq_true]

/-- The place after a word. -/
theorem upTo_append (w rest : List Char) (index line column : Nat) :
    Cursor.upTo ⟨w ++ rest, index, line, column⟩ rest =
      ⟨rest, index + w.length, line, column + w.length⟩ := by
  have hlength : (w ++ rest).length - rest.length = w.length := by
    rw [List.length_append, Nat.add_sub_cancel]
  show Cursor.mk ((w ++ rest).drop _) _ line _ = _
  rw [hlength, List.drop_left]

/-- What a plain scalar that starts with a word goes on with. -/
theorem readPlain_word {w : List Char} (hw : Word w)
    (hrest : plainRun false rest = some ([], rest)) (least index line column : Nat) :
    let after : Cursor := ⟨rest, index + w.length, line, column + w.length⟩
    readPlain false least ⟨w ++ rest, index, line, column⟩ =
      if !rest.isEmpty && startsBlank rest then do
        let (g, c) ← after.gap least {}
        if c.column < least then return ⟨w, c, g.broken⟩
        let more ← plainFrom false least (w ++ rest).length g c
        return { more with text := w ++ more.text }
      else some ⟨w, after, false⟩ := by
  obtain ⟨c, cs, rfl⟩ := List.exists_cons_of_ne_nil hw.ne_nil
  have hc := hw.chars c List.mem_cons_self
  obtain ⟨-, -, -, hdot, -⟩ := plain_of_isWordChar hc
  have hmark : Cursor.atDocumentMark ⟨c :: cs ++ rest, index, line, column⟩ = false := by
    rw [Cursor.atDocumentMark, atMark_eq_false rfl (ne_of_isIndicator hc (by decide)),
      atMark_eq_false rfl hdot]
    rfl
  have hhash : ((c :: cs ++ rest).head? == some '#') = false :=
    beq_false_of_ne fun h => ne_of_isIndicator hc (by decide) (Option.some.inj h)
  rw [readPlain, plainFrom]
  simp only [hmark, hhash, Bool.or_self, Bool.false_eq_true, if_false, Word.plainRun hw.chars hrest,
    Option.bind_eq_bind, Option.bind_some, upTo_append, List.isEmpty_cons, Bool.not_false,
    Bool.true_and, decide_eq_true_eq]
  rfl

/-- A plain scalar that ends before a colon. -/
theorem readPlain_colon {k : List Char} (hk : Word k) (hrest : startsBlank rest = true)
    (least index line column : Nat) :
    readPlain false least ⟨k ++ ':' :: rest, index, line, column⟩ =
      some ⟨k, ⟨':' :: rest, index + k.length, line, column + k.length⟩, false⟩ :=
  readPlain_word hk (plainRun_colon hrest) least index line column

/-- A plain scalar that ends with its line. -/
theorem readPlain_newline {v : List Char} (hv : Word v) (hrest : StartsWord rest)
    (index line column : Nat) :
    readPlain false 1 ⟨v ++ '\n' :: rest, index, line, column⟩ =
      some ⟨v, ⟨rest, index + v.length + 1, line + 1, 0⟩, true⟩ := by
  have hgap : takeGap 1 {} (index + v.length) line (column + v.length) ('\n' :: rest) =
      some ({ first := some ['\n'] }, ⟨rest, index + v.length + 1, line + 1, 0⟩) := by
    cases rest with
    | nil => rfl
    | cons c rest =>
      obtain ⟨hblank, hbreak, -⟩ := plain_of_isWordChar (hrest c rfl)
      have hreturn : c ≠ '\r' := by
        rintro rfl
        cases hbreak
      show takeGap 1 { first := some ['\n'] } _ (line + 1) 0 (c :: rest) = _
      rw [takeGap]
      · rw [hblank, hbreak]
        rfl
      · rintro rest' rfl
        exact absurd rfl hreturn
  refine (readPlain_word hv (plainRun_newline rest) 1 index line column).trans ?_
  show (Option.bind (takeGap 1 {} (index + v.length) line (column + v.length) ('\n' :: rest)) _) = _
  rw [hgap]
  rfl

/-! ### The three steps of a line -/

/-- Before the next character that counts there may be a space. -/
theorem seek_space (inFlow allowed : Bool) :
    seek inFlow allowed false index line column (' ' :: rest) =
      seek inFlow allowed false (index + 1) line (column + 1) rest := rfl

/-- A key may start at the start of a line, and has to inside a mapping. -/
theorem saveKey_lineStart (opened : Bool) (tokens : List Token) (index line : Nat) :
    (lineStart opened tokens rest index line).saveKey =
      some { lineStart opened tokens rest index line with
        keys := [some ⟨tokens.length, index, line, 0, opened⟩] } := by
  cases opened <;> rfl

/-- The word before the colon. -/
theorem run_lineStart (fuel : Nat) (opened : Bool) (tokens : List Token) {k : List Char}
    (hk : Word k) (hrest : startsBlank rest = true) (index line : Nat) :
    run (fuel + 1) (lineStart opened tokens (k ++ ':' :: rest) index line) =
      run fuel (beforeColon opened tokens k rest index line) := by
  obtain ⟨c, cs, rfl⟩ := List.exists_cons_of_ne_nil hk.ne_nil
  have hc := hk.chars c List.mem_cons_self
  have hnext : (lineStart opened tokens (c :: cs ++ ':' :: rest) index line).toNext =
      lineStart opened tokens (c :: cs ++ ':' :: rest) index line := by
    simp only [toNext, lineStart, inFlow, List.cons_append, bne_self_eq_false,
      seek_isWordChar false true _ index line 0 hc]
  have hlevel : (lineStart opened tokens (c :: cs ++ ':' :: rest) index line).unroll 0 =
      lineStart opened tokens (c :: cs ++ ':' :: rest) index line := by
    cases opened <;> rfl
  have hscalar : (lineStart opened tokens (c :: cs ++ ':' :: rest) index line).plainScalar =
      some (beforeColon opened tokens (c :: cs) rest index line) := by
    have hread := readPlain_colon hk hrest
    rw [plainScalar, saveKey_lineStart]
    show Option.bind (readPlain false _ _) _ = _
    rw [lineStart, hread, Option.bind_some, Nat.zero_add]
    rfl
  rw [run_succ fuel hnext rfl hlevel rfl, token_of_isWordChar rfl hc, hscalar, Option.bind_some]

/-- A short word can still be a key at its end. -/
theorem dropStale_beforeColon (opened : Bool) (tokens : List Token) {k : List Char}
    (hshort : k.length ≤ 1024) (rest : List Char) (index line : Nat) :
    (beforeColon opened tokens k rest index line).dropStale =
      some (beforeColon opened tokens k rest index line) := by
  have hlate : ¬ index + 1024 < index + k.length := by omega
  have hstale : PossibleKey.isStale ⟨tokens.length, index, line, 0, opened⟩
      ⟨':' :: rest, index + k.length, line, k.length⟩ = false := by
    rw [PossibleKey.isStale, decide_eq_false (Nat.lt_irrefl line), decide_eq_false hlate]
    rfl
  simp only [dropStale, beforeColon, List.any_cons, List.any_nil, List.map_cons, List.map_nil,
    Option.any_some, hstale, Bool.false_and, Bool.or_false, Bool.false_eq_true, if_false]
  rfl

/-- The token for the key goes in front of the one for the word. -/
theorem value_beforeColon (opened : Bool) (tokens : List Token) (k rest : List Char)
    (index line : Nat) :
    (beforeColon opened tokens k rest index line).value = some (afterColon
      (.value :: .scalar .plain (String.ofList k) :: .key ::
        (if opened then tokens else .blockMappingStart :: tokens)) rest (index + k.length + 1) line
      (k.length + 1)) := by
  have hlater : tokens.length + 1 - tokens.length = 1 := Nat.add_sub_cancel_left _ _
  cases opened <;>
    simp [value, beforeColon, opens, indent, inFlow, insertAt, pushOne, push, Cursor.skip, hlater,
      afterColon]

/-- The colon. Where it is the first one it opens the mapping. -/
theorem run_beforeColon (fuel : Nat) (opened : Bool) (tokens : List Token) {k : List Char}
    (hshort : k.length ≤ 1024) (hrest : startsBlank rest = true) (index line : Nat) :
    run (fuel + 1) (beforeColon opened tokens k rest index line) =
      run fuel (afterColon (.value :: .scalar .plain (String.ofList k) :: .key ::
        (if opened then tokens else .blockMappingStart :: tokens)) rest (index + k.length + 1) line
        (k.length + 1)) := by
  have hnext : (beforeColon opened tokens k rest index line).toNext =
      beforeColon opened tokens k rest index line := by
    have hseek := seek_cons (c := ':') false false rest (index + k.length) line k.length rfl rfl
      (by decide) (by decide)
    simp only [toNext, beforeColon, inFlow, bne_self_eq_false, hseek]
  have hlevel : (beforeColon opened tokens k rest index line).unroll k.length =
      beforeColon opened tokens k rest index line := by
    cases opened <;> rfl
  have htoken : (beforeColon opened tokens k rest index line).token ':' rest =
      (beforeColon opened tokens k rest index line).value := by
    have hdash : (beforeColon opened tokens k rest index line).cursor.atMark '-' = false :=
      atMark_eq_false rfl (by decide)
    have hdot : (beforeColon opened tokens k rest index line).cursor.atMark '.' = false :=
      atMark_eq_false rfl (by decide)
    simp [token, hdash, hdot, hrest]
  rw [run_succ fuel hnext (dropStale_beforeColon opened tokens hshort rest index line) hlevel rfl,
    htoken, value_beforeColon, Option.bind_some]

/-- The word after the colon, up to the start of the next line. -/
theorem run_afterColon (fuel : Nat) (tokens : List Token) {v : List Char} (hv : Word v)
    (hrest : StartsWord rest) (index line column : Nat) :
    run (fuel + 1) (afterColon tokens (' ' :: (v ++ '\n' :: rest)) index line column) =
      run fuel (lineStart true (.scalar .plain (String.ofList v) :: tokens) rest
        (index + 1 + v.length + 1) (line + 1)) := by
  obtain ⟨c, cs, rfl⟩ := List.exists_cons_of_ne_nil hv.ne_nil
  have hc := hv.chars c List.mem_cons_self
  have hnext : (afterColon tokens (' ' :: (c :: cs ++ '\n' :: rest)) index line column).toNext =
      afterColon tokens (c :: cs ++ '\n' :: rest) (index + 1) line (column + 1) := by
    simp only [toNext, afterColon, inFlow, List.cons_append, bne_self_eq_false, seek_space,
      seek_isWordChar false false _ (index + 1) line (column + 1) hc]
  have hscalar : (afterColon tokens (c :: cs ++ '\n' :: rest) (index + 1) line
      (column + 1)).plainScalar = some (lineStart true
        (.scalar .plain (String.ofList (c :: cs)) :: tokens) rest
        (index + 1 + (c :: cs).length + 1) (line + 1)) := by
    have hread := readPlain_newline hv hrest (index + 1) line (column + 1)
    rw [plainScalar]
    show Option.bind (readPlain false 1 _) _ = _
    rw [afterColon, hread, Option.bind_some]
    rfl
  rw [run_succ fuel hnext rfl rfl rfl, token_of_isWordChar rfl hc, hscalar, Option.bind_some]

end Scanner

/-! ### Whole texts -/

/-- A line with a key and a value. -/
def lineChars (l : List Char × List Char) : List Char := l.1 ++ ':' :: ' ' :: (l.2 ++ ['\n'])

/-- The tokens of such a line. -/
def lineTokens (l : List Char × List Char) : List Token :=
  [.key, .scalar .plain (String.ofList l.1), .value, .scalar .plain (String.ofList l.2)]

/-- The node of such a line. -/
def linePair (l : List Char × List Char) : Node × Node :=
  (.scalar .plain (String.ofList l.1), .scalar .plain (String.ofList l.2))

/-- Key and value are words, and the key is one that can be found. -/
structure PlainLine (l : List Char × List Char) : Prop where
  key : Word l.1
  short : l.1.length ≤ 1024
  value : Word l.2

variable {l : List Char × List Char} {lines : List (List Char × List Char)}

theorem PlainLine.startsWord (h : PlainLine l) (rest : List Char) :
    StartsWord (lineChars l ++ rest) := by
  rw [lineChars, List.append_assoc]
  exact h.key.startsWord _

theorem startsWord_flatMap (h : ∀ l ∈ lines, PlainLine l) :
    StartsWord (lines.flatMap lineChars) := by
  cases lines with
  | nil => exact nofun
  | cons l lines => exact (h l List.mem_cons_self).startsWord _

/-- A line is at least as long as it has steps. -/
theorem three_mul_length_le (lines : List (List Char × List Char)) :
    3 * lines.length ≤ (lines.flatMap lineChars).length := by
  induction lines with
  | nil => exact Nat.le_refl 0
  | cons l lines ih =>
    simp only [List.flatMap_cons, List.length_append, List.length_cons, lineChars, List.length_nil]
    omega

theorem isPrintable_of_mem_lineChars (h : PlainLine l) :
    ∀ c ∈ lineChars l, isPrintable c = true := by
  have hword : ∀ {cs : List Char}, Word cs → ∀ c ∈ cs, isPrintable c = true :=
    fun hcs c hc => (plain_of_isWordChar (hcs.chars c hc)).2.2.2.2
  simp only [lineChars, List.forall_mem_append, List.forall_mem_cons]
  exact ⟨hword h.key, rfl, rfl, hword h.value, rfl, nofun⟩

namespace Scanner

/-- **A line** adds its tokens, after that for the mapping if it is the first one. -/
theorem run_line (fuel : Nat) (opened : Bool) (tokens : List Token) {rest : List Char}
    (hl : PlainLine l) (hrest : StartsWord rest) (index line : Nat) :
    ∃ index', run (fuel + 3) (lineStart opened tokens (lineChars l ++ rest) index line) =
      run fuel (lineStart true
        ((lineTokens l).reverse ++ if opened then tokens else .blockMappingStart :: tokens) rest
        index' (line + 1)) := by
  have hchars : lineChars l ++ rest = l.1 ++ ':' :: ' ' :: (l.2 ++ '\n' :: rest) := by
    simp [lineChars]
  refine ⟨index + l.1.length + 1 + 1 + l.2.length + 1, ?_⟩
  rw [hchars, run_lineStart (fuel + 2) opened tokens hl.key rfl,
    run_beforeColon (fuel + 1) opened tokens hl.short rfl, run_afterColon fuel _ hl.value hrest]
  rfl

/-- **All lines** of a mapping add their tokens, and its end comes after them. -/
theorem run_lines (h : ∀ l ∈ lines, PlainLine l) (fuel : Nat) (tokens : List Token)
    (index line : Nat) :
    (run (fuel + 1 + 3 * lines.length)
      (lineStart true tokens (lines.flatMap lineChars) index line)).map (·.tokens) =
      some (.blockEnd :: ((lines.flatMap lineTokens).reverse ++ tokens)) := by
  induction lines generalizing tokens index line with
  | nil => rfl
  | cons l lines ih =>
    obtain ⟨hl, hlines⟩ := List.forall_mem_cons.1 h
    obtain ⟨index', hrun⟩ := run_line (fuel + 1 + 3 * lines.length) true tokens hl
      (startsWord_flatMap hlines) index line
    rw [List.length_cons, Nat.mul_succ, ← Nat.add_assoc, List.flatMap_cons, hrun, ih hlines,
      List.flatMap_cons, List.reverse_append, List.append_assoc]
    rfl

end Scanner

/-- **The tokens of a text** of plain lines. -/
theorem scan_lines (h : ∀ l ∈ lines, PlainLine l) (hne : lines ≠ []) :
    scan (lines.flatMap lineChars) =
      some (.blockMappingStart :: (lines.flatMap lineTokens ++ [.blockEnd])) := by
  have hprintable : (lines.flatMap lineChars).all isPrintable = true := by
    rw [List.all_eq_true]
    intro c hc
    obtain ⟨l, hl, hmem⟩ := List.mem_flatMap.1 hc
    exact isPrintable_of_mem_lineChars (h l hl) c hmem
  have hlength := three_mul_length_le lines
  obtain ⟨l, lines, rfl⟩ := List.exists_cons_of_ne_nil hne
  obtain ⟨hl, hlines⟩ := List.forall_mem_cons.1 h
  obtain ⟨extra, hfuel⟩ : ∃ extra, (List.flatMap lineChars (l :: lines)).length + 1 =
      extra + 1 + 3 * lines.length + 3 := by
    rw [List.length_cons] at hlength
    exact ⟨(List.flatMap lineChars (l :: lines)).length - 3 * (lines.length + 1), by omega⟩
  obtain ⟨index', hrun⟩ := Scanner.run_line (extra + 1 + 3 * lines.length) false [] hl
    (startsWord_flatMap hlines) 0 0
  have hall := Scanner.run_lines hlines extra
    ((lineTokens l).reverse ++ [.blockMappingStart]) index' 1
  rw [scan, hprintable, hfuel]
  show (Scanner.run _ (Scanner.lineStart false [] _ 0 0)).map (·.tokens.reverse) = _
  rw [List.flatMap_cons, hrun]
  show (Scanner.run _ (Scanner.lineStart true
    ((lineTokens l).reverse ++ [.blockMappingStart]) _ index' 1)).map (List.reverse ∘ _) = _
  rw [← Option.map_map, hall]
  simp

namespace Node

namespace Input

variable {i : Input} {t : Token} {rest : List Token}

theorem first_eq (htokens : i.tokens = t :: rest) : i.first = some t :=
  congrArg List.head? htokens

theorem tokens_drop (htokens : i.tokens = t :: rest) : i.drop.tokens = rest :=
  congrArg List.tail htokens

end Input

/-- A scalar at the front is read whole. -/
theorem read_scalar (fuel : Nat) (dashes : Bool) {i : Input} {style : Style} {text : String}
    {rest : List Token} (htokens : i.tokens = .scalar style text :: rest) :
    read true dashes (fuel + 2) i = some (.scalar style text, i.drop) := by
  have hmarks : i.marks = (none, none, i) := by rw [Input.marks, htokens]
  rw [read, htokens]
  simp only [hmarks, Option.elim_none, Option.bind_eq_bind, Option.bind_some, Option.isSome_none,
    Bool.or_self]
  rw [readContent, Input.first_eq htokens]
  rfl

/-- The value after a colon. -/
theorem readBlockValue_scalar (fuel : Nat) {i : Input} {style : Style} {text : String}
    {rest : List Token} (htokens : i.tokens = .value :: .scalar style text :: rest) :
    readBlockValue (fuel + 3) i = some (.scalar style text, i.drop.drop) := by
  have hvalue : i.drop.tokens = .scalar style text :: rest := Input.tokens_drop htokens
  have hcontent : endsBlock i.drop.first = false := by
    rw [Input.first_eq hvalue]
    rfl
  rw [readBlockValue, if_pos (Input.first_eq htokens), hcontent, if_neg Bool.false_ne_true,
    read_scalar fuel true hvalue]

/-- **The pairs of a mapping** are those of its lines. -/
theorem readPairs_lineTokens (lines : List (List Char × List Char)) {fuel : Nat}
    (hfuel : lines.length ≤ fuel) {i : Input}
    (htokens : i.tokens = lines.flatMap lineTokens ++ [.blockEnd]) :
    readPairs (fuel + 4) i = some (lines.map linePair, { i with tokens := [] }) := by
  induction lines generalizing fuel i with
  | nil =>
    rw [readPairs, Input.first_eq htokens, Input.drop, htokens]
    rfl
  | cons l lines ih =>
    obtain ⟨fuel, rfl⟩ := Nat.exists_eq_add_of_lt hfuel
    have hpair : i.tokens = .key :: .scalar .plain (String.ofList l.1) :: .value ::
        .scalar .plain (String.ofList l.2) :: (lines.flatMap lineTokens ++ [.blockEnd]) := htokens
    -- what is left of the tokens after the key, the colon and the whole line
    have hkey := Input.tokens_drop hpair
    have hcolon := Input.tokens_drop hkey
    have hrest := Input.tokens_drop (Input.tokens_drop hcolon)
    have hcontent : endsBlock i.drop.first = false := by
      rw [Input.first_eq hkey]
      rfl
    have hpairs := ih (Nat.le_add_right lines.length fuel) hrest
    show readPairs (lines.length + fuel + 4 + 1) i = _
    rw [readPairs, Input.first_eq hpair]
    simp only [hcontent, Bool.false_eq_true, if_false, read_scalar _ true hkey,
      readBlockValue_scalar _ hcolon, hpairs, Option.bind_eq_bind, Option.bind_some]
    rfl

theorem length_lineTokens (lines : List (List Char × List Char)) :
    (lines.flatMap lineTokens).length = 4 * lines.length := by
  induction lines with
  | nil => rfl
  | cons l lines ih =>
    rw [List.flatMap_cons, List.length_append, ih, List.length_cons, Nat.mul_succ, Nat.add_comm]
    rfl

/-- A block mapping is all there is. -/
theorem ofTokens?_lineTokens (lines : List (List Char × List Char)) :
    ofTokens? (.blockMappingStart :: (lines.flatMap lineTokens ++ [.blockEnd])) =
      some (.mapping (lines.map linePair)) := by
  have hlength : (Token.blockMappingStart :: (lines.flatMap lineTokens ++ [.blockEnd])).length =
      4 * lines.length + 2 := by
    rw [List.length_cons, List.length_append, length_lineTokens, List.length_singleton]
  have hread : ∀ handles, read true false (12 * lines.length + 3 + 4 + 2)
      { tokens := .blockMappingStart :: (lines.flatMap lineTokens ++ [.blockEnd]), handles } =
      some (.mapping (lines.map linePair), { tokens := [], handles }) := by
    intro handles
    have hfuel : lines.length ≤ 12 * lines.length + 3 := by omega
    have hpairs := readPairs_lineTokens lines hfuel
      (i := { tokens := lines.flatMap lineTokens ++ [.blockEnd], handles }) rfl
    show Option.bind (readContent true false false (12 * lines.length + 3 + 4 + 1) _) _ = _
    rw [readContent]
    show Option.bind (Option.bind (readPairs (12 * lines.length + 3 + 4)
      { tokens := lines.flatMap lineTokens ++ [.blockEnd], handles }) _) _ = _
    rw [hpairs]
    rfl
  have hfuel : 3 * (4 * lines.length + 2) + 3 = 12 * lines.length + 3 + 4 + 2 := by omega
  rw [ofTokens?]
  show Option.bind (some (Tag.handles, _)) _ = _
  rw [Option.bind_some]
  simp only [hlength, Nat.lt_irrefl, hfuel, hread, List.isEmpty_cons, decide_false, Bool.false_and,
    Bool.or_self, Bool.false_eq_true, if_false, Option.bind_eq_bind, Option.bind_some]
  rfl

/-- **The node of a text** of plain lines is a mapping, or nothing where there is no line. -/
theorem parse_lines (h : ∀ l ∈ lines, PlainLine l) :
    parse (String.ofList (lines.flatMap lineChars)) =
      some (if lines = [] then blank else .mapping (lines.map linePair)) := by
  by_cases hne : lines = []
  · subst hne
    rfl
  · rw [if_neg hne, parse, String.toList_ofList, scan_lines h hne, Option.bind_some,
      ofTokens?_lineTokens]

end Node

end Yaml

end Arbitration
