import Arbitration.Proofs.JsonText

/-!
# Reading back what was written

The compact text of a value is read back as that value (`parse_text`), if all its numbers are whole
and in range and no more containers are open at once than the reader allows (`Json.Within`).

The reader counts down two things. What it calls **fuel** bounds its recursion and never runs out,
because every call that spends some has taken a character: as much fuel as there are characters is
enough (`Reads`). What follows a value is left open, as long as it cannot be taken for a part of
it: a number would go on with a digit, a point or an exponent (`Follows`).
-/

namespace Arbitration

namespace Json

/-! ### Values that can be read back -/

/-- The numbers of a value are whole and in range, and at most `depth` of its containers stand
inside one another. -/
inductive Within : Nat → Json → Prop
  | null {depth : Nat} : Within depth null
  | bool {depth : Nat} {b : Bool} : Within depth (bool b)
  | str {depth : Nat} {s : String} : Within depth (str s)
  | int {depth : Nat} {n : Int} (least : minInt ≤ n) (greatest : n ≤ maxInt) : Within depth (int n)
  | arr {depth : Nat} {items : List Json} (items_within : ∀ v ∈ items, Within depth v) :
      Within (depth + 1) (arr items)
  | obj {depth : Nat} {members : List (String × Json)}
      (members_within : ∀ m ∈ members, Within depth m.2) : Within (depth + 1) (obj members)

/-- What may follow a value: nothing, or what separates or ends values. -/
def Follows (rest : List Char) : Prop := ∀ c ∈ rest.head?, c = ',' ∨ c = ']' ∨ c = '\x7d'

/-- The text of a value is read back from the front, if the reader may go as deep. -/
def Reads (depth : Nat) (v : Json) : Prop :=
  ∀ fuel rest, v.chars.length ≤ fuel → Follows rest →
    readValue fuel depth (v.chars ++ rest) = some (v, rest)

theorem follows_nil : Follows [] := nofun

theorem follows_cons {c : Char} (hc : c = ',' ∨ c = ']' ∨ c = '\x7d') (rest : List Char) :
    Follows (c :: rest) := by
  rintro d ⟨rfl⟩
  exact hc

theorem follows_itemsChars (items : List Json) (rest : List Char) :
    Follows (itemsChars items ++ rest) := by
  cases items with
  | nil => exact follows_cons (.inr (.inl rfl)) rest
  | cons v items => exact follows_cons (.inl rfl) _

theorem follows_membersChars (members : List (String × Json)) (rest : List Char) :
    Follows (membersChars members ++ rest) := by
  cases members with
  | nil => exact follows_cons (.inr (.inr rfl)) rest
  | cons m members => exact follows_cons (.inl rfl) _

/-! ### Numbers -/

/-- A number goes up to what follows it. -/
theorem takeDigits_natChars_of_follows (n : Nat) {rest : List Char} (hrest : Follows rest) :
    takeDigits (natChars n ++ rest) = (natChars n, rest) := by
  cases rest with
  | nil =>
    have hdigits : ∀ d ∈ natChars n, d.isDigit = true := fun d => isDigit_of_mem_natChars
    rw [takeDigits, List.span_eq_takeWhile_dropWhile, List.takeWhile_append_of_pos hdigits,
      List.dropWhile_append_of_pos hdigits, List.takeWhile_nil, List.dropWhile_nil,
      List.append_nil]
  | cons c rest =>
    refine takeDigits_natChars n ?_ rest
    rcases hrest c rfl with rfl | rfl | rfl <;> rfl

/-- Only zero starts with a zero. -/
theorem natChars_ne_zero_cons (n : Nat) (c : Char) (rest : List Char) :
    natChars n ≠ '0' :: c :: rest := by
  induction n using Nat.strongRecOn generalizing c rest with
  | ind n ih =>
    intro h
    rw [natChars, Nat.toDigits_eq_if (by decide)] at h
    split at h
    · exact absurd (congrArg List.length h) (by simp)
    · -- the digits but the last one are those of a number that is not zero
      rename_i hlarge
      change natChars (n / 10) ++ _ = _ at h
      cases hhigh : natChars (n / 10) with
      | nil => exact Nat.toDigits_ne_nil hhigh
      | cons d ds =>
        rw [hhigh] at h
        obtain ⟨rfl, htail⟩ := List.cons_eq_cons.1 h
        cases ds with
        | nil =>
          have hvalue := natOfDigits_natChars (n / 10)
          rw [hhigh] at hvalue
          change 0 = n / 10 at hvalue
          omega
        | cons d' ds' => exact ih (n / 10) (by omega) d' ds' hhigh

/-- Digits that stand for a number below `2 ^ 64` are all taken. -/
theorem extend_eq {ds : List Char} {n : Nat}
    (h : ds.foldl (fun n c => 10 * n + digitValue c) n < UInt64.size) :
    extend n ds = (ds.foldl (fun n c => 10 * n + digitValue c) n, []) := by
  have hgrows : ∀ (ds : List Char) (n : Nat),
      n ≤ ds.foldl (fun n c => 10 * n + digitValue c) n := by
    intro ds
    induction ds with
    | nil => exact fun n => Nat.le_refl n
    | cons c ds ih =>
      intro n
      exact Nat.le_trans (by omega) (ih (10 * n + digitValue c))
  induction ds generalizing n with
  | nil => rfl
  | cons c ds ih =>
    rw [extend, if_pos (Nat.lt_of_le_of_lt (hgrows ds _) h)]
    exact ih h

/-- A whole number that fits is read back after its sign. -/
theorem readNumber_natChars (negative : Bool) {n : Nat} {rest : List Char} (hrest : Follows rest)
    (hsize : n < UInt64.size) (hnegative : negative = true → n ≠ 0 ∧ n ≤ Nat.pow 2 63) :
    readNumber negative (natChars n ++ rest) =
      some (int (if negative then -(n : Int) else n), rest) := by
  have hall : extend 0 (natChars n) = (n, []) := by
    have hvalue : (natChars n).foldl (fun n c => 10 * n + digitValue c) 0 = n :=
      natOfDigits_natChars n
    have hextend := extend_eq (n := 0) (hvalue.symm ▸ hsize)
    rwa [hvalue] at hextend
  have hreal : (!([] : List Char).isEmpty || (negative && (n == 0 || Nat.pow 2 63 < n))) =
      false := by
    cases negative with
    | false => rfl
    | true =>
      obtain ⟨hpositive, hle⟩ := hnegative rfl
      simp [hpositive, Nat.not_lt.2 hle]
  have htail : readTail negative (natChars n) rest =
      some (int (if negative then -(n : Int) else n), rest) := by
    rw [readTail, hall]
    dsimp only
    split
    · rcases hrest _ rfl with h | h | h <;> cases h
    · rcases hrest _ rfl with h | h | h <;> cases h
    · rcases hrest _ rfl with h | h | h <;> cases h
    · rw [hreal, if_neg Bool.false_ne_true]
  rw [readNumber, takeDigits_natChars_of_follows n hrest]
  split
  · rename_i hnone
    exact absurd (congrArg Prod.fst hnone) Nat.toDigits_ne_nil
  · rename_i hzero
    exact absurd (congrArg Prod.fst hzero) (natChars_ne_zero_cons n _ _)
  · rename_i hsplit
    obtain ⟨rfl, rfl⟩ := Prod.mk.inj hsplit
    exact htail

/-! ### Values -/

section Values

variable {depth : Nat}

theorem reads_null : Reads depth null := by
  intro fuel rest hfuel _
  cases fuel with
  | zero => cases hfuel
  | succ fuel =>
    rw [readValue]
    rfl

theorem reads_bool (b : Bool) : Reads depth (bool b) := by
  intro fuel rest hfuel _
  cases fuel with
  | zero => cases b <;> cases hfuel
  | succ fuel =>
    cases b <;>
    · rw [readValue]
      rfl

theorem reads_str (s : String) : Reads depth (str s) := by
  intro fuel rest hfuel _
  cases fuel with
  | zero => cases hfuel
  | succ fuel =>
    show readValue (fuel + 1) depth ('"' :: (escape s.toList ++ ['"'] ++ rest)) = _
    rw [readValue]
    show (readString (escape s.toList ++ ['"'] ++ rest)).map _ = _
    rw [List.append_assoc, List.singleton_append, readString_escape]
    rfl

/-- A digit starts a number and nothing else. -/
theorem readValue_digit {c : Char} (hc : c.isDigit = true) (fuel : Nat) (rest : List Char) :
    readValue (fuel + 1) depth (c :: rest) = readNumber false (c :: rest) := by
  have hne : ∀ d : Char, d.isDigit = false → c ≠ d := by
    rintro d hd rfl
    rw [hc] at hd
    cases hd
  have hskip : skipSpace (c :: rest) = c :: rest := by
    refine List.dropWhile_cons_of_neg ?_
    simp [isSpace, hne]
  rw [readValue, hskip]
  split
  case h_9 h =>
    obtain ⟨rfl, rfl⟩ := List.cons_eq_cons.1 h
    rw [if_pos hc]
  all_goals
    rename_i h
    first
    | exact absurd h (List.cons_ne_nil _ _)
    | exact absurd (List.cons_eq_cons.1 h).1 (hne _ rfl)

theorem reads_int {n : Int} (least : minInt ≤ n) (greatest : n ≤ maxInt) :
    Reads depth (int n) := by
  intro fuel rest hfuel hrest
  cases n with
  | ofNat n =>
    have hsize : n < UInt64.size := by
      simp only [maxInt, Int.ofNat_eq_natCast] at greatest
      show n < 18446744073709551616
      omega
    have hread := readNumber_natChars false hrest hsize nofun
    show readValue fuel depth (natChars n ++ rest) = _
    change (natChars n).length ≤ fuel at hfuel
    cases hdigits : natChars n with
    | nil => exact absurd hdigits Nat.toDigits_ne_nil
    | cons c ds =>
      rw [hdigits] at hread hfuel
      cases fuel with
      | zero => cases hfuel
      | succ fuel =>
        have hc : c.isDigit = true :=
          isDigit_of_mem_natChars (n := n) (hdigits ▸ List.mem_cons_self)
        rw [List.cons_append, readValue_digit hc, ← List.cons_append, hread]
        rfl
  | negSucc n =>
    cases fuel with
    | zero => cases hfuel
    | succ fuel =>
      have hbound : n + 1 ≤ Nat.pow 2 63 := by
        simp only [minInt, Int.negSucc_eq] at least
        show n + 1 ≤ 9223372036854775808
        omega
      have hread := readNumber_natChars true hrest (Nat.lt_of_le_of_lt hbound (by decide))
        fun _ => ⟨Nat.succ_ne_zero n, hbound⟩
      show readValue (fuel + 1) depth ('-' :: (natChars (n + 1) ++ rest)) = _
      rw [readValue]
      exact hread

/-- A closing bracket starts no value. -/
theorem readValue_bracket {fuel : Nat} {cs rest : List Char} (h : skipSpace cs = ']' :: rest) :
    readValue fuel depth cs = none := by
  cases fuel with
  | zero => rw [readValue]
  | succ fuel =>
    rw [readValue, h]
    rfl

/-- The items after the first, up to the closing bracket. -/
theorem readItems_itemsChars {items : List Json} (h : ∀ v ∈ items, Reads depth v) (fuel : Nat)
    (hfuel : (itemsChars items).length ≤ fuel) (rest : List Char) :
    readItems fuel depth (itemsChars items ++ rest) = some (items, rest) := by
  induction items generalizing fuel with
  | nil =>
    cases fuel with
    | zero => cases hfuel
    | succ fuel =>
      rw [readItems]
      rfl
  | cons v items ih =>
    cases fuel with
    | zero => cases hfuel
    | succ fuel =>
      obtain ⟨hv, hitems⟩ := List.forall_mem_cons.1 h
      simp only [itemsChars, List.length_cons, List.length_append] at hfuel
      have hfirst := hv fuel (itemsChars items ++ rest) (by omega) (follows_itemsChars items rest)
      have hrest := ih hitems fuel (by omega)
      show readItems (fuel + 1) depth (',' :: (chars v ++ itemsChars items ++ rest)) = _
      rw [readItems, List.append_assoc]
      show (readValue fuel depth (chars v ++ (itemsChars items ++ rest))).bind _ = _
      rw [hfirst, Option.bind_some]
      show (readItems fuel depth (itemsChars items ++ rest)).bind _ = _
      rw [hrest]
      rfl

theorem reads_arr {items : List Json} (h : ∀ v ∈ items, Reads depth v) :
    Reads (depth + 1) (arr items) := by
  intro fuel rest hfuel _
  cases fuel with
  | zero => cases items <;> cases hfuel
  | succ fuel =>
    cases items with
    | nil =>
      rw [readValue]
      rfl
    | cons v items =>
      obtain ⟨hv, hitems⟩ := List.forall_mem_cons.1 h
      simp only [chars, List.length_cons, List.length_append] at hfuel
      have hfirst := hv fuel (itemsChars items ++ rest) (by omega) (follows_itemsChars items rest)
      have hrest := readItems_itemsChars hitems fuel (by omega) rest
      show readValue (fuel + 1) (depth + 1) ('[' :: (chars v ++ itemsChars items ++ rest)) = _
      have hskip : ∀ cs, skipSpace ('[' :: cs) = '[' :: cs := fun _ => rfl
      rw [readValue, List.append_assoc]
      simp only [hskip]
      split
      · -- what starts a value is no closing bracket
        rename_i hbracket
        rw [readValue_bracket hbracket] at hfirst
        cases hfirst
      · rw [hfirst]
        show (readItems fuel depth (itemsChars items ++ rest)).bind _ = _
        rw [hrest]
        rfl

/-- A key, a colon and a value. -/
theorem readMember_chars (key : String) {v : Json} (h : Reads depth v) (fuel : Nat)
    (hfuel : v.chars.length ≤ fuel) {rest : List Char} (hrest : Follows rest) :
    readMember (fuel + 1) depth (stringChars key ++ ':' :: (chars v ++ rest)) =
      some ((key, v), rest) := by
  show readMember (fuel + 1) depth
    ('"' :: (escape key.toList ++ ['"'] ++ ':' :: (chars v ++ rest))) = _
  rw [readMember, List.append_assoc, List.singleton_append]
  show (readString (escape key.toList ++ '"' :: ':' :: (chars v ++ rest))).bind _ = _
  rw [readString_escape, Option.bind_some]
  show (readValue fuel depth (chars v ++ rest)).bind _ = _
  rw [h fuel rest hfuel hrest]
  rfl

/-- The members after the first, up to the closing brace. -/
theorem readMembers_membersChars {members : List (String × Json)}
    (h : ∀ m ∈ members, Reads depth m.2) (fuel : Nat)
    (hfuel : (membersChars members).length ≤ fuel) (rest : List Char) :
    readMembers fuel depth (membersChars members ++ rest) = some (members, rest) := by
  induction members generalizing fuel with
  | nil =>
    cases fuel with
    | zero => cases hfuel
    | succ fuel =>
      rw [readMembers]
      rfl
  | cons m members ih =>
    cases fuel with
    | zero => cases hfuel
    | succ fuel =>
      obtain ⟨key, v⟩ := m
      obtain ⟨hv, hmembers⟩ := List.forall_mem_cons.1 h
      change Reads depth v at hv
      simp only [membersChars, stringChars, List.length_cons, List.length_append] at hfuel
      cases fuel with
      | zero => omega
      | succ fuel =>
        have hfirst := readMember_chars key hv fuel (by omega)
          (follows_membersChars members rest)
        have hrest := ih hmembers (fuel + 1) (by omega)
        show readMembers (fuel + 2) depth (',' ::
          (stringChars key ++ ':' :: (chars v ++ membersChars members) ++ rest)) = _
        rw [readMembers, List.append_assoc, List.cons_append, List.append_assoc]
        show (readMember (fuel + 1) depth _).bind _ = _
        rw [hfirst, Option.bind_some]
        show (readMembers (fuel + 1) depth (membersChars members ++ rest)).bind _ = _
        rw [hrest]
        rfl

theorem reads_obj {members : List (String × Json)} (h : ∀ m ∈ members, Reads depth m.2) :
    Reads (depth + 1) (obj members) := by
  intro fuel rest hfuel _
  cases fuel with
  | zero => rcases members with _ | ⟨⟨key, v⟩, members⟩ <;> cases hfuel
  | succ fuel =>
    rcases members with _ | ⟨⟨key, v⟩, members⟩
    · rw [readValue]
      rfl
    · obtain ⟨hv, hmembers⟩ := List.forall_mem_cons.1 h
      change Reads depth v at hv
      simp only [chars, stringChars, List.length_cons, List.length_append] at hfuel
      cases fuel with
      | zero => omega
      | succ fuel =>
        have hfirst := readMember_chars key hv fuel (by omega)
          (follows_membersChars members rest)
        have hrest := readMembers_membersChars hmembers (fuel + 1) (by omega) rest
        show readValue (fuel + 2) (depth + 1) ('\x7b' ::
          (stringChars key ++ ':' :: (chars v ++ membersChars members) ++ rest)) = _
        rw [readValue, List.append_assoc, List.cons_append, List.append_assoc]
        show (readMember (fuel + 1) depth _).bind _ = _
        rw [hfirst, Option.bind_some]
        show (readMembers (fuel + 1) depth (membersChars members ++ rest)).bind _ = _
        rw [hrest]
        rfl

end Values

/-- **Every value** that is within a depth is read back by a reader that goes as deep. -/
theorem Within.reads {depth : Nat} {v : Json} (h : v.Within depth) : Reads depth v := by
  induction h with
  | null => exact reads_null
  | bool => exact reads_bool _
  | str => exact reads_str _
  | int least greatest => exact reads_int least greatest
  | arr _ ih => exact reads_arr ih
  | obj _ ih => exact reads_obj ih

/-- A reader that goes deep enough reads the compact characters of a value back. -/
theorem Within.readWithin_chars {depth : Nat} {v : Json} (h : v.Within depth) :
    readWithin depth v.chars = some v := by
  have hread := h.reads (2 * v.chars.length + 2) [] (by omega) follows_nil
  rw [List.append_nil] at hread
  rw [readWithin, hread]
  rfl

/-- **A text is read back as the value that it was written for.** -/
theorem parse_text {v : Json} (h : v.Within maxDepth) : parse v.text = some v := by
  rw [parse, text, String.toList_ofList, h.readWithin_chars]

end Json

end Arbitration
