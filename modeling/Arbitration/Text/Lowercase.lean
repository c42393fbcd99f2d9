import Arbitration.Text.Blank
import Arbitration.Text.Casing

/-!
# Lower case

A text in lower case by the full mapping of Unicode. Three things go beyond one table look-up: the
dotted capital I becomes two characters, a capital sigma at the end of a word takes its final form,
and the Kelvin sign becomes the ASCII letter.
-/

namespace Arbitration

namespace Text

/-- The first run that holds the code point, applied to it. -/
def lowercaseCode (n : Nat) : Nat :=
  match lowercaseRuns.find? fun run => run.1 ≤ n && n ≤ run.2.1 && (n - run.1) % run.2.2.1 == 0 with
  | some run => (n + run.2.2.2).toNat
  | none => n

/-- The lower-case form of one character out of context. -/
def lowerChar (c : Char) : List Char :=
  if c.toNat < 128 then [c.toLower]
  else if c.toNat = 0x130 then ['i', Char.ofNat 0x307]
  else [Char.ofNat (lowercaseCode c.toNat)]

/-- Whether the first character that casing does not skip is a cased letter. -/
def startsCased (cs : List Char) : Bool :=
  match cs.dropWhile (inRanges caseIgnorableRanges ·.toNat) with
  | [] => false
  | c :: _ => inRanges casedRanges c.toNat

/-- Lower case of the characters that follow `before`, which is held in reverse. -/
def lowerAfter (before : List Char) : List Char → List Char
  | [] => []
  | c :: rest =>
    (if c.toNat = 0x3A3 then
      [Char.ofNat (if startsCased before && !startsCased rest then 0x3C2 else 0x3C3)]
    else lowerChar c) ++ lowerAfter (c :: before) rest

/-- The lower case of a list of characters. -/
def lowerChars (cs : List Char) : List Char := lowerAfter [] cs

/-- A text in lower case. -/
def lower (s : String) : String := String.ofList (lowerChars s.toList)

/-- Within ASCII the mapping is letter by letter. -/
theorem lowerAfter_eq_map (before : List Char) {cs : List Char} (h : ∀ c ∈ cs, c.toNat < 128) :
    lowerAfter before cs = cs.map Char.toLower := by
  induction cs generalizing before with
  | nil => rfl
  | cons c rest ih =>
    have hc := h c (by simp)
    have hsigma : c.toNat ≠ 0x3A3 := by omega
    simp [lowerAfter, lowerChar, hc, hsigma, ih (c :: before) fun d hd => h d (by simp [hd])]

end Text

end Arbitration
