/-!
# Texts inside other texts
-/

namespace Arbitration

namespace Text

/-- Whether a text occurs in another one, without a gap. -/
def occursIn (part : List Char) : List Char → Bool
  | [] => part.isEmpty
  | c :: rest => part.isPrefixOf (c :: rest) || occursIn part rest

/-- The search finds a part wherever it stands. -/
theorem occursIn_iff {part whole : List Char} : occursIn part whole = true ↔ part <:+: whole := by
  induction whole with
  | nil => simp [occursIn]
  | cons c rest ih => simp [occursIn, ih, List.infix_cons_iff]

/-- Whether a message mentions a text. -/
def mentions (message part : String) : Bool := occursIn part.toList message.toList

end Text

end Arbitration
