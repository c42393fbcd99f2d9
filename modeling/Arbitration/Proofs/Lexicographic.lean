import Mathlib.Data.List.Lex
import Mathlib.Order.Lattice

/-!
# The order of texts

Texts are ordered as the lists of their characters, by the first difference. So of two texts that
are made up of parts in the same way, the first parts that differ decide: parts of one length
(`append_lt_append_iff`), or parts of which neither begins the other
(`append_lt_append_iff_of_not_begins`).
-/

namespace Arbitration

variable {α : Type} [LinearOrder α] {a b c d : List α}

/-- Parts that differ before either ends decide. -/
theorem append_lt_append_iff_of_not_begins (hab : ¬ a <+: b) (hba : ¬ b <+: a) :
    a ++ c < b ++ d ↔ a < b := by
  induction a generalizing b with
  | nil => exact absurd List.nil_prefix hab
  | cons x a ih =>
    cases b with
    | nil => exact absurd List.nil_prefix hba
    | cons y b =>
      rw [List.cons_append, List.cons_append, List.cons_lt_cons_iff, List.cons_lt_cons_iff]
      by_cases hxy : x = y
      · subst hxy
        rw [ih (fun h => hab (List.cons_prefix_cons.2 ⟨rfl, h⟩))
          (fun h => hba (List.cons_prefix_cons.2 ⟨rfl, h⟩))]
      · simp only [hxy, false_and, or_false]

/-- A part in common does not matter. -/
theorem append_left_lt_iff (a : List α) : a ++ c < a ++ d ↔ c < d := by
  induction a with
  | nil => rfl
  | cons x a ih =>
    rw [List.cons_append, List.cons_append, List.cons_lt_cons_iff, ih]
    simp only [lt_self_iff_false, true_and, false_or]

/-- Parts of one length decide, unless they are the same. -/
theorem append_lt_append_iff (hlength : a.length = b.length) :
    a ++ c < b ++ d ↔ a < b ∨ a = b ∧ c < d := by
  by_cases hab : a = b
  · subst hab
    rw [append_left_lt_iff]
    simp only [lt_self_iff_false, true_and, false_or]
  · rw [append_lt_append_iff_of_not_begins (fun h => hab (h.eq_of_length hlength))
      (fun h => hab (h.eq_of_length hlength.symm).symm)]
    simp only [hab, false_and, or_false]

end Arbitration
