import DiffView.A1
import DiffView.Proofs.Ids
import Mathlib.Data.Nat.Digits.Defs

namespace DiffView

namespace A1

def number (base : Nat) (value : Char → Nat) (cs : List Char) : Nat :=
  Nat.ofDigits base (cs.map value).reverse

theorem number_append (base : Nat) (value : Char → Nat) (cs : List Char) (c : Char) :
    number base value (cs ++ [c]) = number base value cs * base + value c := by
  rw [number, List.map_append, List.map_singleton, List.reverse_concat, Nat.ofDigits_cons,
    Nat.add_comm, Nat.mul_comm]
  rfl

theorem letterValue_letter {n : Nat} (h : n < 26) : letterValue (letter n) = n + 1 := by
  revert n
  decide

theorem isUpper_letter {n : Nat} (h : n < 26) : (letter n).isUpper := by
  revert n
  decide

theorem number_columnLetters (col : Nat) : number 26 letterValue (columnLetters col) = col + 1 := by
  induction col using Nat.strongRecOn with
  | ind col ih =>
      rw [columnLetters_eq]
      split
      · rename_i hcol
        simp [number, letterValue_letter hcol]
      · rename_i hcol
        rw [number_append, ih _ (by omega), letterValue_letter (Nat.mod_lt _ (by decide))]
        omega

theorem columnLetters_inj {col col' : Nat} (h : columnLetters col = columnLetters col') :
    col = col' := by
  have hnumber := congrArg (number 26 letterValue) h
  rw [number_columnLetters, number_columnLetters] at hnumber
  exact Nat.succ.inj hnumber

theorem isUpper_of_mem_columnLetters {col : Nat} {c : Char} (hc : c ∈ columnLetters col) :
    c.isUpper := by
  induction col using Nat.strongRecOn with
  | ind col ih =>
      rw [columnLetters_eq] at hc
      split at hc
      · rename_i hcol
        rw [List.mem_singleton.mp hc]
        exact isUpper_letter hcol
      · rcases List.mem_append.mp hc with hc | hc
        · exact ih _ (by omega) hc
        · rw [List.mem_singleton.mp hc]
          exact isUpper_letter (Nat.mod_lt _ (by decide))

theorem toList_cell (row col : Nat) :
    (cell row col).toList = columnLetters col ++ Nat.toDigits 10 (row + 1) := by
  simp [cell, column, toString]

theorem not_isUpper_of_isDigit {c : Char} (h : c.isDigit) : ¬c.isUpper := by
  simp only [Char.isDigit, Char.isUpper, Bool.and_eq_true, decide_eq_true_eq, ge_iff_le,
    UInt32.le_iff_toNat_le] at h ⊢
  have hnine : '9'.val.toNat = 57 := rfl
  have hletter : 'A'.val.toNat = 65 := rfl
  omega

theorem filter_isUpper_cell (row col : Nat) :
    (cell row col).toList.filter Char.isUpper = columnLetters col := by
  have hdigits : (Nat.toDigits 10 (row + 1)).filter Char.isUpper = [] :=
    List.filter_eq_nil_iff.mpr fun d hd => not_isUpper_of_isDigit (isDigit_of_mem_digits hd)
  rw [toList_cell, List.filter_append, hdigits, List.append_nil]
  exact List.filter_eq_self.mpr fun c hc => isUpper_of_mem_columnLetters hc

theorem filter_isDigit_cell (row col : Nat) :
    (cell row col).toList.filter Char.isDigit = Nat.toDigits 10 (row + 1) := by
  have hletters : (columnLetters col).filter Char.isDigit = [] :=
    List.filter_eq_nil_iff.mpr fun c hc hdigit =>
      not_isUpper_of_isDigit hdigit (isUpper_of_mem_columnLetters hc)
  rw [toList_cell, List.filter_append, hletters, List.nil_append]
  exact List.filter_eq_self.mpr fun d hd => isDigit_of_mem_digits hd

theorem cell_inj {row col row' col' : Nat} :
    (cell row col).toList = (cell row' col').toList ↔ row = row' ∧ col = col' := by
  constructor
  · intro h
    constructor
    · apply Nat.succ.inj
      apply digits_inj.mp
      rw [← filter_isDigit_cell row col, h, filter_isDigit_cell]
    · apply columnLetters_inj
      rw [← filter_isUpper_cell row col, h, filter_isUpper_cell]
  · rintro ⟨rfl, rfl⟩
    rfl

theorem isUpper_or_isDigit_of_mem_cell {row col : Nat} {c : Char} (hc : c ∈ (cell row col).toList) :
    c.isUpper ∨ c.isDigit := by
  rw [toList_cell, List.mem_append] at hc
  exact hc.imp isUpper_of_mem_columnLetters isDigit_of_mem_digits

theorem not_mem_cell {c : Char} (hc : ¬(c.isUpper ∨ c.isDigit)) (row col : Nat) :
    c ∉ (cell row col).toList := fun h => hc (isUpper_or_isDigit_of_mem_cell h)

theorem cells_inj {c : Char} (hc : ¬(c.isUpper ∨ c.isDigit))
    {row col row' col' bottom right bottom' right' : Nat} :
    (cell row col).toList ++ c :: (cell bottom right).toList =
        (cell row' col').toList ++ c :: (cell bottom' right').toList ↔
      (row = row' ∧ col = col') ∧ bottom = bottom' ∧ right = right' := by
  rw [List.append_cons_inj_of_notMem (not_mem_cell hc row col) (not_mem_cell hc bottom right),
    cell_inj, cell_inj, eq_self_iff_true, true_and]

theorem range_eq (top left bottom right : Nat) : range top left bottom right =
    if top = bottom ∧ left = right then cell top left
    else cell top left ++ ":" ++ cell bottom right := by
  have hcells : cell top left = cell bottom right ↔ top = bottom ∧ left = right := by
    rw [← String.toList_inj, cell_inj]
  simp only [range, hcells]

theorem colon_not_mem_cell (row col : Nat) : ':' ∉ (cell row col).toList :=
  not_mem_cell (by decide) row col

variable {top left bottom right : Nat}

@[simp] theorem range_point (top left : Nat) : range top left top left = cell top left := by
  rw [range_eq, if_pos ⟨rfl, rfl⟩]

theorem toList_range (h : ¬(top = bottom ∧ left = right)) :
    (range top left bottom right).toList =
      (cell top left).toList ++ ':' :: (cell bottom right).toList := by
  rw [range_eq, if_neg h, String.toList_append, String.toList_append, List.append_assoc]
  rfl

@[simp] theorem colon_mem_range_iff :
    ':' ∈ (range top left bottom right).toList ↔ ¬(top = bottom ∧ left = right) := by
  by_cases h : top = bottom ∧ left = right
  · obtain ⟨rfl, rfl⟩ := h
    rw [range_point]
    exact iff_of_false (colon_not_mem_cell top left) (not_not.mpr ⟨rfl, rfl⟩)
  · simp [toList_range h, h]

theorem range_inj {top' left' bottom' right' : Nat}
    (h : range top left bottom right = range top' left' bottom' right') :
    (top = top' ∧ left = left') ∧ bottom = bottom' ∧ right = right' := by
  have hchars := congrArg String.toList h
  have hcolon : (top = bottom ∧ left = right) ↔ (top' = bottom' ∧ left' = right') := by
    rw [← not_iff_not, ← colon_mem_range_iff, ← colon_mem_range_iff, hchars]
  by_cases hpoint : top = bottom ∧ left = right
  · obtain ⟨rfl, rfl⟩ := hcolon.mp hpoint
    obtain ⟨rfl, rfl⟩ := hpoint
    rw [range_point, range_point, cell_inj] at hchars
    exact ⟨hchars, hchars⟩
  · rw [toList_range hpoint, toList_range (mt hcolon.mpr hpoint)] at hchars
    exact (cells_inj (by decide)).mp hchars

end A1

/-- The text of a range tells its four edges, and it has a colon just if the range is more than a
single cell. -/
theorem ranges_told_apart (top left bottom right : Nat) :
    (∀ top' left' bottom' right',
      A1.range top left bottom right = A1.range top' left' bottom' right' ↔
        (top, left, bottom, right) = (top', left', bottom', right')) ∧
    (':' ∉ (A1.range top left bottom right).toList ↔ top = bottom ∧ left = right) := by
  constructor
  · intro top' left' bottom' right'
    constructor
    · intro h
      obtain ⟨⟨rfl, rfl⟩, rfl, rfl⟩ := A1.range_inj h
      rfl
    · intro h
      cases h
      rfl
  · rw [A1.colon_mem_range_iff, not_not]

end DiffView
