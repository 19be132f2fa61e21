import DiffView.Proofs.RawHunks

namespace DiffView

namespace Bits

variable {bits m n : Nat}

def fit? (bits n : Nat) : Option Nat := if n < 2 ^ bits then some n else none

def add? (bits m n : Nat) : Option Nat := fit? bits (m + n)

def sub? (m n : Nat) : Option Nat := if n ≤ m then some (m - n) else none

def div? (m n : Nat) : Option Nat := if n = 0 then none else some (m / n)

def addUpTo (bits m n : Nat) : Nat := min (m + n) (2 ^ bits - 1)

def mulUpTo (bits m n : Nat) : Nat := min (m * n) (2 ^ bits - 1)

theorem fit?_of_lt (h : n < 2 ^ bits) : fit? bits n = some n := if_pos h

theorem add?_of_lt (h : m + n < 2 ^ bits) : add? bits m n = some (m + n) := if_pos h

theorem sub?_of_le (h : n ≤ m) : sub? m n = some (m - n) := if_pos h

theorem div?_of_pos (h : 0 < n) : div? m n = some (m / n) := if_neg (Nat.ne_of_gt h)

end Bits

namespace Box

open Bits

def height? (b : Box) : Option Nat := add? 64 (b.bottom - b.top) 1

def width? (b : Box) : Option Nat := add? 64 (b.right - b.left) 1

def area? (b : Box) : Option Nat := do pure (mulUpTo 64 (← b.height?) (← b.width?))

def expand? (b : Box) (rows cols gridHeight gridWidth : Nat) : Option Box :=
  if gridHeight = 0 ∨ gridWidth = 0 then some b
  else do
    let lastRow ← sub? gridHeight 1
    let lastCol ← sub? gridWidth 1
    pure ⟨b.top - rows, b.left - cols, min (addUpTo 32 b.bottom rows) lastRow,
      min (addUpTo 32 b.right cols) lastCol⟩

/-- The last of some lines. Their number has 64 bits, their indices have 32. -/
def lastOf? (first count : Nat) : Option Nat := do
  let others ← sub? count 1
  add? 32 first (← fit? 32 others)

def cap? (b : Box) (maxCells : Nat) : Option Box :=
  if maxCells = 0 then some b
  else do
    if (← b.area?) ≤ maxCells then pure b
    else
      let height ← b.height?
      let width ← b.width?
      let rows := max (← div? maxCells width) 1
      if rows < height then pure { b with bottom := ← lastOf? b.top rows }
      else
        let cols := max (← div? maxCells height) 1
        if cols < width then pure { b with right := ← lastOf? b.left cols }
        else pure b

structure Fits (b : Box) : Prop where
  top : b.top < 2 ^ 32
  left : b.left < 2 ^ 32
  bottom : b.bottom < 2 ^ 32
  right : b.right < 2 ^ 32

variable {b : Box} {rows cols gridHeight gridWidth n : Nat}

theorem Fits.height? (h : b.Fits) : b.height? = some b.height := by
  have hbottom := h.bottom
  apply add?_of_lt
  omega

theorem Fits.width? (h : b.Fits) : b.width? = some b.width := by
  have hright := h.right
  apply add?_of_lt
  omega

theorem Fits.area? (h : b.Fits) : b.area? = some b.area := by
  rw [Box.area?, h.height?, h.width?]
  rfl

theorem lastOf?_of_lt {first count : Nat} (hcount : 0 < count)
    (hlast : first + (count - 1) < 2 ^ 32) :
    lastOf? first count = some (first + (count - 1)) := by
  have hothers : fit? 32 (count - 1) = some (count - 1) :=
    fit?_of_lt (Nat.lt_of_le_of_lt (Nat.le_add_left _ _) hlast)
  rw [lastOf?, sub?_of_le hcount, Option.bind_eq_bind, Option.bind_some, hothers]
  exact add?_of_lt hlast

theorem expand?_eq (b : Box) (rows cols : Nat) (hheight : gridHeight < 2 ^ 32)
    (hwidth : gridWidth < 2 ^ 32) :
    b.expand? rows cols gridHeight gridWidth = some (b.expand rows cols gridHeight gridWidth) := by
  by_cases hgrid : gridHeight = 0 ∨ gridWidth = 0
  · rw [expand?, expand, if_pos hgrid, if_pos hgrid]
  · have hrow : sub? gridHeight 1 = some (gridHeight - 1) := sub?_of_le (by omega)
    have hcol : sub? gridWidth 1 = some (gridWidth - 1) := sub?_of_le (by omega)
    -- a sum that was cut off is beyond the grid, where the grid cuts it off as well
    have hbottom : min (addUpTo 32 b.bottom rows) (gridHeight - 1) =
        min (b.bottom + rows) (gridHeight - 1) := by
      rw [addUpTo]
      omega
    have hright : min (addUpTo 32 b.right cols) (gridWidth - 1) =
        min (b.right + cols) (gridWidth - 1) := by
      rw [addUpTo]
      omega
    rw [expand?, expand, if_neg hgrid, if_neg hgrid, hrow, hcol]
    simp only [Option.bind_eq_bind, Option.bind_some, hbottom, hright]
    rfl

theorem Fits.cap? (h : b.Fits) (n : Nat) : b.cap? n = some (b.cap n) := by
  by_cases hn : n = 0
  · rw [Box.cap?, cap, if_pos hn, if_pos (.inl hn)]
  · rw [Box.cap?, if_neg hn, h.area?, Option.bind_eq_bind, Option.bind_some]
    by_cases harea : b.area ≤ n
    · rw [cap, if_pos harea, if_pos (.inr harea)]
      rfl
    · have hheight : 0 < b.height := Nat.succ_pos _
      have hwidth : 0 < b.width := Nat.succ_pos _
      have hbottom := h.bottom
      have hright := h.right
      rw [cap, if_neg harea, if_neg (not_or.mpr ⟨hn, harea⟩), h.height?, h.width?]
      simp only [Option.bind_some, div?_of_pos hheight, div?_of_pos hwidth]
      by_cases hrows : max (n / b.width) 1 < b.height
      · have hlast : b.top + (max (n / b.width) 1 - 1) < 2 ^ 32 := by
          rw [height] at hrows
          omega
        rw [if_pos hrows, if_pos hrows, lastOf?_of_lt (Nat.le_max_right _ _) hlast]
        rfl
      · rw [if_neg hrows, if_neg hrows]
        by_cases hcols : max (n / b.height) 1 < b.width
        · have hlast : b.left + (max (n / b.height) 1 - 1) < 2 ^ 32 := by
            rw [width] at hcols
            omega
          rw [if_pos hcols, if_pos hcols, lastOf?_of_lt (Nat.le_max_right _ _) hlast]
          rfl
        · rw [if_neg hcols, if_neg hcols]
          rfl

theorem Fits.expand (h : b.Fits) (rows cols : Nat) (hheight : gridHeight < 2 ^ 32)
    (hwidth : gridWidth < 2 ^ 32) : (b.expand rows cols gridHeight gridWidth).Fits := by
  by_cases hgrid : gridHeight = 0 ∨ gridWidth = 0
  · rw [Box.expand, if_pos hgrid]
    exact h
  · have hlt := expand_lt rows cols (Nat.pos_of_ne_zero fun h => hgrid (.inl h))
      (Nat.pos_of_ne_zero fun h => hgrid (.inr h)) b
    refine ⟨?_, ?_, hlt.1.trans hheight, hlt.2.trans hwidth⟩
    · rw [Box.expand, if_neg hgrid]
      exact (Nat.sub_le _ _).trans_lt h.top
    · rw [Box.expand, if_neg hgrid]
      exact (Nat.sub_le _ _).trans_lt h.left

/-- No edge of the one box is inside the other one, or further outside than a margin. -/
structure Surrounds (rows cols : Nat) (c b : Box) : Prop where
  top : c.top ≤ b.top ∧ b.top ≤ c.top + rows
  left : c.left ≤ b.left ∧ b.left ≤ c.left + cols
  bottom : b.bottom ≤ c.bottom ∧ c.bottom ≤ b.bottom + rows
  right : b.right ≤ c.right ∧ c.right ≤ b.right + cols

/-- The one box has the corner of the other one and ends no later, and it is not empty unless the
other one is. -/
structure Begins (c b : Box) : Prop where
  corner : c.corner = b.corner
  bottom_le : c.bottom ≤ b.bottom
  right_le : c.right ≤ b.right
  upright : b.Upright → c.Upright

@[simp] theorem corner_cap (b : Box) (n : Nat) : (b.cap n).corner = b.corner := by
  obtain h | ⟨k, -, h⟩ | ⟨k, -, h⟩ := b.cap_cases n <;> rw [h] <;> rfl

theorem begins_cap (b : Box) (n : Nat) : (b.cap n).Begins b where
  corner := b.corner_cap n
  bottom_le := (b.cap_le n).1
  right_le := (b.cap_le n).2
  upright := upright_cap_iff.mpr

end Box

/-- The edges of a box are lines of a sheet of some size, whichever way round they are. -/
structure Size.Encloses (size : Size) (b : Box) : Prop where
  top_lt : b.top < size.rows
  left_lt : b.left < size.cols
  bottom_lt : b.bottom < size.rows
  right_lt : b.right < size.cols

namespace Size.Encloses

variable {size : Size} {b : Box} (h : size.Encloses b) (rows cols : Nat)
include h

theorem surrounds_expand : (b.expand rows cols size.rows size.cols).Surrounds rows cols b := by
  obtain ⟨htop, hleft, hbottom, hright⟩ := h
  rw [Box.expand, if_neg (by omega)]
  constructor <;> dsimp only <;> omega

theorem expand : size.Encloses (b.expand rows cols size.rows size.cols) := by
  have hsurrounds := h.surrounds_expand rows cols
  obtain ⟨htop, hleft, hbottom, hright⟩ := h
  have hlt := Box.expand_lt rows cols (Nat.zero_lt_of_lt htop) (Nat.zero_lt_of_lt hleft) b
  exact ⟨hsurrounds.top.1.trans_lt htop, hsurrounds.left.1.trans_lt hleft, hlt.1, hlt.2⟩

theorem holds_iff : size.Holds b ↔ b.Upright :=
  ⟨fun hholds => hholds.upright, fun hupright => ⟨hupright, h.bottom_lt, h.right_lt⟩⟩

end Size.Encloses

/-- Growing and cutting a box never leaves the 32 or the 64 bits of a step. A cut takes lines at the
bottom or at the right only, and not all of them. A margin stays in the sheet, so what is cut from a
box with a margin has an extent in the sheet if the box has. -/
theorem box_steps_fit (b : Box) (rows cols n : Nat) (size : Size) :
    let wide := b.expand rows cols size.rows size.cols
    (b.Fits → size.rows < 2 ^ 32 → size.cols < 2 ^ 32 →
      b.expand? rows cols size.rows size.cols = some wide ∧ b.cap? n = some (b.cap n) ∧
        wide.cap? n = some (wide.cap n)) ∧
    (b.cap n).Begins b ∧
    (size.Encloses b → size.Encloses wide ∧ wide.Surrounds rows cols b) ∧
    (size.Holds b → size.Holds (wide.cap n)) := by
  intro wide
  refine ⟨?_, b.begins_cap n, ?_, fun h => (h.expand rows cols).cap n⟩
  · intro hb hrows hcols
    exact ⟨b.expand?_eq rows cols hrows hcols, hb.cap? n, (hb.expand rows cols hrows hcols).cap? n⟩
  · intro h
    exact ⟨h.expand rows cols, h.surrounds_expand rows cols⟩

theorem box_steps_fit_of_largest :
    let b : Box := ⟨1, 2, 4294967293, 4294967294⟩
    let size : Size := ⟨4294967295, 4294967295⟩
    b.Fits ∧ size.Encloses b ∧ size.Holds b ∧
      b.expand? 4294967295 4294967295 size.rows size.cols = some ⟨0, 0, 4294967294, 4294967294⟩ ∧
      Box.cap? ⟨0, 0, 4294967294, 4294967294⟩ 10 = some ⟨0, 0, 0, 4294967294⟩ ∧
      size.Holds ⟨0, 0, 0, 4294967294⟩ := by
  intro b size
  have hfits : b.Fits := ⟨by decide, by decide, by decide, by decide⟩
  have hencloses : size.Encloses b := ⟨by decide, by decide, by decide, by decide⟩
  have hholds : size.Holds b := hencloses.holds_iff.mpr ⟨by decide, by decide⟩
  obtain ⟨hsteps, -, -, hshown⟩ := box_steps_fit b 4294967295 4294967295 10 size
  have hwide : b.expand 4294967295 4294967295 size.rows size.cols =
      ⟨0, 0, 4294967294, 4294967294⟩ := by decide +kernel
  have hshort : Box.cap ⟨0, 0, 4294967294, 4294967294⟩ 10 = ⟨0, 0, 0, 4294967294⟩ := by
    decide +kernel
  rw [hwide, hshort] at hsteps hshown
  obtain ⟨hexpand, -, hcap⟩ := hsteps hfits (by decide) (by decide)
  exact ⟨hfits, hencloses, hholds, hexpand, hcap, hshown hholds⟩

end DiffView
