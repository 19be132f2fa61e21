import DiffView.Proofs.Parts

namespace DiffView.Box

variable {b c : Box} {n : Nat}

theorem height_pos (b : Box) : 0 < b.height := Nat.succ_pos _

theorem width_pos (b : Box) : 0 < b.width := Nat.succ_pos _

theorem area_le_iff : b.area ≤ n ↔ b.height * b.width ≤ n ∨ maxArea ≤ n := by
  rw [area]
  omega

def keepRows (b : Box) (rows : Nat) : Box := { b with bottom := b.top + (rows - 1) }

def keepCols (b : Box) (cols : Nat) : Box := { b with right := b.left + (cols - 1) }

@[simp] theorem width_keepRows (b : Box) (rows : Nat) : (b.keepRows rows).width = b.width := rfl

@[simp] theorem height_keepCols (b : Box) (cols : Nat) : (b.keepCols cols).height = b.height := rfl

theorem height_keepRows (b : Box) {rows : Nat} (h : 0 < rows) :
    (b.keepRows rows).height = rows := by
  simp only [height, keepRows]
  omega

theorem width_keepCols (b : Box) {cols : Nat} (h : 0 < cols) :
    (b.keepCols cols).width = cols := by
  simp only [width, keepCols]
  omega

inductive Cut (n : Nat) (b : Box) : Box → Prop
  | whole (h : b.area ≤ n) : Cut n b b
  | rows (h : 1 < b.height) (hn : b.width ≤ n) : Cut n b (b.keepRows (n / b.width))
  | firstRow (h : 1 < b.height) (hn : n < b.width) : Cut n b (b.keepRows 1)
  | cols (h : b.height = 1) (hn : n < b.width) : Cut n b (b.keepCols n)

theorem cut_cap (b : Box) (hn : 0 < n) : b.Cut n (b.cap n) := by
  by_cases hfits : b.area ≤ n
  · rw [cap, if_pos (.inr hfits)]
    exact .whole hfits
  · have harea : n < b.height * b.width := by
      rw [area_le_iff] at hfits
      omega
    rw [cap, if_neg (by omega)]
    by_cases hheight : b.height = 1
    · rw [hheight, Nat.one_mul] at harea
      have hrows : ¬max (n / b.width) 1 < b.height := by omega
      have hcols : max (n / b.height) 1 = n := by
        rw [hheight, Nat.div_one]
        omega
      simp only [if_neg hrows, hcols, if_pos harea]
      exact .cols hheight harea
    · have hmany : 1 < b.height := by
        have := b.height_pos
        omega
      by_cases hwidth : b.width ≤ n
      · have hpos : 1 ≤ n / b.width := (Nat.one_le_div_iff b.width_pos).mpr hwidth
        have hrows : n / b.width < b.height := (Nat.div_lt_iff_lt_mul b.width_pos).mpr harea
        simp only [Nat.max_eq_left hpos, if_pos hrows]
        exact .rows hmany hwidth
      · have hzero : n / b.width = 0 := Nat.div_eq_of_lt (by omega)
        simp only [hzero, Nat.zero_max, if_pos hmany]
        exact .firstRow hmany (by omega)

namespace Cut

theorem area_le_iff (h : b.Cut n c) (hn : 0 < n) :
    c.area ≤ n ↔ b.area ≤ n ∨ b.height = 1 ∨ b.width ≤ n := by
  cases h with
  | whole h => simp only [h, true_or]
  | rows hmany hwidth =>
      have hpos : 0 < n / b.width := Nat.div_pos hwidth b.width_pos
      have hle : n / b.width * b.width ≤ n := Nat.div_mul_le_self n b.width
      simp only [Box.area_le_iff, height_keepRows b hpos, width_keepRows, hle, hwidth, true_or,
        or_true]
  | firstRow hmany hwidth =>
      -- The row that is left is too long, unless no area is too large.
      have hle : b.width ≤ b.height * b.width := Nat.le_mul_of_pos_left _ b.height_pos
      rw [Box.area_le_iff, Box.area_le_iff, height_keepRows b Nat.one_pos, width_keepRows]
      omega
  | cols hone hwidth =>
      simp only [Box.area_le_iff, height_keepCols, width_keepCols b hn, hone, Nat.one_mul,
        Nat.le_refl, true_or, or_true]

theorem fits (h : b.Cut n c) : c.area ≤ n ∨ c.height = 1 ∨ c.width ≤ n := by
  cases h with
  | whole h => exact .inl h
  | rows hmany hwidth => exact .inr (.inr hwidth)
  | firstRow => exact .inr (.inl (height_keepRows b Nat.one_pos))
  | cols hone => exact .inr (.inl hone)

end Cut

theorem cap_eq_self_iff (hn : 0 < n) : b.cap n = b ↔ b.area ≤ n := by
  constructor
  · intro h
    have hcut := b.cut_cap hn
    generalize hc : b.cap n = c at hcut h
    cases hcut with
    | whole harea => exact harea
    | rows hmany hwidth =>
        have hpos : 0 < n / b.width := Nat.div_pos hwidth b.width_pos
        have hle : b.height * b.width ≤ n := by
          rw [← congrArg height h, height_keepRows b hpos]
          exact Nat.div_mul_le_self n b.width
        exact area_le_iff.mpr (.inl hle)
    | firstRow hmany hwidth =>
        have hheight := congrArg height h
        rw [height_keepRows b Nat.one_pos] at hheight
        omega
    | cols hone hwidth =>
        have hcols := congrArg width h
        rw [width_keepCols b hn] at hcols
        omega
  · intro h
    exact if_pos (.inr h)

/-- A box that is cut is within the limit if it has been, if it has a single row, or if its rows are
no longer than the limit. Otherwise a second cut changes it again, and then it is. -/
theorem cap_fits_iff (b : Box) (hn : 0 < n) :
    ((b.cap n).area ≤ n ↔ b.area ≤ n ∨ b.height = 1 ∨ b.width ≤ n) ∧
      ((b.cap n).cap n = b.cap n ↔ (b.cap n).area ≤ n) ∧ ((b.cap n).cap n).area ≤ n := by
  have hcut := b.cut_cap hn
  refine ⟨hcut.area_le_iff hn, cap_eq_self_iff hn, ?_⟩
  apply ((b.cap n).cut_cap hn |>.area_le_iff hn).mpr
  exact hcut.fits

theorem cap_fits_iff_of_threeRows :
    0 < 10 ∧ (Box.cap ⟨0, 0, 2, 3⟩ 10).area ≤ 10 ∧
      (Box.cap ⟨0, 0, 2, 3⟩ 10).cap 10 = Box.cap ⟨0, 0, 2, 3⟩ 10 := by
  have hn : 0 < 10 := by decide
  obtain ⟨harea, hcap, -⟩ := cap_fits_iff ⟨0, 0, 2, 3⟩ hn
  have hfits := harea.mpr (.inr (.inr (by decide)))
  exact ⟨hn, hfits, hcap.mpr hfits⟩

/-- Of two rows of ten cells, one is left whole. -/
theorem not_cap_fits :
    Box.cap ⟨0, 0, 1, 9⟩ 5 = ⟨0, 0, 0, 9⟩ ∧ (Box.cap ⟨0, 0, 1, 9⟩ 5).cap 5 = ⟨0, 0, 0, 4⟩ ∧
      ¬∀ (b : Box) (n : Nat), b.Upright → 0 < n →
        (b.cap n).area ≤ n ∧ (b.cap n).cap n = b.cap n := by
  refine ⟨rfl, rfl, ?_⟩
  intro h
  have harea := (h ⟨0, 0, 1, 9⟩ 5 ⟨by decide, by decide⟩ (by decide)).1
  exact absurd harea (by decide)

end DiffView.Box
