import DiffView.Proofs.Parts
import DiffView.Workbook.Routing

namespace DiffView

namespace Box

variable {b : Box} {n : Nat}

theorem cap_cases (b : Box) (n : Nat) :
    b.cap n = b ∨ (∃ k, k < b.bottom - b.top ∧ b.cap n = { b with bottom := b.top + k }) ∨
      ∃ k, k < b.right - b.left ∧ b.cap n = { b with right := b.left + k } := by
  by_cases hfits : n = 0 ∨ b.area ≤ n
  · exact .inl (if_pos hfits)
  · rw [cap, if_neg hfits]
    by_cases hrows : max (n / b.width) 1 < b.height
    · rw [height] at hrows
      exact .inr (.inl ⟨_, by omega, if_pos hrows⟩)
    · by_cases hcols : max (n / b.height) 1 < b.width
      · rw [width] at hcols
        exact .inr (.inr ⟨_, by omega, (if_neg hrows).trans (if_pos hcols)⟩)
      · exact .inl ((if_neg hrows).trans (if_neg hcols))

theorem cap_le (b : Box) (n : Nat) :
    (b.cap n).bottom ≤ b.bottom ∧ (b.cap n).right ≤ b.right := by
  obtain h | ⟨k, hk, h⟩ | ⟨k, hk, h⟩ := b.cap_cases n
  · rw [h]
    exact ⟨Nat.le_refl _, Nat.le_refl _⟩
  · rw [h]
    exact ⟨show b.top + k ≤ b.bottom by omega, Nat.le_refl _⟩
  · rw [h]
    exact ⟨Nat.le_refl _, show b.left + k ≤ b.right by omega⟩

theorem upright_cap_iff : (b.cap n).Upright ↔ b.Upright := by
  obtain h | ⟨k, hk, h⟩ | ⟨k, hk, h⟩ := b.cap_cases n
  · rw [h]
  · rw [h]
    simp only [Upright]
    omega
  · rw [h]
    simp only [Upright]
    omega

section Margin

variable (rows cols : Nat) {gridHeight gridWidth : Nat} (hheight : 0 < gridHeight)
  (hwidth : 0 < gridWidth)
include hheight hwidth

theorem upright_expand_iff (h : b.Upright) :
    (b.expand rows cols gridHeight gridWidth).Upright ↔
      b.top < gridHeight + rows ∧ b.left < gridWidth + cols := by
  obtain ⟨hrows, hcols⟩ := h
  rw [expand, if_neg (by omega)]
  simp only [Upright]
  omega

theorem expand_lt (b : Box) :
    (b.expand rows cols gridHeight gridWidth).bottom < gridHeight ∧
      (b.expand rows cols gridHeight gridWidth).right < gridWidth := by
  rw [expand, if_neg (by omega)]
  constructor
  · show min _ _ < gridHeight
    omega
  · show min _ _ < gridWidth
    omega

end Margin

end Box

structure Grid.Holds (g : Grid) (b : Box) : Prop where
  upright : b.Upright
  bottom_lt : b.bottom < g.rows.count
  right_lt : b.right < g.cols.count

def Options.context (o : Options) : Line → Nat
  | .row => o.contextRows
  | .col => o.contextCols

namespace Region

variable {o : Options} {g : Grid} {b shown : Box}

theorem holds_shownBox?_iff (hg : g.isEmpty = false) (hb : b.Upright)
    (h : shownBox? o g b = some shown) :
    g.Holds shown ↔ ∀ line, b.corner.on line < (g.axis line).count + o.context line := by
  have hrows : 0 < g.rows.count := g.count_pos hg .row
  have hcols : 0 < g.cols.count := g.count_pos hg .col
  rw [shownBox?, if_neg (Bool.eq_false_iff.mp hg)] at h
  obtain rfl := Option.some_inj.mp h
  have hupright := Box.upright_expand_iff o.contextRows o.contextCols hrows hcols hb
  have hlt := Box.expand_lt o.contextRows o.contextCols hrows hcols b
  have hle := Box.cap_le (b.expand o.contextRows o.contextCols g.rows.count g.cols.count)
    o.maxVisualCells
  constructor
  · intro hholds line
    have hcorner := hupright.mp (Box.upright_cap_iff.mp hholds.upright)
    cases line with
    | row => exact hcorner.1
    | col => exact hcorner.2
  · intro hcorner
    refine ⟨Box.upright_cap_iff.mpr (hupright.mpr ⟨hcorner .row, hcorner .col⟩), ?_, ?_⟩
    · exact hle.1.trans_lt hlt.1
    · exact hle.2.trans_lt hlt.2

end Region

/-- A hunk is that of a region, and where the region begins tells how the hunk lies in the grid. -/
structure SheetInput.HunkOf (o : Options) (i : SheetInput) (r : Region) (h : Hunk) : Prop where
  kind : h.kind = .aligned r.id
  holds_iff : i.grid.Holds h.box ↔
    ∀ line, r.box.corner.on line < (i.grid.axis line).count + o.context line
  lt_or_astray : ∀ line, r.box.corner.on line < (i.grid.axis line).count ∨
    i.Astray line (r.box.corner.on line)

theorem SheetView.hunkOf_regions {o : Options} {i : SheetInput}
    (hshown : (SheetView.ofInput o i).status.isShown) :
    List.Forall₂ (i.HunkOf o) (SheetView.ofInput o i).regions (SheetView.ofInput o i).hunks := by
  have hg : i.grid.isEmpty = false := Status.not_isEmpty_of_isShown hshown
  have hhunks : (SheetView.ofInput o i).hunks =
      (SheetView.ofInput o i).regions.filterMap Hunk.ofRegion? := if_pos hshown
  rw [hhunks]
  apply forall₂_filterMap
  intro r hr
  obtain ⟨hupright, hbegins⟩ := SheetInput.region_begins hr
  obtain ⟨a, -, rfl⟩ := Region.mem_ofOps.mp hr
  have hbox : Region.shownBox? o i.grid a.box = some _ := if_neg (Bool.eq_false_iff.mp hg)
  refine ⟨_, congrArg (Option.map _) hbox, rfl, ?_, ?_⟩
  · exact Region.holds_shownBox?_iff hg hupright hbox
  · intro line
    obtain ⟨p, hp, hbegin⟩ := hbegins line
    exact SheetInput.lt_count_or_astray hp hbegin (i.grid.count_pos hg line)

/-- In a sheet whose grid is shown, each region has a hunk. It lies in the grid, and is not empty,
just if the region begins before the margin behind the last row and before the one behind the last
column. A region that begins behind the grid does so at the index of a line that a change concerns
and that has no place in the view; without such lines, all hunks lie in the grid. -/
theorem hunks_in_grid (o : Options) (i : SheetInput)
    (hshown : (SheetView.ofInput o i).status.isShown) :
    List.Forall₂ (i.HunkOf o) (SheetView.ofInput o i).regions (SheetView.ofInput o i).hunks ∧
      ((∀ line n, ¬i.Astray line n) →
        ∀ h ∈ (SheetView.ofInput o i).hunks, i.grid.Holds h.box) := by
  have hregions := SheetView.hunkOf_regions hshown
  refine ⟨hregions, ?_⟩
  intro hastray h hh
  obtain ⟨r, -, hof⟩ := exists_of_forall₂_of_mem hregions hh
  refine hof.holds_iff.mpr fun line => ?_
  have hlt := (hof.lt_or_astray line).resolve_right (hastray line _)
  exact hlt.trans_le (Nat.le_add_right _ _)

def oneCell (change : GridChange) : Payload where
  report := ⟨none, [], [.known (.grid (.text "S") change)], true, []⟩
  old := [⟨"S", 1, 1, [], false, none, none, none⟩]
  new := [⟨"S", 1, 1, [], false, none, none, none⟩]
  alignments := [⟨"S", [⟨some 0, some 0, .same, none⟩], [⟨some 0, some 0, .same, none⟩], [],
    false, none⟩]
  interests := []

theorem hunks_in_grid_of_margin :
    let i := (oneCell (.rectReplaced 1 1 0 1)).sheetInput .none "S"
    (SheetView.ofInput .default i).status.isShown = true ∧
      ∃ h, (SheetView.ofInput .default i).hunks = [h] ∧ i.grid.Holds h.box := by
  intro i
  have hshown : (SheetView.ofInput .default i).status.isShown = true := rfl
  obtain ⟨hregions, -⟩ := hunks_in_grid .default i hshown
  refine ⟨hshown, _, rfl, ?_⟩
  obtain ⟨r, hr, hof⟩ := exists_of_forall₂_of_mem hregions List.mem_cons_self
  apply hof.holds_iff.mpr
  obtain rfl := List.mem_singleton.mp hr
  intro line
  cases line <;> decide

/-- A rectangle far behind the only row has a hunk that ends before it begins. -/
theorem not_hunks_in_grid :
    ((SheetView.ofPayload? (oneCell (.rectReplaced 5 1 0 1)) .default "S").map
      fun v => v.hunks.map fun h => h.box) = some [⟨4, 0, 0, 0⟩] ∧
    ¬∀ (p : Payload) (o : Options) (name : String) (v : SheetView),
      SheetView.ofPayload? p o name = some v → v.status.isShown →
      ∀ h ∈ v.hunks, v.grid.Holds h.box := by
  refine ⟨rfl, ?_⟩
  intro h
  have hholds := h (oneCell (.rectReplaced 5 1 0 1)) .default "S" _ rfl rfl _ List.mem_cons_self
  exact absurd hholds.upright.1 (by decide)

end DiffView
