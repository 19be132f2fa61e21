import DiffView.Proofs.Slots
import DiffView.Sheet.View

namespace DiffView

theorem find?_key_eq_some {α κ : Type} [DecidableEq κ] {key : α → κ} {as : List α}
    (h : (as.map key).Nodup) {a : α} (ha : a ∈ as) :
    (as.find? fun b => key b = key a) = some a := by
  cases hfind : as.find? fun b => key b = key a with
  | none => simpa using List.find?_eq_none.mp hfind a ha
  | some b =>
      have hkey : key b = key a := by simpa using List.find?_some hfind
      rw [List.inj_on_of_nodup_map h (List.mem_of_find?_eq_some hfind) ha hkey]

def Grid.Complete (g : Grid) : Prop := g.rows.Complete ∧ g.cols.Complete

def Cell.place (c : Cell) : Place := ⟨c.row, c.col⟩

/-- The cells of a snapshot lie within it, before the last column for edits, and apart. -/
structure Snapshot.Tidy (s : Snapshot) : Prop where
  row_lt : ∀ c ∈ s.cells, c.row < s.rowCount
  col_lt : ∀ c ∈ s.cells, c.col < s.colCount
  col_lt_limit : ∀ c ∈ s.cells, c.col < colLimit
  nodup : (s.cells.map Cell.place).Nodup

namespace Snapshot

variable {s : Snapshot} {row col : Nat} {c : Cell}

theorem mem_of_cell? (h : s.cell? row col = some c) : c ∈ s.cells ∧ c.row = row ∧ c.col = col := by
  rw [cell?] at h
  split at h
  · have hfound := List.find?_some h
    simp only [decide_eq_true_eq] at hfound
    exact ⟨List.mem_reverse.mp (List.mem_of_find?_eq_some h), hfound⟩
  · cases h

theorem Tidy.cell?_of_mem (h : s.Tidy) (hc : c ∈ s.cells) : s.cell? c.row c.col = some c := by
  rw [cell?, if_pos (h.col_lt_limit c hc)]
  have hnodup : (s.cells.reverse.map Cell.place).Nodup := by
    rw [List.map_reverse]
    exact List.nodup_reverse.mpr h.nodup
  have hfind := find?_key_eq_some hnodup (List.mem_reverse.mpr hc)
  simpa only [Cell.place, Place.mk.injEq] using hfind

end Snapshot

namespace CellView

def on (v : CellView) : Side → Option CellSide
  | .old => v.old
  | .new => v.new

def cell? (v : CellView) (side : Side) : Option Cell := (v.on side).bind fun there => there.cell

end CellView

namespace Sheet

variable {s : Sheet} {side : Side} {p : Place} {there : CellSide}

theorem cellSide?_eq_some_iff {row col : Slot} :
    s.cellSide? side row col = some there ↔ row.line? side = some there.row ∧
      col.line? side = some there.col ∧ there.cell = s.cell? side there.row there.col := by
  obtain ⟨r, c, cell⟩ := there
  simp only [cellSide?, Option.bind_eq_bind, Option.pure_def, Option.bind_eq_some_iff,
    Option.some.injEq, CellSide.mk.injEq]
  constructor
  · rintro ⟨r', hr, c', hc, rfl, rfl, rfl⟩
    exact ⟨hr, hc, rfl⟩
  · rintro ⟨hr, hc, rfl⟩
    exact ⟨r, hr, c, hc, rfl, rfl, rfl⟩

@[simp] theorem crossing_on (s : Sheet) (p : Place) (row col : Slot) (side : Side) :
    (s.crossing p row col).on side = s.cellSide? side row col := by
  cases side <;> rfl

/-- A place of the grid shows the cell where the lines that its slots name cross. -/
theorem cellAt_on_eq_some_iff :
    (s.cellAt p).on side = some there ↔ s.grid.rows.Names side p.row there.row ∧
      s.grid.cols.Names side p.col there.col ∧
      there.cell = s.cell? side there.row there.col := by
  rw [cellAt, Axis.Names, Axis.Names]
  cases s.grid.rows.slot? p.row with
  | none => cases side <;> simp [CellView.on, CellView.empty]
  | some row =>
      cases s.grid.cols.slot? p.col with
      | none => cases side <;> simp [CellView.on, CellView.empty]
      | some col => exact (crossing_on s p row col side).symm ▸ cellSide?_eq_some_iff

theorem mem_of_cell? {row col : Nat} {c : Cell} (h : s.cell? side row col = some c) :
    ∃ t, s.snapshot? side = some t ∧ c ∈ t.cells ∧ c.row = row ∧ c.col = col := by
  obtain ⟨t, ht, hc⟩ := Option.bind_eq_some_iff.mp h
  exact ⟨t, ht, Snapshot.mem_of_cell? hc⟩

theorem cellAt_cell?_eq_some_iff {t : Snapshot} (ht : s.snapshot? side = some t) (htidy : t.Tidy)
    {c : Cell} (hc : c ∈ t.cells) :
    (s.cellAt p).cell? side = some c ↔
      s.grid.rows.Names side p.row c.row ∧ s.grid.cols.Names side p.col c.col := by
  rw [CellView.cell?, Option.bind_eq_some_iff]
  constructor
  · rintro ⟨there, hthere, hcell⟩
    obtain ⟨hrow, hcol, heq⟩ := cellAt_on_eq_some_iff.mp hthere
    obtain ⟨-, -, -, hr, hk⟩ := mem_of_cell? (heq ▸ hcell)
    rw [hr, hk]
    exact ⟨hrow, hcol⟩
  · rintro ⟨hrow, hcol⟩
    have hcell : s.cell? side c.row c.col = some c := by
      rw [cell?, ht, Option.bind_some, htidy.cell?_of_mem hc]
    exact ⟨⟨c.row, c.col, some c⟩, cellAt_on_eq_some_iff.mpr ⟨hrow, hcol, hcell.symm⟩, rfl⟩

end Sheet

namespace SheetInput

variable {i : SheetInput} {o : Options} {side : Side} {t : Snapshot}

theorem length_rows (h : (i.sheet o).snapshot? side = some t) :
    i.grid.rows.length side = t.rowCount := by
  cases side with
  | old => exact congrArg (fun s => (Size.ofSnapshot s).rows) h
  | new => exact congrArg (fun s => (Size.ofSnapshot s).rows) h

theorem length_cols (h : (i.sheet o).snapshot? side = some t) :
    i.grid.cols.length side = t.colCount := by
  cases side with
  | old => exact congrArg (fun s => (Size.ofSnapshot s).cols) h
  | new => exact congrArg (fun s => (Size.ofSnapshot s).cols) h

end SheetInput

/-- In a complete grid, each cell of either sheet shows at one place, and what a place shows as the
cell of a row and a column is the cell that the sheet has there. -/
theorem cells_shown_once (o : Options) (i : SheetInput)
    (hgrid : (SheetView.ofInput o i).grid.Complete)
    (htidy : ∀ side t, (SheetView.ofInput o i).snapshot? side = some t → t.Tidy) :
    (∀ side t, (SheetView.ofInput o i).snapshot? side = some t → ∀ c ∈ t.cells,
      ∃! p, ((SheetView.ofInput o i).cellAt p).cell? side = some c) ∧
    ∀ side p there c, ((SheetView.ofInput o i).cellAt p).on side = some there →
      there.cell = some c → c.row = there.row ∧ c.col = there.col ∧
        ∃ t, (SheetView.ofInput o i).snapshot? side = some t ∧ c ∈ t.cells := by
  constructor
  · intro side t ht c hc
    have hrow : c.row < i.grid.rows.length side := by
      rw [SheetInput.length_rows ht]
      exact (htidy side t ht).row_lt c hc
    have hcol : c.col < i.grid.cols.length side := by
      rw [SheetInput.length_cols ht]
      exact (htidy side t ht).col_lt c hc
    obtain ⟨row, hrow, hrow'⟩ := hgrid.1.existsUnique_names hrow
    obtain ⟨col, hcol, hcol'⟩ := hgrid.2.existsUnique_names hcol
    have hiff (p : Place) := Sheet.cellAt_cell?_eq_some_iff (p := p) ht (htidy side t ht) hc
    refine ⟨⟨row, col⟩, (hiff _).mpr ⟨hrow, hcol⟩, ?_⟩
    intro p hp
    obtain ⟨hprow, hpcol⟩ := (hiff p).mp hp
    cases p
    simp only [Place.mk.injEq]
    exact ⟨hrow' _ hprow, hcol' _ hpcol⟩
  · intro side p there c hthere hc
    obtain ⟨-, -, heq⟩ := Sheet.cellAt_on_eq_some_iff.mp hthere
    obtain ⟨t, ht, hmem, hrow, hcol⟩ := Sheet.mem_of_cell? (heq ▸ hc)
    exact ⟨hrow, hcol, t, ht, hmem⟩

def shuffled : SheetInput where
  report := ⟨none, [], [], true, []⟩
  name := "S"
  oldName := none
  ops := []
  old := some ⟨"S", 2, 2, [⟨0, 0, some "a", none⟩, ⟨1, 1, some "b", none⟩], false, none, none, none⟩
  new := some ⟨"S", 2, 2, [⟨0, 0, some "c", none⟩, ⟨1, 1, some "a", none⟩], false, none, none, none⟩
  alignment := some
    { sheet := "S"
      rows := [⟨none, some 0, .inserted, none⟩, ⟨some 0, some 1, .same, none⟩,
        ⟨some 1, none, .deleted, none⟩]
      cols := [⟨some 0, none, .moveSource, some "c:0+1->1"⟩, ⟨some 1, some 0, .same, none⟩,
        ⟨none, some 1, .moveTarget, some "c:0+1->1"⟩]
      moves := []
      skipped := false
      skipReason := none }
  interests := none

theorem cells_shown_once_of_shuffled :
    (SheetView.ofInput .default shuffled).grid.Complete ∧
      (∀ side t, (SheetView.ofInput .default shuffled).snapshot? side = some t → t.Tidy) ∧
      ∃! p, ((SheetView.ofInput .default shuffled).cellAt p).cell? .old =
        some ⟨0, 0, some "a", none⟩ := by
  have hgrid : (SheetView.ofInput .default shuffled).grid.Complete := by
    constructor
    · intro side
      cases side <;> decide
    · intro side
      cases side <;> decide
  have htidy : ∀ side t, (SheetView.ofInput .default shuffled).snapshot? side = some t →
      t.Tidy := by
    intro side t ht
    cases side <;> cases ht <;> exact ⟨by decide, by decide, by decide, by decide⟩
  refine ⟨hgrid, htidy, ?_⟩
  exact (cells_shown_once .default shuffled hgrid htidy).1 .old _ rfl _ List.mem_cons_self

end DiffView
