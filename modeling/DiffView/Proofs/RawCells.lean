import DiffView.Proofs.EditsByPlace
import DiffView.Proofs.ViewsOfLines

namespace DiffView

namespace Snapshot

variable {s : Snapshot} {row col : Nat} {c : Cell}

def LastAt (s : Snapshot) (row col : Nat) (c : Cell) : Prop :=
  ∃ before after, s.cells = before ++ c :: after ∧ c.place = ⟨row, col⟩ ∧
    ∀ d ∈ after, d.place ≠ ⟨row, col⟩

theorem cell?_eq_some_iff :
    s.cell? row col = some c ↔ col < colLimit ∧ s.LastAt row col c := by
  rw [cell?, Option.ite_none_right_eq_some, find?_reverse_eq_some_iff]
  simp only [decide_eq_true_eq, LastAt, Cell.place, ne_eq, Place.mk.injEq]

theorem cell?_eq_none_iff : s.cell? row col = none ↔
    colLimit ≤ col ∨ ∀ c ∈ s.cells, c.place ≠ ⟨row, col⟩ := by
  rw [cell?, ← Nat.not_lt]
  by_cases hcol : col < colLimit <;> simp [hcol, Cell.place]

end Snapshot

/-- Cells under the numbers of their places. -/
structure CellTable where
  held : Std.HashMap Nat Cell

namespace CellTable

variable {cells : List Cell} {row col : Nat}

def add (t : CellTable) (c : Cell) : CellTable :=
  if c.col < colLimit then ⟨t.held.insert c.place.key c⟩ else t

def ofCells (cells : List Cell) : CellTable := cells.foldl add ⟨∅⟩

def ofSnapshot? (s : Option Snapshot) : CellTable := ofCells (s.elim [] Snapshot.cells)

def get? (t : CellTable) (row col : Nat) : Option Cell :=
  if col < colLimit then t.held[(Place.mk row col).key]? else none

theorem get?_add (t : CellTable) (c : Cell) (h : col < colLimit) :
    (t.add c).get? row col = if c.place = ⟨row, col⟩ then some c else t.get? row col := by
  rw [add, get?, get?, if_pos h, if_pos h]
  split
  · rename_i hc
    exact Place.getElem?_insert_key hc h
  · rename_i hc
    have hplace : c.place ≠ ⟨row, col⟩ := by
      rintro heq
      have hcol : c.col = col := congrArg Place.col heq
      exact hc (hcol ▸ h)
    rw [if_neg hplace]

theorem get?_ofCells (h : col < colLimit) :
    (ofCells cells).get? row col = cells.reverse.find? fun c => c.place = ⟨row, col⟩ := by
  induction cells using List.reverseRecOn with
  | nil => simp [ofCells, get?]
  | append_singleton cells c ih =>
      rw [ofCells, List.foldl_append, List.reverse_append, List.reverse_singleton,
        List.singleton_append, List.find?_cons]
      change ((ofCells cells).add c).get? row col = _
      rw [get?_add _ c h, ih]
      by_cases hc : c.place = ⟨row, col⟩ <;> simp [hc]

@[simp] theorem get?_ofSnapshot? (s : Option Snapshot) :
    (ofSnapshot? s).get? row col = s.bind fun t => t.cell? row col := by
  by_cases h : col < colLimit
  · rw [ofSnapshot?, get?_ofCells h]
    cases s with
    | none => rfl
    | some t => simp [Snapshot.cell?, h, Cell.place]
  · rw [get?, if_neg h]
    cases s with
    | none => rfl
    | some t => simp [Snapshot.cell?, h]

end CellTable

namespace Grid

variable (g : Grid) (side : Side) (row col : Nat)

def viewIn? (rows cols : ViewTable) : Option Place := do
  pure ⟨← rows.get? side row, ← cols.get? side col⟩

@[simp] theorem viewIn?_ofAxis :
    viewIn? side row col (.ofAxis g.rows) (.ofAxis g.cols) = g.viewOf? side row col := by
  rw [viewIn?, viewOf?, ViewTable.get?_ofAxis, ViewTable.get?_ofAxis]

end Grid

namespace Sheet

variable {s : Sheet} {side : Side} {row col : Nat} {p : Place}

@[simp] theorem cellAt_view : (s.cellAt p).view = some p := by
  rw [cellAt]
  split <;> rfl

@[simp] theorem loneCell_view : (s.loneCell side row col).view = none := by
  rw [loneCell]
  split <;> rfl

@[simp] theorem loneCell_on :
    (s.loneCell side row col).on side = some ⟨row, col, s.cell? side row col⟩ := by
  rw [loneCell]
  cases side <;> split <;> rfl

@[simp] theorem rawCellAt_on :
    (s.rawCellAt side row col).on side = some ⟨row, col, s.cell? side row col⟩ := by
  rw [rawCellAt]
  split
  · rename_i p hview
    obtain ⟨hrow, hcol⟩ := Grid.viewOf?_eq_some_iff.mp hview
    exact cellAt_on_eq_some_iff.mpr
      ⟨Axis.names_of_viewOf? hrow, Axis.names_of_viewOf? hcol, rfl⟩
  · exact loneCell_on

@[simp] theorem rawCellAt_view : (s.rawCellAt side row col).view = s.grid.viewOf? side row col := by
  rw [rawCellAt]
  split
  · rename_i p hview
    rw [cellAt_view, hview]
  · rename_i hview
    rw [loneCell_view, hview]

theorem rawCellAt_eq_cellAt (h : (s.rawCellAt side row col).view = some p) :
    s.rawCellAt side row col = s.cellAt p := by
  rw [rawCellAt_view] at h
  rw [rawCellAt, h]

theorem cell?_eq_some_iff {c : Cell} : s.cell? side row col = some c ↔
    col < colLimit ∧ ∃ t, s.snapshot? side = some t ∧ t.LastAt row col c := by
  simp only [cell?, Option.bind_eq_some_iff, Snapshot.cell?_eq_some_iff]
  constructor
  · rintro ⟨t, ht, hcol, hlast⟩
    exact ⟨hcol, t, ht, hlast⟩
  · rintro ⟨hcol, t, ht, hlast⟩
    exact ⟨t, ht, hcol, hlast⟩

theorem cell?_eq_none_iff : s.cell? side row col = none ↔
    colLimit ≤ col ∨ ∀ t, s.snapshot? side = some t → ∀ c ∈ t.cells, c.place ≠ ⟨row, col⟩ := by
  rw [cell?]
  cases s.snapshot? side with
  | none => simp
  | some t => simp [Snapshot.cell?_eq_none_iff]

end Sheet

/-- What is looked up by a row and a column of a sheet is at this row and column of that sheet, with
the last cell that the sheet lists there, whatever the slots of the grid are. Where the grid shows
it, the place of the grid shows the same. Tables of the places of lines and of the cells under
numbers give the same place and the same cell. -/
theorem raw_cells_read (s : Sheet) (side : Side) (row col : Nat) :
    let v := s.rawCellAt side row col
    (∃ cell, v.on side = some ⟨row, col, cell⟩ ∧
      (∀ c, cell = some c ↔
        col < colLimit ∧ ∃ t, s.snapshot? side = some t ∧ t.LastAt row col c) ∧
      (cell = none ↔ colLimit ≤ col ∨
        ∀ t, s.snapshot? side = some t → ∀ c ∈ t.cells, c.place ≠ ⟨row, col⟩) ∧
      (CellTable.ofSnapshot? (s.snapshot? side)).get? row col = cell) ∧
    (∀ p, v.view = some p → v = s.cellAt p) ∧
    v.view = Grid.viewIn? side row col (.ofAxis s.grid.rows) (.ofAxis s.grid.cols) := by
  intro v
  refine ⟨⟨s.cell? side row col, Sheet.rawCellAt_on, fun c => Sheet.cell?_eq_some_iff,
    Sheet.cell?_eq_none_iff, CellTable.get?_ofSnapshot? _⟩, fun p => Sheet.rawCellAt_eq_cellAt, ?_⟩
  rw [Grid.viewIn?_ofAxis]
  exact Sheet.rawCellAt_view

end DiffView
