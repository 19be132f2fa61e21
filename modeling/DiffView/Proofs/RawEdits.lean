import DiffView.Proofs.CellsShown
import DiffView.Proofs.HunksInGrid

namespace DiffView

namespace Grid

variable {g : Grid} {side : Side} {row col : Nat} {p : Place}

/-- Both axes place edits where the lines of the new sheet show, or else there is no view at all. -/
def Uniform (g : Grid) : Prop :=
  (∀ line, (g.axis line).isEmpty) ∨ ∀ line, ¬(g.axis line).Bare .new

theorem viewOf?_of_bare {line : Line} (h : (g.axis line).Bare side) :
    g.viewOf? side row col = none := by
  rw [Option.eq_none_iff_forall_ne_some]
  intro p hp
  obtain ⟨hrow, hcol⟩ := viewOf?_eq_some_iff.mp hp
  cases line with
  | row => exact Option.some_ne_none _ (hrow.symm.trans (Axis.viewOf?_of_bare h))
  | col => exact Option.some_ne_none _ (hcol.symm.trans (Axis.viewOf?_of_bare h))

theorem viewOf?_of_place? (h : g.place? side row col = some p)
    (hbare : ∀ line, ¬(g.axis line).Bare side) : g.viewOf? side row col = some p := by
  obtain ⟨hrow, hcol⟩ := place?_eq_some_iff.mp h
  have hrow' := (Axis.place?_of_not_bare (hbare .row)).symm.trans hrow
  have hcol' := (Axis.place?_of_not_bare (hbare .col)).symm.trans hcol
  exact viewOf?_eq_some_iff.mpr ⟨hrow', hcol'⟩

theorem place?_of_bare (h : ∀ line, (g.axis line).Bare side) :
    g.place? side row col = some ⟨row, col⟩ :=
  place?_eq_some_iff.mpr ⟨Axis.place?_of_bare (h .row), Axis.place?_of_bare (h .col)⟩

theorem place?_inj {row' col' : Nat} (h : g.place? side row col = some p)
    (h' : g.place? side row' col' = some p) : row = row' ∧ col = col' := by
  obtain ⟨hrow, hcol⟩ := place?_eq_some_iff.mp h
  obtain ⟨hrow', hcol'⟩ := place?_eq_some_iff.mp h'
  exact ⟨Axis.place?_inj hrow hrow', Axis.place?_inj hcol hcol'⟩

end Grid

def Op.editedCell? (op : Op) : Option (Nat × Nat) := op.editAddress?.bind Address.indices?

theorem Edits.exists_place_of_ofOp? {r : Report} {g : Grid} {ignoreBlank : Bool} {op : Op}
    {p : Place} {e : Edit} (h : ofOp? r g ignoreBlank op = some (p, e)) :
    ∃ row col, op.editedCell? = some (row, col) ∧ g.place? .new row col = some p := by
  obtain ⟨addr, before, after, formula, hop, hplace, -⟩ := ofOp?_eq_some_iff.mp h
  obtain ⟨-, row, col, haddr, hrow, hcol⟩ := placeOf?_eq_some_iff.mp hplace
  refine ⟨row, col, ?_, Grid.place?_eq_some_iff.mpr ⟨hrow, hcol⟩⟩
  rw [Op.editedCell?, Op.editAddress?, hop]
  exact haddr

def CellView.Shows (c : CellView) (e : Edit) : Prop := c.kind = .edited ∧ c.edit = some e

namespace Sheet

variable {s : Sheet} {p : Place} {e : Edit} {row col : Nat}

theorem cellAt_shows {side : Side} (hview : s.grid.viewOf? side row col = some p)
    (h : s.edits.get? p = some e) : (s.cellAt p).Shows e := by
  obtain ⟨hrow, hcol⟩ := Grid.viewOf?_eq_some_iff.mp hview
  obtain ⟨r, hr, -⟩ := Option.bind_eq_some_iff.mp (Axis.names_of_viewOf? hrow)
  obtain ⟨c, hc, -⟩ := Option.bind_eq_some_iff.mp (Axis.names_of_viewOf? hcol)
  simp [cellAt, hr, hc, crossing, CellView.Shows, kindOf, h]

theorem loneCell_shows (hempty : ∀ line, (s.grid.axis line).isEmpty)
    (h : s.edits.get? ⟨row, col⟩ = some e) : (s.loneCell .new row col).Shows e := by
  have hrows : s.grid.rows.isEmpty := hempty .row
  have hcols : s.grid.cols.isEmpty := hempty .col
  simp [loneCell, hrows, hcols, h, CellView.Shows]

theorem loneCell_of_not_isEmpty {side : Side} (h : ¬∀ line, (s.grid.axis line).isEmpty) :
    (s.loneCell side row col).kind ≠ .edited ∧ (s.loneCell side row col).edit = none := by
  have hgrid : ¬(s.grid.rows.isEmpty ∧ s.grid.cols.isEmpty) := by
    rintro ⟨hrows, hcols⟩
    refine h fun line => ?_
    cases line with
    | row => exact hrows
    | col => exact hcols
  have hnone : ¬(side = .new ∧ s.grid.rows.isEmpty ∧ s.grid.cols.isEmpty) := fun h => hgrid h.2
  simp only [loneCell, if_neg hnone]
  cases s.cell? side row col with
  | none => exact ⟨by simp [CellView.empty], rfl⟩
  | some c => exact ⟨by simp, rfl⟩

end Sheet

namespace SheetInput

variable {o : Options} {i : SheetInput} {before after : List Listed} {l m : Listed}
  {row col : Nat} {e e' : Edit} {p : Place}

/-- An operation puts an edit of a cell of the new sheet into the view. What the view drops or
ignores is not put there. -/
def Puts (o : Options) (i : SheetInput) (l : Listed) (row col : Nat) (e : Edit) : Prop :=
  l.op.editedCell? = some (row, col) ∧
    ∃ p, Edits.ofOp? i.report i.grid o.ignoreBlankToBlank l.op = some (p, e)

theorem Puts.exists_place (h : i.Puts o l row col e) :
    ∃ p, Edits.ofOp? i.report i.grid o.ignoreBlankToBlank l.op = some (p, e) ∧
      i.grid.place? .new row col = some p := by
  obtain ⟨hcell, p, hp⟩ := h
  obtain ⟨row', col', hcell', hplace⟩ := Edits.exists_place_of_ofOp? hp
  rw [hcell, Option.some_inj, Prod.mk.injEq] at hcell'
  obtain ⟨rfl, rfl⟩ := hcell'
  exact ⟨p, hp, hplace⟩

theorem puts_of_place (hplace : i.grid.place? .new row col = some p)
    (h : Edits.ofOp? i.report i.grid o.ignoreBlankToBlank m.op = some (p, e)) :
    i.Puts o m row col e := by
  obtain ⟨row', col', hcell, hplace'⟩ := Edits.exists_place_of_ofOp? h
  obtain ⟨rfl, rfl⟩ := Grid.place?_inj hplace hplace'
  exact ⟨hcell, p, h⟩

theorem get?_of_last (hops : i.ops = before ++ l :: after) (hl : i.Puts o l row col e)
    (hafter : ∀ m ∈ after, ∀ e', ¬i.Puts o m row col e') :
    ∃ p, i.grid.place? .new row col = some p ∧ (i.sheet o).edits.get? p = some e := by
  obtain ⟨p, hp, hplace⟩ := hl.exists_place
  refine ⟨p, hplace, ?_⟩
  rw [sheet, hops]
  apply Edits.get?_ofOps hp
  intro m hm e' he'
  exact hafter m hm e' (puts_of_place hplace he')

end SheetInput

/-- The last edit that the view has of a cell of the new sheet is found by the row and the column of
the cell just if both axes place edits alike. If they do not, no edit is found. -/
theorem raw_edit_shown (o : Options) (i : SheetInput) {before after : List Listed} {l : Listed}
    {row col : Nat} {e : Edit} (hops : i.ops = before ++ l :: after)
    (hl : i.Puts o l row col e) (hafter : ∀ m ∈ after, ∀ e', ¬i.Puts o m row col e') :
    (i.grid.Uniform → ((SheetView.ofInput o i).rawCellAt .new row col).Shows e) ∧
      (¬i.grid.Uniform → ((SheetView.ofInput o i).rawCellAt .new row col).kind ≠ .edited ∧
        ((SheetView.ofInput o i).rawCellAt .new row col).edit = none) := by
  obtain ⟨p, hplace, hget⟩ := SheetInput.get?_of_last hops hl hafter
  constructor
  · rintro (hempty | hbare)
    · have hbare (line : Line) : (i.grid.axis line).Bare .new := .inl (hempty line)
      rw [Grid.place?_of_bare hbare, Option.some_inj] at hplace
      subst hplace
      have hview : (SheetView.ofInput o i).grid.viewOf? .new row col = none :=
        Grid.viewOf?_of_bare (hbare .row)
      rw [Sheet.rawCellAt, hview]
      exact Sheet.loneCell_shows hempty hget
    · have hview : (SheetView.ofInput o i).grid.viewOf? .new row col = some p :=
        Grid.viewOf?_of_place? hplace hbare
      rw [Sheet.rawCellAt, hview]
      exact Sheet.cellAt_shows hview hget
  · intro h
    simp only [Grid.Uniform, not_or, not_forall, not_not] at h
    obtain ⟨hempty, line, hbare⟩ := h
    have hview : (SheetView.ofInput o i).grid.viewOf? .new row col = none :=
      Grid.viewOf?_of_bare hbare
    rw [Sheet.rawCellAt, hview]
    exact Sheet.loneCell_of_not_isEmpty fun h => hempty.elim fun line hline => hline (h line)

def setTo (b : Bool) (row col : Nat) : GridChange :=
  .cellEdited (.cell row col) .empty ⟨none, some (.typed (.bool b)), none⟩ .unchanged

def editedTwice : SheetInput where
  __ := shuffled
  ops := [⟨0, .known (.grid (.text "S") (setTo false 1 0))⟩,
    ⟨1, .known (.grid (.text "S") (setTo true 1 0))⟩,
    ⟨2, .known (.grid (.text "S") (setTo false 0 0))⟩]

theorem raw_edit_shown_of_editedTwice :
    editedTwice.Puts .default ⟨1, .known (.grid (.text "S") (setTo true 1 0))⟩ 1 0
        ⟨"", "TRUE", "", "", .unchanged⟩ ∧
      editedTwice.grid.Uniform ∧
      ((SheetView.ofInput .default editedTwice).rawCellAt .new 1 0).Shows
        ⟨"", "TRUE", "", "", .unchanged⟩ := by
  have hputs : editedTwice.Puts .default ⟨1, .known (.grid (.text "S") (setTo true 1 0))⟩ 1 0
      ⟨"", "TRUE", "", "", .unchanged⟩ := ⟨rfl, ⟨1, 1⟩, rfl⟩
  have hgrid : editedTwice.grid.Uniform := .inr fun line => by cases line <;> decide
  have hops : editedTwice.ops = [⟨0, .known (.grid (.text "S") (setTo false 1 0))⟩] ++
      ⟨1, .known (.grid (.text "S") (setTo true 1 0))⟩ ::
        [⟨2, .known (.grid (.text "S") (setTo false 0 0))⟩] := rfl
  refine ⟨hputs, hgrid, (raw_edit_shown .default editedTwice hops hputs ?_).1 hgrid⟩
  intro m hm e' hm'
  obtain rfl := List.mem_singleton.mp hm
  cases hm'.1

/-- Without the new sheet, an edit that the grid shows is not found by its row and column. -/
theorem not_raw_edit_shown :
    let p : Payload := { oneCell (setTo true 0 0) with new := [] }
    ((SheetView.ofPayload? p .default "S").map fun v =>
      ((v.cellAt ⟨0, 0⟩).kind, (v.rawCellAt .new 0 0).kind)) = some (.edited, .empty) ∧
    ¬∀ (p : Payload) (o : Options) (name : String) (before after : List Listed) (l : Listed)
      (row col : Nat) (e : Edit), p.sheetOps o.filters name = before ++ l :: after →
      (p.sheetInput o.filters name).Puts o l row col e →
      (∀ m ∈ after, ∀ e', ¬(p.sheetInput o.filters name).Puts o m row col e') →
      ∀ v, SheetView.ofPayload? p o name = some v → (v.rawCellAt .new row col).Shows e := by
  intro p
  refine ⟨rfl, ?_⟩
  intro h
  have hshows := h p .default "S" [] [] ⟨0, .known (.grid (.text "S") (setTo true 0 0))⟩ 0 0
    ⟨"", "TRUE", "", "", .unchanged⟩ rfl ⟨rfl, ⟨0, 0⟩, rfl⟩ (by simp) _ rfl
  exact absurd hshows.1 (by decide)

end DiffView
