import DiffView.Proofs.Addresses
import DiffView.Proofs.EditsByPlace
import DiffView.Proofs.EditsReached
import DiffView.Proofs.RawEdits
import DiffView.Proofs.ViewsOfLines

namespace DiffView

namespace Axis

variable {a : Axis} {side : Side} {line line' view view' : Nat}

theorem lineAt_of_place? (h : a.isEmpty ∨ a.length side ≠ 0)
    (hplace : a.place? side line = some view) : a.lineAt side view = line := by
  by_cases hempty : a.isEmpty
  · rw [place?_of_bare (.inl hempty), Option.some_inj] at hplace
    simp [lineAt, slot?, List.isEmpty_iff.mp hempty, hplace]
  · have hbare : ¬a.Bare side := not_or.mpr ⟨hempty, h.resolve_left hempty⟩
    rw [place?_of_not_bare hbare] at hplace
    exact lineAt_of_names (names_of_viewOf? hplace)

theorem lineAt_eq_iff (h : a.isEmpty ∨ a.length side ≠ 0)
    (hplace : a.place? side line = some view) (hplace' : a.place? side line' = some view') :
    a.lineAt side view = a.lineAt side view' ↔ view = view' := by
  rw [lineAt_of_place? h hplace, lineAt_of_place? h hplace']
  constructor
  · rintro rfl
    exact Option.some_inj.mp (hplace.symm.trans hplace')
  · rintro rfl
    exact place?_inj hplace hplace'

end Axis

theorem Box.existsUnique_mem_iff {b : Box} (h : b.Upright) :
    (∃! p, p ∈ b) ↔ b.top = b.bottom ∧ b.left = b.right := by
  have hcorner : b.corner ∈ b := ⟨Nat.le_refl _, h.1, Nat.le_refl _, h.2⟩
  have hopposite : Place.mk b.bottom b.right ∈ b := ⟨h.1, Nat.le_refl _, h.2, Nat.le_refl _⟩
  constructor
  · intro hunique
    simpa [corner] using hunique.unique hcorner hopposite
  · rintro ⟨hrow, hcol⟩
    refine ⟨b.corner, hcorner, ?_⟩
    rintro ⟨row, col⟩ ⟨htop, hbottom, hleft, hright⟩
    rw [corner, Place.mk.injEq]
    exact ⟨Nat.le_antisymm (hrow ▸ hbottom) htop, Nat.le_antisymm (hcol ▸ hright) hleft⟩

namespace SheetInput

variable {o : Options} {i : SheetInput} {b : Box} {row col : Nat} {p : Place}

def EditsIn (o : Options) (i : SheetInput) (b : Box) (row col : Nat) : Prop :=
  ∃ l ∈ i.ops, l.op.editedCell? = some (row, col) ∧
    ∃ p ∈ b, ∃ e, Edits.Lands i.report i.grid o.ignoreBlankToBlank l.op p e

/-- Both axes show an edit in the line that it edits: they place it by the slots, or where it is. -/
def ShowsEdits (i : SheetInput) : Prop :=
  ∀ line, (i.grid.axis line).isEmpty ∨ (i.grid.axis line).newLength ≠ 0

theorem exists_place?_of_mem_places (hp : p ∈ (i.sheet o).edits.places) :
    ∃ l ∈ i.ops, ∃ e row col, Edits.Lands i.report i.grid o.ignoreBlankToBlank l.op p e ∧
      l.op.editedCell? = some (row, col) ∧ i.grid.rows.place? .new row = some p.row ∧
        i.grid.cols.place? .new col = some p.col := by
  obtain ⟨l, hl, e, he⟩ := Edits.mem_places_ofOps.mp hp
  obtain ⟨row, col, hcell, hplace⟩ := Edits.exists_place_of_ofOp? he
  exact ⟨l, hl, e, row, col, Edits.lands_iff.mpr he, hcell, Grid.place?_eq_some_iff.mp hplace⟩

variable (h : i.ShowsEdits)
include h

theorem editsIn_iff : i.EditsIn o b row col ↔ ∃ p ∈ (i.sheet o).edits.places, p ∈ b ∧
    i.grid.rows.lineAt .new p.row = row ∧ i.grid.cols.lineAt .new p.col = col := by
  constructor
  · rintro ⟨l, hl, hcell, p, hp, e, hlands⟩
    obtain ⟨row', col', hcell', hplace⟩ := Edits.exists_place_of_ofOp? (Edits.lands_iff.mp hlands)
    rw [hcell, Option.some_inj, Prod.mk.injEq] at hcell'
    obtain ⟨rfl, rfl⟩ := hcell'
    obtain ⟨hrow, hcol⟩ := Grid.place?_eq_some_iff.mp hplace
    exact ⟨p, Edits.mem_places_ofOps.mpr ⟨l, hl, e, Edits.lands_iff.mp hlands⟩, hp,
      Axis.lineAt_of_place? (h .row) hrow, Axis.lineAt_of_place? (h .col) hcol⟩
  · rintro ⟨p, hplaces, hp, rfl, rfl⟩
    obtain ⟨l, hl, e, row, col, hlands, hcell, hrow, hcol⟩ := exists_place?_of_mem_places hplaces
    refine ⟨l, hl, ?_, p, hp, e, hlands⟩
    rw [hcell, Axis.lineAt_of_place? (h .row) hrow, Axis.lineAt_of_place? (h .col) hcol]

theorem lineAt_eq_iff (line : Line) {q : Place} (hp : p ∈ (i.sheet o).edits.places)
    (hq : q ∈ (i.sheet o).edits.places) :
    (i.grid.axis line).lineAt .new (p.on line) = (i.grid.axis line).lineAt .new (q.on line) ↔
      p.on line = q.on line := by
  obtain ⟨-, -, -, row, col, -, -, hrow, hcol⟩ := exists_place?_of_mem_places hp
  obtain ⟨-, -, -, row', col', -, -, hrow', hcol'⟩ := exists_place?_of_mem_places hq
  cases line with
  | row => exact Axis.lineAt_eq_iff (h .row) hrow hrow'
  | col => exact Axis.lineAt_eq_iff (h .col) hcol hcol'

omit h

/-- A label names the only edited cell of a region, or else the corners of a range of the new sheet.
Something in the region is edited in each row and column that the label names. -/
structure Labels (o : Options) (i : SheetInput) (r : Region) (range : Box) : Prop where
  top : ∃ col, i.EditsIn o r.box range.top col
  left : ∃ row, i.EditsIn o r.box row range.left
  bottom : ∃ col, i.EditsIn o r.box range.bottom col
  right : ∃ row, i.EditsIn o r.box row range.right
  one : (∃! p, p ∈ r.box) → r.label = "Cell " ++ A1.cell range.top range.left ∧
    ∀ row col, i.EditsIn o r.box row col → row = range.top ∧ col = range.left
  several : ¬(∃! p, p ∈ r.box) → r.label =
    "Cells " ++ (A1.cell range.top range.left ++ ":" ++ A1.cell range.bottom range.right)

theorem Labels.begins_iff {r : Region} {range : Box} (h : i.Labels o r range) :
    "Cell ".toList <+: r.label.toList ↔ ∃! p, p ∈ r.box := by
  by_cases hone : ∃! p, p ∈ r.box
  · simp [(h.one hone).1, hone]
  · simp [h.several hone, hone]

end SheetInput

theorem Area.label_cells {g : Grid} {a : Area} (h : a.kind = .cells) : a.label g =
    let b := g.sheetBox .new a.box
    if b.top = b.bottom ∧ b.left = b.right then "Cell " ++ A1.cell b.top b.left
    else "Cells " ++ (A1.cell b.top b.left ++ ":" ++ A1.cell b.bottom b.right) := by
  simp only [label, h, RegionKind.side, A1.colon_mem_range_iff, ite_not]
  rw [A1.range_eq]
  split <;> rfl

theorem SheetInput.labels_ofArea {o : Options} {i : SheetInput} (h : i.ShowsEdits) {a : Area}
    (ha : a ∈ Area.clusters o (i.sheet o).edits) :
    i.Labels o (Region.ofArea o i.grid a) (i.grid.sheetBox .new a.box) := by
  obtain ⟨part, hbounds, hpart⟩ := Area.exists_bounds_of_mem_clusters ha
  have hedits (p : Place) (hp : p ∈ part) : i.EditsIn o a.box
      (i.grid.rows.lineAt .new p.row) (i.grid.cols.lineAt .new p.col) :=
    (editsIn_iff h).mpr ⟨p, hpart p hp, hbounds.mem hp, rfl, rfl⟩
  -- each edge of the box is the line of an edit
  obtain ⟨p, hp, htop⟩ := hbounds.top.1
  obtain ⟨q, hq, hleft⟩ := hbounds.left.1
  obtain ⟨p', hp', hbottom⟩ := hbounds.bottom.1
  obtain ⟨q', hq', hright⟩ := hbounds.right.1
  -- two edges show one line just where they are one line of the view
  have hrows := lineAt_eq_iff h .row (hpart p hp) (hpart p' hp')
  have hcols := lineAt_eq_iff h .col (hpart q hq) (hpart q' hq')
  simp only [Place.on, htop, hbottom, hleft, hright] at hrows hcols
  have hone := (and_congr hrows hcols).trans (Box.existsUnique_mem_iff hbounds.upright).symm
  have hlabel := Area.label_cells (g := i.grid) (Area.kind_of_mem_clusters ha)
  refine ⟨⟨_, htop ▸ hedits p hp⟩, ⟨_, hleft ▸ hedits q hq⟩, ⟨_, hbottom ▸ hedits p' hp'⟩,
    ⟨_, hright ▸ hedits q' hq'⟩, ?_, fun hseveral => hlabel.trans (if_neg (hone.not.mpr hseveral))⟩
  intro hunique
  refine ⟨hlabel.trans (if_pos (hone.mpr hunique)), ?_⟩
  intro row col hedit
  obtain ⟨s, -, hs, rfl, rfl⟩ := (editsIn_iff h).mp hedit
  have hrow : s.row = a.box.top := hunique.unique (hbounds.mem hp) hs ▸ htop
  have hcol : s.col = a.box.left := hunique.unique (hbounds.mem hq) hs ▸ hleft
  exact ⟨congrArg _ hrow, congrArg _ hcol⟩

/-- Where both axes show edits in the lines that are edited, each region of edits is labelled by
lines in which it has edits: by its only cell, or by the cells at the corners of a range. -/
theorem cells_labelled_by_edits (o : Options) (i : SheetInput) (h : i.ShowsEdits) {r : Region}
    (hr : r ∈ (SheetView.ofInput o i).regions) (hkind : r.kind = .cells) :
    ∃ range, i.Labels o r range ∧
      ("Cell ".toList <+: r.label.toList ↔ ∃! p, p ∈ r.box) ∧
      (¬(∃! p, p ∈ r.box) → "Cells ".toList <+: r.label.toList) := by
  obtain ⟨a, ha, rfl⟩ := Region.exists_cluster hr hkind
  have hlabels := SheetInput.labels_ofArea h ha
  refine ⟨_, hlabels, hlabels.begins_iff, ?_⟩
  intro hseveral
  rw [hlabels.several hseveral, String.toList_append]
  exact List.prefix_append _ _

theorem cells_labelled_by_edits_of_editedTwice :
    editedTwice.ShowsEdits ∧
      ∃ r ∈ (SheetView.ofInput .default editedTwice).regions, r.kind = .cells ∧
        r.label = "Cells A1:A2" ∧ ∃ range, editedTwice.Labels .default r range := by
  have hshows : editedTwice.ShowsEdits := fun line => by cases line <;> decide
  refine ⟨hshows, _, List.mem_singleton.mpr rfl, rfl, rfl, ?_⟩
  obtain ⟨range, hlabels, -⟩ :=
    cells_labelled_by_edits .default editedTwice hshows (List.mem_singleton.mpr rfl) rfl
  exact ⟨range, hlabels⟩

end DiffView
