import DiffView.Proofs.CutBoxes
import DiffView.Proofs.HunksInGrid

namespace DiffView

instance : Membership Place Size where
  mem size p := p.row < size.rows ∧ p.col < size.cols

def Grid.size (g : Grid) : Size := ⟨g.rows.count, g.cols.count⟩

def Interest.box (t : Interest) : Box :=
  ⟨t.rowStart, t.colStart, max t.rowEnd t.rowStart, max t.colEnd t.colStart⟩

namespace Box

variable {b : Box} {n : Nat} {p q : Place}

theorem mem_cap_iff (hn : 0 < n) (hp : p ∈ b) : p ∈ b.cap n ↔
    b.area ≤ n ∨ p.row - b.top < max (n / b.width) 1 ∧ (1 < b.height ∨ p.col - b.left < n) := by
  obtain ⟨htop, hbottom, hleft, hright⟩ := hp
  by_cases hfits : b.area ≤ n
  · rw [cap_eq_self_iff hn |>.mpr hfits]
    exact iff_of_true ⟨htop, hbottom, hleft, hright⟩ (.inl hfits)
  · rw [or_iff_right hfits]
    have hcut := b.cut_cap hn
    generalize b.cap n = c at hcut
    cases hcut with
    | whole h => exact absurd h hfits
    | rows hmany hwidth =>
        have hpos : 0 < n / b.width := Nat.div_pos hwidth b.width_pos
        simp only [mem_iff, keepRows]
        omega
    | firstRow hmany hwidth =>
        have hzero : n / b.width = 0 := Nat.div_eq_of_lt hwidth
        simp only [mem_iff, keepRows]
        omega
    | cols hone hwidth =>
        rw [height] at hone
        simp only [mem_iff, keepCols, height]
        omega

theorem mem_cap_of_le (hp : p ∈ b) (hq : q ∈ b.cap n) (hrow : p.row ≤ q.row)
    (hcol : p.col ≤ q.col) : p ∈ b.cap n := by
  obtain ⟨htop, hbottom, hleft, hright⟩ := hp
  obtain h | ⟨k, hk, h⟩ | ⟨k, hk, h⟩ := b.cap_cases n
  · rw [h]
    exact ⟨htop, hbottom, hleft, hright⟩
  · rw [h] at hq ⊢
    exact ⟨htop, hrow.trans hq.2.1, hleft, hright⟩
  · rw [h] at hq ⊢
    exact ⟨htop, hbottom, hleft, hcol.trans hq.2.2.2⟩

def preview (o : Options) (size : Size) (b : Box) : Box :=
  (b.expand o.contextRows o.contextCols size.rows size.cols).cap o.maxVisualCells

/-- Of the rows that can be shown, the margin above the box does not take all; nor of the columns
the margin on its left, if there is a single row. -/
def LeavesRoom (o : Options) (size : Size) (b : Box) : Prop :=
  let wide := b.expand o.contextRows o.contextCols size.rows size.cols
  o.maxVisualCells = 0 ∨ wide.area ≤ o.maxVisualCells ∨
    min b.top o.contextRows < max (o.maxVisualCells / wide.width) 1 ∧
      (1 < wide.height ∨ min b.left o.contextCols < o.maxVisualCells)

/-- What is shown for a box has its corner if the margin leaves room for it, and nothing of the box
otherwise. -/
structure ShownBy (o : Options) (size : Size) (b shown : Box) : Prop where
  corner_iff : b.corner ∈ shown ↔ b.LeavesRoom o size
  corner_of_mem : ∀ p ∈ b, p ∈ shown → b.corner ∈ shown

variable {o : Options} {size : Size}

theorem corner_mem_expand (rows cols : Nat) (hb : b.Upright) (h : b.corner ∈ size) :
    b.corner ∈ b.expand rows cols size.rows size.cols := by
  obtain ⟨hrows, hcols⟩ := hb
  obtain ⟨hrow, hcol⟩ : b.top < size.rows ∧ b.left < size.cols := h
  rw [expand, if_neg (by omega)]
  simp only [mem_iff, corner]
  omega

theorem shownBy_preview (hb : b.Upright) (h : b.corner ∈ size) :
    b.ShownBy o size (b.preview o size) where
  corner_iff := by
    have hmem := corner_mem_expand o.contextRows o.contextCols hb h
    obtain ⟨hrow, hcol⟩ : b.top < size.rows ∧ b.left < size.cols := h
    have htop : b.top - (b.expand o.contextRows o.contextCols size.rows size.cols).top =
        min b.top o.contextRows := by
      rw [expand, if_neg (by omega)]
      show b.top - (b.top - o.contextRows) = min b.top o.contextRows
      omega
    have hleft : b.left - (b.expand o.contextRows o.contextCols size.rows size.cols).left =
        min b.left o.contextCols := by
      rw [expand, if_neg (by omega)]
      show b.left - (b.left - o.contextCols) = min b.left o.contextCols
      omega
    rw [preview, LeavesRoom, ← htop, ← hleft]
    rcases Nat.eq_zero_or_pos o.maxVisualCells with hzero | hpos
    · rw [cap, if_pos (.inl hzero)]
      exact iff_of_true hmem (.inl hzero)
    · rw [or_iff_right (Nat.pos_iff_ne_zero.mp hpos)]
      exact mem_cap_iff hpos hmem
  corner_of_mem p hp hshown := mem_cap_of_le (corner_mem_expand _ _ hb h) hshown hp.1 hp.2.2.1

end Box

structure SheetInput.PreviewOf (o : Options) (i : SheetInput) (r : Region) (h : Hunk) : Prop where
  kind : h.kind = .aligned r.id
  shown : r.box.corner ∈ i.grid.size → r.box.ShownBy o i.grid.size h.box

structure SheetInput.RawPreviewOf (o : Options) (i : SheetInput) (t : Interest) (h : Hunk) :
    Prop where
  id : h.id = "hunk-" ++ t.id
  kind : h.kind = .raw t.side
  shown : t.box.corner ∈ i.sizes.on t.side → t.box.ShownBy o (i.sizes.on t.side) h.box

namespace SheetView

variable {o : Options} {i : SheetInput}

theorem previewOf_regions (hshown : (ofInput o i).status.isShown) :
    List.Forall₂ (i.PreviewOf o) (ofInput o i).regions (ofInput o i).hunks := by
  have hg : i.grid.isEmpty = false := Status.not_isEmpty_of_isShown hshown
  have hhunks : (ofInput o i).hunks = (ofInput o i).regions.filterMap Hunk.ofRegion? :=
    if_pos hshown
  rw [hhunks]
  apply forall₂_filterMap
  intro r hr
  obtain ⟨hupright, -⟩ := SheetInput.region_begins hr
  obtain ⟨a, -, rfl⟩ := Region.mem_ofOps.mp hr
  have hbox : Region.shownBox? o i.grid a.box = some (a.box.preview o i.grid.size) :=
    if_neg (Bool.eq_false_iff.mp hg)
  exact ⟨_, congrArg (Option.map _) hbox, rfl, fun h => Box.shownBy_preview hupright h⟩

end SheetView

namespace Hunk

variable {o : Options} {sizes : Sizes} {t : Interest} {size : Size}

theorem expand_of_boxIn? {b : Box} (h : boxIn? size t = some b) (hcorner : t.box.corner ∈ size)
    (rows cols : Nat) :
    b.expand rows cols size.rows size.cols = t.box.expand rows cols size.rows size.cols := by
  obtain ⟨hrow, hcol⟩ : t.rowStart < size.rows ∧ t.colStart < size.cols := hcorner
  have hsize : ¬(size.rows = 0 ∨ size.cols = 0) := by omega
  rw [boxIn?, if_neg hsize, if_neg (by omega)] at h
  cases h
  simp only [Box.expand, Interest.box, if_neg hsize, Box.mk.injEq, true_and]
  omega

theorem boxIn?_isSome (hcorner : t.box.corner ∈ size) : (boxIn? size t).isSome := by
  obtain ⟨hrow, hcol⟩ : t.rowStart < size.rows ∧ t.colStart < size.cols := hcorner
  rw [boxIn?, if_neg (by omega), if_neg (by omega), Option.isSome_some]

end Hunk

namespace SheetInput

variable {o : Options} {i : SheetInput} {t : Interest} {h : Hunk}

theorem rawPreviewOf (hh : Hunk.ofInterest? o i.sizes t = some h) : i.RawPreviewOf o t h := by
  obtain ⟨b, hb, rfl⟩ := Option.map_eq_some_iff.mp hh
  refine ⟨rfl, rfl, fun hcorner => ?_⟩
  simp only [Hunk.expand_of_boxIn? hb hcorner]
  exact Box.shownBy_preview ⟨Nat.le_max_right _ _, Nat.le_max_right _ _⟩ hcorner

end SheetInput

/-- A hunk shows the top left cell of the change it is for just if the margin leaves room for it,
and if it does not show that cell it shows nothing of the change. So it is with the regions that
begin in the grid, and where no grid is shown, with the interests that begin in their sheet. -/
theorem previews_show_corner (o : Options) (i : SheetInput) :
    let v := SheetView.ofInput o i
    (v.status.isShown → List.Forall₂ (i.PreviewOf o) v.regions v.hunks) ∧
      (¬v.status.isShown →
        (∀ h ∈ v.hunks, ∃ t ∈ i.shownInterests o, i.RawPreviewOf o t h) ∧
        ∀ t ∈ i.shownInterests o, t.box.corner ∈ i.sizes.on t.side →
          ∃ h ∈ v.hunks, i.RawPreviewOf o t h) := by
  intro v
  refine ⟨SheetView.previewOf_regions, ?_⟩
  intro hshown
  have hhunks : v.hunks = (i.shownInterests o).filterMap (Hunk.ofInterest? o i.sizes) :=
    if_neg hshown
  rw [hhunks]
  constructor
  · intro h hh
    obtain ⟨t, ht, hof⟩ := List.mem_filterMap.mp hh
    exact ⟨t, ht, SheetInput.rawPreviewOf hof⟩
  · intro t ht hcorner
    obtain ⟨b, hb⟩ := Option.isSome_iff_exists.mp (Hunk.boxIn?_isSome hcorner)
    have hof : Hunk.ofInterest? o i.sizes t = some _ := congrArg (Option.map _) hb
    exact ⟨_, List.mem_filterMap.mpr ⟨t, ht, hof⟩, SheetInput.rawPreviewOf hof⟩

def lowerCell (alignments : List Alignment) : Payload where
  report := ⟨none, [], [.known (.grid (.text "S") (.rectReplaced 1 1 0 1))], true, []⟩
  old := [⟨"S", 2, 1, [], false, none, none, none⟩]
  new := [⟨"S", 2, 1, [], false, none, none, none⟩]
  alignments := alignments
  interests := []

def twoRows : Alignment :=
  ⟨"S", [⟨some 0, some 0, .same, none⟩, ⟨some 1, some 1, .same, none⟩],
    [⟨some 0, some 0, .same, none⟩], [], false, none⟩

def oneCellShown : Options := { Options.default with maxVisualCells := 1 }

/-- With room for one cell, it is the margin above the change that is shown, in the grid as well as
in either sheet. -/
theorem not_previews_show_corner :
    ((SheetView.ofPayload? (lowerCell [twoRows]) oneCellShown "S").map fun v =>
      (v.regions.map fun r => r.box, v.hunks.map fun h => h.box)) =
        some ([⟨1, 0, 1, 0⟩], [⟨0, 0, 0, 0⟩]) ∧
    ((SheetView.ofPayload? (lowerCell []) oneCellShown "S").map fun v =>
      v.hunks.map fun h => h.box) = some [⟨0, 0, 0, 0⟩, ⟨0, 0, 0, 0⟩] ∧
    ¬∀ (p : Payload) (o : Options) (name : String) (v : SheetView),
      SheetView.ofPayload? p o name = some v → v.status.isShown →
      ∀ r ∈ v.regions, r.box.bottom < v.grid.rows.count ∧ r.box.right < v.grid.cols.count →
        ∀ h ∈ v.hunks, h.kind = .aligned r.id → r.box.corner ∈ h.box := by
  refine ⟨rfl, rfl, ?_⟩
  intro h
  have hmem := h (lowerCell [twoRows]) oneCellShown "S" _ rfl rfl _ List.mem_cons_self
    (by decide) _ List.mem_cons_self rfl
  exact absurd hmem.2.1 (by decide)

end DiffView
