import DiffView.Proofs.Anchors
import DiffView.Proofs.HunksInGrid
import DiffView.Proofs.Items

namespace DiffView

instance : Membership Place Grid where
  mem g p := p.row < g.rows.count ∧ p.col < g.cols.count

theorem Grid.mem_iff {g : Grid} {p : Place} : p ∈ g ↔ ∀ line, p.on line < (g.axis line).count := by
  constructor
  · rintro ⟨hrow, hcol⟩ line
    cases line with
    | row => exact hrow
    | col => exact hcol
  · intro h
    exact ⟨h .row, h .col⟩

namespace SheetInput

variable {o : Options} {i : SheetInput}

theorem stop_begins {item : Item} (hitem : item ∈ (SheetView.ofInput o i).items) {s : Stop}
    (hs : Stop.Of i.grid (SheetView.ofInput o i).regions item s) {place : Place}
    (hplace : s.place = some place) (line : Line) :
    ∃ p ∈ i.parts, i.grid.Begins p line (place.on line) := by
  have habout : item.About i := Item.about_of_mem_items hitem
  cases hs with
  | listed h => cases hplace
  | lines h =>
      cases hplace
      cases habout with
      | lines h' hp begins =>
          rw [h] at h'
          cases h'
          exact ⟨_, hp, begins line⟩
      | region h' | lineMove h' | rectMove h' | listed h' =>
          rw [h] at h'
          cases h'
  | region detail h =>
      cases hplace
      exact (region_begins (Region.mem_of_find? h).1).2 line
  | lineMove side h hcover =>
      cases hplace
      cases habout with
      | lineMove h' hp =>
          rw [h] at h'
          cases h'
          exact ⟨_, hp side, Grid.begins_edge_of_cover? hcover line⟩
      | lines h' | region h' | rectMove h' | listed h' =>
          rw [h] at h'
          cases h'

end SheetInput

/-- An anchor in the grid is at a cell of it, unless it is at the index of a line that a change
concerns, that has no place in the view, and that is not less than the length of the view. -/
theorem anchors_in_grid (o : Options) (i : SheetInput) :
    ∀ a ∈ (SheetView.ofInput o i).anchors, ∀ place regionId moveId,
      a.target = .grid place regionId moveId →
        (place ∈ i.grid ↔ ∀ line, ¬i.Astray line (place.on line)) := by
  intro a ha place regionId moveId htarget
  obtain ⟨item, hitem, s, hs, rfl⟩ := SheetView.exists_stop_of_mem_anchors ha
  obtain ⟨hgrid, hplace⟩ := Candidate.place_of_target htarget
  have hg : (SheetView.ofInput o i).grid.isEmpty = false := by
    simpa using (Bool.and_eq_true_iff.mp hgrid).2
  rw [Grid.mem_iff]
  constructor
  · intro hlt line hastray
    exact absurd (hlt line) (Nat.not_lt.mpr hastray.1)
  · intro hastray line
    obtain ⟨p, hp, hbegins⟩ := SheetInput.stop_begins hitem hs hplace line
    have hcases := SheetInput.lt_count_or_astray hp hbegins (i.grid.count_pos hg line)
    exact hcases.resolve_right (hastray line)

theorem anchors_in_grid_of_astray :
    let i := (oneCell (.lineAdded .row 5)).sheetInput .none "S"
    ∃ a ∈ (SheetView.ofInput .default i).anchors, a.target = .grid ⟨5, 0⟩ none none ∧
      i.Astray .row 5 := by
  intro i
  have ha : Anchor.mk "row:added:5-5" .rows .added "Row 6 added" "" (.grid ⟨5, 0⟩ none none) ∈
      (SheetView.ofInput .default i).anchors := by decide
  refine ⟨_, ha, rfl, ?_⟩
  have hiff := anchors_in_grid .default i _ ha ⟨5, 0⟩ none none rfl
  by_contra hrow
  have hcell : (⟨5, 0⟩ : Place) ∈ i.grid := by
    apply hiff.mpr
    intro line
    cases line with
    | row => exact hrow
    | col => exact fun hcol => absurd hcol.1 (by decide)
  exact absurd hcell.1 (by decide)

/-- A row far behind the only one has an anchor in the grid. -/
theorem not_anchors_in_grid :
    ((SheetView.ofPayload? (oneCell (.lineAdded .row 5)) .default "S").map
      fun v => v.anchors.map fun a => a.target) = some [.grid ⟨5, 0⟩ none none] ∧
    ¬∀ (p : Payload) (o : Options) (name : String) (v : SheetView),
      SheetView.ofPayload? p o name = some v → ∀ a ∈ v.anchors, ∀ place regionId moveId,
      a.target = .grid place regionId moveId → place ∈ v.grid := by
  refine ⟨rfl, ?_⟩
  intro h
  have hcell := h (oneCell (.lineAdded .row 5)) .default "S" _ rfl _ List.mem_cons_self ⟨5, 0⟩
    none none rfl
  exact absurd hcell.1 (by decide)

end DiffView
