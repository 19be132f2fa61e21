import DiffView.Proofs.Sorting
import DiffView.Sheet.View

namespace DiffView

/-- How an item comes by its stops. -/
inductive Stop.Of (g : Grid) (regions : List Region) (i : Item) : Stop → Prop
  | listed (h : i.locator = none) : Of g regions i ⟨Anchor.otherId i.id, i.detail, none, none, none⟩
  | lines {line : Line} {run : Span} (h : i.locator = some (.lines line run)) :
      Of g regions i ⟨Anchor.lineId line i.changeType run, i.detail,
        some (Grid.edge line run.first), none, none⟩
  | region {id : String} {r : Region} (detail : String) (h : Region.find? regions id = some r) :
      Of g regions i ⟨Anchor.regionId r.id, detail, some r.box.corner, some r, r.moveId⟩
  | lineMove {moveId : String} {line : Line} {src dst count : Nat} {run : Span} (side : Side)
      (h : i.locator = some (.lineMove moveId line src dst count))
      (hcover : (g.axis line).cover? side ⟨Block.pick side src dst, count⟩ = some run) :
      Of g regions i ⟨Anchor.moveId moveId side, i.detail, some (Grid.edge line run.first), none,
        some moveId⟩

namespace Stop

variable {g : Grid} {regions : List Region} {i : Item} {s : Stop}

theorem of_mem_ofRegion? {id detail : String} (h : s ∈ (ofRegion? regions id detail).toList) :
    Of g regions i s := by
  obtain ⟨r, hr, rfl⟩ := Option.map_eq_some_iff.mp (Option.mem_toList.mp h)
  exact .region detail hr

theorem of_mem_ofItem (h : s ∈ ofItem g regions i) : Of g regions i s := by
  rw [ofItem.eq_def] at h
  split at h
  · rename_i hloc
    rw [List.mem_singleton.mp h]
    exact .listed hloc
  · rename_i line run hloc
    rw [List.mem_singleton.mp h]
    exact .lines hloc
  · exact of_mem_ofRegion? h
  · rename_i moveId line src dst count hloc
    rcases List.mem_append.mp h with h | h
    · obtain ⟨run, hrun, rfl⟩ := Option.map_eq_some_iff.mp (Option.mem_toList.mp h)
      exact .lineMove .old hloc hrun
    · obtain ⟨run, hrun, rfl⟩ := Option.map_eq_some_iff.mp (Option.mem_toList.mp h)
      exact .lineMove .new hloc hrun
  · rcases List.mem_append.mp h with h | h
    · exact of_mem_ofRegion? h
    · exact of_mem_ofRegion? h

end Stop

theorem Region.mem_of_find? {regions : List Region} {id : String} {r : Region}
    (h : Region.find? regions id = some r) : r ∈ regions ∧ r.id = id :=
  ⟨List.mem_reverse.mp (List.mem_of_find?_eq_some h), by simpa using List.find?_some h⟩

namespace Candidate

variable {sheet : String} {hasGrid : Bool} {i : Item} {s : Stop}

theorem target_ofStop {place : Place} (hgrid : hasGrid) (hplace : s.place = some place) :
    (ofStop sheet hasGrid i s).anchor.target = .grid place (s.region.map (·.id)) s.moveId := by
  simp only [ofStop, hplace]
  exact if_pos hgrid

theorem target_of_not_hasGrid (h : hasGrid = false) :
    (ofStop sheet hasGrid i s).anchor.target = .list (elementId sheet i.id) := by
  subst h
  simp only [ofStop]
  split <;> rfl

/-- An anchor is in the grid if there is a grid to show and the stop has a place. -/
theorem place_of_target {place : Place} {regionId moveId : Option String}
    (h : (ofStop sheet hasGrid i s).anchor.target = .grid place regionId moveId) :
    hasGrid ∧ s.place = some place := by
  simp only [ofStop] at h
  split at h
  · rename_i hplace
    split at h
    · rename_i hgrid
      cases h
      exact ⟨hgrid, hplace⟩
    · cases h
  · cases h

end Candidate

namespace Anchor

variable {sheet : String} {hasGrid : Bool} {g : Grid} {regions : List Region} {items : List Item}

theorem exists_mem_ofItem {a : Anchor} (h : a ∈ ofItems sheet hasGrid g regions items) :
    ∃ i ∈ items, ∃ s ∈ Stop.ofItem g regions i,
      (Candidate.ofStop sheet hasGrid i s).anchor = a := by
  obtain ⟨c, hc, rfl⟩ := List.mem_map.mp h
  have hmem := (distinctBy_sublist _ _).mem ((sortBy_perm Candidate.compare _).mem_iff.mp hc)
  obtain ⟨i, hi, hc⟩ := List.mem_flatMap.mp hmem
  obtain ⟨s, hs, rfl⟩ := List.mem_map.mp hc
  exact ⟨i, hi, s, hs, rfl⟩

theorem exists_stop_of_mem {a : Anchor} (h : a ∈ ofItems sheet hasGrid g regions items) :
    ∃ i ∈ items, ∃ s, Stop.Of g regions i s ∧ (Candidate.ofStop sheet hasGrid i s).anchor = a := by
  obtain ⟨i, hi, s, hs, ha⟩ := exists_mem_ofItem h
  exact ⟨i, hi, s, Stop.of_mem_ofItem hs, ha⟩

theorem exists_mem_of_stop {i : Item} (hi : i ∈ items) {s : Stop}
    (hs : s ∈ Stop.ofItem g regions i) :
    ∃ a ∈ ofItems sheet hasGrid g regions items, a.id = s.id := by
  have hmem : Candidate.ofStop sheet hasGrid i s ∈ items.flatMap fun i =>
      (Stop.ofItem g regions i).map (Candidate.ofStop sheet hasGrid i) :=
    List.mem_flatMap.mpr ⟨i, hi, List.mem_map_of_mem hs⟩
  obtain ⟨c, hc, hkey⟩ := exists_mem_distinctBy (fun c : Candidate => c.anchor.id) hmem
  refine ⟨c.anchor, List.mem_map_of_mem ?_, hkey⟩
  exact (sortBy_perm Candidate.compare _).mem_iff.mpr hc

end Anchor

namespace SheetView

variable {o : Options} {i : SheetInput}

def hasGrid (v : SheetView) : Bool := v.status.isShown && !v.grid.isEmpty

theorem anchors_ofInput (o : Options) (i : SheetInput) :
    (ofInput o i).anchors = Anchor.ofItems i.name (ofInput o i).hasGrid i.grid
      (ofInput o i).regions (ofInput o i).items := rfl

theorem exists_stop_of_mem_anchors {a : Anchor} (h : a ∈ (ofInput o i).anchors) :
    ∃ item ∈ (ofInput o i).items, ∃ s, Stop.Of i.grid (ofInput o i).regions item s ∧
      (Candidate.ofStop i.name (ofInput o i).hasGrid item s).anchor = a := by
  rw [anchors_ofInput] at h
  exact Anchor.exists_stop_of_mem h

theorem exists_anchor_of_stop {item : Item} (hitem : item ∈ (ofInput o i).items) {s : Stop}
    (hs : s ∈ Stop.ofItem i.grid (ofInput o i).regions item) :
    ∃ a ∈ (ofInput o i).anchors, a.id = s.id := by
  rw [anchors_ofInput]
  exact Anchor.exists_mem_of_stop hitem hs

end SheetView

end DiffView
