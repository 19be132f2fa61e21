import DiffView.Proofs.Anchors
import DiffView.Proofs.Ids
import DiffView.Proofs.Items

namespace DiffView

namespace Region

variable {o : Options} {g : Grid} {es : Edits} {ops : List Listed} {regions : List Region}
  {r s : Region}

theorem exists_cluster (hr : r ∈ ofOps o g es ops) (hkind : r.kind = .cells) :
    ∃ a ∈ Area.clusters o es, ofArea o g a = r := by
  obtain ⟨a, ha | ⟨l, -, ha⟩, rfl⟩ := mem_ofOps.mp hr
  · exact ⟨a, ha, rfl⟩
  · exact absurd hkind (Area.kind_ne_cells_of_mem_ofOp ha)

theorem eq_of_id_eq (hr : r ∈ ofOps o g es ops) (hkind : r.kind = .cells)
    (hs : s ∈ ofOps o g es ops) (h : s.id = r.id) : s = r := by
  obtain ⟨a, ha, rfl⟩ := exists_cluster hr hkind
  obtain ⟨b, hb | ⟨l, -, hb⟩, rfl⟩ := mem_ofOps.mp hs
  · rw [Area.eq_of_mem_clusters hb ha h]
  · have hhead := Area.head?_id_of_mem_clusters ha
    change b.id = a.id at h
    rw [← h] at hhead
    exact absurd hhead (Area.head?_id_of_mem_ofOp hb)

theorem find?_eq_some_of_mem (hr : r ∈ regions) (h : ∀ s ∈ regions, s.id = r.id → s = r) :
    find? regions r.id = some r := by
  cases hfind : find? regions r.id with
  | none => simpa using List.find?_eq_none.mp hfind r (List.mem_reverse.mpr hr)
  | some s =>
      obtain ⟨hs, hid⟩ := mem_of_find? hfind
      rw [h s hs hid]

theorem moveId_of_cells (hr : r ∈ ofOps o g es ops) (hkind : r.kind = .cells) :
    r.moveId = none := by
  obtain ⟨a, ha, rfl⟩ := exists_cluster hr hkind
  obtain ⟨n, hn, rfl⟩ := List.mem_mapIdx.mp ha
  rfl

end Region

theorem Stop.Of.exists_region {g : Grid} {regions : List Region} {i : Item} {s : Stop}
    (hs : Stop.Of g regions i s) {id : String} (hid : s.id = Anchor.regionId id) :
    ∃ r ∈ regions, r.id = id ∧ s.place = some r.box.corner ∧ s.region = some r ∧
      s.moveId = r.moveId := by
  cases hs with
  | listed h => exact absurd hid (Anchor.otherId_ne_regionId _ _)
  | lines h => exact absurd hid (Anchor.lineId_ne_regionId _ _ _ _)
  | region detail h =>
      exact ⟨_, (Region.mem_of_find? h).1, Anchor.regionId_inj hid, rfl, rfl, rfl⟩
  | lineMove side h hcover => exact absurd hid (Anchor.moveId_ne_regionId _ _ _)

theorem Item.exists_ofRegion? {r : Region} (h : r.kind = .cells) :
    ∃ i, Item.ofRegion? r = some i ∧ i.locator = some (.region r.id) := by
  simp only [Item.ofRegion?, h]
  exact ⟨_, rfl, rfl⟩

namespace SheetView

variable {o : Options} {i : SheetInput} {r : Region}

theorem hasGrid_of_isShown (hshown : (ofInput o i).status.isShown) :
    (ofInput o i).hasGrid := by
  have hg : (ofInput o i).grid.isEmpty = false := Status.not_isEmpty_of_isShown hshown
  rw [hasGrid, hshown, hg]
  rfl

/-- All anchors with the id of a region of edits are at its corner. -/
theorem target_of_cells (hr : r ∈ (ofInput o i).regions) (hkind : r.kind = .cells)
    (hshown : (ofInput o i).status.isShown) {a : Anchor} (ha : a ∈ (ofInput o i).anchors)
    (hid : a.id = Anchor.regionId r.id) : a.target = .grid r.box.corner (some r.id) none := by
  obtain ⟨item, -, s, hs, rfl⟩ := exists_stop_of_mem_anchors ha
  obtain ⟨r', hr', hid', hplace, hregion, hmove⟩ := hs.exists_region hid
  obtain rfl := Region.eq_of_id_eq hr hkind hr' hid'
  refine (Candidate.target_ofStop (hasGrid_of_isShown hshown) hplace).trans ?_
  rw [hregion, hmove, Region.moveId_of_cells hr hkind]
  rfl

theorem exists_anchor_of_cells (hr : r ∈ (ofInput o i).regions) (hkind : r.kind = .cells)
    {item : Item} (hitem : item ∈ (ofInput o i).items)
    (hlocator : item.locator = some (.region r.id)) :
    ∃ a ∈ (ofInput o i).anchors, a.id = Anchor.regionId r.id := by
  have hfind : Region.find? (ofInput o i).regions r.id = some r :=
    Region.find?_eq_some_of_mem hr fun s hs hid => Region.eq_of_id_eq hr hkind hs hid
  have hstop : Stop.mk (Anchor.regionId r.id) item.detail (some r.box.corner) (some r) r.moveId ∈
      Stop.ofItem i.grid (ofInput o i).regions item := by
    rw [Stop.ofItem.eq_def, hlocator]
    change _ ∈ (Stop.ofRegion? _ r.id item.detail).toList
    rw [Stop.ofRegion?, hfind]
    exact List.mem_singleton_self _
  exact exists_anchor_of_stop hitem hstop

theorem exists_link {item : Item} {id : String} (hlocator : item.locator = some (.region id))
    {a : Anchor} (ha : a ∈ (ofInput o i).anchors) (hid : a.id = Anchor.regionId id) :
    ∃ l ∈ (ofInput o i).links item, l.anchorId = Anchor.regionId id := by
  refine ⟨⟨Anchor.regionId id, none⟩, List.mem_filter.mpr ⟨?_, ?_⟩, rfl⟩
  · rw [Item.wanted.eq_def, hlocator]
    exact List.mem_singleton_self _
  · exact List.any_eq_true.mpr ⟨a, ha, decide_eq_true hid⟩

end SheetView

/-- Every edit of a sheet lies in a region of edits. An item is at the region, and it refers to an
anchor for it; where the grid is shown, the anchor is at the corner of the region. -/
theorem edits_reached (o : Options) (i : SheetInput) (p : Place)
    (hp : ((SheetView.ofInput o i).edits.get? p).isSome) :
    ∃ r ∈ (SheetView.ofInput o i).regions, r.kind = .cells ∧ p ∈ r.box ∧
      ∃ item ∈ (SheetView.ofInput o i).items, item.locator = some (.region r.id) ∧
        ∃ a ∈ (SheetView.ofInput o i).anchors, a.id = Anchor.regionId r.id ∧
          (∃ l ∈ (SheetView.ofInput o i).links item, l.anchorId = a.id) ∧
          ((SheetView.ofInput o i).status.isShown →
            a.target = .grid r.box.corner (some r.id) none) := by
  obtain ⟨r, hr, hkind, hbox⟩ := SheetView.exists_cellRegion o i (Edits.get?_isSome_iff.mp hp)
  obtain ⟨item, hitem, hlocator⟩ := Item.exists_ofRegion? hkind
  have hmem : item ∈ (SheetView.ofInput o i).items :=
    List.mem_append_left _ (List.mem_append_right _ (List.mem_filterMap.mpr ⟨r, hr, hitem⟩))
  obtain ⟨a, ha, hid⟩ := SheetView.exists_anchor_of_cells hr hkind hmem hlocator
  refine ⟨r, hr, hkind, hbox, item, hmem, hlocator, a, ha, hid, ?_, ?_⟩
  · rw [hid]
    exact SheetView.exists_link hlocator ha hid
  · exact fun hshown => SheetView.target_of_cells hr hkind hshown ha hid

def editedRect : SheetInput where
  report := ⟨none, [], [], true, []⟩
  name := "S"
  oldName := none
  ops := [⟨0, .known (.grid (.text "S") (.rectReplaced 0 2 0 1))⟩,
    ⟨1, .known (.grid (.text "S") (.cellEdited (.cell 1 0) .empty
      ⟨none, some (.typed (.bool true)), none⟩ .unchanged))⟩]
  old := some ⟨"S", 2, 1, [], false, none, none, none⟩
  new := some ⟨"S", 2, 1, [⟨1, 0, some "TRUE", none⟩], false, none, none, none⟩
  alignment := some ⟨"S", [⟨some 0, some 0, .same, none⟩, ⟨some 1, some 1, .same, none⟩],
    [⟨some 0, some 0, .same, none⟩], [], false, none⟩
  interests := none

theorem edits_reached_of_editedRect :
    let v := SheetView.ofInput .default editedRect
    (v.edits.get? ⟨1, 0⟩).isSome = true ∧ v.status.isShown = true ∧
      ∃ r ∈ v.regions, r.kind = .cells ∧ ⟨1, 0⟩ ∈ r.box ∧
        ∃ a ∈ v.anchors, a.target = .grid r.box.corner (some r.id) none := by
  intro v
  have hp : (v.edits.get? ⟨1, 0⟩).isSome = true := by decide
  have hshown : v.status.isShown = true := rfl
  obtain ⟨r, hr, hkind, hbox, -, -, -, a, ha, -, -, htarget⟩ :=
    edits_reached .default editedRect ⟨1, 0⟩ hp
  exact ⟨hp, hshown, r, hr, hkind, hbox, a, ha, htarget hshown⟩

end DiffView
