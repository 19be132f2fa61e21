import DiffView.Proofs.EditsReached
import DiffView.Proofs.Moves
import DiffView.Workbook.Routing

namespace DiffView

namespace Region

variable {regions : List Region} {id : String}

theorem find?_isSome_iff : (find? regions id).isSome ↔ ∃ r ∈ regions, r.id = id := by
  simp [find?]

theorem exists_endId_iff {o : Options} {g : Grid} {es : Edits} {ops : List Listed} {l : Listed}
    {b : Block} {side : Side} (hl : l ∈ ops) (hb : l.op.block? = some b) :
    (∃ r ∈ ofOps o g es ops, r.id = Area.endId b.id side) ↔
      (g.cover? side (b.rowsOn? side) (b.colsOn? side)).isSome := by
  constructor
  · rintro ⟨r, hr, hid⟩
    cases origin hr with
    | plain hhead => exact absurd (hid ▸ Area.head?_endId b.id side) hhead
    | atEnd side' hl' hb' hcover hid' =>
        obtain ⟨hblock, rfl⟩ := Area.endId_inj (hid'.symm.trans hid)
        obtain rfl := Block.id_inj hblock
        exact hcover
  · intro h
    obtain ⟨box, hbox⟩ := Option.isSome_iff_exists.mp h
    let a := Area.ofBox (Area.endId b.id side) (Area.endKind side) (some b.id) box
    have ha : a ∈ Area.ofBlock g b := Area.mem_ofBlock.mpr ⟨side, box, hbox, rfl⟩
    refine ⟨ofArea o g a, mem_ofOps.mpr ⟨a, .inr ⟨l, hl, ?_⟩, rfl⟩, rfl⟩
    rw [Op.block?] at hb
    split at hb
    · rename_i hop
      rw [Area.ofOp, hop]
      exact Option.some_inj.mp hb ▸ ha
    · cases hb

end Region

namespace Stop

variable {g : Grid} {regions : List Region} {i : Item} {s : Stop}

theorem exists_wanted (h : s ∈ ofItem g regions i) : ∃ l ∈ i.wanted, l.anchorId = s.id := by
  have hregion {id detail : String} (h : s ∈ (ofRegion? regions id detail).toList) :
      Anchor.regionId id = s.id := by
    obtain ⟨r, hr, rfl⟩ := Option.map_eq_some_iff.mp (Option.mem_toList.mp h)
    rw [(Region.mem_of_find? hr).2]
  have hline {moveId : String} {line : Line} {side : Side} {t : Stretch}
      (h : s ∈ (ofLineMove? g i moveId line side t).toList) : Anchor.moveId moveId side = s.id := by
    obtain ⟨run, -, rfl⟩ := Option.map_eq_some_iff.mp (Option.mem_toList.mp h)
    rfl
  rw [ofItem.eq_def] at h
  rw [Item.wanted.eq_def]
  split at h
  · rw [List.mem_singleton.mp h]
    exact ⟨_, List.mem_singleton_self _, rfl⟩
  · rw [List.mem_singleton.mp h]
    exact ⟨_, List.mem_singleton_self _, rfl⟩
  · exact ⟨_, List.mem_singleton_self _, hregion h⟩
  · rcases List.mem_append.mp h with h | h
    · exact ⟨_, List.mem_cons_self, hline h⟩
    · exact ⟨_, List.mem_cons_of_mem _ List.mem_cons_self, hline h⟩
  · rcases List.mem_append.mp h with h | h
    · exact ⟨_, List.mem_cons_self, hregion h⟩
    · exact ⟨_, List.mem_cons_of_mem _ List.mem_cons_self, hregion h⟩

theorem exists_mem_ofRegion? {id : String} (detail : String) (h : ∃ r ∈ regions, r.id = id) :
    ∃ s ∈ (ofRegion? regions id detail).toList, s.id = Anchor.regionId id := by
  obtain ⟨r, hr⟩ := Option.isSome_iff_exists.mp (Region.find?_isSome_iff.mpr h)
  refine ⟨_, Option.mem_toList.mpr (congrArg (Option.map _) hr), ?_⟩
  exact congrArg Anchor.regionId (Region.mem_of_find? hr).2

theorem exists_of_lineMove {moveId : String} {line : Line} {src dst count : Nat}
    (hloc : i.locator = some (.lineMove moveId line src dst count)) (hcount : 0 < count)
    (side : Side) : ∃ s ∈ ofItem g regions i, s.id = Anchor.moveId moveId side := by
  have hcover : ((g.axis line).cover? side ⟨Block.pick side src dst, count⟩).isSome :=
    Axis.cover?_isSome_iff.mpr (Nat.pos_iff_ne_zero.mp hcount)
  obtain ⟨run, hrun⟩ := Option.isSome_iff_exists.mp hcover
  have hstop : ofLineMove? g i moveId line side ⟨Block.pick side src dst, count⟩ = some _ :=
    congrArg (Option.map _) hrun
  rw [ofItem.eq_def, hloc]
  cases side with
  | old => exact ⟨_, List.mem_append_left _ (Option.mem_toList.mpr hstop), rfl⟩
  | new => exact ⟨_, List.mem_append_right _ (Option.mem_toList.mpr hstop), rfl⟩

theorem exists_of_rectMove {moveId src dst : String} {side : Side}
    (hloc : i.locator = some (.rectMove moveId src dst))
    (h : ∃ r ∈ regions, r.id = Area.endId moveId side) :
    ∃ s ∈ ofItem g regions i, s.id = Anchor.regionId (Area.endId moveId side) := by
  rw [ofItem.eq_def, hloc]
  cases side with
  | old =>
      obtain ⟨s, hs, hid⟩ := exists_mem_ofRegion? "From" h
      exact ⟨s, List.mem_append_left _ hs, hid⟩
  | new =>
      obtain ⟨s, hs, hid⟩ := exists_mem_ofRegion? "To" h
      exact ⟨s, List.mem_append_right _ hs, hid⟩

end Stop

namespace Item

variable {anchors : List Anchor} {i : Item} {anchorId : Side → String}

@[simp] theorem mem_links {l : Link} :
    l ∈ i.links anchors ↔ l ∈ i.wanted ∧ ∃ a ∈ anchors, a.id = l.anchorId := by
  simp [links]

def endLinks (anchorId : Side → String) : List Link :=
  [⟨anchorId .old, some "From"⟩, ⟨anchorId .new, some "To"⟩]

theorem links_of_wanted (hwanted : i.wanted = endLinks anchorId)
    (h : ∀ side, ∃ a ∈ anchors, a.id = anchorId side) : i.links anchors = endLinks anchorId := by
  simpa [links, hwanted, endLinks] using ⟨h .old, h .new⟩

theorem links_of_wanted_none (hwanted : i.wanted = endLinks anchorId)
    (h : ∀ side, ¬∃ a ∈ anchors, a.id = anchorId side) : i.links anchors = [] := by
  simp only [not_exists, not_and] at h
  simpa [links, hwanted, endLinks] using ⟨h .old, h .new⟩

end Item

namespace SheetView

def MovesLines (v : SheetView) (moveId : String) : Prop :=
  ∃ item ∈ v.items, ∃ line src dst count,
    item.locator = some (.lineMove moveId line src dst count) ∧ 0 < count

variable {o : Options} {i : SheetInput} {item : Item} {moveId : String}

theorem exists_anchor_iff {id : String} : (∃ a ∈ (ofInput o i).anchors, a.id = id) ↔
    ∃ item ∈ (ofInput o i).items, ∃ s ∈ Stop.ofItem i.grid (ofInput o i).regions item,
      s.id = id := by
  constructor
  · rintro ⟨a, ha, rfl⟩
    obtain ⟨item, hitem, s, hs, rfl⟩ := Anchor.exists_mem_ofItem ha
    exact ⟨item, hitem, s, hs, rfl⟩
  · rintro ⟨item, hitem, s, hs, rfl⟩
    exact exists_anchor_of_stop hitem hs

theorem exists_links_eq_singleton (hitem : item ∈ (ofInput o i).items)
    (h : item.moveId? = none) : ∃ l, (ofInput o i).links item = [l] := by
  have hstop : ∃ l, item.wanted = [l] ∧
      ∃ s ∈ Stop.ofItem i.grid (ofInput o i).regions item, s.id = l.anchorId := by
    rw [Item.wanted.eq_def, Stop.ofItem.eq_def]
    split
    · exact ⟨_, rfl, _, List.mem_singleton_self _, rfl⟩
    · exact ⟨_, rfl, _, List.mem_singleton_self _, rfl⟩
    · rename_i id hloc
      obtain ⟨r, hr, -, hid⟩ := Item.exists_region_of_mem_items hitem hloc
      exact ⟨_, rfl, Stop.exists_mem_ofRegion? _ ⟨r, hr, hid⟩⟩
    · rename_i hloc
      rw [Item.moveId?, hloc] at h
      cases h
    · rename_i hloc
      rw [Item.moveId?, hloc] at h
      cases h
  obtain ⟨l, hwanted, hs⟩ := hstop
  refine ⟨l, ?_⟩
  rw [links, Item.links, hwanted, List.filter_eq_self]
  simpa using exists_anchor_iff.mpr ⟨item, hitem, hs⟩

theorem exists_anchor_of_lines_iff {side : Side} :
    (∃ a ∈ (ofInput o i).anchors, a.id = Anchor.moveId moveId side) ↔
      (ofInput o i).MovesLines moveId := by
  rw [exists_anchor_iff]
  constructor
  · rintro ⟨item, hitem, s, hs, hid⟩
    cases Stop.of_mem_ofItem hs with
    | listed h => exact absurd hid (Anchor.otherId_ne_moveId _ _ _)
    | lines h => exact absurd hid (Anchor.lineId_ne_moveId _ _ _ _ _)
    | region detail h => exact absurd hid.symm (Anchor.moveId_ne_regionId _ _ _)
    | lineMove side' hloc hcover =>
        obtain ⟨rfl, rfl⟩ := Anchor.moveId_inj hid
        have hcount := Axis.cover?_isSome_iff.mp (Option.isSome_of_eq_some hcover)
        exact ⟨item, hitem, _, _, _, _, hloc, Nat.pos_of_ne_zero hcount⟩
  · rintro ⟨item, hitem, line, src, dst, count, hloc, hcount⟩
    exact ⟨item, hitem, Stop.exists_of_lineMove hloc hcount side⟩

theorem mem_items_of_rect {l : Listed} (hl : l ∈ i.ops) {b : Block} (hb : l.op.block? = some b)
    (hitem : Item.ofRectBlock? b = some item) : item ∈ (ofInput o i).items :=
  (Item.mem_ofMoves_iff (Item.moveId?_of_ofRectBlock? hitem)).mpr
    (Item.mem_ofMoves.mpr (.inr ⟨l, hl, b, hb, .inr hitem⟩))

theorem exists_anchor_of_rect_iff {l : Listed} (hl : l ∈ i.ops) {b : Block}
    (hb : l.op.block? = some b) (hitem : Item.ofRectBlock? b = some item) (side : Side) :
    (∃ a ∈ (ofInput o i).anchors, a.id = Anchor.regionId (Area.endId b.id side)) ↔
      (i.grid.cover? side (b.rowsOn? side) (b.colsOn? side)).isSome := by
  have hmem : item ∈ (ofInput o i).items := mem_items_of_rect hl hb hitem
  have hregion : (∃ r ∈ (ofInput o i).regions, r.id = Area.endId b.id side) ↔ _ :=
    Region.exists_endId_iff hl hb
  rw [exists_anchor_iff, ← hregion]
  constructor
  · rintro ⟨item, -, s, hs, hid⟩
    obtain ⟨r, hr, hrid, -⟩ := (Stop.of_mem_ofItem hs).exists_region hid
    exact ⟨r, hr, hrid⟩
  · intro h
    have hloc : ∃ src dst, item.locator = some (.rectMove b.id src dst) := by
      cases b <;> cases hitem
      exact ⟨_, _, rfl⟩
    obtain ⟨src, dst, hloc⟩ := hloc
    exact ⟨item, hmem, Stop.exists_of_rectMove hloc h⟩

/-- Items and anchors of a sheet refer to each other. Moves of lines with one id share their
anchors, and moves of rectangles are those of operations. -/
structure Linked (v : SheetView) (ops : List Listed) : Prop where
  anchor_of_link : ∀ item ∈ v.items, ∀ l ∈ v.links item, ∃ a ∈ v.anchors, a.id = l.anchorId
  link_of_anchor : ∀ a ∈ v.anchors, ∃ item ∈ v.items, (∃ l ∈ v.links item, l.anchorId = a.id) ∧
    ∀ e, a.target = .list e → e = elementId v.name item.id
  one_link : ∀ item ∈ v.items, item.moveId? = none → ∃ l, v.links item = [l]
  lineMove : ∀ item ∈ v.items, ∀ moveId line src dst count,
    item.locator = some (.lineMove moveId line src dst count) →
      (v.MovesLines moveId → v.links item = Item.endLinks (Anchor.moveId moveId)) ∧
      (¬v.MovesLines moveId → v.links item = [])
  op_of_rectMove : ∀ item ∈ v.items, ∀ moveId src dst,
    item.locator = some (.rectMove moveId src dst) →
      ∃ l ∈ ops, ∃ b, l.op.block? = some b ∧ Item.ofRectBlock? b = some item
  rectMove : ∀ l ∈ ops, ∀ srcRow height srcCol width dstRow dstCol,
    let b := Block.rect srcRow height srcCol width dstRow dstCol
    l.op.block? = some b → ∃ item ∈ v.items, Item.ofRectBlock? b = some item ∧
      (0 < height ∧ 0 < width → v.links item =
        Item.endLinks fun side => Anchor.regionId (Area.endId b.id side)) ∧
      (¬(0 < height ∧ 0 < width) → v.links item = [])

end SheetView

theorem Candidate.elementId_of_target {sheet : String} {hasGrid : Bool} {i : Item} {s : Stop}
    {e : String} (h : (ofStop sheet hasGrid i s).anchor.target = .list e) :
    e = elementId sheet i.id := by
  simp only [ofStop] at h
  split at h
  · split at h
    · cases h
    · cases h
      rfl
  · cases h
    rfl

/-- Each link of an item leads to an anchor, and each anchor has an item with a link to it, whose
list entry the anchor is at if it is not in the grid. Items have one link if they are about no move.
Those about moves have a link to either end, or none at all if the move is empty. -/
theorem links_closed (o : Options) (i : SheetInput) : (SheetView.ofInput o i).Linked i.ops where
  anchor_of_link item hitem l hl := (Item.mem_links.mp hl).2
  link_of_anchor a ha := by
    obtain ⟨item, hitem, s, hs, rfl⟩ := Anchor.exists_mem_ofItem ha
    obtain ⟨l, hl, hid⟩ := Stop.exists_wanted hs
    have hlink : l ∈ (SheetView.ofInput o i).links item :=
      Item.mem_links.mpr ⟨hl, _, ha, hid.symm⟩
    exact ⟨item, hitem, ⟨l, hlink, hid⟩, fun e he => Candidate.elementId_of_target he⟩
  one_link item hitem h := SheetView.exists_links_eq_singleton hitem h
  lineMove item hitem moveId line src dst count hloc := by
    have hwanted : item.wanted = Item.endLinks (Anchor.moveId moveId) := by
      rw [Item.wanted.eq_def, hloc]
      rfl
    constructor
    · intro h
      exact Item.links_of_wanted hwanted fun _ => SheetView.exists_anchor_of_lines_iff.mpr h
    · intro h
      exact Item.links_of_wanted_none hwanted fun _ ha =>
        h (SheetView.exists_anchor_of_lines_iff.mp ha)
  op_of_rectMove item hitem moveId src dst hloc := Item.exists_rect_of_mem_items hitem hloc
  rectMove l hl srcRow height srcCol width dstRow dstCol hb := by
    have hanchor (side : Side) :=
      (SheetView.exists_anchor_of_rect_iff (o := o) hl hb rfl side).trans
        Grid.cover?_rect_isSome_iff
    refine ⟨_, SheetView.mem_items_of_rect hl hb rfl, rfl, ?_, ?_⟩
    · intro h
      exact Item.links_of_wanted rfl fun side => (hanchor side).mpr h
    · intro h
      exact Item.links_of_wanted_none rfl fun side ha => h ((hanchor side).mp ha)

def twinRecords : Payload where
  report := ⟨none, [], [.known (.grid (.text "S") .sheetAdded)], true, []⟩
  old := []
  new := []
  alignments := [⟨"S", [], [], [⟨"m", "row", 0, 0, 0⟩, ⟨"m", "row", 0, 0, 1⟩], false, none⟩]
  interests := []

/-- A move without lines has links if another one has its id. -/
theorem not_links_closed :
    ((SheetView.ofPayload? twinRecords .default "S").map fun v =>
      v.items.map fun item => (item.locator, (v.links item).length)) =
        some [(some (.lineMove "m" .row 0 0 0), 2), (some (.lineMove "m" .row 0 0 1), 2)] ∧
    ¬∀ (p : Payload) (o : Options) (name : String) (v : SheetView),
      SheetView.ofPayload? p o name = some v → ∀ item ∈ v.items, ∀ moveId line src dst,
        item.locator = some (.lineMove moveId line src dst 0) → v.links item = [] := by
  refine ⟨rfl, ?_⟩
  intro h
  have hnil := h twinRecords .default "S" _ rfl _ List.mem_cons_self "m" .row 0 0 rfl
  exact absurd hnil (by decide)

end DiffView
