import DiffView.Proofs.Anchors
import DiffView.Proofs.Ids
import DiffView.Proofs.Items

namespace DiffView

namespace Area

variable {o : Options} {g : Grid} {es : Edits} {ops : List Listed} {a : Area}

def endId (moveId : String) : Side → String
  | .old => sourceId moveId
  | .new => targetId moveId

def endKind : Side → RegionKind
  | .old => .moveSource
  | .new => .moveTarget

theorem endId_inj {id id' : String} {side side' : Side} (h : endId id side = endId id' side') :
    id = id' ∧ side = side' := by
  have hchars := congrArg String.toList h
  cases side <;> cases side' <;>
    simp [endId, sourceId, targetId, String.toList_inj] at hchars ⊢
  · exact hchars
  · exact hchars

@[simp] theorem head?_endId (id : String) (side : Side) :
    (endId id side).toList.head? = some 'm' := by
  cases side <;> simp [endId, sourceId, targetId]

/-- How an area comes about: at one end of a block that an operation moves, or in another way. -/
inductive Origin (g : Grid) (ops : List Listed) (a : Area) : Prop
  | plain (hid : a.id.toList.head? ≠ some 'm') (hkind : ∀ side, a.kind ≠ endKind side)
      (hmove : a.moveId = none)
  | atEnd {l : Listed} {b : Block} (side : Side) (hl : l ∈ ops) (hb : l.op.block? = some b)
      (hcover : (g.cover? side (b.rowsOn? side) (b.colsOn? side)).isSome)
      (hid : a.id = endId b.id side) (hkind : a.kind = endKind side) (hmove : a.moveId = some b.id)

@[simp] theorem mem_ofBlock {b : Block} : a ∈ ofBlock g b ↔ ∃ side box,
    g.cover? side (b.rowsOn? side) (b.colsOn? side) = some box ∧
      ofBox (endId b.id side) (endKind side) (some b.id) box = a := by
  simp only [ofBlock, List.mem_append, Option.mem_toList, Option.map_eq_some_iff]
  constructor
  · rintro (⟨box, hbox, rfl⟩ | ⟨box, hbox, rfl⟩)
    · exact ⟨.old, box, hbox, rfl⟩
    · exact ⟨.new, box, hbox, rfl⟩
  · rintro ⟨side, box, hbox, rfl⟩
    cases side with
    | old => exact .inl ⟨box, hbox, rfl⟩
    | new => exact .inr ⟨box, hbox, rfl⟩

theorem origin_of_mem_clusters (ha : a ∈ clusters o es) : a.Origin g ops := by
  have hid := head?_id_of_mem_clusters ha
  obtain ⟨n, hn, rfl⟩ := List.mem_mapIdx.mp ha
  refine .plain (by rw [hid]; decide) (fun side => ?_) rfl
  cases side <;> simp [ofCluster, endKind]

theorem origin_of_mem_ofOp {l : Listed} (hl : l ∈ ops) (ha : a ∈ ofOp g l.op) :
    a.Origin g ops := by
  rw [ofOp] at ha
  split at ha
  · obtain ⟨box, -, rfl⟩ := Option.map_eq_some_iff.mp (Option.mem_toList.mp ha)
    refine .plain (by simp [toString]) (fun side => ?_) rfl
    cases side <;> simp [endKind]
  · rename_i b hash hop
    obtain ⟨side, box, hbox, rfl⟩ := mem_ofBlock.mp ha
    exact .atEnd side hl (by rw [Op.block?, hop]) (Option.isSome_of_eq_some hbox) rfl rfl rfl
  · cases ha

end Area

namespace Region

variable {o : Options} {g : Grid} {es : Edits} {ops : List Listed} {r : Region} {id : String}
  {side : Side}

theorem origin (hr : r ∈ ofOps o g es ops) : r.toArea.Origin g ops := by
  obtain ⟨a, ha | ⟨l, hl, ha⟩, rfl⟩ := mem_ofOps.mp hr
  · exact Area.origin_of_mem_clusters ha
  · exact Area.origin_of_mem_ofOp hl ha

theorem moveId_of_endId (hr : r ∈ ofOps o g es ops) (h : r.id = Area.endId id side) :
    r.moveId = some id := by
  cases origin hr with
  | plain hid => exact absurd (h ▸ Area.head?_endId id side) hid
  | atEnd side' hl hb hcover hid hkind hmove =>
      obtain ⟨rfl, -⟩ := Area.endId_inj (hid.symm.trans h)
      exact hmove

/-- Regions with one id are regions of one move, or of none. -/
theorem moveId_eq_of_id_eq {s : Region} (hr : r ∈ ofOps o g es ops) (hs : s ∈ ofOps o g es ops)
    (h : r.id = s.id) : r.moveId = s.moveId := by
  cases origin hs with
  | atEnd side hl hb hcover hid hkind hmove => rw [moveId_of_endId hr (h.trans hid), hmove]
  | plain hid hkind hmove =>
      cases origin hr with
      | plain hid' hkind' hmove' => rw [hmove, hmove']
      | atEnd side hl hb hcover hid' =>
          rw [← h, hid'] at hid
          exact absurd (Area.head?_endId _ side) hid

theorem moveId_of_ofRegion? {i : Item} (hr : r ∈ ofOps o g es ops)
    (hi : Item.ofRegion? r = some i) : r.moveId = none := by
  cases origin hr with
  | plain hid hkind hmove => exact hmove
  | atEnd side hl hb hcover hid hkind =>
      cases side <;> simp [Item.ofRegion?, hkind, Area.endKind] at hi

end Region

namespace Item

variable {i : SheetInput} {regions : List Region} {item : Item} {id : String}

theorem locator_of_mem_ofLines (h : item ∈ ofLines i.grid i.ops) :
    ∃ line run, item.locator = some (.lines line run) := by
  rcases mem_ofLines.mp h with h | ⟨line, side, h⟩
  · obtain ⟨row, -, rfl⟩ := List.mem_map.mp h
    exact ⟨.row, _, rfl⟩
  · obtain ⟨run, -, rfl⟩ := List.mem_map.mp h
    exact ⟨line, run, rfl⟩

theorem moveId?_of_ofMoveRecord? {m : MoveRecord} (h : ofMoveRecord? m = some item) :
    item.moveId? = some m.id := by
  obtain ⟨line, -, rfl⟩ := Option.map_eq_some_iff.mp h
  rfl

theorem moveId?_of_ofLineBlock? {b : Block} (h : ofLineBlock? b = some item) :
    item.moveId? = some b.id := by
  cases b <;> cases h <;> rfl

theorem moveId?_of_ofRectBlock? {b : Block} (h : ofRectBlock? b = some item) :
    item.moveId? = some b.id := by
  cases b <;> cases h
  rfl

theorem ofLineBlock?_of_ofRectBlock? {b : Block} (h : ofRectBlock? b = none) :
    ∃ item, ofLineBlock? b = some item := by
  cases b with
  | rows => exact ⟨_, rfl⟩
  | cols => exact ⟨_, rfl⟩
  | rect => cases h

theorem moveId?_isSome_of_mem_ofMoves (h : item ∈ ofMoves i.moveRecords i.ops) :
    item.moveId?.isSome := by
  rcases mem_ofMoves.mp h with ⟨m, -, h⟩ | ⟨l, -, b, -, ⟨-, h⟩ | h⟩
  · rw [moveId?_of_ofMoveRecord? h, Option.isSome_some]
  · rw [moveId?_of_ofLineBlock? h, Option.isSome_some]
  · rw [moveId?_of_ofRectBlock? h, Option.isSome_some]

theorem mem_ofMoves_iff (hid : item.moveId? = some id) :
    item ∈ i.items regions ↔ item ∈ ofMoves i.moveRecords i.ops := by
  constructor
  · intro h
    rcases mem_items.mp h with h | h | h | h
    · obtain ⟨line, run, hloc⟩ := locator_of_mem_ofLines h
      simp [moveId?, hloc] at hid
    · exact h
    · obtain ⟨r, -, h⟩ := List.mem_filterMap.mp h
      simp [moveId?, locator_of_ofRegion? h] at hid
    · obtain ⟨l, -, h⟩ := List.mem_filterMap.mp h
      simp [moveId?, locator_of_ofOp? h] at hid
  · exact fun h => mem_items.mpr (.inr (.inl h))

/-- Moves of rectangles are those of operations. -/
theorem exists_rect_of_mem_items {src dst : String} (h : item ∈ i.items regions)
    (hloc : item.locator = some (.rectMove id src dst)) :
    ∃ l ∈ i.ops, ∃ b, l.op.block? = some b ∧ ofRectBlock? b = some item := by
  have hid : item.moveId? = some id := by rw [moveId?, hloc]
  rcases mem_ofMoves.mp ((mem_ofMoves_iff hid).mp h) with ⟨m, -, h⟩ | ⟨l, hl, b, hb, ⟨-, h⟩ | h⟩
  · obtain ⟨line, -, rfl⟩ := Option.map_eq_some_iff.mp h
    cases hloc
  · cases b <;> cases h <;> cases hloc
  · exact ⟨l, hl, b, hb, h⟩

theorem exists_region_of_mem_items (h : item ∈ i.items regions)
    (hloc : item.locator = some (.region id)) :
    ∃ r ∈ regions, ofRegion? r = some item ∧ r.id = id := by
  rcases mem_items.mp h with h | h | h | h
  · obtain ⟨line, run, hloc'⟩ := locator_of_mem_ofLines h
    simp [hloc] at hloc'
  · have hsome := moveId?_isSome_of_mem_ofMoves h
    simp [moveId?, hloc] at hsome
  · obtain ⟨r, hr, h⟩ := List.mem_filterMap.mp h
    have hid := (locator_of_ofRegion? h).symm.trans hloc
    exact ⟨r, hr, h, by simpa using hid⟩
  · obtain ⟨l, -, h⟩ := List.mem_filterMap.mp h
    simp [locator_of_ofOp? h] at hloc

end Item

namespace MoveEnds

variable {items : List Item} {id : String}

@[simp] theorem fst_moveEnds? (item : Item) : item.moveEnds?.map (·.1) = item.moveId? := by
  rw [Item.moveEnds?, Item.moveId?]
  cases item.locator with
  | none => rfl
  | some locator => cases locator <;> rfl

@[simp] theorem mem_table : id ∈ (table items).map (·.1) ↔
    ∃ item ∈ items, item.moveId? = some id := by
  have hkeys : id ∈ (table items).map (·.1) ↔ ∃ e ∈ items.filterMap (·.moveEnds?), e.1 = id := by
    rw [table, ((sortBy_perm _ _).map _).mem_iff, List.mem_map]
    constructor
    · rintro ⟨e, he, rfl⟩
      exact ⟨e, (distinctBy_sublist _ _).mem he, rfl⟩
    · rintro ⟨e, he, rfl⟩
      exact exists_mem_distinctBy (·.1) he
  rw [hkeys]
  simp only [List.mem_filterMap, ← fst_moveEnds?, Option.map_eq_some_iff]
  constructor
  · rintro ⟨e, ⟨item, hitem, he⟩, rfl⟩
    exact ⟨item, hitem, e, he, rfl⟩
  · rintro ⟨item, hitem, e, he, rfl⟩
    exact ⟨e, ⟨item, hitem, he⟩, rfl⟩

end MoveEnds

namespace Stop

variable {o : Options} {i : SheetInput} {item : Item} {s : Stop}

theorem moveId_of_mem_ofItem (hitem : item ∈ (SheetView.ofInput o i).items)
    (hs : s ∈ ofItem i.grid (SheetView.ofInput o i).regions item) : s.moveId = item.moveId? := by
  have hend (side : Side) {id detail : String}
      (hs : s ∈ (ofRegion? (SheetView.ofInput o i).regions (Area.endId id side) detail).toList) :
      s.moveId = some id := by
    obtain ⟨r, hr, rfl⟩ := Option.map_eq_some_iff.mp (Option.mem_toList.mp hs)
    obtain ⟨hr, hid⟩ := Region.mem_of_find? hr
    exact Region.moveId_of_endId hr hid
  rw [ofItem.eq_def] at hs
  rw [Item.moveId?.eq_def]
  split at hs
  · rename_i hloc
    rw [hloc, List.mem_singleton.mp hs]
  · rename_i line run hloc
    rw [hloc, List.mem_singleton.mp hs]
  · rename_i id hloc
    rw [hloc]
    obtain ⟨r, hr, rfl⟩ := Option.map_eq_some_iff.mp (Option.mem_toList.mp hs)
    obtain ⟨r', hr', hitem, hid⟩ := Item.exists_region_of_mem_items hitem hloc
    obtain ⟨hr, hid'⟩ := Region.mem_of_find? hr
    exact (Region.moveId_eq_of_id_eq hr hr' (hid'.trans hid.symm)).trans
      (Region.moveId_of_ofRegion? hr' hitem)
  · rename_i moveId line src dst count hloc
    rw [hloc]
    rcases List.mem_append.mp hs with hs | hs
    · obtain ⟨run, -, rfl⟩ := Option.map_eq_some_iff.mp (Option.mem_toList.mp hs)
      rfl
    · obtain ⟨run, -, rfl⟩ := Option.map_eq_some_iff.mp (Option.mem_toList.mp hs)
      rfl
  · rename_i moveId src dst hloc
    rw [hloc]
    rcases List.mem_append.mp hs with hs | hs
    · exact hend .old hs
    · exact hend .new hs

end Stop

end DiffView
