import DiffView.Proofs.Moves
import DiffView.Proofs.Requests
import DiffView.Workbook.Routing

namespace DiffView

namespace SheetView

def moveIds (v : SheetView) : List String := v.moves.map (·.1)

inductive Mentions (v : SheetView) (id : String) : Prop
  | region {r : Region} (hr : r ∈ v.regions) (h : r.moveId = some id)
  | hunk {k : Hunk} (hk : k ∈ v.hunks) (h : k.moveId = some id)
  | anchor {a : Anchor} (ha : a ∈ v.anchors) {place : Place} {regionId : Option String}
      (h : a.target = .grid place regionId (some id))
  | cell (p : Place) (h : (v.cellAt p).moveId = some id)

end SheetView

namespace SheetInput

variable {o : Options} {i : SheetInput} {id : String}

inductive Names (i : SheetInput) (id : String) : Prop
  | block {l : Listed} {b : Block} (hl : l ∈ i.ops) (hb : l.op.block? = some b) (h : b.id = id)
  | slot {line : Line} {s : Slot} (hs : s ∈ i.slots line) (h : s.moveId = some id)
  | interest {rects : List Interest} (hrects : i.interests = some rects) {r : Interest}
      (hr : r ∈ rects) (h : r.moveId = some id)

/-- A move is that of a record, or of a block. Records stand in for all blocks but rectangles. -/
inductive Lists (i : SheetInput) (id : String) : Prop
  | record {m : MoveRecord} {line : Line} (hm : m ∈ i.moveRecords)
      (hline : Line.ofWord? m.axis = some line) (h : m.id = id)
  | block {l : Listed} {b : Block} (hl : l ∈ i.ops) (hb : l.op.block? = some b)
      (hfree : i.moveRecords = [] ∨ (Item.ofRectBlock? b).isSome) (h : b.id = id)

theorem lists_iff_exists_mem_ofMoves :
    i.Lists id ↔ ∃ item ∈ Item.ofMoves i.moveRecords i.ops, item.moveId? = some id := by
  simp only [Item.mem_ofMoves]
  constructor
  · rintro (⟨hm, hline, rfl⟩ | ⟨hl, hb, hfree, rfl⟩)
    · have hitem : Item.ofMoveRecord? _ = some _ := congrArg (Option.map _) hline
      exact ⟨_, .inl ⟨_, hm, hitem⟩, Item.moveId?_of_ofMoveRecord? hitem⟩
    · rename_i l b
      cases hrect : Item.ofRectBlock? b with
      | some item =>
          exact ⟨item, .inr ⟨l, hl, b, hb, .inr hrect⟩, Item.moveId?_of_ofRectBlock? hrect⟩
      | none =>
          have hnone : i.moveRecords = [] := hfree.resolve_right (by simp [hrect])
          obtain ⟨item, hitem⟩ := Item.ofLineBlock?_of_ofRectBlock? hrect
          exact ⟨item, .inr ⟨l, hl, b, hb, .inl ⟨hnone, hitem⟩⟩, Item.moveId?_of_ofLineBlock? hitem⟩
  · rintro ⟨item, ⟨m, hm, h⟩ | ⟨l, hl, b, hb, h⟩, hid⟩
    · obtain ⟨line, hline, -⟩ := Option.map_eq_some_iff.mp h
      rw [Item.moveId?_of_ofMoveRecord? h, Option.some_inj] at hid
      exact .record hm hline hid
    · have hblock : item.moveId? = some b.id :=
        h.elim (fun h => Item.moveId?_of_ofLineBlock? h.2) Item.moveId?_of_ofRectBlock?
      rw [hblock, Option.some_inj] at hid
      exact .block hl hb (h.imp (fun h => h.1) fun h => by rw [h]; rfl) hid

@[simp] theorem mem_moveIds : id ∈ (SheetView.ofInput o i).moveIds ↔ i.Lists id := by
  have htable : id ∈ (SheetView.ofInput o i).moveIds ↔
      ∃ item ∈ (SheetView.ofInput o i).items, item.moveId? = some id := MoveEnds.mem_table
  rw [htable, lists_iff_exists_mem_ofMoves]
  constructor
  · rintro ⟨item, hitem, hid⟩
    exact ⟨item, (Item.mem_ofMoves_iff hid).mp hitem, hid⟩
  · rintro ⟨item, hitem, hid⟩
    exact ⟨item, (Item.mem_ofMoves_iff hid).mpr hitem, hid⟩

end SheetInput

namespace SheetInput

variable {o : Options} {i : SheetInput} {id : String}

theorem names_of_region {r : Region} (hr : r ∈ (SheetView.ofInput o i).regions)
    (h : r.moveId = some id) : i.Names id := by
  cases Region.origin hr with
  | plain hid hkind hmove => cases h.symm.trans hmove
  | atEnd side hl hb hcover hid hkind hmove =>
      exact .block hl hb (Option.some_inj.mp (hmove.symm.trans h))

theorem names_of_interest {r : Interest} (hr : r ∈ i.shownInterests o) (h : r.moveId = some id) :
    i.Names id := by
  rw [shownInterests] at hr
  cases hrects : i.interests with
  | some rects =>
      rw [hrects] at hr
      exact .interest hrects hr h
  | none =>
      rw [hrects] at hr
      obtain ⟨e, he, n, rfl⟩ := Interest.exists_extent_of_mem_ofOps hr
      obtain ⟨l, hl, c, hc, kind, p, moveId, htouches, he⟩ := Extent.mem_ofOps.mp he
      obtain ⟨-, -, -, -, hmoveId⟩ := Extent.ofRequest?_eq_some_iff.mp he
      obtain rfl : moveId = some id := hmoveId.symm.trans h
      obtain ⟨b, hash, rfl, hid⟩ := htouches.block
      exact .block hl (by rw [Op.block?, hc]) hid

theorem names_of_hunk {k : Hunk} (hk : k ∈ (SheetView.ofInput o i).hunks)
    (h : k.moveId = some id) : i.Names id := by
  have hhunks : k ∈ i.hunks o (SheetView.ofInput o i).status (SheetView.ofInput o i).regions := hk
  rw [hunks] at hhunks
  split at hhunks
  · obtain ⟨r, hr, hk⟩ := List.mem_filterMap.mp hhunks
    obtain ⟨box, -, rfl⟩ := Option.map_eq_some_iff.mp hk
    exact names_of_region hr h
  · obtain ⟨r, hr, hk⟩ := List.mem_filterMap.mp hhunks
    obtain ⟨box, -, rfl⟩ := Option.map_eq_some_iff.mp hk
    exact names_of_interest hr h

theorem names_of_cell {p : Place} (h : ((SheetView.ofInput o i).cellAt p).moveId = some id) :
    i.Names id := by
  rw [Sheet.cellAt] at h
  split at h
  · rename_i row col hrow hcol
    have hrow : row ∈ i.slots .row := List.mem_of_getElem? hrow
    have hcol : col ∈ i.slots .col := List.mem_of_getElem? hcol
    rcases Option.or_eq_some_iff.mp h with h | ⟨-, h⟩
    · exact .slot hrow h
    · exact .slot hcol h
  · cases h

theorem lists_of_anchor {a : Anchor} (ha : a ∈ (SheetView.ofInput o i).anchors) {place : Place}
    {regionId : Option String} (h : a.target = .grid place regionId (some id)) : i.Lists id := by
  rw [SheetView.anchors_ofInput] at ha
  obtain ⟨item, hitem, s, hs, rfl⟩ := Anchor.exists_mem_ofItem ha
  obtain ⟨hgrid, hplace⟩ := Candidate.place_of_target h
  rw [Candidate.target_ofStop hgrid hplace, Target.grid.injEq] at h
  have hid := h.2.2
  rw [Stop.moveId_of_mem_ofItem hitem hs] at hid
  exact lists_iff_exists_mem_ofMoves.mpr ⟨item, (Item.mem_ofMoves_iff hid).mp hitem, hid⟩

end SheetInput

/-- The table of moves has those of the records and of the blocks for which no record stands in, and
no others. Anchors in the grid refer to moves in the table. If any other part of the view refers to
a move that is not in the table, it does so because a block, a slot or a given interest has its
id. -/
theorem moves_listed (o : Options) (i : SheetInput) :
    (∀ id, id ∈ (SheetView.ofInput o i).moveIds ↔ i.Lists id) ∧
    (∀ a ∈ (SheetView.ofInput o i).anchors, ∀ place regionId id,
      a.target = .grid place regionId (some id) → id ∈ (SheetView.ofInput o i).moveIds) ∧
    ∀ id, (SheetView.ofInput o i).Mentions id →
      id ∈ (SheetView.ofInput o i).moveIds ∨ i.Names id := by
  have hanchor {a : Anchor} (ha : a ∈ (SheetView.ofInput o i).anchors) {place : Place}
      {regionId : Option String} {id : String} (h : a.target = .grid place regionId (some id)) :
      id ∈ (SheetView.ofInput o i).moveIds :=
    SheetInput.mem_moveIds.mpr (SheetInput.lists_of_anchor ha h)
  refine ⟨fun id => SheetInput.mem_moveIds, fun a ha place regionId id h => hanchor ha h, ?_⟩
  intro id hid
  cases hid with
  | region hr h => exact .inr (SheetInput.names_of_region hr h)
  | hunk hk h => exact .inr (SheetInput.names_of_hunk hk h)
  | anchor ha h => exact .inl (hanchor ha h)
  | cell p h => exact .inr (SheetInput.names_of_cell h)

def movedRow : Payload where
  report := ⟨none, [], [.known (.grid (.text "S") (.moved (.rows 0 1 1) none))], true, []⟩
  old := [⟨"S", 2, 1, [⟨0, 0, some "a", none⟩, ⟨1, 0, some "b", none⟩], false, none, none, none⟩]
  new := [⟨"S", 2, 1, [⟨0, 0, some "b", none⟩, ⟨1, 0, some "a", none⟩], false, none, none, none⟩]
  alignments := [⟨"S", [⟨some 0, none, .moveSource, some "m1"⟩, ⟨some 1, some 0, .same, none⟩,
    ⟨none, some 1, .moveTarget, some "m1"⟩], [⟨some 0, some 0, .same, none⟩],
    [⟨"m1", "row", 0, 1, 1⟩], false, none⟩]
  interests := []

/-- The cells of a moved row refer to the record of the move, its regions to the operation. -/
theorem not_moves_listed :
    ((SheetView.ofPayload? movedRow .default "S").map fun v =>
      (v.moveIds, (v.cellAt ⟨0, 0⟩).moveId, v.regions.map fun r => r.moveId)) =
        some (["m1"], some "m1", [some "r:0+1->1", some "r:0+1->1"]) ∧
    ¬∀ (p : Payload) (o : Options) (name : String) (v : SheetView),
      SheetView.ofPayload? p o name = some v → ∀ id, v.Mentions id → id ∈ v.moveIds := by
  refine ⟨rfl, ?_⟩
  intro h
  have hlisted := h movedRow .default "S" _ rfl "r:0+1->1" (.region List.mem_cons_self rfl)
  exact absurd hlisted (by decide)

end DiffView
