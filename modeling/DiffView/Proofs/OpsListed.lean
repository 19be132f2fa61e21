import DiffView.Proofs.EditsReached
import DiffView.Proofs.HunksInGrid
import DiffView.Proofs.MovesListed
import DiffView.Proofs.RegionIds
import DiffView.Proofs.SheetsOfView

namespace DiffView

/-! ### Operations -/

namespace Op

def IsWholeSheet (op : Op) : Prop :=
  op.gridChange? = some .sheetAdded ∨ op.gridChange? = some .sheetRemoved

/-- There is something to show of an operation: an edit is placed, and not ignored for being blank,
and a rectangle has cells. -/
def Shows (o : Options) (i : SheetInput) (op : Op) : Prop :=
  match op.gridChange? with
  | some (.cellEdited ..) => (Edits.ofOp? i.report i.grid o.ignoreBlankToBlank op).isSome
  | some (.rectReplaced _ rows _ cols) => 0 < rows ∧ 0 < cols
  | _ => True

/-- Renamed sheets, rows that share a key and what is not known have items of their own. -/
inductive ListedAlone : Op → Prop
  | sheetRenamed {sheet source : Ref} {target : Option Ref} :
      ListedAlone (.known (.grid sheet (.sheetRenamed source target)))
  | duplicateKeys {sheet : Ref} {key : List Json.Value} {oldRows newRows : List Nat} :
      ListedAlone (.known (.grid sheet (.duplicateKeys key oldRows newRows)))
  | unknown (u : UnknownOp) : ListedAlone (.unknown u)

theorem listedAlone_iff {op : Op} (hsheet : op.sheet?.isSome) (r : Report) :
    op.ListedAlone ↔ (Item.plainText? r op).isSome := by
  constructor
  · rintro (_ | _ | _) <;> rfl
  · intro h
    cases op with
    | unknown u => exact .unknown u
    | known c =>
        cases c with
        | grid sheet c =>
            cases c with
            | sheetRenamed => exact .sheetRenamed
            | duplicateKeys => exact .duplicateKeys
            | _ => cases h
        -- These belong to the workbook.
        | object | query | model => cases hsheet

end Op

namespace Item

def rowId (row : Nat) : String := s!"row-replaced-{row}"

def aloneId (l : Listed) : String := s!"other-{l.op.kindName}-{l.index}"

/-- How an item stands for an operation. -/
inductive StandsFor (o : Options) (i : SheetInput) (item : Item) (l : Listed) : Prop
  | line {line : Line} {side : Side} {n : Nat} {run : Span}
      (hop : changedLine? line side l.op = some n) (hlocator : item.locator = some (.lines line run))
      (htype : item.changeType = side.changeType)
      (hfirst : run.first ≤ (i.grid.axis line).viewOrSame side n)
      (hlast : (i.grid.axis line).viewOrSame side n ≤ run.last)
  | replaced {row : Nat} (hop : l.op.gridChange? = some (.rowReplaced row))
      (hid : item.id = rowId row)
  | edit {p : Place} {e : Edit} {r : Region}
      (hop : Edits.ofOp? i.report i.grid o.ignoreBlankToBlank l.op = some (p, e))
      (hr : r ∈ (SheetView.ofInput o i).regions) (hkind : r.kind = .cells) (hp : p ∈ r.box)
      (hid : item.id = "cell-region-" ++ r.id) (hlocator : item.locator = some (.region r.id))
  | rect {row rows col cols : Nat} (hop : l.op.gridChange? = some (.rectReplaced row rows col cols))
      (hcells : 0 < rows ∧ 0 < cols) (hid : item.id = "rect-region-" ++ Area.rectId row col)
      (hlocator : item.locator = some (.region (Area.rectId row col)))
  | moved {b : Block} (hop : l.op.block? = some b) (hid : item.moveId? = some b.id)
  | alone (hop : l.op.ListedAlone) (hid : item.id = aloneId l)

variable {o : Options} {i : SheetInput} {item : Item} {l : Listed}

/-! ### Lines -/

theorem replacedRow?_eq_some_iff {op : Op} {row : Nat} :
    replacedRow? op = some row ↔ op.gridChange? = some (.rowReplaced row) := by
  rw [replacedRow?]
  split <;> simp_all

theorem exists_item_of_replaced (hl : l ∈ i.ops) {row : Nat}
    (hop : l.op.gridChange? = some (.rowReplaced row)) :
    ∃ item ∈ (SheetView.ofInput o i).items, item.StandsFor o i l := by
  have hitem : ofReplacedRow i.grid.rows row ∈ replacedRows i.grid i.ops :=
    mem_replacedRows.mpr ⟨l, hl, row, replacedRow?_eq_some_iff.mpr hop, rfl⟩
  exact ⟨_, mem_items.mpr (.inl (mem_ofLines.mpr (.inl hitem))), .replaced hop rfl⟩

theorem exists_item_of_line (hl : l ∈ i.ops) {line : Line} {side : Side} {n : Nat}
    (hop : changedLine? line side l.op = some n) :
    ∃ item ∈ (SheetView.ofInput o i).items, item.StandsFor o i l := by
  have hview : (i.grid.axis line).viewOrSame side n ∈ changedViews i.grid i.ops line side :=
    mem_changedViews.mpr ⟨l, hl, n, hop, rfl⟩
  -- The runs lose no index of the list that they are made from.
  obtain ⟨run, hrun, hfirst, hlast⟩ := Span.mem_iff_exists_run.mp hview
  have hitem := mem_changedLines.mpr ⟨run, hrun, rfl⟩
  exact ⟨_, mem_items.mpr (.inl (mem_ofLines.mpr (.inr ⟨line, side, hitem⟩))),
    .line hop rfl rfl hfirst hlast⟩

theorem exists_op_of_mem_ofLines (h : item ∈ ofLines i.grid i.ops) :
    ∃ l ∈ i.ops, item.StandsFor o i l := by
  rcases mem_ofLines.mp h with h | ⟨line, side, h⟩
  · obtain ⟨l, hl, row, hrow, rfl⟩ := mem_replacedRows.mp h
    exact ⟨l, hl, .replaced (replacedRow?_eq_some_iff.mp hrow) rfl⟩
  · obtain ⟨run, hrun, rfl⟩ := mem_changedLines.mp h
    obtain ⟨l, hl, n, hn, hview⟩ := mem_changedViews.mp (Span.first_mem_of_mem_runs hrun)
    have hlast : (i.grid.axis line).viewOrSame side n ≤ run.last :=
      hview ▸ Span.first_le_last_of_mem_runs hrun
    exact ⟨l, hl, .line hn rfl rfl hview.ge hlast⟩

/-! ### Moves -/

theorem exists_item_of_block (hmoves : i.moveRecords = []) (hl : l ∈ i.ops) {b : Block}
    (hop : l.op.block? = some b) :
    ∃ item ∈ (SheetView.ofInput o i).items, item.StandsFor o i l := by
  have hlists : i.Lists b.id := .block hl hop (.inl hmoves) rfl
  obtain ⟨item, hitem, hid⟩ := SheetInput.lists_iff_exists_mem_ofMoves.mp hlists
  exact ⟨item, mem_items.mpr (.inr (.inl hitem)), .moved hop hid⟩

theorem exists_op_of_mem_ofMoves (hmoves : i.moveRecords = [])
    (h : item ∈ ofMoves i.moveRecords i.ops) : ∃ l ∈ i.ops, item.StandsFor o i l := by
  rcases mem_ofMoves.mp h with ⟨m, hm, -⟩ | ⟨l, hl, b, hb, ⟨-, h⟩ | h⟩
  · rw [hmoves] at hm
    cases hm
  · exact ⟨l, hl, .moved hb (moveId?_of_ofLineBlock? h)⟩
  · exact ⟨l, hl, .moved hb (moveId?_of_ofRectBlock? h)⟩

/-! ### Regions -/

theorem mem_items_of_region {r : Region} (hr : r ∈ (SheetView.ofInput o i).regions)
    (h : ofRegion? r = some item) : item ∈ (SheetView.ofInput o i).items :=
  mem_items.mpr (.inr (.inr (.inl (List.mem_filterMap.mpr ⟨r, hr, h⟩))))

theorem kind_of_ofRegion? {r : Region} (h : ofRegion? r = some item) :
    r.kind = .cells ∧ item.id = "cell-region-" ++ r.id ∨
      r.kind = .rect ∧ item.id = "rect-region-" ++ r.id := by
  rw [ofRegion?.eq_def] at h
  split at h
  · rename_i hkind
    cases h
    exact .inl ⟨hkind, rfl⟩
  · rename_i hkind
    cases h
    exact .inr ⟨hkind, rfl⟩
  · cases h

theorem exists_item_of_edit (hl : l ∈ i.ops) {p : Place} {e : Edit}
    (hop : Edits.ofOp? i.report i.grid o.ignoreBlankToBlank l.op = some (p, e)) :
    ∃ item ∈ (SheetView.ofInput o i).items, item.StandsFor o i l := by
  have hp : p ∈ (SheetView.ofInput o i).edits.places :=
    Edits.mem_places_ofOps.mpr ⟨l, hl, e, hop⟩
  obtain ⟨r, hr, hkind, hbox⟩ := SheetView.exists_cellRegion o i hp
  obtain ⟨item, hitem, hlocator⟩ := exists_ofRegion? hkind
  have hid : item.id = "cell-region-" ++ r.id := by
    simpa [hkind] using kind_of_ofRegion? hitem
  exact ⟨item, mem_items_of_region hr hitem, .edit hop hr hkind hbox hid hlocator⟩

theorem exists_item_of_rect (hl : l ∈ i.ops) {row rows col cols : Nat}
    (hop : l.op.gridChange? = some (.rectReplaced row rows col cols))
    (hcells : 0 < rows ∧ 0 < cols) :
    ∃ item ∈ (SheetView.ofInput o i).items, item.StandsFor o i l := by
  obtain ⟨a, ha, hkind, hid⟩ := Area.exists_rect (g := i.grid) hop hcells
  let r := Region.ofArea o i.grid a
  have hr : r ∈ (SheetView.ofInput o i).regions := Region.mem_ofOps.mpr ⟨a, .inr ⟨l, hl, ha⟩, rfl⟩
  have hrect : r.kind = .rect := hkind
  have hitem : ∃ item, ofRegion? r = some item ∧ item.id = "rect-region-" ++ r.id := by
    rw [ofRegion?, hrect]
    exact ⟨_, rfl, rfl⟩
  obtain ⟨item, hitem, hitemId⟩ := hitem
  have hlocator : item.locator = some (.region r.id) := locator_of_ofRegion? hitem
  have hrid : r.id = Area.rectId row col := hid
  rw [hrid] at hitemId hlocator
  exact ⟨item, mem_items_of_region hr hitem, .rect hop hcells hitemId hlocator⟩

theorem exists_op_of_mem_regions {r : Region} (hr : r ∈ (SheetView.ofInput o i).regions)
    (h : ofRegion? r = some item) : ∃ l ∈ i.ops, item.StandsFor o i l := by
  have hlocator : item.locator = some (.region r.id) := locator_of_ofRegion? h
  obtain ⟨hkind, hid⟩ | ⟨hkind, hid⟩ := kind_of_ofRegion? h
  · obtain ⟨a, ha, rfl⟩ := Region.exists_cluster hr hkind
    obtain ⟨part, hbounds, hpart⟩ := Area.exists_bounds_of_mem_clusters ha
    -- The first row of a cluster has an edit.
    obtain ⟨p, hp, -⟩ := hbounds.exists_on .row
    obtain ⟨l, hl, e, hop⟩ := Edits.mem_places_ofOps.mp (hpart p hp)
    exact ⟨l, hl, .edit hop hr hkind (hbounds.mem hp) hid hlocator⟩
  · obtain ⟨a, ha | ⟨l, hl, ha⟩, rfl⟩ := Region.mem_ofOps.mp hr
    · have hcells : a.kind = .cells := Area.kind_of_mem_clusters ha
      cases hkind.symm.trans hcells
    · rcases Area.rect_or_atEnd_of_mem_ofOp ha with
        ⟨row, rows, col, cols, hop, hcells, harea⟩ | ⟨b, side, -, -, hend, -⟩
      · have hrid : (Region.ofArea o i.grid a).id = Area.rectId row col := harea
        rw [hrid] at hid hlocator
        exact ⟨l, hl, .rect hop hcells hid hlocator⟩
      · have hkind : a.kind = .rect := hkind
        rw [hend] at hkind
        cases side <;> cases hkind

/-! ### Operations that are listed by themselves -/

theorem id_of_ofOp? {r : Report} (h : ofOp? r l = some item) : item.id = aloneId l := by
  obtain ⟨text, -, rfl⟩ := Option.map_eq_some_iff.mp h
  rfl

theorem exists_ofOp? (hsheet : l.op.sheet?.isSome) (r : Report) (hop : l.op.ListedAlone) :
    ∃ item, ofOp? r l = some item := by
  rw [← Option.isSome_iff_exists, ofOp?, Option.isSome_map]
  exact (Op.listedAlone_iff hsheet r).mp hop

theorem exists_item_of_alone (hl : l ∈ i.ops) (hsheet : l.op.sheet?.isSome)
    (hop : l.op.ListedAlone) :
    ∃ item ∈ (SheetView.ofInput o i).items, item.StandsFor o i l := by
  obtain ⟨item, hitem⟩ := exists_ofOp? hsheet i.report hop
  have hmem : item ∈ i.ops.filterMap (ofOp? i.report) := List.mem_filterMap.mpr ⟨l, hl, hitem⟩
  exact ⟨item, mem_items.mpr (.inr (.inr (.inr hmem))), .alone hop (id_of_ofOp? hitem)⟩

theorem exists_op_of_mem_alone (hsheet : ∀ l ∈ i.ops, l.op.sheet?.isSome)
    (h : item ∈ i.ops.filterMap (ofOp? i.report)) : ∃ l ∈ i.ops, item.StandsFor o i l := by
  obtain ⟨l, hl, h⟩ := List.mem_filterMap.mp h
  have htext : (plainText? i.report l.op).isSome := by
    rw [← Option.isSome_map, ← ofOp?, h]
    rfl
  have halone := (Op.listedAlone_iff (hsheet l hl) i.report).mpr htext
  exact ⟨l, hl, .alone halone (id_of_ofOp? h)⟩

/-- The number after the last hyphen is the index, whatever the kind is. -/
theorem aloneId_inj {l m : Listed} (h : aloneId l = aloneId m) :
    l.op.kindName = m.op.kindName ∧ l.index = m.index := by
  simpa [aloneId, toString, String.toList_inj] using
    congrArg String.toList h

theorem alone_ids_nodup (horder : Listed.InOrder i.ops) :
    ((i.ops.filterMap (ofOp? i.report)).map (·.id)).Nodup := by
  refine List.pairwise_map.mpr (List.Pairwise.filterMap _ ?_ horder)
  intro l m hlt item hitem item' hitem' heq
  rw [id_of_ofOp? hitem, id_of_ofOp? hitem'] at heq
  exact absurd (aloneId_inj heq).2 (Nat.ne_of_lt hlt)

theorem head?_id_ne {regions : List Region} (h : item ∈ ofLines i.grid i.ops ++
    ofMoves i.moveRecords i.ops ++ regions.filterMap ofRegion?) :
    item.id.toList.head? ≠ some 'o' := by
  simp only [List.mem_append] at h
  rcases h with (h | h) | h
  · rcases mem_ofLines.mp h with h | ⟨line, side, h⟩
    · obtain ⟨row, -, rfl⟩ := List.mem_map.mp h
      simp [ofReplacedRow, toString]
    · obtain ⟨run, -, rfl⟩ := List.mem_map.mp h
      cases line <;> simp [ofRun, toString, Line.word]
  · rcases mem_ofMoves.mp h with ⟨m, -, h⟩ | ⟨l, -, b, -, ⟨-, h⟩ | h⟩
    · obtain ⟨line, -, rfl⟩ := Option.map_eq_some_iff.mp h
      simp [lineMove]
    · cases b <;> cases h <;> simp [lineMove, toString]
    · cases b <;> cases h
      simp [toString]
  · obtain ⟨r, -, h⟩ := List.mem_filterMap.mp h
    obtain ⟨-, hid⟩ | ⟨-, hid⟩ := kind_of_ofRegion? h <;> simp [hid]

theorem count_aloneId {regions : List Region} (horder : Listed.InOrder i.ops) (hl : l ∈ i.ops)
    (hsheet : l.op.sheet?.isSome) (hop : l.op.ListedAlone) :
    ((i.items regions).map (·.id)).count (aloneId l) = 1 := by
  rw [SheetInput.items, List.map_append, List.count_append]
  have hothers : ((ofLines i.grid i.ops ++ ofMoves i.moveRecords i.ops ++
      regions.filterMap ofRegion?).map (·.id)).count (aloneId l) = 0 := by
    refine List.count_eq_zero.mpr fun hmem => ?_
    obtain ⟨item, hitem, hid⟩ := List.mem_map.mp hmem
    exact head?_id_ne hitem (by simp [hid, aloneId, toString])
  have hmem : aloneId l ∈ (i.ops.filterMap (ofOp? i.report)).map (·.id) := by
    obtain ⟨item, hitem⟩ := exists_ofOp? hsheet i.report hop
    exact List.mem_map.mpr ⟨item, List.mem_filterMap.mpr ⟨l, hl, hitem⟩, id_of_ofOp? hitem⟩
  rw [hothers, List.count_eq_one_of_mem (alone_ids_nodup horder) hmem]

/-! ### All operations -/

theorem StandsFor.shows (h : item.StandsFor o i l) : ¬l.op.IsWholeSheet ∧ l.op.Shows o i := by
  obtain ⟨index, op⟩ := l
  rw [Op.IsWholeSheet, Op.Shows.eq_def]
  cases h with
  | line hop =>
      rw [changedLine?] at hop
      split at hop
      · rename_i hop'
        simp [hop']
      · rename_i hop'
        simp [hop']
      · cases hop
  | replaced hop => simp [hop]
  | edit hop =>
      obtain ⟨addr, before, after, formula, hchange, -⟩ := Edits.ofOp?_eq_some_iff.mp hop
      simp [hchange, hop]
  | rect hop hcells => simpa [hop] using hcells
  | moved hop =>
      obtain ⟨sheet, hash, rfl⟩ := Op.block?_eq_some_iff.mp hop
      simp [Op.gridChange?]
  | alone hop => cases hop <;> simp [Op.gridChange?]

theorem exists_item_of_op (hmoves : i.moveRecords = []) (hl : l ∈ i.ops)
    (hsheet : l.op.sheet?.isSome) (hwhole : ¬l.op.IsWholeSheet) (hshows : l.op.Shows o i) :
    ∃ item ∈ (SheetView.ofInput o i).items, item.StandsFor o i l := by
  obtain ⟨index, op⟩ := l
  cases op with
  | unknown u => exact exists_item_of_alone hl hsheet (.unknown u)
  | known c =>
      cases c with
      | object | query | model => cases hsheet
      | grid sheet c =>
          cases c with
          | sheetAdded => exact absurd (.inl rfl) hwhole
          | sheetRemoved => exact absurd (.inr rfl) hwhole
          | sheetRenamed source target => exact exists_item_of_alone hl hsheet .sheetRenamed
          | duplicateKeys key oldRows newRows => exact exists_item_of_alone hl hsheet .duplicateKeys
          | lineAdded line n => exact exists_item_of_line hl (if_pos ⟨rfl, rfl⟩)
          | lineRemoved line n => exact exists_item_of_line hl (if_pos ⟨rfl, rfl⟩)
          | rowReplaced row => exact exists_item_of_replaced hl rfl
          | moved block hash => exact exists_item_of_block hmoves hl rfl
          | rectReplaced row rows col cols => exact exists_item_of_rect hl rfl hshows
          | cellEdited addr before after formula =>
              obtain ⟨⟨p, e⟩, hop⟩ := Option.isSome_iff_exists.mp hshows
              exact exists_item_of_edit hl hop

theorem exists_op_of_item (hmoves : i.moveRecords = []) (hsheet : ∀ l ∈ i.ops, l.op.sheet?.isSome)
    (h : item ∈ (SheetView.ofInput o i).items) : ∃ l ∈ i.ops, item.StandsFor o i l := by
  rcases mem_items.mp h with h | h | h | h
  · exact exists_op_of_mem_ofLines h
  · exact exists_op_of_mem_ofMoves hmoves h
  · obtain ⟨r, hr, h⟩ := List.mem_filterMap.mp h
    exact exists_op_of_mem_regions hr h
  · exact exists_op_of_mem_alone hsheet h

end Item

theorem Payload.sheet?_of_mem_sheetOps {p : Payload} {f : Filters} {name : String} {l : Listed}
    (hl : l ∈ p.sheetOps f name) : l.op.sheet?.isSome := by
  have hname : l.op.sheet?.map p.report.resolve = some name := (mem_sheetOps.mp hl).2
  rw [← Option.isSome_map, hname]
  rfl

/-- Where the alignment names no moves, the items of a sheet stand for its operations: each item for
one of them, and each operation has an item, unless it adds or removes the whole sheet or there is
nothing to show of it. No two items have the id of one that is listed by itself. -/
theorem ops_listed (p : Payload) (o : Options) (name : String)
    (hmoves : (p.sheetInput o.filters name).moveRecords = []) :
    let i := p.sheetInput o.filters name
    let v := SheetView.ofInput o i
    (∀ l ∈ i.ops, (∃ item ∈ v.items, item.StandsFor o i l) ↔
      ¬l.op.IsWholeSheet ∧ l.op.Shows o i) ∧
    (∀ l ∈ i.ops, l.op.ListedAlone → (v.items.map (·.id)).count (Item.aloneId l) = 1) ∧
    ∀ item ∈ v.items, ∃ l ∈ i.ops, item.StandsFor o i l := by
  intro i v
  have hsheet : ∀ l ∈ i.ops, l.op.sheet?.isSome := fun l hl => Payload.sheet?_of_mem_sheetOps hl
  refine ⟨fun l hl => ⟨?_, ?_⟩, fun l hl => ?_, fun item hitem => ?_⟩
  · rintro ⟨item, -, hstands⟩
    exact hstands.shows
  · rintro ⟨hwhole, hshows⟩
    exact Item.exists_item_of_op hmoves hl (hsheet l hl) hwhole hshows
  · exact Item.count_aloneId (p.sheetOps_inOrder o.filters name) hl (hsheet l hl)
  · exact Item.exists_op_of_item hmoves hsheet hitem

def renamedGrown : Payload where
  report := ⟨none, [], [.known (.grid (.text "S") (.lineAdded .row 1)),
    .known (.grid (.text "S") (.sheetRenamed (.text "R") none))], true, []⟩
  old := [⟨"R", 1, 1, [], false, none, none, none⟩]
  new := [⟨"S", 2, 1, [], false, none, none, none⟩]
  alignments := [⟨"S", [⟨some 0, some 0, .same, none⟩, ⟨none, some 1, .inserted, none⟩],
    [⟨some 0, some 0, .same, none⟩], [], false, none⟩]
  interests := []

theorem ops_listed_of_renamedGrown :
    let i := renamedGrown.sheetInput Options.default.filters "S"
    let v := SheetView.ofInput .default i
    i.moveRecords = [] ∧
      (∃ item ∈ v.items, item.StandsFor .default i
        ⟨0, .known (.grid (.text "S") (.lineAdded .row 1))⟩) ∧
      (v.items.map (·.id)).count
        (Item.aloneId ⟨1, .known (.grid (.text "S") (.sheetRenamed (.text "R") none))⟩) = 1 := by
  intro i v
  have hmoves : i.moveRecords = [] := rfl
  obtain ⟨hlisted, hcount, -⟩ := ops_listed renamedGrown .default "S" hmoves
  refine ⟨hmoves, ?_, ?_⟩
  · exact (hlisted _ List.mem_cons_self).mpr ⟨by simp [Op.IsWholeSheet, Op.gridChange?], trivial⟩
  · exact hcount _ (List.mem_cons_of_mem _ List.mem_cons_self) .sheetRenamed

/-- A new sheet is in no item. -/
theorem not_ops_listed :
    ((SheetView.ofPayload? (oneCell .sheetAdded) .default "S").map fun v =>
      (v.opCount, v.items)) = some (1, []) ∧
    ¬∀ (p : Payload) (o : Options) (name : String) (v : SheetView),
      SheetView.ofPayload? p o name = some v →
      (p.sheetInput o.filters name).moveRecords = [] →
      ∀ l ∈ p.sheetOps o.filters name, l.op.Shows o (p.sheetInput o.filters name) →
        ∃ item ∈ v.items, item.StandsFor o (p.sheetInput o.filters name) l := by
  refine ⟨rfl, ?_⟩
  intro h
  obtain ⟨item, hitem, -⟩ := h (oneCell .sheetAdded) .default "S" _ rfl rfl
    ⟨0, .known (.grid (.text "S") .sheetAdded)⟩ List.mem_cons_self trivial
  exact List.not_mem_nil hitem

end DiffView
