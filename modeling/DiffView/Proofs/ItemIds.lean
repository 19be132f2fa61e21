import DiffView.Proofs.Addresses
import DiffView.Proofs.OpsListed

namespace DiffView

/-! ### Sources of items -/

namespace Item

/-- Where the items of a sheet come from. -/
inductive Source
  | replaced
  | lines (line : Line) (side : Side)
  | moves
  | cells
  | rects
  | alone
  deriving DecidableEq

namespace Source

def all : List Source :=
  [.replaced, .lines .row .new, .lines .row .old, .lines .col .new, .lines .col .old, .moves,
    .cells, .rects, .alone]

@[simp] theorem mem_all (s : Source) : s ∈ all := by
  cases s with
  | lines line side => cases line <;> cases side <;> decide
  | _ => decide

def stem : Source → String
  | replaced => "row-replaced-"
  | lines line side => s!"{line.word}-{side.changeType.word}-"
  | moves => "move-"
  | cells => "cell-region-"
  | rects => "rect-region-"
  | alone => "other-"

theorem eq_of_begins {s t : Source} (h : s.stem.toList <+: t.stem.toList) : s = t := by
  have hall : ∀ s ∈ all, ∀ t ∈ all, s.stem.toList <+: t.stem.toList → s = t := by decide
  exact hall s (mem_all s) t (mem_all t) h

theorem eq_of_both_begin {s t : Source} {chars : List Char} (hs : s.stem.toList <+: chars)
    (ht : t.stem.toList <+: chars) : s = t := by
  rcases List.prefix_or_prefix_of_prefix hs ht with h | h
  · exact eq_of_begins h
  · exact (eq_of_begins h).symm

def items (i : SheetInput) (regions : List Region) : Source → List Item
  | replaced => replacedRows i.grid i.ops
  | lines line side => changedLines i.grid line side i.ops
  | moves => ofMoves i.moveRecords i.ops
  | cells => (regions.filter fun r => r.kind = .cells).filterMap ofRegion?
  | rects => (regions.filter fun r => r.kind = .rect).filterMap ofRegion?
  | alone => i.ops.filterMap (ofOp? i.report)

variable {i : SheetInput} {regions : List Region} {item : Item}

theorem regionItems_perm (i : SheetInput) (regions : List Region) :
    (regions.filterMap ofRegion?).Perm (cells.items i regions ++ rects.items i regions) := by
  have hsplit := List.filter_append_perm (fun r : Region => decide (r.kind = .cells)) regions
  -- Moves have no items among those of regions.
  have hrects : (regions.filter fun r => !decide (r.kind = .cells)).filterMap ofRegion? =
      rects.items i regions := by
    rw [items, List.filterMap_filter, List.filterMap_filter]
    apply List.filterMap_congr
    intro r _
    rw [ofRegion?.eq_def]
    cases r.kind <;> rfl
  rw [← hrects, items, ← List.filterMap_append]
  exact (hsplit.filterMap _).symm

theorem items_perm (i : SheetInput) (regions : List Region) :
    (i.items regions).Perm (all.flatMap (items i regions)) := by
  have h := ((regionItems_perm i regions).append_left
    (ofLines i.grid i.ops ++ ofMoves i.moveRecords i.ops)).append_right (alone.items i regions)
  simpa [SheetInput.items, all, items, ofLines] using h

end Source

end Item

/-! ### Moves -/

namespace Block

def ends : Block → String
  | .rows src _ dst => s!"rows-{src}-{dst}"
  | .cols src _ dst => s!"cols-{src}-{dst}"
  | .rect srcRow _ srcCol _ dstRow dstCol =>
    s!"rect-{A1.cell srcRow srcCol}-{A1.cell dstRow dstCol}"

/-- Two blocks differ in size at most. -/
inductive SameEnds : Block → Block → Prop
  | rows (src dst count count' : Nat) : SameEnds (.rows src count dst) (.rows src count' dst)
  | cols (src dst count count' : Nat) : SameEnds (.cols src count dst) (.cols src count' dst)
  | rect (srcRow srcCol dstRow dstCol height width height' width' : Nat) :
      SameEnds (.rect srcRow height srcCol width dstRow dstCol)
        (.rect srcRow height' srcCol width' dstRow dstCol)

theorem ends_eq_iff {b b' : Block} : b.ends = b'.ends ↔ b.SameEnds b' := by
  constructor
  · intro h
    have hchars := congrArg String.toList h
    cases b <;> cases b' <;>
      simp [ends, toString, A1.cells_inj]
        at hchars
    · obtain ⟨rfl, rfl⟩ := hchars
      constructor
    · obtain ⟨rfl, rfl⟩ := hchars
      constructor
    · obtain ⟨⟨rfl, rfl⟩, rfl, rfl⟩ := hchars
      constructor
  · rintro (_ | _ | _) <;> rfl

end Block

namespace SheetInput

variable {i : SheetInput}

def listedRecords (i : SheetInput) : List MoveRecord :=
  i.moveRecords.filter fun m => (Line.ofWord? m.axis).isSome

/-- Records stand in for all blocks but rectangles. -/
def listedBlocks (i : SheetInput) : List Block :=
  (i.ops.filterMap fun l => l.op.block?).filter fun b =>
    i.moveRecords.isEmpty || (Item.ofRectBlock? b).isSome

end SheetInput

namespace Item

variable {i : SheetInput} {item : Item}

theorem id_of_ofLineBlock? {b : Block} (h : ofLineBlock? b = some item) :
    item.id = "move-" ++ b.ends := by
  apply String.toList_injective
  cases b <;> cases h <;> simp [lineMove, Block.ends, toString]

theorem id_of_ofRectBlock? {b : Block} (h : ofRectBlock? b = some item) :
    item.id = "move-" ++ b.ends := by
  apply String.toList_injective
  cases b <;> cases h
  simp [Block.ends, toString]

theorem id_of_ofMoveRecord? {m : MoveRecord} (h : ofMoveRecord? m = some item) :
    item.id = "move-" ++ m.id := by
  obtain ⟨line, -, rfl⟩ := Option.map_eq_some_iff.mp h
  rfl

theorem map_id_filterMap {α : Type} (f : α → Option Item) {id : α → String}
    (h : ∀ {a item}, f a = some item → item.id = id a) (as : List α) :
    (as.filterMap f).map (·.id) = (as.filter fun a => (f a).isSome).map id := by
  induction as with
  | nil => rfl
  | cons a as ih =>
      cases hitem : f a with
      | none => simp [hitem, ih]
      | some item => simp [hitem, ih, h hitem]

theorem isSome_ofLineBlock? (b : Block) : (ofLineBlock? b).isSome = !(ofRectBlock? b).isSome := by
  cases b <;> rfl

namespace Source

theorem moves_ids_perm (i : SheetInput) (regions : List Region) :
    ((moves.items i regions).map (·.id)).Perm
      ((i.listedRecords.map (·.id) ++ i.listedBlocks.map Block.ends).map fun id =>
        moves.stem ++ id) := by
  rw [List.map_append, List.map_map, List.map_map]
  have hrects := map_id_filterMap ofRectBlock? id_of_ofRectBlock?
    (i.ops.filterMap fun l => l.op.block?)
  rw [items, ofMoves, List.map_append, hrects, SheetInput.listedRecords, SheetInput.listedBlocks,
    lineMoves]
  cases i.moveRecords with
  | nil =>
      simp only [List.isEmpty_nil, if_true, List.filter_nil, List.map_nil, List.nil_append,
        Bool.true_or, List.filter_true]
      rw [map_id_filterMap ofLineBlock? id_of_ofLineBlock?, ← List.map_append]
      simp only [isSome_ofLineBlock?]
      exact (List.perm_append_comm.trans (List.filter_append_perm _ _)).map _
  | cons m ms =>
      simp only [List.isEmpty_cons, Bool.false_or, if_neg Bool.false_ne_true]
      rw [map_id_filterMap ofMoveRecord? id_of_ofMoveRecord?]
      simp only [ofMoveRecord?, Option.isSome_map]
      exact .refl _

/-! ### Regions -/

theorem regionItems_ids {kind : RegionKind} {s : Source}
    (h : ∀ r : Region, r.kind = kind → ∃ item, ofRegion? r = some item ∧ item.id = s.stem ++ r.id)
    (regions : List Region) :
    ((regions.filter fun r => r.kind = kind).filterMap ofRegion?).map (·.id) =
      ((regions.filter fun r => r.kind = kind).map (·.id)).map fun id => s.stem ++ id := by
  rw [List.map_filterMap, List.map_map, ← List.filterMap_eq_map]
  apply List.filterMap_congr
  intro r hr
  obtain ⟨item, hitem, hid⟩ := h r (of_decide_eq_true (List.mem_filter.mp hr).2)
  rw [hitem, Option.map_some, hid]
  rfl

theorem cells_ids (i : SheetInput) (regions : List Region) :
    (cells.items i regions).map (·.id) =
      ((regions.filter fun r => r.kind = .cells).map (·.id)).map fun id => cells.stem ++ id := by
  apply regionItems_ids
  intro r hkind
  rw [ofRegion?, hkind]
  exact ⟨_, rfl, rfl⟩

theorem rects_ids (i : SheetInput) (regions : List Region) :
    (rects.items i regions).map (·.id) =
      ((regions.filter fun r => r.kind = .rect).map (·.id)).map fun id => rects.stem ++ id := by
  apply regionItems_ids
  intro r hkind
  rw [ofRegion?, hkind]
  exact ⟨_, rfl, rfl⟩

theorem stem_begins_id {s : Source} {regions : List Region} (h : item ∈ s.items i regions) :
    s.stem.toList <+: item.id.toList := by
  have hstem : ∃ rest, item.id = s.stem ++ rest := by
    cases s with
    | replaced =>
        obtain ⟨row, -, rfl⟩ := List.mem_map.mp h
        exact ⟨_, rfl⟩
    | lines line side =>
        obtain ⟨run, -, rfl⟩ := List.mem_map.mp h
        exact ⟨_, rfl⟩
    | moves =>
        rcases mem_ofMoves.mp h with ⟨m, -, h⟩ | ⟨l, -, b, -, ⟨-, h⟩ | h⟩
        · exact ⟨_, id_of_ofMoveRecord? h⟩
        · exact ⟨_, id_of_ofLineBlock? h⟩
        · exact ⟨_, id_of_ofRectBlock? h⟩
    | cells =>
        have hid := cells_ids i regions ▸ List.mem_map_of_mem h
        obtain ⟨id, -, hid⟩ := List.mem_map.mp hid
        exact ⟨_, hid.symm⟩
    | rects =>
        have hid := rects_ids i regions ▸ List.mem_map_of_mem h
        obtain ⟨id, -, hid⟩ := List.mem_map.mp hid
        exact ⟨_, hid.symm⟩
    | alone =>
        obtain ⟨l, -, h⟩ := List.mem_filterMap.mp h
        refine ⟨s!"{l.op.kindName}-{l.index}", String.toList_injective ?_⟩
        rw [id_of_ofOp? h]
        simp [aloneId, stem, toString]
  obtain ⟨rest, hrest⟩ := hstem
  rw [hrest, String.toList_append]
  exact List.prefix_append _ _

theorem ids_nodup_iff {regions : List Region} : ((i.items regions).map (·.id)).Nodup ↔
    ∀ s : Source, ((s.items i regions).map (·.id)).Nodup := by
  rw [((items_perm i regions).map _).nodup_iff, List.map_flatMap, List.nodup_flatMap]
  constructor
  · rintro ⟨h, -⟩ s
    exact h s (mem_all s)
  · intro h
    refine ⟨fun s _ => h s, ?_⟩
    have hall : all.Nodup := by decide
    apply List.Pairwise.imp _ hall
    intro s t hne id hs ht
    obtain ⟨item, hitem, rfl⟩ := List.mem_map.mp hs
    obtain ⟨item', hitem', hid⟩ := List.mem_map.mp ht
    exact hne (eq_of_both_begin (stem_begins_id hitem) (hid ▸ stem_begins_id hitem'))

end Source

end Item

def Op.rectCorner? (op : Op) : Option Place :=
  match op.gridChange? with
  | some (.rectReplaced row rows col cols) =>
    if 0 < rows ∧ 0 < cols then some ⟨row, col⟩ else none
  | _ => none

theorem Area.rectIds_ofOp (g : Grid) (op : Op) :
    ((ofOp g op).filter fun a => a.kind = .rect).map (·.id) =
      (op.rectCorner?.map fun p => rectId p.row p.col).toList := by
  rw [ofOp]
  split
  · rename_i row rows col cols hop
    have hcells : (g.cover? .new (some ⟨row, rows⟩) (some ⟨col, cols⟩)).isSome ↔
        0 < rows ∧ 0 < cols := Grid.cover?_rect_isSome_iff
    rw [Op.rectCorner?, hop]
    cases hbox : g.cover? .new (some ⟨row, rows⟩) (some ⟨col, cols⟩) with
    | none =>
        have hempty : ¬(0 < rows ∧ 0 < cols) := fun h => by simpa [hbox] using hcells.mpr h
        simp [hempty]
    | some box =>
        have hfilled : 0 < rows ∧ 0 < cols := hcells.mp (by simp [hbox])
        simp [hfilled, rectId]
  · rename_i b hash hop
    have hnone : (ofBlock g b).filter (fun a => a.kind = .rect) = [] := by
      apply List.filter_eq_nil_iff.mpr
      intro a ha
      obtain ⟨side, box, -, rfl⟩ := mem_ofBlock.mp ha
      cases side <;> simp [endKind]
    rw [hnone, Op.rectCorner?, hop]
    rfl
  · rename_i hrect _
    rw [Op.rectCorner?]
    split
    · rename_i hop
      exact absurd hop (hrect _ _ _ _)
    · rfl

theorem Region.rectIds_perm (o : Options) (g : Grid) (es : Edits) (ops : List Listed) :
    (((ofOps o g es ops).filter fun r => r.kind = .rect).map (·.id)).Perm
      ((ops.filterMap fun l => l.op.rectCorner?).map fun p => Area.rectId p.row p.col) := by
  have hclusters : (Area.clusters o es).filter (fun a => a.kind = .rect) = [] := by
    apply List.filter_eq_nil_iff.mpr
    intro a ha
    simp [Area.kind_of_mem_clusters ha]
  have h := ((sortBy_perm Area.compare (Area.clusters o es ++
    ops.flatMap fun l => Area.ofOp g l.op)).filter fun a => a.kind = .rect).map (·.id)
  rw [List.filter_append, hclusters, List.nil_append, List.filter_flatMap, List.map_flatMap] at h
  simp only [Area.rectIds_ofOp] at h
  rw [ofOps, List.filter_map, List.map_map, List.map_filterMap, List.filterMap_eq_flatMap_toList]
  exact h

/-! ### The ids from one source -/

namespace Item.Source

variable {i : SheetInput} {regions : List Region}

theorem append_stem_injective (s : Source) : Function.Injective fun id : String => s.stem ++ id :=
  fun _ _ h => (String.append_right_inj _).mp h

theorem rowId_injective : Function.Injective rowId := by
  intro row row' h
  have hchars := congrArg String.toList h
  simpa [rowId, toString] using hchars

theorem replaced_ids_nodup (i : SheetInput) (regions : List Region) :
    ((replaced.items i regions).map (·.id)).Nodup := by
  rw [items, replacedRows, List.map_map]
  exact (distinct_nodup _).map rowId_injective

theorem lines_ids_nodup (line : Line) (side : Side) (i : SheetInput) (regions : List Region) :
    (((lines line side).items i regions).map (·.id)).Nodup := by
  rw [items, changedLines, List.map_map]
  apply List.pairwise_map.mpr
  apply (Span.runs_apart (ascending_pairwise_lt _)).imp_of_mem
  intro run run' hrun _ hapart hid
  have hle := Span.first_le_last_of_mem_runs hrun
  have hfirst : run.first.repr = run'.first.repr := (String.append_right_inj _).mp hid
  have heq := Nat.repr_injective hfirst
  omega

theorem cells_ids_nodup (o : Options) (i : SheetInput) :
    ((cells.items i (SheetView.ofInput o i).regions).map (·.id)).Nodup := by
  have hids := (SheetView.cellRegions_perm o i).map (·.id)
  rw [List.map_map] at hids
  rw [cells_ids]
  apply List.Nodup.map (append_stem_injective cells)
  exact hids.nodup_iff.mpr (Area.clusters_ids_nodup o _)

theorem rects_ids_nodup_iff (o : Options) (i : SheetInput) :
    ((rects.items i (SheetView.ofInput o i).regions).map (·.id)).Nodup ↔
      (i.ops.filterMap fun l => l.op.rectCorner?).Nodup := by
  have hinj : Function.Injective fun p : Place => Area.rectId p.row p.col := by
    rintro ⟨row, col⟩ ⟨row', col'⟩ h
    obtain ⟨rfl, rfl⟩ := Area.rectId_inj h
    rfl
  have hids := Region.rectIds_perm o i.grid (i.sheet o).edits i.ops
  rw [rects_ids, List.nodup_map_iff (append_stem_injective rects)]
  exact hids.nodup_iff.trans (List.nodup_map_iff hinj)

theorem moves_ids_nodup_iff (i : SheetInput) (regions : List Region) :
    ((moves.items i regions).map (·.id)).Nodup ↔
      (i.listedRecords.map (·.id)).Nodup ∧
      i.listedBlocks.Pairwise (fun b b' => ¬b.SameEnds b') ∧
      ∀ m ∈ i.listedRecords, ∀ b ∈ i.listedBlocks, m.id ≠ b.ends := by
  rw [(moves_ids_perm i regions).nodup_iff, List.nodup_map_iff (append_stem_injective moves),
    List.nodup_append]
  simp only [List.Nodup, List.pairwise_map, ne_eq, Block.ends_eq_iff, List.forall_mem_map]

end Item.Source

/-! ### All items -/

/-- The items of a sheet have ids of their own just if no two of its moved blocks differ in size at
most, no two of its replaced rectangles begin in one cell, and the move records have ids that differ
from each other and from what the ids of blocks say. So do the elements of the list. -/
theorem item_ids_nodup_iff (p : Payload) (o : Options) (name : String) :
    let i := p.sheetInput o.filters name
    let v := SheetView.ofInput o i
    ((v.items.map (·.id)).Nodup ↔
      (i.listedRecords.map (·.id)).Nodup ∧
      i.listedBlocks.Pairwise (fun b b' => ¬b.SameEnds b') ∧
      (∀ m ∈ i.listedRecords, ∀ b ∈ i.listedBlocks, m.id ≠ b.ends) ∧
      (i.ops.filterMap fun l => l.op.rectCorner?).Nodup) ∧
    ((v.items.map fun item => elementId v.name item.id).Nodup ↔ (v.items.map (·.id)).Nodup) := by
  intro i v
  constructor
  · have hsources : (v.items.map (·.id)).Nodup ↔
        ∀ s : Item.Source, ((s.items i v.regions).map (·.id)).Nodup := Item.Source.ids_nodup_iff
    rw [hsources]
    constructor
    · intro h
      obtain ⟨hrecords, hblocks, hapart⟩ :=
        (Item.Source.moves_ids_nodup_iff i v.regions).mp (h .moves)
      exact ⟨hrecords, hblocks, hapart, (Item.Source.rects_ids_nodup_iff o i).mp (h .rects)⟩
    · rintro ⟨hrecords, hblocks, hapart, hrects⟩ s
      cases s with
      | replaced => exact Item.Source.replaced_ids_nodup i v.regions
      | lines line side => exact Item.Source.lines_ids_nodup line side i v.regions
      | moves =>
          exact (Item.Source.moves_ids_nodup_iff i v.regions).mpr ⟨hrecords, hblocks, hapart⟩
      | cells => exact Item.Source.cells_ids_nodup o i
      | rects => exact (Item.Source.rects_ids_nodup_iff o i).mpr hrects
      | alone => exact Item.alone_ids_nodup (p.sheetOps_inOrder o.filters name)
  · have hinj : Function.Injective (elementId v.name) := fun _ _ h =>
      (String.append_right_inj _).mp h
    have hmap : (v.items.map fun item => elementId v.name item.id) =
        (v.items.map (·.id)).map (elementId v.name) := by rw [List.map_map]; rfl
    rw [hmap, List.nodup_map_iff hinj]

def movedTwice : Payload :=
  .ofReport ⟨none, [], [.known (.grid (.text "S") (.moved (.rows 0 1 3) none)),
    .known (.grid (.text "S") (.moved (.rows 0 2 3) none))], true, []⟩

/-- Moves that differ in size have different ids, but not their items. -/
theorem not_item_ids_nodup :
    ((SheetView.ofPayload? movedTwice .default "S").map fun v =>
      v.items.map fun item => (item.id, item.moveId?)) =
        some [("move-rows-0-3", some "r:0+1->3"), ("move-rows-0-3", some "r:0+2->3")] ∧
    ¬∀ (p : Payload) (o : Options) (name : String) (v : SheetView),
      SheetView.ofPayload? p o name = some v →
      (p.sheetOps o.filters name).Pairwise (fun l m => l.op ≠ m.op) →
      ((p.sheetInput o.filters name).moveRecords.map (·.id)).Nodup →
      (v.items.map (·.id)).Nodup := by
  refine ⟨rfl, ?_⟩
  intro h
  have hops : (movedTwice.sheetOps Options.default.filters "S").Pairwise fun l m => l.op ≠ m.op :=
    List.pairwise_pair.mpr (by decide)
  exact absurd (h movedTwice .default "S" _ rfl hops List.nodup_nil) (by decide)

end DiffView
