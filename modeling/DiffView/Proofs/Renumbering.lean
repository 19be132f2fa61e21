import DiffView.Proofs.Moves
import DiffView.Workbook.View

namespace DiffView

def Listed.renumber (number : Nat → Nat) (l : Listed) : Listed :=
  { l with index := number l.index }

def Entry.renumber (number : Nat → Nat) (e : Entry) : Entry := { e with index := number e.index }

def Options.unfiltered (o : Options) : Options := { o with filters := .none }

namespace SheetInput

/-- The same sheet in a report that lists more than the operations of `i.report`, with the indices
that these have there. -/
def renumber (number : Nat → Nat) (ops : List Op) (i : SheetInput) : SheetInput :=
  { i with
    report := { i.report with ops := ops }
    ops := i.ops.map (Listed.renumber number) }

variable {o : Options} {i : SheetInput} {number : Nat → Nat} {ops : List Op}

@[simp] theorem sheet_renumber : (i.renumber number ops).sheet o = i.sheet o.unfiltered := by
  simp only [sheet, renumber, Edits.ofOps, List.filterMap_map, List.countP_map]
  rfl

@[simp] theorem regions_renumber {es : Edits} :
    Region.ofOps o i.grid es (i.renumber number ops).ops =
      Region.ofOps o.unfiltered i.grid es i.ops := by
  simp only [Region.ofOps, renumber, List.flatMap_map]
  rfl

@[simp] theorem ofMoves_renumber {records : List MoveRecord} :
    Item.ofMoves records (i.renumber number ops).ops = Item.ofMoves records i.ops := by
  simp only [Item.ofMoves, renumber, List.filterMap_map]
  rfl

@[simp] theorem hunks_renumber {status : Status} {regions : List Region} :
    (i.renumber number ops).hunks o status regions = i.hunks o.unfiltered status regions := by
  simp only [hunks, shownInterests, renumber, Interest.ofOps, Extent.ofOps, Extent.asked,
    List.filterMap_map]
  rfl

end SheetInput

/-- Two views of a sheet are the same, but for the indices of their operations. -/
structure SheetView.SameUpTo (number : Nat → Nat) (v w : SheetView) : Prop where
  name : v.name = w.name
  oldName : v.oldName = w.oldName
  grid : v.grid = w.grid
  cellAt : ∀ p, v.cellAt p = w.cellAt p
  rawCellAt : ∀ side row col, v.rawCellAt side row col = w.rawCellAt side row col
  regions : v.regions = w.regions
  moves : v.moves = w.moves
  hunks : v.hunks = w.hunks
  status : v.status = w.status
  shownRegions : v.shownRegions = w.shownRegions
  options : v.options.unfiltered = w.options.unfiltered
  entries : v.entries = w.entries.map (Entry.renumber number)
  opCount : v.opCount = w.opCount
  severity : v.severity? = w.severity?
  severityCounts : v.severityCounts = w.severityCounts
  changeCounts : v.changeCounts = w.changeCounts
  categories : v.categories = w.categories

namespace SheetView

variable {o : Options} {i : SheetInput} {number : Nat → Nat} {ops : List Op}

/-- Only items of moves count for the table of moves. -/
theorem moves_ofInput :
    (ofInput o i).moves = MoveEnds.table (Item.ofMoves i.moveRecords i.ops) := by
  have hnone {items : List Item} (h : ∀ item ∈ items, item.moveId? = none) :
      items.filterMap (·.moveEnds?) = [] := by
    rw [List.filterMap_eq_nil_iff]
    intro item hitem
    have hid := h item hitem
    rwa [← MoveEnds.fst_moveEnds?, Option.map_eq_none_iff] at hid
  have hlines : (Item.ofLines i.grid i.ops).filterMap (·.moveEnds?) = [] := hnone fun item h => by
    obtain ⟨line, run, hloc⟩ := Item.locator_of_mem_ofLines h
    rw [Item.moveId?, hloc]
  have hregions : ((ofInput o i).regions.filterMap Item.ofRegion?).filterMap (·.moveEnds?) = [] :=
    hnone fun item h => by
      obtain ⟨r, -, h⟩ := List.mem_filterMap.mp h
      rw [Item.moveId?, Item.locator_of_ofRegion? h]
  have hops : (i.ops.filterMap (Item.ofOp? i.report)).filterMap (·.moveEnds?) = [] :=
    hnone fun item h => by
      obtain ⟨l, -, h⟩ := List.mem_filterMap.mp h
      rw [Item.moveId?, Item.locator_of_ofOp? h]
  have hitems : (ofInput o i).items.filterMap (·.moveEnds?) =
      (Item.ofMoves i.moveRecords i.ops).filterMap (·.moveEnds?) := by
    change (i.items (ofInput o i).regions).filterMap _ = _
    rw [SheetInput.items, List.filterMap_append, List.filterMap_append, List.filterMap_append,
      hlines, hregions, hops, List.nil_append, List.append_nil, List.append_nil]
  rw [moves, MoveEnds.table, hitems, MoveEnds.table]

@[simp] theorem entries_renumber : (ofInput o (i.renumber number ops)).entries =
    (ofInput o.unfiltered i).entries.map (Entry.renumber number) := by
  change (i.ops.map (Listed.renumber number)).map _ = (i.ops.map _).map _
  rw [List.map_map, List.map_map]
  rfl

theorem sameUpTo_renumber (o : Options) (i : SheetInput) (number : Nat → Nat) (ops : List Op) :
    SameUpTo number (ofInput o (i.renumber number ops)) (ofInput o.unfiltered i) := by
  have hsheet : (ofInput o (i.renumber number ops)).toSheet = (ofInput o.unfiltered i).toSheet :=
    SheetInput.sheet_renumber
  have hregions : (ofInput o (i.renumber number ops)).regions =
      (ofInput o.unfiltered i).regions := by
    change Region.ofOps o i.grid ((i.renumber number ops).sheet o).edits _ = _
    rw [SheetInput.sheet_renumber, SheetInput.regions_renumber]
    rfl
  have hhunks : (ofInput o (i.renumber number ops)).hunks = (ofInput o.unfiltered i).hunks := by
    change (i.renumber number ops).hunks o _ (ofInput o (i.renumber number ops)).regions = _
    rw [hregions, SheetInput.hunks_renumber]
    rfl
  have hmoves : (ofInput o (i.renumber number ops)).moves = (ofInput o.unfiltered i).moves := by
    rw [moves_ofInput, moves_ofInput, SheetInput.ofMoves_renumber]
    rfl
  have htraits : (ofInput o (i.renumber number ops)).traits = (ofInput o.unfiltered i).traits := by
    rw [traits, traits, entries_renumber, List.map_map]
    rfl
  have hcount : (ofInput o (i.renumber number ops)).opCount = (ofInput o.unfiltered i).opCount := by
    rw [opCount, opCount, entries_renumber, List.length_map]
  exact {
    name := rfl
    oldName := rfl
    grid := rfl
    cellAt := fun p => by rw [hsheet]
    rawCellAt := fun side row col => by rw [hsheet]
    regions := hregions
    moves := hmoves
    hunks := hhunks
    status := rfl
    shownRegions := by rw [shownRegions, shownRegions, hregions]; rfl
    options := rfl
    entries := entries_renumber
    opCount := hcount
    severity := by rw [severity?, severity?, severityCounts, severityCounts, htraits]
    severityCounts := by rw [severityCounts, severityCounts, htraits]
    changeCounts := by rw [changeCounts, changeCounts, htraits]
    categories := by rw [categories, categories, htraits] }

end SheetView

end DiffView
