import DiffView.Proofs.Parts

namespace DiffView

namespace Grid

variable {g : Grid} {side : Side} {line : Line} {s : Stretch}

theorem begins_edge {n view : Nat} (hn : n ∈ s.lines)
    (hview : (g.axis line).viewOrSame side n = view) (other : Line) :
    g.Begins (.ofLines line side s) other ((edge line view).on other) := by
  cases line <;> cases other
  · exact .inr ⟨s, rfl, n, hn, hview.symm⟩
  · exact .inl rfl
  · exact .inl rfl
  · exact .inr ⟨s, rfl, n, hn, hview.symm⟩

theorem begins_edge_of_cover? {run : Span} (h : (g.axis line).cover? side s = some run)
    (other : Line) : g.Begins (.ofLines line side s) other ((edge line run.first).on other) := by
  obtain ⟨n, hn, hview⟩ := (Axis.cover?_bounds h).first.1
  exact begins_edge hn hview other

end Grid

namespace Item

/-- What an item of a sheet is about, and which parts of the sheets it is at. -/
inductive About (i : SheetInput) (item : Item) : Prop
  | lines {line : Line} {run : Span} {p : Part} (h : item.locator = some (.lines line run))
      (hp : p ∈ i.parts)
      (begins : ∀ other, i.grid.Begins p other ((Grid.edge line run.first).on other))
  | region {id : String} (h : item.locator = some (.region id))
  | lineMove {moveId : String} {line : Line} {src dst count : Nat}
      (h : item.locator = some (.lineMove moveId line src dst count))
      (hp : ∀ side, Part.ofLines line side ⟨Block.pick side src dst, count⟩ ∈ i.parts)
  | rectMove {moveId src dst : String} (h : item.locator = some (.rectMove moveId src dst))
  | listed (h : item.locator = none)

variable {i : SheetInput} {item : Item} {line : Line}

theorem part_of_changedLine? {side : Side} {op : Op} {n : Nat}
    (h : changedLine? line side op = some n) : Part.ofLines line side ⟨n, 1⟩ ∈ op.parts := by
  rw [changedLine?] at h
  rw [Op.parts]
  split at h
  · rename_i hop
    obtain ⟨⟨rfl, rfl⟩, hn⟩ := Option.ite_none_right_eq_some.mp h
    cases hn
    rw [hop]
    exact List.mem_singleton_self _
  · rename_i hop
    obtain ⟨⟨rfl, rfl⟩, hn⟩ := Option.ite_none_right_eq_some.mp h
    cases hn
    rw [hop]
    exact List.mem_singleton_self _
  · cases h

theorem part_of_replacedRow? {op : Op} {n : Nat} (h : replacedRow? op = some n) :
    Part.ofLines .row .new ⟨n, 1⟩ ∈ op.parts := by
  rw [replacedRow?] at h
  rw [Op.parts]
  split at h
  · rename_i hop
    cases h
    rw [hop]
    exact List.mem_singleton_self _
  · cases h

def changedViews (g : Grid) (ops : List Listed) (line : Line) (side : Side) : List Nat :=
  ascending ((ops.filterMap fun l => changedLine? line side l.op).map
    ((g.axis line).viewOrSame side))

@[simp] theorem mem_changedViews {g : Grid} {ops : List Listed} {side : Side} {view : Nat} :
    view ∈ changedViews g ops line side ↔ ∃ l ∈ ops, ∃ n, changedLine? line side l.op = some n ∧
      (g.axis line).viewOrSame side n = view := by
  simp only [changedViews, mem_ascending, List.mem_map, List.mem_filterMap]
  constructor
  · rintro ⟨n, ⟨l, hl, hn⟩, hview⟩
    exact ⟨l, hl, n, hn, hview⟩
  · rintro ⟨l, hl, n, hn, hview⟩
    exact ⟨n, ⟨l, hl, hn⟩, hview⟩

theorem mem_changedLines {g : Grid} {ops : List Listed} {side : Side} :
    item ∈ changedLines g line side ops ↔
      ∃ run ∈ Span.runs (changedViews g ops line side), ofRun (g.axis line) line side run = item :=
  List.mem_map

theorem about_of_mem_changedLines {side : Side} (h : item ∈ changedLines i.grid line side i.ops) :
    item.About i := by
  obtain ⟨run, hrun, rfl⟩ := mem_changedLines.mp h
  obtain ⟨l, hl, n, hn, hview⟩ := mem_changedViews.mp (Span.first_mem_of_mem_runs hrun)
  refine .lines rfl (SheetInput.mem_parts_of_op hl (part_of_changedLine? hn)) ?_
  exact Grid.begins_edge (by rw [Stretch.lines_one]; rfl) hview

@[simp] theorem mem_replacedRows {g : Grid} {ops : List Listed} : item ∈ replacedRows g ops ↔
    ∃ l ∈ ops, ∃ row, replacedRow? l.op = some row ∧ ofReplacedRow g.rows row = item := by
  simp only [replacedRows, List.mem_map, mem_distinct, List.mem_filterMap]
  constructor
  · rintro ⟨row, ⟨l, hl, hrow⟩, hitem⟩
    exact ⟨l, hl, row, hrow, hitem⟩
  · rintro ⟨l, hl, row, hrow, hitem⟩
    exact ⟨row, ⟨l, hl, hrow⟩, hitem⟩

theorem about_of_mem_replacedRows (h : item ∈ replacedRows i.grid i.ops) : item.About i := by
  obtain ⟨l, hl, row, hrow, rfl⟩ := mem_replacedRows.mp h
  have hp := SheetInput.mem_parts_of_op hl (part_of_replacedRow? hrow)
  have hview : (i.grid.axis .row).viewOrSame .new row = i.grid.rows.viewOrSame .new row := rfl
  exact .lines rfl hp (Grid.begins_edge (by rw [Stretch.lines_one]; rfl) hview)

@[simp] theorem mem_ofLines {g : Grid} {ops : List Listed} : item ∈ ofLines g ops ↔
    item ∈ replacedRows g ops ∨ ∃ line side, item ∈ changedLines g line side ops := by
  simp only [ofLines, List.mem_append]
  constructor
  · rintro ((((h | h) | h) | h) | h)
    · exact .inl h
    · exact .inr ⟨.row, .new, h⟩
    · exact .inr ⟨.row, .old, h⟩
    · exact .inr ⟨.col, .new, h⟩
    · exact .inr ⟨.col, .old, h⟩
  · rintro (h | ⟨line, side, h⟩)
    · simp only [h, true_or]
    · cases line <;> cases side <;> simp only [h, true_or, or_true]

theorem about_of_mem_ofLines (h : item ∈ ofLines i.grid i.ops) : item.About i := by
  rcases mem_ofLines.mp h with h | ⟨line, side, h⟩
  · exact about_of_mem_replacedRows h
  · exact about_of_mem_changedLines h

theorem part_of_mem_moveRecords {m : MoveRecord} (hm : m ∈ i.moveRecords)
    (hline : Line.ofWord? m.axis = some line) (side : Side) :
    Part.ofLines line side ⟨Block.pick side m.src m.dst, m.count⟩ ∈ i.parts := by
  refine List.mem_append_right _ (List.mem_flatMap.mpr ⟨m, hm, ?_⟩)
  rw [MoveRecord.parts, hline, Option.elim_some]
  cases side with
  | old => exact List.mem_cons_self
  | new => exact List.mem_cons_of_mem _ List.mem_cons_self

theorem part_of_block? {l : Listed} (hl : l ∈ i.ops) {b : Block} (hb : l.op.block? = some b)
    (side : Side) : b.part side ∈ i.parts := by
  apply SheetInput.mem_parts_of_op hl
  rw [Op.block?] at hb
  split at hb
  · rename_i hop
    obtain rfl := Option.some_inj.mp hb
    rw [Op.parts, hop, Option.elim_some]
    cases side with
    | old => exact List.mem_cons_self
    | new => exact List.mem_cons_of_mem _ List.mem_cons_self
  · cases hb

/-- Move records stand in for the blocks of lines that operations move. -/
@[simp] theorem mem_ofMoves {records : List MoveRecord} {ops : List Listed} :
    item ∈ ofMoves records ops ↔ (∃ m ∈ records, ofMoveRecord? m = some item) ∨
      ∃ l ∈ ops, ∃ b, l.op.block? = some b ∧
        (records = [] ∧ ofLineBlock? b = some item ∨ ofRectBlock? b = some item) := by
  rw [ofMoves, lineMoves, List.mem_append]
  cases records with
  | nil =>
      simp only [List.isEmpty_nil, if_true, List.mem_filterMap, true_and, List.not_mem_nil,
        false_and, exists_false, false_or]
      constructor
      · rintro (⟨b, ⟨l, hl, hb⟩, h⟩ | ⟨b, ⟨l, hl, hb⟩, h⟩)
        · exact ⟨l, hl, b, hb, .inl h⟩
        · exact ⟨l, hl, b, hb, .inr h⟩
      · rintro ⟨l, hl, b, hb, h | h⟩
        · exact .inl ⟨b, ⟨l, hl, hb⟩, h⟩
        · exact .inr ⟨b, ⟨l, hl, hb⟩, h⟩
  | cons m ms =>
      simp only [List.isEmpty_cons, Bool.false_eq_true, if_false, List.mem_filterMap, reduceCtorEq,
        false_and, false_or]
      refine or_congr_right ?_
      constructor
      · rintro ⟨b, ⟨l, hl, hb⟩, h⟩
        exact ⟨l, hl, b, hb, h⟩
      · rintro ⟨l, hl, b, hb, h⟩
        exact ⟨b, ⟨l, hl, hb⟩, h⟩

theorem about_of_mem_ofMoves (h : item ∈ ofMoves i.moveRecords i.ops) : item.About i := by
  rcases mem_ofMoves.mp h with ⟨m, hm, h⟩ | ⟨l, hl, b, hb, ⟨-, h⟩ | h⟩
  · obtain ⟨line, hline, rfl⟩ := Option.map_eq_some_iff.mp h
    exact .lineMove rfl (part_of_mem_moveRecords hm hline)
  · cases b with
    | rows | cols =>
        cases h
        exact .lineMove rfl (part_of_block? hl hb)
    | rect => cases h
  · cases b with
    | rows | cols => cases h
    | rect =>
        cases h
        exact .rectMove rfl

theorem locator_of_ofRegion? {r : Region} (h : ofRegion? r = some item) :
    item.locator = some (.region r.id) := by
  rw [ofRegion?.eq_def] at h
  split at h
  · cases h
    rfl
  · cases h
    rfl
  · cases h

theorem locator_of_ofOp? {r : Report} {l : Listed} (h : ofOp? r l = some item) :
    item.locator = none := by
  obtain ⟨⟨label, detail⟩, -, rfl⟩ := Option.map_eq_some_iff.mp h
  rfl

@[simp] theorem mem_items {regions : List Region} : item ∈ i.items regions ↔
    item ∈ ofLines i.grid i.ops ∨ item ∈ ofMoves i.moveRecords i.ops ∨
      item ∈ regions.filterMap ofRegion? ∨ item ∈ i.ops.filterMap (ofOp? i.report) := by
  simp only [SheetInput.items, List.mem_append, or_assoc]

theorem about_of_mem_items {regions : List Region} (h : item ∈ i.items regions) :
    item.About i := by
  rcases mem_items.mp h with h | h | h | h
  · exact about_of_mem_ofLines h
  · exact about_of_mem_ofMoves h
  · obtain ⟨r, -, h⟩ := List.mem_filterMap.mp h
    exact .region (locator_of_ofRegion? h)
  · obtain ⟨l, -, h⟩ := List.mem_filterMap.mp h
    exact .listed (locator_of_ofOp? h)

end Item

end DiffView
