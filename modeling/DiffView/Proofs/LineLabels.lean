import DiffView.Proofs.EntryPlaces
import DiffView.Proofs.ItemIds
import DiffView.Proofs.LineRuns
import DiffView.Proofs.ViewsOfLines

namespace DiffView

namespace Axis

variable {a : Axis} {side : Side} {line : Nat}

/-- A line without a place in the view is listed at its own index, where the view shows another. -/
def Misread (a : Axis) (side : Side) (line : Nat) : Prop :=
  a.viewOf? side line = none ∧ ∃ other, a.Names side line other ∧ other ≠ line

theorem lineAt_eq_self_iff : a.lineAt side line = line ↔
    ¬∃ other, a.Names side line other ∧ other ≠ line := by
  simp only [lineAt, Names]
  cases (a.slot? line).bind fun s => s.line? side with
  | none => simp
  | some other => simp

theorem lineAt_viewOrSame_iff : a.lineAt side (a.viewOrSame side line) = line ↔
    ¬a.Misread side line := by
  rw [Misread, viewOrSame]
  cases hview : a.viewOf? side line with
  | none =>
      rw [Option.getD_none, lineAt_eq_self_iff]
      simp only [true_and]
  | some view =>
      have hline : a.lineAt side view = line := lineAt_of_names (names_of_viewOf? hview)
      rw [Option.getD_some, hline]
      simp

theorem Complete.not_misread (h : a.Complete) (hline : line < a.length side) :
    ¬a.Misread side line := by
  rintro ⟨hview, -⟩
  obtain ⟨view, hnames⟩ := h.exists_names hline
  obtain ⟨last, -, hlast⟩ := exists_le_viewOf? hline hnames
  cases hview.symm.trans hlast

end Axis

theorem Line.name_injective (line : Line) : Function.Injective line.name := by
  intro m n h
  cases line with
  | row =>
      have hsucc : m + 1 = n + 1 := Nat.repr_injective h
      exact Nat.succ_inj.mp hsucc
  | col =>
      have hletters : A1.columnLetters m = A1.columnLetters n := String.ofList_injective h
      exact A1.columnLetters_inj hletters

theorem Entry.lineText_eq (line : Line) (n : Nat) (action : String) :
    lineText line n action = s!"{line.title} {line.name n} {action}" := by
  apply String.toList_injective
  simp [lineText, Line.spanText, toString]

theorem Entry.lineText_replaced (row : Nat) :
    lineText .row row "replaced" = s!"Row {row + 1} replaced" := by
  apply String.toList_injective
  simp [lineText, Line.spanText, Line.title, Line.name, toString]

theorem Entry.lineText_inj {line : Line} {m n : Nat} {action : String} :
    lineText line m action = lineText line n action ↔ m = n := by
  rw [lineText, lineText, Line.spanText, Line.spanText, if_pos rfl, if_pos rfl]
  simp only [String.append_left_inj, String.append_right_inj]
  exact line.name_injective.eq_iff

namespace Item

variable {o : Options} {i : SheetInput} {item : Item} {l : Listed} {line : Line} {side : Side}
  {run : Span} {row n : Nat}

theorem label_ofReplacedRow (rows : Axis) (row : Nat) : (ofReplacedRow rows row).label =
    Entry.lineText .row (rows.lineAt .new (rows.viewOrSame .new row)) "replaced" := by
  rw [Entry.lineText, String.append_assoc]
  rfl

theorem eq_ofReplacedRow {regions : List Region} (h : item ∈ i.items regions)
    (hid : item.id = rowId row) : item = ofReplacedRow i.grid.rows row := by
  obtain ⟨s, -, hs⟩ := List.mem_flatMap.mp ((Source.items_perm i regions).mem_iff.mp h)
  have hbegins : Source.replaced.stem.toList <+: item.id.toList := by
    rw [hid, rowId, Source.stem]
    simp [toString]
  obtain rfl := Source.eq_of_both_begin (Source.stem_begins_id hs) hbegins
  obtain ⟨-, -, row', -, rfl⟩ := mem_replacedRows.mp hs
  rw [Source.rowId_injective hid]

theorem label_of_rowId {regions : List Region} (h : item ∈ i.items regions)
    (hid : item.id = rowId row) :
    item.label = Entry.lineText .row row "replaced" ↔ ¬i.grid.rows.Misread .new row := by
  rw [eq_ofReplacedRow h hid, label_ofReplacedRow, Entry.lineText_inj]
  exact Axis.lineAt_viewOrSame_iff

theorem exists_run_of_lines {regions : List Region} (h : item ∈ i.items regions)
    (hlocator : item.locator = some (.lines line run)) (htype : item.changeType = side.changeType) :
    run ∈ Span.runs (changedViews i.grid i.ops line side) ∧
      ofRun (i.grid.axis line) line side run = item := by
  rcases mem_items.mp h with h | h | h | h
  · rcases mem_ofLines.mp h with h | ⟨line', side', h⟩
    · obtain ⟨-, -, row, -, rfl⟩ := mem_replacedRows.mp h
      cases side <;> cases htype
    · obtain ⟨run', hrun, rfl⟩ := mem_changedLines.mp h
      cases hlocator
      cases side <;> cases side' <;> cases htype
      · exact ⟨hrun, rfl⟩
      · exact ⟨hrun, rfl⟩
  · have hmove := moveId?_isSome_of_mem_ofMoves h
    rw [moveId?, hlocator] at hmove
    cases hmove
  · obtain ⟨r, -, h⟩ := List.mem_filterMap.mp h
    cases hlocator.symm.trans (locator_of_ofRegion? h)
  · obtain ⟨l, -, h⟩ := List.mem_filterMap.mp h
    cases hlocator.symm.trans (locator_of_ofOp? h)

theorem StandsFor.exists_run (h : item.StandsFor o i l)
    (hop : l.op.gridChange? = some (side.lineChange line n)) :
    ∃ run, item.locator = some (.lines line run) ∧ item.changeType = side.changeType ∧
      run.first ≤ (i.grid.axis line).viewOrSame side n ∧
      (i.grid.axis line).viewOrSame side n ≤ run.last := by
  obtain ⟨index, op⟩ := l
  cases h with
  | line hop' hlocator htype hfirst hlast =>
      rw [changedLine?_eq_some_iff, hop] at hop'
      rename_i line' side' n' run
      cases side <;> cases side' <;> cases hop'
      · exact ⟨run, hlocator, htype, hfirst, hlast⟩
      · exact ⟨run, hlocator, htype, hfirst, hlast⟩
  | replaced hop' =>
      rw [hop] at hop'
      cases side <;> cases hop'
  | edit hop' =>
      obtain ⟨addr, before, after, formula, hop', -⟩ := Edits.ofOp?_eq_some_iff.mp hop'
      rw [hop] at hop'
      cases side <;> cases hop'
  | rect hop' =>
      rw [hop] at hop'
      cases side <;> cases hop'
  | moved hop' =>
      rw [Op.block?, hop] at hop'
      cases side <;> cases hop'
  | alone hop' =>
      cases hop' <;> cases side <;> cases hop

/-- All operations that an item stands for say the same. -/
def StandsOnlyFor (o : Options) (i : SheetInput) (item : Item) (l : Listed) : Prop :=
  item.StandsFor o i l ∧ ∀ m ∈ i.ops, item.StandsFor o i m → m.op.gridChange? = l.op.gridChange?

theorem StandsOnlyFor.eq_of_mem_run (h : item.StandsOnlyFor o i l)
    (hop : l.op.gridChange? = some (side.lineChange line n))
    (hlocator : item.locator = some (.lines line run)) (htype : item.changeType = side.changeType)
    {view : Nat} (hview : view ∈ changedViews i.grid i.ops line side)
    (hfirst : run.first ≤ view) (hlast : view ≤ run.last) :
    view = (i.grid.axis line).viewOrSame side n := by
  obtain ⟨m, hm, n', hn', rfl⟩ := mem_changedViews.mp hview
  have hsame := h.2 m hm (.line hn' hlocator htype hfirst hlast)
  rw [changedLine?_eq_some_iff.mp hn', hop, Option.some_inj] at hsame
  have heq : n' = n := by cases side <;> cases hsame <;> rfl
  rw [heq]

theorem label_of_standsOnlyFor (hitem : item ∈ (SheetView.ofInput o i).items)
    (h : item.StandsOnlyFor o i l) (hop : l.op.gridChange? = some (side.lineChange line n)) :
    item.label = Entry.lineText line n side.changeType.word ↔
      ¬(i.grid.axis line).Misread side n := by
  obtain ⟨run, hlocator, htype, -, -⟩ := h.1.exists_run hop
  obtain ⟨hrun, rfl⟩ := exists_run_of_lines hitem hlocator htype
  have hle : run.first ≤ run.last := Span.first_le_last_of_mem_runs hrun
  -- Nothing else is in the run, or the item would stand for operations on other lines as well.
  have hends {view : Nat} : run.first ≤ view → view ≤ run.last →
      view = (i.grid.axis line).viewOrSame side n := fun hfirst hlast =>
    h.eq_of_mem_run hop hlocator htype (Span.mem_iff_exists_run.mpr ⟨run, hrun, hfirst, hlast⟩)
      hfirst hlast
  have hlabel : (ofRun (i.grid.axis line) line side run).label =
      Entry.lineText line ((i.grid.axis line).lineAt side ((i.grid.axis line).viewOrSame side n))
        side.changeType.word := by
    rw [ofRun, hends (Nat.le_refl _) hle, hends hle (Nat.le_refl _), Entry.lineText]
  rw [hlabel, Entry.lineText_inj]
  exact Axis.lineAt_viewOrSame_iff

/-- How the items for an operation on a line are labelled, beside its entry. -/
structure Labelled (o : Options) (i : SheetInput) (l : Listed) (e : Entry) : Prop where
  replaced : ∀ row, l.op.gridChange? = some (.rowReplaced row) →
    e.label = s!"Row {row + 1} replaced" ∧
    (∃ item ∈ (SheetView.ofInput o i).items, item.id = rowId row) ∧
    ∀ item ∈ (SheetView.ofInput o i).items, item.id = rowId row →
      (item.label = e.label ↔ ¬i.grid.rows.Misread .new row)
  changed : ∀ side line n, l.op.gridChange? = some (side.lineChange line n) →
    e.label = s!"{line.title} {line.name n} {side.changeType.word}" ∧
    (∃ item ∈ (SheetView.ofInput o i).items, item.StandsFor o i l) ∧
    ∀ item ∈ (SheetView.ofInput o i).items, item.StandsOnlyFor o i l →
      (item.label = e.label ↔ ¬(i.grid.axis line).Misread side n)

theorem labelled_ofOp (hl : l ∈ i.ops) : Labelled o i l (Entry.ofOp i.report i.grid l) where
  replaced row hop := by
    have hlabel : (Entry.ofOp i.report i.grid l).label = Entry.lineText .row row "replaced" := by
      rw [Entry.ofOp, hop]
      rfl
    have hmem : ofReplacedRow i.grid.rows row ∈ replacedRows i.grid i.ops :=
      mem_replacedRows.mpr ⟨l, hl, row, replacedRow?_eq_some_iff.mpr hop, rfl⟩
    refine ⟨hlabel.trans (Entry.lineText_replaced row), ?_, ?_⟩
    · exact ⟨_, mem_items.mpr (.inl (mem_ofLines.mpr (.inl hmem))), rfl⟩
    · intro item hitem hid
      rw [hlabel]
      exact label_of_rowId hitem hid
  changed side line n hop := by
    have hlabel : (Entry.ofOp i.report i.grid l).label =
        Entry.lineText line n side.changeType.word := by
      rw [Entry.ofOp, hop]
      cases side <;> rfl
    refine ⟨hlabel.trans (Entry.lineText_eq line n _), ?_, ?_⟩
    · exact exists_item_of_line hl (changedLine?_eq_some_iff.mpr hop)
    · intro item hitem honly
      rw [hlabel]
      exact label_of_standsOnlyFor hitem honly hop

end Item

/-- The label of a replaced row names the row of the operation, both in its entry and in its item,
unless the row has no place in the view and the view shows another row at its index; then the item
names that one. So do the labels of an added or removed line that is listed by itself. With a
complete view, no line of the sheet is misread. -/
theorem line_labels (o : Options) (i : SheetInput) :
    List.Forall₂ (Item.Labelled o i) i.ops (SheetView.ofInput o i).entries ∧
      ∀ line side n, (i.grid.axis line).Complete → n < (i.grid.axis line).length side →
        ¬(i.grid.axis line).Misread side n := by
  refine ⟨?_, fun line side n => Axis.Complete.not_misread⟩
  exact List.forall₂_map_right_iff.mpr (List.forall₂_same.mpr fun l hl => Item.labelled_ofOp hl)

def leftOut : Payload where
  report := ⟨none, [], [.known (.grid (.text "S") (.rowReplaced 1)),
    .known (.grid (.text "S") (.lineAdded .row 1))], true, []⟩
  old := [⟨"S", 1, 1, [], false, none, none, none⟩]
  new := [⟨"S", 2, 1, [], false, none, none, none⟩]
  alignments := [⟨"S", [⟨some 0, none, .deleted, none⟩, ⟨none, some 0, .inserted, none⟩],
    [⟨some 0, some 0, .same, none⟩], [], false, none⟩]
  interests := []

/-- The entries name the second row, and the items the first one. -/
theorem not_line_labels :
    ((SheetView.ofPayload? leftOut .default "S").map fun v =>
      (v.entries.map (·.label), v.items.map fun item => (item.id, item.label))) =
        some (["Row 2 replaced", "Row 2 added"],
          [("row-replaced-1", "Row 1 replaced"), ("row-added-1", "Row 1 added")]) ∧
    (¬∀ (p : Payload) (o : Options) (name : String) (v : SheetView),
      SheetView.ofPayload? p o name = some v →
      List.Forall₂ (fun l e => ∀ row, l.op.gridChange? = some (.rowReplaced row) →
        e.label = s!"Row {row + 1} replaced" ∧
          ∀ item ∈ v.items, item.id = Item.rowId row → item.label = e.label)
        (p.sheetInput o.filters name).ops v.entries) ∧
    ¬∀ (p : Payload) (o : Options) (name : String) (v : SheetView),
      SheetView.ofPayload? p o name = some v →
      List.Forall₂ (fun l e => ∀ (side : Side) (line : Line) (n : Nat),
        l.op.gridChange? = some (side.lineChange line n) →
        e.label = s!"{line.title} {line.name n} {side.changeType.word}" ∧
          ∀ item ∈ v.items, item.StandsFor o (p.sheetInput o.filters name) l →
            (∀ m ∈ (p.sheetInput o.filters name).ops,
              item.StandsFor o (p.sheetInput o.filters name) m → m = l) →
            item.label = e.label)
        (p.sheetInput o.filters name).ops v.entries := by
  refine ⟨rfl, ?_, ?_⟩
  · intro h
    obtain ⟨hreplaced, -⟩ := List.forall₂_cons.mp (h leftOut .default "S" _ rfl)
    have hlabel := (hreplaced 1 rfl).2 _ List.mem_cons_self rfl
    exact absurd hlabel (by decide)
  · intro h
    obtain ⟨-, hrest⟩ := List.forall₂_cons.mp (h leftOut .default "S" _ rfl)
    obtain ⟨hadded, -⟩ := List.forall₂_cons.mp hrest
    have hitem := (hadded .new .row 1 rfl).2 _ (List.mem_cons_of_mem _ List.mem_cons_self)
    have hop : Item.changedLine? .row .new (.known (.grid (.text "S") (.lineAdded .row 1))) =
        some 1 := rfl
    refine absurd (hitem (.line hop rfl rfl (Nat.le_refl _) (Nat.le_refl _)) ?_) (by decide)
    intro m hm hstands
    rcases List.mem_pair.mp hm with rfl | rfl
    · cases hstands with
      | replaced hop hid =>
          cases hop
          exact absurd hid (by decide)
      | line hop | edit hop | rect hop | moved hop | alone hop => cases hop
    · rfl

end DiffView
