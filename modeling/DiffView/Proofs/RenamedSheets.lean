import DiffView.Proofs.CellsShown
import DiffView.Proofs.Lists
import DiffView.Proofs.SheetsOfView

namespace DiffView

namespace Sheet

variable {s : Sheet} {t : Snapshot}

theorem cell?_old (h : s.old = some t) (row col : Nat) :
    s.cell? .old row col = t.cell? row col := by
  rw [cell?, snapshot?, h, Option.bind_some]

theorem cellAt_old {p : Place} {c : CellSide} (h : (s.cellAt p).old = some c) :
    c.cell = s.cell? .old c.row c.col := by
  have hon : (s.cellAt p).on .old = some c := h
  exact (cellAt_on_eq_some_iff.mp hon).2.2

theorem loneCell_old (s : Sheet) (side : Side) (row col : Nat) :
    (s.loneCell side row col).old =
      if side = .old then some ⟨row, col, s.cell? side row col⟩ else none := by
  rw [loneCell]
  split <;> rfl

theorem rawCellAt_old {side : Side} {row col : Nat} {c : CellSide}
    (h : (s.rawCellAt side row col).old = some c) : c.cell = s.cell? .old c.row c.col := by
  rw [rawCellAt] at h
  split at h
  · exact cellAt_old h
  · rw [loneCell_old] at h
    split at h
    · rename_i hside
      cases h
      rw [hside]
    · cases h

end Sheet

/-- What a view shows of the old side is that of a snapshot. The rest is as the payload says. -/
structure SheetView.ReadsOld (v : SheetView) (i : SheetInput) (t : Snapshot) : Prop where
  snapshot : v.old = some t
  rows : v.grid.rows.oldLength = t.rowCount
  cols : v.grid.cols.oldLength = t.colCount
  status : v.status = .ofSheet i.alignment v.grid (some t) i.new
  hunks : v.status.isShown = false →
    let sizes : Sizes := ⟨⟨t.rowCount, t.colCount⟩, .ofSnapshot i.new⟩
    v.hunks = (i.interests.getD (Interest.ofOps v.options sizes i.ops)).filterMap
      (Hunk.ofInterest? v.options sizes)
  cellAt : ∀ p c, (v.cellAt p).old = some c → c.cell = t.cell? c.row c.col
  rawCellAt : ∀ side row col c, (v.rawCellAt side row col).old = some c →
    c.cell = t.cell? c.row c.col

namespace SheetView

variable {i : SheetInput} {t : Snapshot}

theorem ofInput_readsOld (o : Options) (h : i.old = some t) : (ofInput o i).ReadsOld i t := by
  have hsizes : i.sizes = ⟨⟨t.rowCount, t.colCount⟩, .ofSnapshot i.new⟩ := by
    rw [SheetInput.sizes, Sizes.ofSnapshots, h, Size.ofSnapshot]
  have hold : (ofInput o i).old = some t := h
  refine ⟨hold, ?_, ?_, ?_, ?_, ?_, ?_⟩
  · exact congrArg (fun s => s.old.rows) hsizes
  · exact congrArg (fun s => s.old.cols) hsizes
  · exact congrArg (fun old => Status.ofSheet i.alignment i.grid old i.new) h
  · intro hshown
    rw [← hsizes]
    exact if_neg (Bool.eq_false_iff.mp hshown)
  · intro p c hc
    rw [← Sheet.cell?_old hold]
    exact Sheet.cellAt_old hc
  · intro side row col c hc
    rw [← Sheet.cell?_old hold]
    exact Sheet.rawCellAt_old hc

theorem ofInput_readsOld_iff (o : Options) : (ofInput o i).ReadsOld i t ↔ i.old = some t :=
  ⟨fun h => h.snapshot, ofInput_readsOld o⟩

end SheetView

/-- The last operation of a report that renames a sheet to `name`, and the name before it. -/
def Report.LastRename (r : Report) (name source : String) : Prop :=
  ∃ before op after, r.ops = before ++ op :: after ∧ Payload.rename? r op = some (name, source) ∧
    ∀ later ∈ after, ∀ other, Payload.rename? r later ≠ some (name, other)

namespace Payload

variable {p : Payload} {f : Filters} {name source : String} {s : Snapshot}

theorem rename?_eq_some_iff {r : Report} {op : Op} :
    rename? r op = some (name, source) ↔ ∃ sheet ref target,
      op = .known (.grid sheet (.sheetRenamed ref target)) ∧ r.resolve sheet = name ∧
        r.resolve ref = source := by
  constructor
  · intro h
    rw [rename?.eq_def] at h
    split at h
    · rename_i sheet ref target
      cases h
      exact ⟨sheet, ref, target, rfl, rfl, rfl⟩
    · cases h
  · rintro ⟨sheet, ref, target, rfl, rfl, rfl⟩
    rfl

def oldNameBy? (r : Report) (name : String) (op : Op) : Option String :=
  (rename? r op).bind fun rename => if name = rename.1 then some rename.2 else none

theorem oldNameBy?_eq_some_iff {r : Report} {op : Op} :
    oldNameBy? r name op = some source ↔ rename? r op = some (name, source) := by
  rw [oldNameBy?]
  cases rename? r op with
  | none => simp
  | some rename => grind

theorem oldNameBy?_eq_none_iff {r : Report} {op : Op} :
    oldNameBy? r name op = none ↔ ∀ other, rename? r op ≠ some (name, other) := by
  rw [Option.eq_none_iff_forall_ne_some]
  exact forall_congr' fun other => not_congr oldNameBy?_eq_some_iff

theorem oldName?_eq_findSome? (p : Payload) (name : String) :
    p.oldName? name = p.report.ops.reverse.findSome? (oldNameBy? p.report name) := by
  rw [oldName?, ← List.filterMap_reverse, List.lookup_eq_findSome?]
  induction p.report.ops.reverse with
  | nil => rfl
  | cons op ops ih =>
      rw [List.filterMap_cons, List.findSome?_cons, oldNameBy?]
      cases rename? p.report op with
      | none => exact ih
      | some rename =>
          rw [List.findSome?_cons, ih]
          simp

theorem oldName?_eq_some_iff :
    p.oldName? name = some source ↔ p.report.LastRename name source := by
  rw [oldName?_eq_findSome?, findSome?_reverse_eq_some_iff, Report.LastRename]
  simp only [oldNameBy?_eq_some_iff, oldNameBy?_eq_none_iff]

theorem survives_of_rename? {l : Listed} (hl : p.report.ops[l.index]? = some l.op)
    (hrename : rename? p.report l.op = some (name, source)) : p.Survives f l := by
  obtain ⟨sheet, ref, target, hop, -, -⟩ := rename?_eq_some_iff.mp hrename
  refine ⟨hl, ?_, ?_⟩
  · rw [hop]
    rfl
  · intro _ id hid
    rw [hop] at hid
    cases hid

theorem mem_sheetNames_of_lastRename (f : Filters) (h : p.report.LastRename name source) :
    name ∈ p.sheetNames f := by
  obtain ⟨before, op, after, hops, hop, -⟩ := h
  have hl : p.report.ops[before.length]? = some op := by
    rw [hops, List.getElem?_append_right (Nat.le_refl _), Nat.sub_self, List.getElem?_cons_zero]
  refine mem_sheetNames.mpr ⟨⟨before.length, op⟩, ?_, ?_⟩
  · exact mem_keptOps.mpr (survives_of_rename? hl hop)
  · obtain ⟨sheet, ref, target, rfl, hsheet, -⟩ := rename?_eq_some_iff.mp hop
    exact congrArg some hsheet

theorem name_of_snapshot? {side : Side} (h : p.snapshot? side name = some s) : s.name = name := by
  simpa using List.find?_some h

/-- A snapshot under the new name goes before the one under the old name. -/
theorem underName?_snapshot?_eq_iff (hname : p.oldName? name = some source)
    (hs : p.snapshot? .old source = some s) :
    p.underName? (p.snapshot? .old) name = some s ↔
      name = source ∨ p.snapshot? .old name = none := by
  rw [underName?, hname, Option.bind_some, hs]
  cases ht : p.snapshot? .old name with
  | none => simp
  | some t =>
      -- Both snapshots have the names under which they are found, so they tell the names apart.
      rw [Option.some_or, Option.some_inj]
      constructor
      · rintro rfl
        exact .inl ((name_of_snapshot? ht).symm.trans (name_of_snapshot? hs))
      · rintro (rfl | h)
        · exact Option.some_inj.mp (ht.symm.trans hs)
        · cases h

end Payload

/-- A renamed sheet shows the snapshot under its old name just if there is no other one under its
new name. If there is, it shows that one. -/
theorem renamed_sheet_reads_old (p : Payload) (o : Options) {name source : String} {s : Snapshot}
    (h : p.report.LastRename name source) (hs : p.snapshot? .old source = some s) :
    ∃ v, SheetView.ofPayload? p o name = some v ∧
      (v.ReadsOld (p.sheetInput o.filters name) s ↔
        name = source ∨ p.snapshot? .old name = none) ∧
      ∀ t, p.snapshot? .old name = some t → v.ReadsOld (p.sheetInput o.filters name) t := by
  have hname := Payload.mem_sheetNames_of_lastRename o.filters h
  refine ⟨_, SheetView.ofPayload?_of_mem hname, ?_, ?_⟩
  · rw [SheetView.ofInput_readsOld_iff]
    exact Payload.underName?_snapshot?_eq_iff (Payload.oldName?_eq_some_iff.mpr h) hs
  · intro t ht
    apply SheetView.ofInput_readsOld o
    rw [Payload.sheetInput, Payload.underName?, ht, Option.some_or]

def snapshotOfCell (name text : String) : Snapshot :=
  ⟨name, 1, 1, [⟨0, 0, some text, none⟩], false, none, none, none⟩

def renamed (source target : String) : Op :=
  .known (.grid (.text target) (.sheetRenamed (.text source) none))

def alignmentOfCell (name : String) : Alignment :=
  ⟨name, [⟨some 0, some 0, .same, none⟩], [⟨some 0, some 0, .same, none⟩], [], false, none⟩

def swapped (old : List Snapshot) : Payload where
  report := ⟨none, [], [renamed "A" "B", renamed "B" "A"], true, []⟩
  old := old
  new := [snapshotOfCell "A" "b", snapshotOfCell "B" "a"]
  alignments := [alignmentOfCell "A", alignmentOfCell "B"]
  interests := []

theorem swapped_lastRename (old : List Snapshot) : (swapped old).report.LastRename "B" "A" := by
  refine ⟨[], renamed "A" "B", [renamed "B" "A"], rfl, rfl, ?_⟩
  intro later hlater other
  obtain rfl := List.mem_singleton.mp hlater
  simp [renamed, Payload.rename?, Report.resolve, Ref.resolve]

def SheetView.oldText? (v : SheetView) (place : Place) : Option String := do
  (← (← (v.cellAt place).old).cell).value

theorem renamed_sheet_reads_old_of_swapped :
    ∃ v, SheetView.ofPayload? (swapped [snapshotOfCell "A" "a"]) .default "B" = some v ∧
      v.ReadsOld ((swapped [snapshotOfCell "A" "a"]).sheetInput Options.default.filters "B")
        (snapshotOfCell "A" "a") ∧
      v.oldText? ⟨0, 0⟩ = some "a" := by
  obtain ⟨v, hv, hreads, -⟩ := renamed_sheet_reads_old (swapped [snapshotOfCell "A" "a"]) .default
    (swapped_lastRename _) (s := snapshotOfCell "A" "a") rfl
  refine ⟨v, hv, hreads.mpr (.inr rfl), ?_⟩
  cases hv
  rfl

/-- If both sheets are in the old workbook, one shows the cells that became those of the other. -/
theorem not_renamed_sheet_reads_old :
    let old := [snapshotOfCell "A" "a", snapshotOfCell "B" "b"]
    ((SheetView.ofPayload? (swapped old) .default "B").bind (·.oldText? ⟨0, 0⟩) = some "b") ∧
      ¬∀ (p : Payload) (o : Options) (name source : String) (s : Snapshot) (v : SheetView),
        p.report.LastRename name source → p.snapshot? .old source = some s →
        SheetView.ofPayload? p o name = some v →
        v.ReadsOld (p.sheetInput o.filters name) s := by
  refine ⟨rfl, ?_⟩
  intro h
  have hreads := h (swapped [snapshotOfCell "A" "a", snapshotOfCell "B" "b"]) .default "B" "A"
    (snapshotOfCell "A" "a") _ (swapped_lastRename _) rfl rfl
  exact absurd hreads.snapshot (by decide)

end DiffView
