import DiffView.Proofs.RenamedSheets

namespace DiffView

def Report.renames (r : Report) : List (String × String) := r.ops.filterMap (Payload.rename? r)

theorem Report.LastRename.mem_renames {r : Report} {name source : String}
    (h : r.LastRename name source) : (name, source) ∈ r.renames := by
  obtain ⟨before, op, after, hops, hop, -⟩ := h
  apply List.mem_filterMap.mpr
  exact ⟨op, by simp [hops], hop⟩

theorem Report.LastRename.eq_of_source {r : Report} (hsources : (r.renames.map (·.2)).Nodup)
    {name name' source : String} (h : r.LastRename name source) (h' : r.LastRename name' source) :
    name = name' := by
  have heq := List.inj_on_of_nodup_map hsources h.mem_renames h'.mem_renames rfl
  exact congrArg Prod.fst heq

namespace Payload

variable {p : Payload} {f : Filters} {name name' : String} {s : Snapshot}

theorem sheetInput_old_eq_some_iff : (p.sheetInput f name).old = some s ↔
    p.snapshot? .old name = some s ∨
      p.snapshot? .old name = none ∧ ∃ source, p.report.LastRename name source ∧
        p.snapshot? .old source = some s := by
  change p.underName? (p.snapshot? .old) name = some s ↔ _
  simp only [underName?, Option.or_eq_some_iff, Option.bind_eq_some_iff, oldName?_eq_some_iff]

/-- The old snapshot under one name is that of a sheet with another name: the sheet was renamed, and
there is no snapshot under its new name. -/
structure PassesOn (p : Payload) (source target : String) : Prop where
  rename : p.report.LastRename target source
  old : (p.snapshot? .old source).isSome
  new : p.snapshot? .old target = none

theorem passesOn_of_old_eq (hsources : (p.report.renames.map (·.2)).Nodup) (hne : name ≠ name')
    (h : (p.sheetInput f name).old = some s) (h' : (p.sheetInput f name').old = some s) :
    p.PassesOn name name' ∨ p.PassesOn name' name := by
  -- A sheet finds a snapshot under its own name or under its old one; two sheets differ in this.
  rcases sheetInput_old_eq_some_iff.mp h with h | ⟨hnone, source, hlast, h⟩
  · rcases sheetInput_old_eq_some_iff.mp h' with h' | ⟨hnone, source, hlast, h'⟩
    · exact absurd ((name_of_snapshot? h).symm.trans (name_of_snapshot? h')) hne
    · obtain rfl := (name_of_snapshot? h').symm.trans (name_of_snapshot? h)
      exact .inl ⟨hlast, Option.isSome_of_eq_some h', hnone⟩
  · rcases sheetInput_old_eq_some_iff.mp h' with h' | ⟨hnone', source', hlast', h'⟩
    · obtain rfl := (name_of_snapshot? h).symm.trans (name_of_snapshot? h')
      exact .inr ⟨hlast, Option.isSome_of_eq_some h, hnone⟩
    · obtain rfl := (name_of_snapshot? h).symm.trans (name_of_snapshot? h')
      exact absurd (hlast.eq_of_source hsources hlast') hne

theorem PassesOn.exists_old (f : Filters) (h : p.PassesOn name name') :
    ∃ s, (p.sheetInput f name).old = some s ∧ (p.sheetInput f name').old = some s := by
  obtain ⟨s, hs⟩ := Option.isSome_iff_exists.mp h.old
  refine ⟨s, sheetInput_old_eq_some_iff.mpr (.inl hs), ?_⟩
  exact sheetInput_old_eq_some_iff.mpr (.inr ⟨h.new, name, h.rename, hs⟩)

theorem PassesOn.ne (h : p.PassesOn name name') : name ≠ name' := by
  rintro rfl
  have hold := h.old
  rw [h.new] at hold
  cases hold

end Payload

def Payload.SharesOld (p : Payload) (o : Options) : Prop :=
  ∃ v ∈ (WorkbookView.ofPayload p o).sheets, ∃ w ∈ (WorkbookView.ofPayload p o).sheets,
    v.name ≠ w.name ∧ ∃ s, v.ReadsOld (p.sheetInput o.filters v.name) s ∧
      w.ReadsOld (p.sheetInput o.filters w.name) s

/-- Where no two renames have one old name, two sheets show one old snapshot just if there is a
sheet with operations under the old name of a renamed sheet, and no old snapshot under its new
name. -/
theorem old_snapshot_shared_iff (p : Payload) (o : Options)
    (hsources : (p.report.renames.map (·.2)).Nodup) :
    p.SharesOld o ↔ ∃ source ∈ p.sheetNames o.filters, ∃ target, p.PassesOn source target := by
  constructor
  · rintro ⟨v, hv, w, hw, hne, s, hreads, hreads'⟩
    obtain ⟨name, hname, rfl⟩ := WorkbookView.mem_sheets.mp hv
    obtain ⟨name', hname', rfl⟩ := WorkbookView.mem_sheets.mp hw
    have hold : (p.sheetInput o.filters name).old = some s := hreads.snapshot
    have hold' : (p.sheetInput o.filters name').old = some s := hreads'.snapshot
    rcases Payload.passesOn_of_old_eq hsources hne hold hold' with h | h
    · exact ⟨name, hname, name', h⟩
    · exact ⟨name', hname', name, h⟩
  · rintro ⟨source, hsource, target, h⟩
    have htarget := Payload.mem_sheetNames_of_lastRename o.filters h.rename
    obtain ⟨s, hs, hs'⟩ := h.exists_old o.filters
    refine ⟨_, WorkbookView.mem_sheets.mpr ⟨source, hsource, rfl⟩, _,
      WorkbookView.mem_sheets.mpr ⟨target, htarget, rfl⟩, h.ne, s, ?_, ?_⟩
    · exact SheetView.ofInput_readsOld o hs
    · exact SheetView.ofInput_readsOld o hs'

def replaced : Payload where
  report := ⟨none, [], [renamed "A" "B", .known (.grid (.text "A") .sheetAdded)], true, []⟩
  old := [snapshotOfCell "A" "a"]
  new := [snapshotOfCell "A" "c", snapshotOfCell "B" "a"]
  alignments := [alignmentOfCell "A", alignmentOfCell "B"]
  interests := []

theorem old_snapshot_shared_iff_of_replaced :
    (replaced.report.renames.map (·.2)).Nodup ∧ replaced.SharesOld .default := by
  have hsources : (replaced.report.renames.map (·.2)).Nodup := by decide
  refine ⟨hsources, (old_snapshot_shared_iff replaced .default hsources).mpr ?_⟩
  refine ⟨"A", by decide, "B", ?_, rfl, rfl⟩
  exact Payload.oldName?_eq_some_iff.mp rfl

def chained : Payload where
  report := ⟨none, [], [renamed "A" "B", renamed "B" "C"], true, []⟩
  old := [snapshotOfCell "A" "a", snapshotOfCell "B" "b"]
  new := [snapshotOfCell "B" "a", snapshotOfCell "C" "b"]
  alignments := [alignmentOfCell "B", alignmentOfCell "C"]
  interests := []

/-- Both sheets show the cell that only the second one had, although each of them has a name of its
own, before and after. -/
theorem not_old_snapshots_apart :
    (["B", "C"].map fun name =>
      (SheetView.ofPayload? chained .default name).bind (·.oldText? ⟨0, 0⟩)) =
        [some "b", some "b"] ∧
    ¬∀ (p : Payload) (o : Options), (p.old.map (·.name)).Nodup → (p.new.map (·.name)).Nodup →
      (p.report.renames.map (·.2)).Nodup → (p.report.renames.map (·.1)).Nodup →
      ¬p.SharesOld o := by
  refine ⟨rfl, ?_⟩
  intro h
  apply h chained .default (by decide) (by decide) (by decide) (by decide)
  refine ⟨_, WorkbookView.mem_sheets.mpr ⟨"B", by decide, rfl⟩, _,
    WorkbookView.mem_sheets.mpr ⟨"C", by decide, rfl⟩, by decide, snapshotOfCell "B" "b", ?_, ?_⟩
  · exact SheetView.ofInput_readsOld .default rfl
  · exact SheetView.ofInput_readsOld .default rfl

end DiffView
