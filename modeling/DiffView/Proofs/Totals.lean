import DiffView.Proofs.Appearances
import DiffView.Proofs.ReadsBack
import DiffView.Proofs.Tallies
import DiffView.Workbook.Json

namespace DiffView

namespace SheetView

structure SumsUp (v : SheetView) : Prop where
  opCount : v.opCount = v.entries.length
  changeCounts (c : ChangeType) :
    v.changeCounts.of c = v.entries.countP fun e => e.traits.changeType = c
  severityCounts (s : Severity) :
    v.severityCounts.of s = v.entries.countP fun e => e.traits.severity = s
  severity : ∃ s, v.severity? = some s ∧ (∃ e ∈ v.entries, e.traits.severity = s) ∧
    ∀ e ∈ v.entries, e.traits.severity.rank ≤ s.rank
  ascends : v.categories.Pairwise fun c d => c.rank < d.rank
  mem_categories (c : Category) : c ∈ v.categories ↔ ∃ e ∈ v.entries, e.traits.category = c

theorem countP_traits (v : SheetView) (f : Traits → Bool) :
    v.traits.countP f = v.entries.countP fun e => f e.traits := List.countP_map

theorem sumsUp {v : SheetView} (h : v.entries ≠ []) : v.SumsUp where
  opCount := rfl
  changeCounts c := by rw [changeCounts, ChangeCounts.of_ofTraits, countP_traits]
  severityCounts s := by rw [severityCounts, SeverityCounts.of_ofTraits, countP_traits]
  severity := by
    have htraits : v.traits ≠ [] := by simpa [traits] using h
    obtain ⟨s, hs⟩ := SeverityCounts.exists_max?_ofTraits htraits
    refine ⟨s, hs, ?_⟩
    simpa [traits] using SeverityCounts.max?_ofTraits_eq_some_iff.mp hs
  ascends := Category.ofTraits_pairwise v.traits
  mem_categories c := by
    rw [categories, Category.mem_ofTraits]
    simp [traits]

end SheetView

namespace WorkbookView

/-- A workbook counts what its sheets count, and each of its artifacts once: under its type of
change, under its severity and under its category. -/
structure AddsUp (w : WorkbookView) : Prop where
  opCount : w.opCount = (w.sheets.map fun v => v.opCount).sum + w.artifacts.length
  changeCounts (c : ChangeType) : w.changeCounts.of c =
    (w.sheets.map fun v => v.changeCounts.of c).sum +
      w.artifacts.countP fun a => a.traits.changeType = c
  severityCounts (s : Severity) : w.severityCounts.of s =
    (w.sheets.map fun v => v.severityCounts.of s).sum +
      w.artifacts.countP fun a => a.traits.severity = s
  categoryCounts (c : Category) : w.categoryCounts.of c =
    (w.sheets.map fun v => v.entries.countP fun e => e.traits.category = c).sum +
      w.artifacts.countP fun a => a.traits.category = c

structure IsAnalysed (w : WorkbookView) : Prop where
  opCount : w.analysisJson.member? "opCount" = some (.nat w.opCount)
  changeCounts : w.analysisJson.member? "counts" = some w.changeCounts.toJson
  viewCounts : w.toJson.member? "counts" = some w.changeCounts.toJson
  severityCounts : w.analysisJson.member? "severity" = some w.severityCounts.toJson
  categoryCounts : w.analysisJson.member? "categories" = some w.categoryCounts.toJson
  breakdown : w.analysisJson.member? "categoryBreakdown" =
    Json.Value.unlessEmpty (w.breakdown.map breakdownJson)

/-- The rows of the breakdown of a workbook are for the categories of some operations, and their
totals are the counts of these categories. -/
structure BreaksDown (w : WorkbookView) (among : Listed → Prop) : Prop where
  ascends : (w.breakdown.map fun row => row.1).Pairwise fun c d => c.rank < d.rank
  mem_iff : ∀ c, c ∈ (w.breakdown.map fun row => row.1) ↔ ∃ l, among l ∧ l.op.traits.category = c
  total : ∀ row ∈ w.breakdown, row.2.total = w.categoryCounts.of row.1
  sum_total : (w.breakdown.map fun row => row.2.total).sum = w.opCount

theorem traits_perm (p : Payload) (o : Options) :
    (ofPayload p o).traits.Perm (((ofPayload p o).sheets.flatMap fun v => v.traits) ++
      (ofPayload p o).artifacts.map fun a => a.traits) := by
  apply List.Perm.symm
  apply parts_perm
  · exact fun _ => List.map_map ..
  · exact fun _ _ => rfl

theorem countP_traits (p : Payload) (o : Options) (f : Traits → Bool) :
    (ofPayload p o).traits.countP f =
      ((ofPayload p o).sheets.map fun v => v.traits.countP f).sum +
        (ofPayload p o).artifacts.countP fun a => f a.traits := by
  rw [(traits_perm p o).countP_eq, List.countP_append, List.countP_flatMap, List.countP_map]
  rfl

theorem addsUp (p : Payload) (o : Options) : (ofPayload p o).AddsUp where
  opCount := by
    have h := countP_traits p o fun _ => true
    simp only [List.countP_true, SheetView.traits, List.length_map] at h
    exact h
  changeCounts c := by
    simp only [changeCounts, SheetView.changeCounts, ChangeCounts.of_ofTraits]
    exact countP_traits p o _
  severityCounts s := by
    simp only [severityCounts, SheetView.severityCounts, SeverityCounts.of_ofTraits]
    exact countP_traits p o _
  categoryCounts c := by
    rw [categoryCounts, CategoryCounts.of_ofTraits, countP_traits]
    simp only [SheetView.countP_traits]

theorem isAnalysed (w : WorkbookView) : w.IsAnalysed where
  opCount := rfl
  changeCounts := rfl
  viewCounts := rfl
  severityCounts := Json.Value.member?_ofMembers (by simp) (by simp)
  categoryCounts := rfl
  breakdown := Json.Value.member?_ofMembers (by simp) (by simp)

theorem breakdown_categories (w : WorkbookView) :
    (w.breakdown.map fun row => row.1) = Category.ofTraits w.traits := by
  rw [breakdown, List.map_map]
  exact List.map_id _

theorem breakdown_totals (w : WorkbookView) : (w.breakdown.map fun row => row.2.total) =
    (Category.ofTraits w.traits).map fun c =>
      (w.traits.filter fun t => t.category = c).length := by
  rw [breakdown, List.map_map]
  exact List.map_congr_left fun c _ => SeverityCounts.total_ofTraits _

theorem breaksDown (p : Payload) (o : Options) :
    (ofPayload p o).BreaksDown (p.Survives o.filters) where
  ascends := by
    rw [breakdown_categories]
    exact Category.ofTraits_pairwise _
  mem_iff c := by
    rw [breakdown_categories, Category.mem_ofTraits]
    simp [ofPayload]
  total row hrow := by
    obtain ⟨c, -, rfl⟩ := List.mem_map.mp hrow
    rw [SeverityCounts.total_ofTraits, categoryCounts, CategoryCounts.of_ofTraits,
      List.countP_eq_length_filter]
  sum_total := by
    rw [breakdown_totals]
    exact Category.sum_ofTraits _

theorem entries_ne_nil {p : Payload} {o : Options} {v : SheetView}
    (hv : v ∈ (ofPayload p o).sheets) : v.entries ≠ [] := by
  obtain ⟨name, hname, rfl⟩ := mem_sheets.mp hv
  intro hentries
  have hops : p.sheetOps o.filters name = [] := List.map_eq_nil_iff.mp hentries
  exact Payload.sheetOps_eq_nil_iff.mp hops hname

end WorkbookView

/-- The figures of the analysis of a workbook, its breakdown by categories and the figures of each
sheet agree: they all count the operations that survive the filters. -/
theorem totals_agree (p : Payload) (o : Options) :
    let w := WorkbookView.ofPayload p o
    w.AddsUp ∧ w.IsAnalysed ∧ w.BreaksDown (p.Survives o.filters) ∧ ∀ v ∈ w.sheets, v.SumsUp := by
  refine ⟨WorkbookView.addsUp p o, WorkbookView.isAnalysed _, WorkbookView.breaksDown p o, ?_⟩
  intro v hv
  exact SheetView.sumsUp (WorkbookView.entries_ne_nil hv)

end DiffView
