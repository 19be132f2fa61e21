import DiffView.Proofs.Renumbering
import DiffView.Proofs.SheetsOfView

namespace DiffView

@[simp] theorem Filters.none_hides (op : Op) : Filters.none.hides op = false := by
  rw [hides.eq_def]
  split <;> rfl

@[simp] theorem Listed.kept_none (ls : List Listed) : kept .none ls = ls := by
  have hshown : ls.filter (fun l => !Filters.none.hides l.op) = ls :=
    List.filter_eq_self.mpr fun l _ => by rw [Filters.none_hides, Bool.not_false]
  rw [kept, hshown]
  exact if_neg Bool.false_ne_true

namespace Payload

variable {r : Report} {f : Filters} {op : Op}

theorem rename?_of_hides (h : f.hides op) : rename? r op = none := by
  rw [rename?.eq_def]
  split
  · cases h
  · rfl

theorem rename?_of_moveId? {id : String} (h : op.moveId? = some id) : rename? r op = none := by
  obtain ⟨b, hb, -⟩ := Option.map_eq_some_iff.mp h
  obtain ⟨sheet, hash, rfl⟩ := Op.block?_eq_some_iff.mp hb
  rfl

theorem filterMap_rename?_firstMoves (seen : List String) (ls : List Listed) :
    (Listed.firstMoves seen ls).filterMap (fun l => rename? r l.op) =
      ls.filterMap fun l => rename? r l.op := by
  induction ls generalizing seen with
  | nil => rfl
  | cons l ls ih =>
      rw [Listed.firstMoves_cons]
      split
      · rename_i id hid
        split
        · rw [ih, List.filterMap_cons, rename?_of_moveId? hid]
        · rw [List.filterMap_cons, List.filterMap_cons, ih]
      · rw [List.filterMap_cons, List.filterMap_cons, ih]

theorem filterMap_rename?_kept (f : Filters) (ls : List Listed) :
    (Listed.kept f ls).filterMap (fun l => rename? r l.op) =
      ls.filterMap fun l => rename? r l.op := by
  have hshown : (ls.filter fun l => !f.hides l.op).filterMap (fun l => rename? r l.op) =
      ls.filterMap fun l => rename? r l.op := by
    rw [List.filterMap_filter]
    apply List.filterMap_congr
    intro l _
    split
    · rfl
    · rename_i h
      exact (rename?_of_hides (by simpa using h)).symm
  rw [Listed.kept]
  split
  · rw [filterMap_rename?_firstMoves, hshown]
  · exact hshown

variable {p : Payload} {name : String}

def only (p : Payload) (f : Filters) : Payload :=
  { p with report := { p.report with ops := (p.keptOps f).map fun l => l.op } }

/-- The index in the report of the `n`-th operation that is kept. -/
def keptIndex (p : Payload) (f : Filters) (n : Nat) : Nat :=
  ((p.keptOps f)[n]?.map fun l => l.index).getD 0

theorem keptIndex_eq {n : Nat} {l : Listed} (h : (p.keptOps f)[n]? = some l) :
    p.keptIndex f n = l.index := by
  rw [keptIndex, h]
  rfl

theorem getElem?_keptIndex {n : Nat} {op : Op} (h : (p.only f).report.ops[n]? = some op) :
    p.report.ops[p.keptIndex f n]? = some op := by
  rw [only, List.getElem?_map, Option.map_eq_some_iff] at h
  obtain ⟨l, hl, rfl⟩ := h
  rw [keptIndex_eq hl]
  exact (mem_keptOps.mp (List.mem_of_getElem? hl)).listed

theorem keptIndex_lt {m n : Nat} (h : m < n) (hn : n < (p.only f).report.ops.length) :
    p.keptIndex f m < p.keptIndex f n := by
  rw [only, List.length_map] at hn
  have horder := List.pairwise_iff_getElem.mp (p.keptOps_inOrder f) m n (h.trans hn) hn h
  rwa [keptIndex_eq (List.getElem?_eq_getElem (h.trans hn)),
    keptIndex_eq (List.getElem?_eq_getElem hn)]

theorem keptOps_only (p : Payload) (f : Filters) :
    p.keptOps f = ((p.only f).keptOps .none).map (Listed.renumber (p.keptIndex f)) := by
  have hall : (p.only f).keptOps .none = Listed.ofReport (p.only f).report := Listed.kept_none _
  rw [hall, Listed.ofReport]
  apply List.ext_getElem?
  intro n
  rw [List.getElem?_map, List.getElem?_mapIdx, only, List.getElem?_map]
  cases h : (p.keptOps f)[n]? with
  | none => rfl
  | some l =>
      have hl : l = (Listed.mk n l.op).renumber (p.keptIndex f) := by
        rw [Listed.renumber, keptIndex_eq h]
      exact congrArg some hl

@[simp] theorem ops_ofReport (r : Report) : (Listed.ofReport r).map (fun l => l.op) = r.ops := by
  apply List.ext_getElem?
  intro n
  rw [List.getElem?_map, Listed.ofReport, List.getElem?_mapIdx]
  cases r.ops[n]? <;> rfl

@[simp] theorem oldName?_only (p : Payload) (f : Filters) (name : String) :
    (p.only f).oldName? name = p.oldName? name := by
  have hrenames : (p.only f).report.ops.filterMap (rename? (p.only f).report) =
      p.report.ops.filterMap (rename? p.report) := by
    calc
      _ = (p.keptOps f).filterMap fun l => rename? p.report l.op := List.filterMap_map
      _ = (Listed.ofReport p.report).filterMap fun l => rename? p.report l.op :=
          filterMap_rename?_kept f _
      _ = ((Listed.ofReport p.report).map fun l => l.op).filterMap (rename? p.report) := by
          rw [List.filterMap_map]
          rfl
      _ = _ := by rw [ops_ofReport]
  rw [oldName?, oldName?, hrenames]

theorem sheetNames_only (p : Payload) (f : Filters) :
    p.sheetNames f = (p.only f).sheetNames .none := by
  rw [sheetNames, keptOps_only, List.filterMap_map]
  rfl

theorem sheetOps_only (p : Payload) (f : Filters) (name : String) : p.sheetOps f name =
    ((p.only f).sheetOps .none name).map (Listed.renumber (p.keptIndex f)) := by
  rw [sheetOps, keptOps_only, List.filter_map]
  rfl

theorem workbookOps_only (p : Payload) (f : Filters) : p.workbookOps f =
    ((p.only f).workbookOps .none).map (Listed.renumber (p.keptIndex f)) := by
  rw [workbookOps, keptOps_only, List.filter_map]
  rfl

theorem sheetInput_only (p : Payload) (f : Filters) (name : String) : p.sheetInput f name =
    ((p.only f).sheetInput .none name).renumber (p.keptIndex f) p.report.ops := by
  rw [sheetInput, sheetInput, SheetInput.renumber, underName?, underName?, underName?, underName?,
    underName?, underName?, oldName?_only, sheetOps_only]
  rfl

end Payload

def Artifact.renumber (number : Nat → Nat) (a : Artifact) : Artifact :=
  { a with id := s!"{a.kind}-{number a.index}", index := number a.index }

theorem Bucket.sort_renumber (number : Nat → Nat) (as : List Artifact) :
    sort (as.map (Artifact.renumber number)) = (sort as).map (Artifact.renumber number) := by
  rw [sort, sort, List.map_flatMap]
  apply List.flatMap_congr
  intro b _
  rw [List.filter_map]
  rfl

/-- Two views of a workbook are the same, but for the indices of their operations. -/
structure WorkbookView.SameUpTo (number : Nat → Nat) (v w : WorkbookView) : Prop where
  opCount : v.opCount = w.opCount
  changeCounts : v.changeCounts = w.changeCounts
  severityCounts : v.severityCounts = w.severityCounts
  categoryCounts : v.categoryCounts = w.categoryCounts
  breakdown : v.breakdown = w.breakdown
  sheets : List.Forall₂ (SheetView.SameUpTo number) v.sheets w.sheets
  topSheets : v.topSheets = w.topSheets
  artifacts : v.artifacts = w.artifacts.map (Artifact.renumber number)

namespace WorkbookView

theorem traits_only (p : Payload) (o : Options) :
    (ofPayload p o).traits = (ofPayload (p.only o.filters) o.unfiltered).traits := by
  change (p.keptOps o.filters).map _ = _
  rw [Payload.keptOps_only, List.map_map]
  rfl

theorem artifacts_only (p : Payload) (o : Options) : (ofPayload p o).artifacts =
    (ofPayload (p.only o.filters) o.unfiltered).artifacts.map
      (Artifact.renumber (p.keptIndex o.filters)) := by
  change Bucket.sort ((p.workbookOps o.filters).map _) = (Bucket.sort _).map _
  rw [Payload.workbookOps_only, ← Bucket.sort_renumber, List.map_map, List.map_map]
  rfl

theorem compare_of_sameUpTo {number : Nat → Nat} (v v' w w' : SheetView)
    (h : v.SameUpTo number w) (h' : v'.SameUpTo number w') :
    SheetView.compare v v' = SheetView.compare w w' := by
  rw [SheetView.compare, SheetView.compare, SheetView.severityRank, SheetView.severityRank,
    SheetView.severityRank, SheetView.severityRank, h.severity, h'.severity, h.opCount,
    h'.opCount, h.name, h'.name]

theorem sheets_only (p : Payload) (o : Options) :
    List.Forall₂ (SheetView.SameUpTo (p.keptIndex o.filters)) (ofPayload p o).sheets
      (ofPayload (p.only o.filters) o.unfiltered).sheets := by
  rw [sheets_ofPayload, sheets_ofPayload]
  apply forall₂_sortBy compare_of_sameUpTo
  rw [Payload.sheetNames_only, List.forall₂_map_left_iff, List.forall₂_map_right_iff]
  apply List.forall₂_same.mpr
  intro name _
  rw [Payload.sheetInput_only]
  exact SheetView.sameUpTo_renumber o _ _ _

end WorkbookView

/-- With some filters, a payload has the view that the operations which they keep have without any
filter, but for the indices of the operations, which are those in the whole report. -/
theorem filters_leave_no_trace (p : Payload) (o : Options) :
    (WorkbookView.ofPayload p o).SameUpTo (p.keptIndex o.filters)
        (WorkbookView.ofPayload (p.only o.filters) o.unfiltered) ∧
      (∀ n op, (p.only o.filters).report.ops[n]? = some op →
        p.report.ops[p.keptIndex o.filters n]? = some op) ∧
      ∀ m n, m < n → n < (p.only o.filters).report.ops.length →
        p.keptIndex o.filters m < p.keptIndex o.filters n := by
  have htraits := WorkbookView.traits_only p o
  have hsheets := WorkbookView.sheets_only p o
  have hnames : (WorkbookView.ofPayload p o).sheets.map (·.name) =
      (WorkbookView.ofPayload (p.only o.filters) o.unfiltered).sheets.map (·.name) := by
    rw [← List.forall₂_eq_eq_eq, List.forall₂_map_left_iff, List.forall₂_map_right_iff]
    exact hsheets.imp fun v w h => h.name
  refine ⟨?_, fun n op => Payload.getElem?_keptIndex, fun m n => Payload.keptIndex_lt⟩
  exact {
    opCount := by rw [WorkbookView.opCount, WorkbookView.opCount, htraits]
    changeCounts := by rw [WorkbookView.changeCounts, WorkbookView.changeCounts, htraits]
    severityCounts := by rw [WorkbookView.severityCounts, WorkbookView.severityCounts, htraits]
    categoryCounts := by rw [WorkbookView.categoryCounts, WorkbookView.categoryCounts, htraits]
    breakdown := by rw [WorkbookView.breakdown, WorkbookView.breakdown, htraits]
    sheets := hsheets
    topSheets := by
      rw [WorkbookView.topSheets, WorkbookView.topSheets, List.map_take, List.map_take, hnames]
    artifacts := WorkbookView.artifacts_only p o }

end DiffView
