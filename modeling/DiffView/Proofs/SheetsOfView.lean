import DiffView.Proofs.Sorting
import DiffView.Proofs.Survivors
import DiffView.Workbook.View

namespace DiffView

namespace Payload

variable {p : Payload} {f : Filters} {name : String}

@[simp] theorem mem_sheetNames :
    name ∈ p.sheetNames f ↔ ∃ l ∈ p.keptOps f, l.sheetName? p.report = some name := by
  rw [sheetNames, mem_ascending, List.mem_filterMap]

@[simp] theorem mem_sheetOps {l : Listed} :
    l ∈ p.sheetOps f name ↔ l ∈ p.keptOps f ∧ l.sheetName? p.report = some name := by
  rw [sheetOps, List.mem_filter, decide_eq_true_eq]

theorem sheetNames_nodup (p : Payload) (f : Filters) : (p.sheetNames f).Nodup := ascending_nodup _

theorem sheetOps_inOrder (p : Payload) (f : Filters) (name : String) :
    Listed.InOrder (p.sheetOps f name) :=
  (p.keptOps_inOrder f).sublist List.filter_sublist

theorem sheetOps_eq_nil_iff : p.sheetOps f name = [] ↔ name ∉ p.sheetNames f := by
  rw [mem_sheetNames, List.eq_nil_iff_forall_not_mem]
  simp

end Payload

namespace SheetView

variable {p : Payload} {o : Options} {name : String}

theorem ofPayload?_of_mem (h : name ∈ p.sheetNames o.filters) :
    ofPayload? p o name = some (ofInput o (p.sheetInput o.filters name)) := by
  have hops : p.sheetOps o.filters name ≠ [] := by simpa [Payload.sheetOps_eq_nil_iff] using h
  rw [ofPayload?, if_neg (by simpa using hops)]

end SheetView

namespace WorkbookView

theorem sheets_ofPayload (p : Payload) (o : Options) : (ofPayload p o).sheets =
    sortBy SheetView.compare ((p.sheetNames o.filters).map fun name =>
      SheetView.ofInput o (p.sheetInput o.filters name)) := by
  have h : (p.sheetNames o.filters).filterMap (SheetView.ofPayload? p o) =
      (p.sheetNames o.filters).map fun name =>
        SheetView.ofInput o (p.sheetInput o.filters name) := by
    rw [← List.filterMap_eq_map]
    exact List.filterMap_congr fun name hname => SheetView.ofPayload?_of_mem hname
  rw [ofPayload, h]

theorem sheets_perm (p : Payload) (o : Options) :
    (ofPayload p o).sheets.Perm ((p.sheetNames o.filters).map fun name =>
      SheetView.ofInput o (p.sheetInput o.filters name)) := by
  rw [sheets_ofPayload]
  exact sortBy_perm SheetView.compare _

@[simp] theorem mem_sheets {p : Payload} {o : Options} {v : SheetView} :
    v ∈ (ofPayload p o).sheets ↔ ∃ name ∈ p.sheetNames o.filters,
      v = SheetView.ofInput o (p.sheetInput o.filters name) := by
  rw [(sheets_perm p o).mem_iff, List.mem_map]
  simp only [eq_comm]

theorem names_perm (p : Payload) (o : Options) :
    ((ofPayload p o).sheets.map (·.name)).Perm (p.sheetNames o.filters) := by
  have h := (sheets_perm p o).map (·.name)
  rw [List.map_map] at h
  exact h.trans (.of_eq (List.map_id _))

end WorkbookView

end DiffView
