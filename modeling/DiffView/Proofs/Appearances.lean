import DiffView.Proofs.Lists
import DiffView.Proofs.SheetsOfView
import Mathlib.Data.List.Nodup

namespace DiffView

/-- What a view says of an operation: where it lists it, with which index and as which kind. -/
inductive Appearance
  | entry (sheet : String) (index : Nat) (kind : String)
  | artifact (bucket : Bucket) (index : Nat) (kind : String)
  deriving DecidableEq, Repr

namespace Appearance

def ofEntry (sheet : String) (e : Entry) : Appearance := .entry sheet e.index e.kind

def ofArtifact (a : Artifact) : Appearance := .artifact a.bucket a.index a.kind

/-- Where an operation belongs. -/
def ofListed (r : Report) (l : Listed) : Appearance :=
  match l.sheetName? r with
  | some name => .entry name l.index l.op.kindName
  | none => .artifact (.ofOp l.op) l.index l.op.kindName

end Appearance

theorem Appearance.ofEntry_ofOp {r : Report} {l : Listed} {name : String}
    (h : l.sheetName? r = some name) (g : Grid) :
    Appearance.ofEntry name (Entry.ofOp r g l) = Appearance.ofListed r l := by
  rw [Appearance.ofListed, h]
  rfl

theorem Appearance.ofArtifact_ofOp {r : Report} {l : Listed} (h : l.sheetName? r = none) :
    Appearance.ofArtifact (Artifact.ofOp r l) = Appearance.ofListed r l := by
  rw [Appearance.ofListed, h]
  rfl

theorem Bucket.sort_perm (as : List Artifact) : (Bucket.sort as).Perm as := by
  have hall : ∀ a ∈ as, true ↔ a.bucket ∈ Bucket.all := by
    intro a _
    cases a.bucket <;> decide
  have h := flatMap_filter_perm (fun a : Artifact => a.bucket) (by decide) hall
  rwa [List.filter_true] at h

namespace Payload

theorem flatMap_sheetOps_perm (p : Payload) (f : Filters) :
    ((p.sheetNames f).flatMap (p.sheetOps f)).Perm
      ((p.keptOps f).filter fun l => (l.sheetName? p.report).isSome) := by
  have hnodup : ((p.sheetNames f).map some).Nodup :=
    (p.sheetNames_nodup f).map fun _ _ => Option.some.inj
  have hkeys : ∀ l ∈ p.keptOps f, (l.sheetName? p.report).isSome ↔
      l.sheetName? p.report ∈ (p.sheetNames f).map some := by
    intro l hl
    rw [Option.isSome_iff_exists, List.mem_map]
    constructor
    · rintro ⟨name, hname⟩
      exact ⟨name, mem_sheetNames.mpr ⟨l, hl, hname⟩, hname.symm⟩
    · rintro ⟨name, -, hname⟩
      exact ⟨name, hname.symm⟩
  have h := flatMap_filter_perm (Listed.sheetName? p.report) hnodup hkeys
  rwa [List.flatMap_map] at h

end Payload

namespace WorkbookView

def entryAppearances (w : WorkbookView) : List Appearance :=
  w.sheets.flatMap fun v => v.entries.map (Appearance.ofEntry v.name)

def appearances (w : WorkbookView) : List Appearance :=
  w.entryAppearances ++ w.artifacts.map Appearance.ofArtifact

section Parts

variable {β : Type} {p : Payload} {o : Options} {ofListed : Listed → β}

theorem flatMap_sheets_perm {ofSheet : SheetView → List β}
    (h : ∀ name, ofSheet (SheetView.ofInput o (p.sheetInput o.filters name)) =
      (p.sheetOps o.filters name).map ofListed) :
    ((ofPayload p o).sheets.flatMap ofSheet).Perm
      (((p.keptOps o.filters).filter fun l => (l.sheetName? p.report).isSome).map ofListed) := by
  have hsheets := (sheets_perm p o).flatMap_right ofSheet
  rw [List.flatMap_map] at hsheets
  apply hsheets.trans
  refine List.Perm.trans (.of_eq ?_) ((p.flatMap_sheetOps_perm o.filters).map _)
  rw [List.map_flatMap]
  exact List.flatMap_congr fun name _ => h name

theorem map_artifacts_perm {ofArtifact : Artifact → β}
    (h : ∀ l, l.sheetName? p.report = none → ofArtifact (Artifact.ofOp p.report l) = ofListed l) :
    ((ofPayload p o).artifacts.map ofArtifact).Perm
      (((p.keptOps o.filters).filter fun l => (l.sheetName? p.report).isNone).map ofListed) := by
  refine ((Bucket.sort_perm _).map _).trans (.of_eq ?_)
  rw [List.map_map]
  apply List.map_congr_left
  intro l hl
  have hnone := (List.mem_filter.mp hl).2
  exact h l (Option.isNone_iff_eq_none.mp hnone)

/-- What the sheets and the artifacts of a view say together is what its operations say. -/
theorem parts_perm {ofSheet : SheetView → List β} {ofArtifact : Artifact → β}
    (hsheet : ∀ name, ofSheet (SheetView.ofInput o (p.sheetInput o.filters name)) =
      (p.sheetOps o.filters name).map ofListed)
    (hartifact : ∀ l, l.sheetName? p.report = none →
      ofArtifact (Artifact.ofOp p.report l) = ofListed l) :
    ((ofPayload p o).sheets.flatMap ofSheet ++ (ofPayload p o).artifacts.map ofArtifact).Perm
      ((p.keptOps o.filters).map ofListed) := by
  have hsplit := List.filter_append_perm (fun l => (l.sheetName? p.report).isSome)
    (p.keptOps o.filters)
  have hnone : (p.keptOps o.filters).filter (fun l => !(l.sheetName? p.report).isSome) =
      (p.keptOps o.filters).filter fun l => (l.sheetName? p.report).isNone :=
    List.filter_congr fun l _ => Option.not_isSome _
  rw [hnone] at hsplit
  have h := (flatMap_sheets_perm hsheet).append (map_artifacts_perm (o := o) hartifact)
  rw [← List.map_append] at h
  exact h.trans (hsplit.map _)

end Parts

theorem appearances_perm (p : Payload) (o : Options) :
    (ofPayload p o).appearances.Perm
      ((p.keptOps o.filters).map (Appearance.ofListed p.report)) := by
  apply parts_perm
  · intro name
    apply (List.map_map ..).trans
    apply List.map_congr_left
    intro l hl
    exact Appearance.ofEntry_ofOp (Payload.mem_sheetOps.mp hl).2 _
  · intro l hl
    exact Appearance.ofArtifact_ofOp hl

theorem entries_inOrder {p : Payload} {o : Options} {v : SheetView}
    (hv : v ∈ (ofPayload p o).sheets) : (v.entries.map (·.index)).Pairwise (· < ·) := by
  obtain ⟨name, -, rfl⟩ := mem_sheets.mp hv
  have h : (SheetView.ofInput o (p.sheetInput o.filters name)).entries.map (·.index) =
      (p.sheetOps o.filters name).map (·.index) :=
    (List.map_map ..).trans (List.map_congr_left fun l _ => rfl)
  rw [h, List.pairwise_map]
  exact p.sheetOps_inOrder o.filters name

end WorkbookView

/-- The view of a workbook lists just the operations that survive the filters, each of them once:
with its own index and kind, in the sheet that it belongs to, or in its bucket if it belongs to
none. The sheets of the view are those with such operations, and each of them lists its own in the
order of the report. -/
theorem survivors_appear_once (p : Payload) (o : Options) :
    (∃ survivors : List Listed, Listed.InOrder survivors ∧
      (∀ l, l ∈ survivors ↔ p.Survives o.filters l) ∧
      (WorkbookView.ofPayload p o).appearances.Perm
        (survivors.map (Appearance.ofListed p.report))) ∧
    (∀ v ∈ (WorkbookView.ofPayload p o).sheets, (v.entries.map (·.index)).Pairwise (· < ·)) ∧
    ((WorkbookView.ofPayload p o).sheets.map (·.name)).Nodup ∧
    ∀ name, name ∈ (WorkbookView.ofPayload p o).sheets.map (·.name) ↔
      ∃ l, p.Survives o.filters l ∧ l.sheetName? p.report = some name := by
  refine ⟨⟨p.keptOps o.filters, p.keptOps_inOrder _, fun l => Payload.mem_keptOps,
    WorkbookView.appearances_perm p o⟩, fun v hv => WorkbookView.entries_inOrder hv, ?_, ?_⟩
  · exact (WorkbookView.names_perm p o).nodup_iff.mpr (p.sheetNames_nodup _)
  · intro name
    rw [(WorkbookView.names_perm p o).mem_iff, Payload.mem_sheetNames]
    simp

end DiffView
