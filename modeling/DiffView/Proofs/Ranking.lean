import DiffView.Proofs.Appearances
import DiffView.Proofs.Ids
import DiffView.Proofs.ReadsBack
import DiffView.Workbook.Json

namespace DiffView

theorem List.Pairwise.rel_of_mem_take {α : Type} {R : α → α → Prop} {as : List α} {n : Nat}
    {a b : α} (h : as.Pairwise R) (ha : a ∈ as) (hout : a ∉ as.take n) (hb : b ∈ as.take n) :
    R b a := by
  rw [← List.take_append_drop n as] at h ha
  exact (List.pairwise_append.mp h).2.2 b hb a ((List.mem_append.mp ha).resolve_left hout)

theorem Severity.rank_injective : Function.Injective Severity.rank := by
  intro s t h
  cases s <;> cases t <;> first | rfl | cases h

namespace SheetView

variable {v w : SheetView}

/-- How one sheet comes before another one. No severity is below all others. -/
inductive Before (v w : SheetView) : Prop
  | severity (h : w.severity?.map Severity.rank < v.severity?.map Severity.rank)
  | opCount (hseverity : v.severity? = w.severity?) (h : w.opCount < v.opCount)
  | lowerName (hseverity : v.severity? = w.severity?) (hcount : v.opCount = w.opCount)
      (h : Text.lower v.name < Text.lower w.name)
  | name (hseverity : v.severity? = w.severity?) (hcount : v.opCount = w.opCount)
      (hlower : Text.lower v.name = Text.lower w.name) (h : v.name < w.name)

theorem severityRank_lt_iff : w.severityRank < v.severityRank ↔
    w.severity?.map Severity.rank < v.severity?.map Severity.rank := by
  rw [severityRank, severityRank]
  cases v.severity? <;> cases w.severity? <;> simp

theorem severityRank_eq_iff : w.severityRank = v.severityRank ↔ v.severity? = w.severity? := by
  rw [severityRank, severityRank]
  cases v.severity? <;> cases w.severity? <;>
    simp [eq_comm, Severity.rank_injective.eq_iff]

theorem compare_eq_lt_iff : compare v w = .lt ↔ v.Before w := by
  simp only [compare, Ordering.then_eq_lt, compare_lt_iff_lt, compare_eq_iff_eq,
    severityRank_lt_iff, severityRank_eq_iff]
  constructor
  · rintro (h | ⟨hseverity, h | ⟨hcount, h | ⟨hlower, h⟩⟩⟩)
    · exact .severity h
    · exact .opCount hseverity h
    · exact .lowerName hseverity hcount.symm h
    · exact .name hseverity hcount.symm hlower h
  · rintro (h | ⟨hseverity, h⟩ | ⟨hseverity, hcount, h⟩ | ⟨hseverity, hcount, hlower, h⟩)
    · exact .inl h
    · exact .inr ⟨hseverity, .inl h⟩
    · exact .inr ⟨hseverity, .inr ⟨hcount.symm, .inl h⟩⟩
    · exact .inr ⟨hseverity, .inr ⟨hcount.symm, .inr ⟨hlower, h⟩⟩⟩

theorem name_eq_of_compare (v w : SheetView) (h : compare v w = .eq) : v.name = w.name := by
  simp only [compare, Ordering.then_eq_eq, compare_eq_iff_eq] at h
  exact h.2.2.2

instance : Std.TransCmp compare := by
  have h : compare = compareLex (fun v w => compareOn severityRank w v)
      (compareLex (fun v w => compareOn opCount w v)
        (compareLex (compareOn fun v => Text.lower v.name) (compareOn fun v => v.name))) := rfl
  rw [h]
  infer_instance

end SheetView

namespace Artifact

variable {a b : Artifact}

/-- How one artifact comes before another one. -/
inductive Before (a b : Artifact) : Prop
  | severity (h : b.traits.severity.rank < a.traits.severity.rank)
  | label (hseverity : a.traits.severity = b.traits.severity) (h : a.label < b.label)
  | id (hseverity : a.traits.severity = b.traits.severity) (hlabel : a.label = b.label)
      (h : a.id < b.id)

theorem compare_eq_lt_iff : compare a b = .lt ↔ a.Before b := by
  simp only [compare, Ordering.then_eq_lt, compare_lt_iff_lt, compare_eq_iff_eq,
    Severity.rank_injective.eq_iff]
  constructor
  · rintro (h | ⟨hseverity, h | ⟨hlabel, h⟩⟩)
    · exact .severity h
    · exact .label hseverity.symm h
    · exact .id hseverity.symm hlabel h
  · rintro (h | ⟨hseverity, h⟩ | ⟨hseverity, hlabel, h⟩)
    · exact .inl h
    · exact .inr ⟨hseverity.symm, .inl h⟩
    · exact .inr ⟨hseverity.symm, .inr ⟨hlabel, h⟩⟩

theorem id_eq_of_compare (a b : Artifact) (h : compare a b = .eq) : a.id = b.id := by
  simp only [compare, Ordering.then_eq_eq, compare_eq_iff_eq] at h
  exact h.2.2

instance : Std.TransCmp compare := by
  have h : compare = compareLex (fun a b => compareOn (fun a => a.traits.severity.rank) b a)
      (compareLex (compareOn fun a => a.label) (compareOn fun a => a.id)) := rfl
  rw [h]
  infer_instance

theorem id_ofOp_inj {r : Report} {l m : Listed} (h : (ofOp r l).id = (ofOp r m).id) :
    l.op.kindName = m.op.kindName ∧ l.index = m.index := by
  have hchars : s!"{l.op.kindName}-{l.index}".toList = s!"{m.op.kindName}-{m.index}".toList :=
    congrArg String.toList h
  simpa [toString, String.toList_inj] using hchars

end Artifact

namespace WorkbookView

variable {p : Payload} {o : Options}

theorem sheets_pairwise_before (p : Payload) (o : Options) :
    (ofPayload p o).sheets.Pairwise SheetView.Before := by
  rw [sheets_ofPayload]
  refine (sortBy_pairwise_lt SheetView.name_eq_of_compare ?_).imp SheetView.compare_eq_lt_iff.mp
  rw [List.map_map]
  exact (List.map_id _).symm ▸ p.sheetNames_nodup o.filters

theorem artifact_ids_nodup (p : Payload) (o : Options) :
    ((ofPayload p o).artifacts.map (·.id)).Nodup := by
  apply ((Bucket.sort_perm _).map _).nodup_iff.mpr
  rw [List.map_map]
  apply List.pairwise_map.mpr
  apply ((p.keptOps_inOrder o.filters).sublist List.filter_sublist).imp
  intro l m hlt heq
  exact absurd (Artifact.id_ofOp_inj heq).2 (Nat.ne_of_lt hlt)

theorem sort_artifacts_pairwise_before (p : Payload) (o : Options) :
    (sortBy Artifact.compare (ofPayload p o).artifacts).Pairwise Artifact.Before :=
  (sortBy_pairwise_lt Artifact.id_eq_of_compare (artifact_ids_nodup p o)).imp
    Artifact.compare_eq_lt_iff.mp

@[simp] theorem mem_sort_artifacts {w : WorkbookView} {a : Artifact} :
    a ∈ sortBy Artifact.compare w.artifacts ↔ a ∈ w.artifacts := (sortBy_perm _ _).mem_iff

/-- What an analysis lists under a key; nothing where it leaves the key out. -/
def analysed (w : WorkbookView) (key : String) : List Json.Value :=
  match w.analysisJson.member? key with
  | some (.list values) => values
  | _ => []

theorem analysed_of_mem {w : WorkbookView} {key : String} {values : List Json.Value}
    (h : w.analysisJson.member? key = Json.Value.unlessEmpty values) :
    w.analysed key = values := by
  rw [analysed, h, Json.Value.unlessEmpty]
  cases values <;> rfl

theorem analysed_eq (w : WorkbookView) : w.analysed "sheets" = w.sheets.map (·.sumsJson) ∧
    w.analysed "topSheets" = w.topSheets.map .text ∧
    w.analysed "topArtifacts" = w.topArtifacts.map (·.rankJson) := by
  refine ⟨analysed_of_mem ?_, analysed_of_mem ?_, analysed_of_mem ?_⟩
  · exact Json.Value.member?_ofMembers (by simp) (by simp)
  · exact Json.Value.member?_ofMembers (by simp) (by simp)
  · exact Json.Value.member?_ofMembers (by simp) (by simp)

end WorkbookView

/-- The sheets of a workbook are in the order of their ranks, each with a rank of its own, and so is
each analysis of them. The artifacts that an analysis names are in the order of theirs; no other
artifact ranks before one of them. -/
theorem ranked_in_order (p : Payload) (o : Options) :
    let w := WorkbookView.ofPayload p o
    (w.sheets.Pairwise SheetView.Before ∧
      w.analysed "sheets" = w.sheets.map (·.sumsJson) ∧
      w.sheets.map (·.sumsJson.member? "sheetName") = w.sheets.map (fun v => some (.text v.name)) ∧
      w.analysed "topSheets" = ((w.sheets.take 5).map fun v => .text v.name)) ∧
    w.topArtifacts.Pairwise Artifact.Before ∧
      w.topArtifacts.length = min 10 w.artifacts.length ∧
      (∀ a ∈ w.topArtifacts, a ∈ w.artifacts) ∧
      (∀ a ∈ w.artifacts, a ∉ w.topArtifacts → ∀ b ∈ w.topArtifacts, b.Before a) ∧
      w.analysed "topArtifacts" = w.topArtifacts.map (·.rankJson) := by
  intro w
  obtain ⟨hsheets, htopSheets, htopArtifacts⟩ := w.analysed_eq
  have hsorted := WorkbookView.sort_artifacts_pairwise_before p o
  refine ⟨⟨WorkbookView.sheets_pairwise_before p o, hsheets, rfl, ?_⟩,
    hsorted.sublist (List.take_sublist _ _), ?_, ?_, ?_, htopArtifacts⟩
  · rw [htopSheets, WorkbookView.topSheets, List.map_map]
    rfl
  · exact List.length_take.trans (congrArg (min 10) (sortBy_perm _ _).length_eq)
  · intro a ha
    exact WorkbookView.mem_sort_artifacts.mp (List.mem_of_mem_take ha)
  · intro a ha hout b hb
    exact List.Pairwise.rel_of_mem_take hsorted (WorkbookView.mem_sort_artifacts.mpr ha) hout hb

def elevenUnknown : Payload where
  report := ⟨none, [], List.replicate 11 (.unknown ⟨"TableMoved", []⟩), true, []⟩
  old := []
  new := []
  alignments := []
  interests := []

theorem ranked_in_order_of_elevenUnknown :
    let w := WorkbookView.ofPayload elevenUnknown .default
    let a := Artifact.ofOp elevenUnknown.report ⟨9, .unknown ⟨"TableMoved", []⟩⟩
    w.topArtifacts.length = 10 ∧ a ∈ w.artifacts ∧ a ∉ w.topArtifacts ∧
      ∀ b ∈ w.topArtifacts, b.Before a := by
  intro w a
  obtain ⟨-, -, hlength, -, hout, -⟩ := ranked_in_order elevenUnknown .default
  have hmem : a ∈ w.artifacts := by decide +kernel
  have hnotMem : a ∉ w.topArtifacts := by decide +kernel
  exact ⟨hlength, hmem, hnotMem, hout a hmem hnotMem⟩

end DiffView
