import DiffView.Proofs.ItemIds
import DiffView.Proofs.Ranking

namespace DiffView

namespace Item

variable {i : SheetInput} {regions : List Region}

def saysOther (item : Item) : Bool := "other-".toList.isPrefixOf item.id.toList

theorem saysOther_iff {item : Item} {s : Source} (h : item ∈ s.items i regions) :
    item.saysOther ↔ s = .alone := by
  have hbegins := Source.stem_begins_id h
  rw [saysOther, List.isPrefixOf_iff_prefix]
  constructor
  · exact Source.eq_of_both_begin (t := .alone) hbegins
  · rintro rfl
    exact hbegins

theorem filter_saysOther (s : Source) : (s.items i regions).filter saysOther =
    if s = .alone then s.items i regions else [] := by
  split
  · rename_i hs
    exact List.filter_eq_self.mpr fun item hitem => (saysOther_iff hitem).mpr hs
  · rename_i hs
    exact List.filter_eq_nil_iff.mpr fun item hitem => mt (saysOther_iff hitem).mp hs

theorem filter_saysOther_perm (i : SheetInput) (regions : List Region) :
    ((i.items regions).filter saysOther).Perm (Source.alone.items i regions) := by
  have h := (Source.items_perm i regions).filter saysOther
  rw [List.filter_flatMap] at h
  simp only [filter_saysOther] at h
  simpa [Source.all] using h

theorem saysOther_ids_nodup (horder : Listed.InOrder i.ops) (regions : List Region) :
    (((i.items regions).filter saysOther).map (·.id)).Nodup :=
  ((filter_saysOther_perm i regions).map _).nodup_iff.mpr (alone_ids_nodup horder)

end Item

/-- No two artifacts of a workbook share an id, and within a sheet no two items share one that says
that an operation is listed by itself. -/
theorem other_ids_nodup (p : Payload) (o : Options) :
    ((WorkbookView.ofPayload p o).artifacts.map (·.id)).Nodup ∧
    ∀ v ∈ (WorkbookView.ofPayload p o).sheets,
      ((v.items.filter Item.saysOther).map (·.id)).Nodup := by
  refine ⟨WorkbookView.artifact_ids_nodup p o, ?_⟩
  intro v hv
  obtain ⟨name, -, rfl⟩ := WorkbookView.mem_sheets.mp hv
  exact Item.saysOther_ids_nodup (p.sheetOps_inOrder o.filters name) _

def hyphenated : Payload :=
  .ofReport ⟨none, [], [.unknown ⟨"Note-1", [("sheet", .text "S")]⟩,
    .unknown ⟨"Note", [("sheet", .text "S")]⟩, .unknown ⟨"Note-1", []⟩, .unknown ⟨"Note", []⟩],
    true, []⟩

theorem other_ids_nodup_of_hyphenated :
    let w := WorkbookView.ofPayload hyphenated .default
    (w.artifacts.map (·.id) = ["Note-1-2", "Note-3"] ∧ (w.artifacts.map (·.id)).Nodup) ∧
    ∃ v ∈ w.sheets,
      (v.items.filter Item.saysOther).map (·.id) = ["other-Note-1-0", "other-Note-1"] ∧
      ((v.items.filter Item.saysOther).map (·.id)).Nodup := by
  intro w
  obtain ⟨hartifacts, hsheets⟩ := other_ids_nodup hyphenated .default
  have hv : SheetView.ofInput .default (hyphenated.sheetInput Options.default.filters "S") ∈
      w.sheets := WorkbookView.mem_sheets.mpr ⟨"S", by decide +kernel, rfl⟩
  exact ⟨⟨by decide +kernel, hartifacts⟩, _, hv, by decide +kernel, hsheets _ hv⟩

end DiffView
