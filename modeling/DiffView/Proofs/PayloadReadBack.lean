import DiffView.Payload.Json
import DiffView.Proofs.OpsReadBack

namespace DiffView

open Json Json.Shape

theorem Report.readsBack : ReadsBack ofJson? toJson := by
  intro v r h
  rw [ofJson?] at h
  split at h
  · simp only [Option.bind_eq_bind, Option.bind_eq_some_iff, Option.pure_def,
      Option.some.injEq] at h
    obtain ⟨version, hversion, strings, hstrings, ops, hops, complete, hcomplete, warnings,
      hwarnings, rfl⟩ := h
    rw [ofJson?, toJson, Value.fields?_ofFields _ _ (by decide) rfl]
    simp only [readsBack_nullable_text _ _ hversion,
      readsBack_optional readsBack_texts rfl _ _ hstrings,
      readsBack_optional (readsBack_list Op.readsBack) rfl _ _ hops,
      readsBack_optional_flag _ _ _ hcomplete,
      readsBack_optional readsBack_texts rfl _ _ hwarnings]
    rfl
  · cases h

theorem Cell.readsBack : ReadsBack ofJson? toJson := by
  intro v c h
  rw [ofJson?] at h
  split at h
  · simp only [Option.bind_eq_bind, Option.bind_eq_some_iff, Option.pure_def,
      Option.some.injEq] at h
    obtain ⟨row, hrow, col, hcol, value, hvalue, formula, hformula, rfl⟩ := h
    have htext {v : Option Value} {s : Option String} (h : nullable text v = some s) :=
      readsBack_nullable_null readsBack_text (fun _ _ _ _ h => Value.noConfusion h) v s h
    rw [ofJson?, toJson, Value.fields?_ofFields _ _ (by decide) rfl]
    simp only [readsBack_required readsBack_index _ _ hrow,
      readsBack_required readsBack_index _ _ hcol, htext hvalue, htext hformula]
    rfl
  · cases h

namespace Snapshot

theorem readsBack : ReadsBack ofJson? toJson := by
  intro v s h
  rw [ofJson?] at h
  split at h
  · simp only [Option.bind_eq_bind, Option.bind_eq_some_iff, Option.pure_def,
      Option.some.injEq] at h
    obtain ⟨name, hname, rows, hrows, cols, hcols, cells, hcells, truncated, htruncated, included,
      hincluded, total, htotal, note, hnote, rfl⟩ := h
    rw [ofJson?, toJson, Value.fields?_ofFields _ _ (by decide) rfl]
    simp only [readsBack_required readsBack_text _ _ hname, readsBack_optional_index _ _ hrows,
      readsBack_optional_index _ _ hcols,
      readsBack_optional (readsBack_list Cell.readsBack) rfl _ _ hcells,
      readsBack_optional_flag _ _ _ htruncated, readsBack_nullable_index _ _ hincluded,
      readsBack_nullable_index _ _ htotal,
      readsBack_nullable_text _ _ hnote]
    rfl
  · cases h

theorem listOfJson?_back {ss : List Snapshot}
    (h : list ofJson? (.list (ss.map (·.toJson))) = some ss) :
    listOfJson? (listToJson ss) = some ss := by
  have hfields : (Value.record [("sheets", .list (ss.map (·.toJson)))]).fields? ["sheets"] =
      some [some (.list (ss.map (·.toJson)))] :=
    Value.fields?_ofFields ["sheets"] [some (.list (ss.map toJson))] (by decide) rfl
  rw [listToJson, listOfJson?, hfields]
  exact h

theorem readsBack_listOfJson? : ReadsBack listOfJson? listToJson := by
  intro v ss h
  apply listOfJson?_back
  rw [listOfJson?.eq_def] at h
  split at h
  · exact readsBack_list readsBack _ ss h
  · split at h
    · exact readsBack_optional (readsBack_list readsBack) rfl _ ss h
    · cases h
  · cases h

end Snapshot

@[simp] theorem SlotKind.lookup_word (k : SlotKind) : words.lookup k.word = some k := by
  cases k <;> rfl

@[simp] theorem Sides.lookup_word (s : Sides) : words.lookup s.word = some s := by
  match s with
  | .one .old | .one .new | .both => rfl

theorem Slot.readsBack : ReadsBack ofJson? toJson := by
  intro v s h
  rw [ofJson?] at h
  split at h
  · simp only [Option.bind_eq_bind, Option.bind_eq_some_iff, Option.pure_def,
      Option.some.injEq] at h
    obtain ⟨old, hold, new, hnew, kind, hkind, moveId, hmove, rfl⟩ := h
    have hline {v : Option Value} {n : Option Nat} (h : nullable index v = some n) :=
      readsBack_nullable_null readsBack_index (fun _ _ _ _ => nofun) v n h
    rw [ofJson?, toJson, Value.fields?_ofFields _ _ (by decide) rfl]
    simp only [hline hold, hline hnew,
      readsBack_optional (readsBack_oneOf SlotKind.lookup_word) rfl _ _ hkind,
      readsBack_nullable_text _ _ hmove]
    rfl
  · cases h

theorem MoveRecord.readsBack : ReadsBack ofJson? toJson := by
  intro v m h
  rw [ofJson?] at h
  split at h
  · simp only [Option.bind_eq_bind, Option.bind_eq_some_iff, Option.pure_def,
      Option.some.injEq] at h
    obtain ⟨id, hid, axis, haxis, src, hsrc, dst, hdst, count, hcount, rfl⟩ := h
    rw [ofJson?, toJson, Value.fields?_ofFields _ _ (by decide) rfl]
    simp only [readsBack_required readsBack_text _ _ hid,
      readsBack_optional readsBack_text rfl _ _ haxis, readsBack_optional_index _ _ hsrc,
      readsBack_optional_index _ _ hdst, readsBack_optional_index _ _ hcount]
    rfl
  · cases h

theorem Alignment.readsBack : ReadsBack ofJson? toJson := by
  intro v a h
  rw [ofJson?] at h
  split at h
  · simp only [Option.bind_eq_bind, Option.bind_eq_some_iff, Option.pure_def,
      Option.some.injEq] at h
    obtain ⟨sheet, hsheet, rows, hrows, cols, hcols, moves, hmoves, skipped, hskipped, reason,
      hreason, rfl⟩ := h
    have hslots {v : Option Value} {ss : List Slot}
        (h : optional (list Slot.ofJson?) [] v = some ss) :=
      readsBack_optional (readsBack_list Slot.readsBack) rfl v ss h
    rw [ofJson?, toJson, Value.fields?_ofFields _ _ (by decide) rfl]
    simp only [readsBack_optional readsBack_text rfl _ _ hsheet, hslots hrows, hslots hcols,
      readsBack_optional (readsBack_list MoveRecord.readsBack) rfl _ _ hmoves,
      readsBack_optional_flag _ _ _ hskipped,
      readsBack_nullable_text _ _ hreason]
    rfl
  · cases h

/-- What is written has the proper spellings only. -/
theorem respell_ofFields {spellings : List (String × String)} {names : List String}
    {values : List (Option Value)} (h : ∀ name ∈ names, spellings.lookup name = none) :
    (Value.ofFields names values).respell spellings = Value.ofFields names values := by
  change Value.record ((Value.fieldMembers names values).map fun m =>
    ((spellings.lookup m.1).getD m.1, m.2)) = .record (Value.fieldMembers names values)
  congr 1
  conv_rhs => rw [← List.map_id (Value.fieldMembers names values)]
  apply List.map_congr_left
  intro m hm
  rw [h m.1 (Value.fst_mem_of_mem_fieldMembers hm)]
  rfl

theorem Interest.readsBack : ReadsBack ofJson? toJson := by
  intro v i h
  rw [ofJson?] at h
  split at h
  · simp only [Option.bind_eq_bind, Option.bind_eq_some_iff, Option.pure_def,
      Option.some.injEq] at h
    obtain ⟨id, hid, kind, hkind, side, hside, rowStart, hrowStart, rowEnd, hrowEnd, colStart,
      hcolStart, colEnd, hcolEnd, moveId, hmove, rfl⟩ := h
    have htext {v : Option Value} {s : String} (h : required text v = some s) :=
      readsBack_required readsBack_text v s h
    have hindex {v : Option Value} {n : Nat} (h : required index v = some n) :=
      readsBack_required readsBack_index v n h
    rw [ofJson?, toJson, respell_ofFields (by decide), Value.fields?_ofFields _ _ (by decide) rfl]
    simp only [htext hid, htext hkind,
      readsBack_optional (readsBack_oneOf Sides.lookup_word) rfl _ _ hside, hindex hrowStart,
      hindex hrowEnd, hindex hcolStart, hindex hcolEnd,
      readsBack_nullable_text _ _ hmove]
    rfl
  · cases h

theorem SheetInterests.readsBack : ReadsBack ofJson? toJson := by
  intro v s h
  rw [ofJson?] at h
  split at h
  · simp only [Option.bind_eq_bind, Option.bind_eq_some_iff, Option.pure_def,
      Option.some.injEq] at h
    obtain ⟨sheet, hsheet, rects, hrects, rfl⟩ := h
    rw [ofJson?, toJson, Value.fields?_ofFields _ _ (by decide) rfl]
    simp only [readsBack_required readsBack_text _ _ hsheet,
      readsBack_unlessEmpty Interest.readsBack _ _ hrects]
    rfl
  · cases h

namespace Payload

theorem readsBack_workbooks? : ReadsBack workbooks? fun w =>
    .record [("old", Snapshot.listToJson w.1), ("new", Snapshot.listToJson w.2)] := by
  intro v w h
  rw [workbooks?] at h
  split at h
  · simp only [Option.bind_eq_bind, Option.bind_eq_some_iff, Option.pure_def,
      Option.some.injEq] at h
    obtain ⟨old, hold, new, hnew, rfl⟩ := h
    have hsheets {v : Option Value} {ss : List Snapshot}
        (h : optional Snapshot.listOfJson? [] v = some ss) :=
      readsBack_optional Snapshot.readsBack_listOfJson? rfl v ss h
    have hfields : (Value.record [("old", Snapshot.listToJson old),
        ("new", Snapshot.listToJson new)]).fields? ["old", "new"] =
        some [some (Snapshot.listToJson old), some (Snapshot.listToJson new)] :=
      Value.fields?_ofFields ["old", "new"]
        [some (Snapshot.listToJson old), some (Snapshot.listToJson new)] (by decide) rfl
    rw [workbooks?, hfields]
    simp only [hsheets hold, hsheets hnew]
    rfl
  · cases h

theorem ofJson?_toJson {p : Payload} (hreport : Report.ofJson? p.report.toJson = some p.report)
    (hsheets : optional workbooks? ([], []) (some (.record [("old", Snapshot.listToJson p.old),
      ("new", Snapshot.listToJson p.new)])) = some (p.old, p.new))
    (halignments : optional (list Alignment.ofJson?) []
      (some (.list (p.alignments.map (·.toJson)))) = some p.alignments)
    (hinterests : optional (list SheetInterests.ofJson?) []
      (Value.unlessEmpty (p.interests.map (·.toJson))) = some p.interests) :
    ofJson? p.toJson = some p := by
  have hmember : p.toJson.member? "report" = some p.report.toJson := rfl
  have hwhole : ofJson? p.toJson = wholeOfJson? p.toJson := by
    rw [ofJson?, hmember]
    rfl
  rw [hwhole, wholeOfJson?, toJson, respell_ofFields (by decide),
    Value.fields?_ofFields _ _ (by decide) rfl]
  have hreport' : required Report.ofJson? (some p.report.toJson) = some p.report := hreport
  simp only [hreport', hsheets, halignments, hinterests]
  rfl

end Payload

/-- What is written of a payload that was read is read as the same payload. -/
theorem payload_read_back {v : Value} {p : Payload} (h : Payload.ofJson? v = some p) :
    Payload.ofJson? p.toJson = some p := by
  have hbare {v : Value} (h : (Report.ofJson? v).map Payload.ofReport = some p) :
      Payload.ofJson? p.toJson = some p := by
    obtain ⟨r, hr, rfl⟩ := Option.map_eq_some_iff.mp h
    exact Payload.ofJson?_toJson (Report.readsBack v r hr) rfl rfl rfl
  rw [Payload.ofJson?.eq_def] at h
  split at h
  · exact hbare h
  · exact hbare h
  · rw [Payload.wholeOfJson?] at h
    split at h
    · simp only [Option.bind_eq_bind, Option.bind_eq_some_iff, Option.pure_def,
        Option.some.injEq] at h
      obtain ⟨report, hreport, ⟨old, new⟩, hsheets, alignments, halignments, interests, hinterests,
        rfl⟩ := h
      obtain ⟨w, -, hw⟩ := Option.bind_eq_some_iff.mp hreport
      refine Payload.ofJson?_toJson (p := ⟨report, old, new, alignments, interests⟩)
        (Report.readsBack w report hw) ?_ ?_ ?_
      · exact readsBack_optional Payload.readsBack_workbooks? rfl _ _ hsheets
      · exact readsBack_optional (readsBack_list Alignment.readsBack) rfl _ _ halignments
      · exact readsBack_unlessEmpty SheetInterests.readsBack _ _ hinterests
    · cases h

def mixedJson : Value :=
  .record
    [("report", .list
        [.null, .texts ["S"],
          .list
            [.list [.nat 3, .nat 0, .nat 1],
              .record [("kind", .text "SheetAdded"), ("sheet", .bool true)],
              .record
                [("to", .record [("value", .nat 7)]), ("addr", .text "A1"), ("sheet", .text "S"),
                  ("kind", .text "CellEdited")]]]),
      ("interestRects", .list [.record [("sheet", .text "S")]]), ("source", .null)]

def mixedPayload : Payload where
  report := ⟨none, ["S"], [.known (.grid (.id 0) (.lineAdded .row 1)),
    .unknown ⟨"SheetAdded", [("sheet", .bool true)]⟩,
    .known (.grid (.text "S") (.cellEdited (.a1 "A1") .empty ⟨none, some (.raw (.nat 7)), none⟩
      .unknown))], true, []⟩
  old := []
  new := []
  alignments := []
  interests := [⟨"S", []⟩]

theorem payload_read_back_of_mixed :
    Payload.ofJson? mixedJson = some mixedPayload ∧ mixedPayload.toJson ≠ mixedJson ∧
      Payload.ofJson? mixedPayload.toJson = some mixedPayload := by
  have h : Payload.ofJson? mixedJson = some mixedPayload := by decide
  exact ⟨h, nofun, payload_read_back h⟩

end DiffView
