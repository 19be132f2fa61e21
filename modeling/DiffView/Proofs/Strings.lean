import DiffView.Workbook.View

namespace DiffView

variable {r r' : Report}

theorem Listed.sheetName?_report (h : r'.strings = r.strings) (l : Listed) :
    l.sheetName? r' = l.sheetName? r := by
  obtain ⟨version, strings, ops, complete, warnings⟩ := r'
  obtain rfl : strings = r.strings := h
  rfl

theorem Payload.rename?_report (h : r'.strings = r.strings) (op : Op) :
    rename? r' op = rename? r op := by
  obtain ⟨version, strings, ops, complete, warnings⟩ := r'
  obtain rfl : strings = r.strings := h
  rfl

theorem Artifact.ofOp_report (h : r'.strings = r.strings) (l : Listed) :
    ofOp r' l = ofOp r l := by
  obtain ⟨version, strings, ops, complete, warnings⟩ := r'
  obtain rfl : strings = r.strings := h
  rfl

theorem SheetView.ofInput_report (o : Options) (i : SheetInput)
    (h : r.strings = i.report.strings) : ofInput o { i with report := r } = ofInput o i := by
  obtain ⟨version, strings, ops, complete, warnings⟩ := r
  obtain rfl : strings = i.report.strings := h
  rfl

end DiffView
