import DiffView.Error
import DiffView.Json.Draft
import DiffView.Op.Json
import DiffView.Payload.Basic

namespace DiffView

open Json Json.Shape

namespace Report

def fieldNames : List String := ["version", "strings", "ops", "complete", "warnings"]

def ofJson? (v : Value) : Option Report :=
  match v.fields? fieldNames with
  | some [version, strings, ops, complete, warnings] => do
    pure ⟨← nullable text version, ← optional texts [] strings, ← optional (list Op.ofJson?) [] ops,
      ← optional flag true complete, ← optional texts [] warnings⟩
  | _ => none

def toJson (r : Report) : Value :=
  .ofFields fieldNames
    [r.version.map .text, some (.texts r.strings), some (.list (r.ops.map (·.toJson))),
      some (.bool r.complete), some (.texts r.warnings)]

end Report

namespace Cell

def fieldNames : List String := ["row", "col", "value", "formula"]

def ofJson? (v : Value) : Option Cell :=
  match v.fields? fieldNames with
  | some [row, col, value, formula] => do
    pure ⟨← required index row, ← required index col, ← nullable text value,
      ← nullable text formula⟩
  | _ => none

def toJson (c : Cell) : Value :=
  .ofFields fieldNames
    [some (.nat c.row), some (.nat c.col), some (.ofOption .text c.value),
      some (.ofOption .text c.formula)]

end Cell

namespace Snapshot

def fieldNames : List String :=
  ["name", "nrows", "ncols", "cells", "truncated", "included_cells", "total_non_empty_cells",
    "note"]

def ofJson? (v : Value) : Option Snapshot :=
  match v.fields? fieldNames with
  | some [name, rows, cols, cells, truncated, included, total, note] => do
    pure ⟨← required text name, ← optional index 0 rows, ← optional index 0 cols,
      ← optional (list Cell.ofJson?) [] cells, ← optional flag false truncated,
      ← nullable index included, ← nullable index total, ← nullable text note⟩
  | _ => none

def toJson (s : Snapshot) : Value :=
  .ofFields fieldNames
    [some (.text s.name), some (.nat s.rowCount), some (.nat s.colCount),
      some (.list (s.cells.map (·.toJson))), some (.bool s.truncated), s.includedCells.map .nat,
      s.totalNonEmptyCells.map .nat, s.note.map .text]

def listOfJson? : Shape (List Snapshot)
  | .list vs => list ofJson? (.list vs)
  | .record members =>
    match Value.fields? ["sheets"] (.record members) with
    | some [sheets] => optional (list ofJson?) [] sheets
    | _ => none
  | _ => none

def listToJson (ss : List Snapshot) : Value :=
  .record [("sheets", .list (ss.map (·.toJson)))]

end Snapshot

namespace SlotKind

def words : List (String × SlotKind) :=
  [("match", same), ("insert", inserted), ("delete", deleted), ("move_src", moveSource),
    ("move_dst", moveTarget)]

def word : SlotKind → String
  | same => "match"
  | inserted => "insert"
  | deleted => "delete"
  | moveSource => "move_src"
  | moveTarget => "move_dst"

end SlotKind

namespace Slot

def fieldNames : List String := ["old", "new", "kind", "move_id"]

def ofJson? (v : Value) : Option Slot :=
  match v.fields? fieldNames with
  | some [old, new, kind, moveId] => do
    pure ⟨← nullable index old, ← nullable index new,
      ← optional (oneOf isNull SlotKind.words) .same kind, ← nullable text moveId⟩
  | _ => none

def toJson (s : Slot) : Value :=
  .ofFields fieldNames
    [some (.ofOption .nat s.old), some (.ofOption .nat s.new), some (.text s.kind.word),
      s.moveId.map .text]

end Slot

namespace MoveRecord

def fieldNames : List String := ["id", "axis", "src_start", "dst_start", "count"]

def ofJson? (v : Value) : Option MoveRecord :=
  match v.fields? fieldNames with
  | some [id, axis, src, dst, count] => do
    pure ⟨← required text id, ← optional text "" axis, ← optional index 0 src,
      ← optional index 0 dst, ← optional index 0 count⟩
  | _ => none

def toJson (m : MoveRecord) : Value :=
  .ofFields fieldNames
    [some (.text m.id), some (.text m.axis), some (.nat m.src), some (.nat m.dst),
      some (.nat m.count)]

end MoveRecord

namespace Alignment

def fieldNames : List String := ["sheet", "rows", "cols", "moves", "skipped", "skip_reason"]

def ofJson? (v : Value) : Option Alignment :=
  match v.fields? fieldNames with
  | some [sheet, rows, cols, moves, skipped, reason] => do
    pure ⟨← optional text "" sheet, ← optional (list Slot.ofJson?) [] rows,
      ← optional (list Slot.ofJson?) [] cols, ← optional (list MoveRecord.ofJson?) [] moves,
      ← optional flag false skipped, ← nullable text reason⟩
  | _ => none

def toJson (a : Alignment) : Value :=
  .ofFields fieldNames
    [some (.text a.sheet), some (.list (a.rows.map (·.toJson))),
      some (.list (a.cols.map (·.toJson))), some (.list (a.moves.map (·.toJson))),
      some (.bool a.skipped), a.skipReason.map .text]

end Alignment

def Sides.words : List (String × Sides) :=
  [("old", .one .old), ("new", .one .new), ("both", .both)]

namespace Interest

def fieldNames : List String :=
  ["id", "kind", "side", "rowStart", "rowEnd", "colStart", "colEnd", "moveId"]

def spellings : List (String × String) :=
  [("row_start", "rowStart"), ("row_end", "rowEnd"), ("col_start", "colStart"),
    ("col_end", "colEnd"), ("move_id", "moveId")]

def ofJson? (v : Value) : Option Interest :=
  match (v.respell spellings).fields? fieldNames with
  | some [id, kind, side, rowStart, rowEnd, colStart, colEnd, moveId] => do
    pure ⟨← required text id, ← required text kind,
      ← optional (oneOf isNull Sides.words) .both side, ← required index rowStart,
      ← required index rowEnd, ← required index colStart, ← required index colEnd,
      ← nullable text moveId⟩
  | _ => none

def toJson (i : Interest) : Value :=
  .ofFields fieldNames
    [some (.text i.id), some (.text i.kind), some (.text i.side.word), some (.nat i.rowStart),
      some (.nat i.rowEnd), some (.nat i.colStart), some (.nat i.colEnd), i.moveId.map .text]

end Interest

namespace SheetInterests

def fieldNames : List String := ["sheet", "rects"]

def ofJson? (v : Value) : Option SheetInterests :=
  match v.fields? fieldNames with
  | some [sheet, rects] => do
    pure ⟨← required text sheet, ← optional (list Interest.ofJson?) [] rects⟩
  | _ => none

def toJson (s : SheetInterests) : Value :=
  .ofFields fieldNames [some (.text s.sheet), Value.unlessEmpty (s.rects.map (·.toJson))]

end SheetInterests

namespace Payload

def fieldNames : List String := ["report", "sheets", "alignments", "interest_rects"]

def spellings : List (String × String) := [("interestRects", "interest_rects")]

def workbooks? (v : Value) : Option (List Snapshot × List Snapshot) :=
  match v.fields? ["old", "new"] with
  | some [old, new] => do
    pure (← optional Snapshot.listOfJson? [] old, ← optional Snapshot.listOfJson? [] new)
  | _ => none

def wholeOfJson? (v : Value) : Option Payload :=
  match (v.respell spellings).fields? fieldNames with
  | some [report, sheets, alignments, interests] => do
    let report ← required Report.ofJson? report
    let (old, new) ← optional workbooks? ([], []) sheets
    pure ⟨report, old, new, ← optional (list Alignment.ofJson?) [] alignments,
      ← optional (list SheetInterests.ofJson?) [] interests⟩
  | _ => none

def ofJson? (v : Value) : Option Payload :=
  match v.member? "report" with
  | none => (Report.ofJson? v).map ofReport
  | some .null => (Report.ofJson? v).map ofReport
  | some _ => wholeOfJson? v

def toJson (p : Payload) : Value :=
  .ofFields fieldNames
    [some p.report.toJson,
      some (.record [("old", Snapshot.listToJson p.old), ("new", Snapshot.listToJson p.new)]),
      some (.list (p.alignments.map (·.toJson))), Value.unlessEmpty (p.interests.map (·.toJson))]

def ofText (s : String) : Except Error Payload :=
  match Value.ofText? s with
  | none => .error (.payload .malformed)
  | some v =>
    match ofJson? v with
    | none => .error (.payload .misshapen)
    | some p => .ok p

end Payload

end DiffView
