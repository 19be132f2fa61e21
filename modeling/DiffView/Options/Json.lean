import DiffView.Json.Reader
import DiffView.Json.Shape
import DiffView.Options.Basic
import DiffView.Text.Blank

namespace DiffView

open Json Json.Reader

namespace Filters

def fields : List (Reader.Field Filters) :=
  [⟨"hideMFormattingOnly", fun f d => do pure { f with queryFormatting := ← flag d }⟩,
    ⟨"hideDaxFormattingOnly", fun f d => do pure { f with measureFormatting := ← flag d }⟩,
    ⟨"hideFormulaFormattingOnly", fun f d => do pure { f with formulaFormatting := ← flag d }⟩,
    ⟨"collapseMoves", fun f d => do pure { f with repeatedMoves := ← flag d }⟩]

def read : Reader Filters := Reader.fields fields .none

def toJson (f : Filters) : Value :=
  .record
    [("hideMFormattingOnly", .bool f.queryFormatting),
      ("hideDaxFormattingOnly", .bool f.measureFormatting),
      ("hideFormulaFormattingOnly", .bool f.formulaFormatting),
      ("collapseMoves", .bool f.repeatedMoves)]

end Filters

namespace Options

def fields : List (Reader.Field Options) :=
  [⟨"contextRows", fun o d => do pure { o with contextRows := ← index d }⟩,
    ⟨"contextCols", fun o d => do pure { o with contextCols := ← index d }⟩,
    ⟨"maxCellsPerRegion", fun o d => do pure { o with maxCellsPerRegion := ← index d }⟩,
    ⟨"maxVisualCells", fun o d => do pure { o with maxVisualCells := ← index d }⟩,
    ⟨"mergeGap", fun o d => do pure { o with mergeGap := ← index d }⟩,
    ⟨"ignoreBlankToBlank", fun o d => do pure { o with ignoreBlankToBlank := ← flag d }⟩,
    ⟨"previewRows", fun o d => do pure { o with previewRows := ← index d }⟩,
    ⟨"previewCols", fun o d => do pure { o with previewCols := ← index d }⟩,
    ⟨"noiseFilters", fun o d => do pure { o with filters := ← Filters.read d }⟩]

def read : Reader Options := Reader.fields fields default

def toJson (o : Options) : Value :=
  .record
    [("contextRows", .nat o.contextRows), ("contextCols", .nat o.contextCols),
      ("maxCellsPerRegion", .nat o.maxCellsPerRegion), ("maxVisualCells", .nat o.maxVisualCells),
      ("mergeGap", .nat o.mergeGap), ("ignoreBlankToBlank", .bool o.ignoreBlankToBlank),
      ("previewRows", .nat o.previewRows), ("previewCols", .nat o.previewCols),
      ("noiseFilters", o.filters.toJson)]

def ofText (s : String) : Except Error Options :=
  let cs := Text.trim s.toList
  if cs.isEmpty then check default
  else
    match read.ofText (String.ofList cs) with
    | .error fault => .error (.options fault)
    | .ok o => o.check

end Options

end DiffView
