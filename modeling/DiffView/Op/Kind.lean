import DiffView.Json.Shape

namespace DiffView.Op

inductive Kind
  | sheetAdded
  | sheetRemoved
  | sheetRenamed
  | rowAdded
  | rowRemoved
  | rowReplaced
  | duplicateKeyCluster
  | columnAdded
  | columnRemoved
  | blockMovedRows
  | blockMovedColumns
  | blockMovedRect
  | rectReplaced
  | cellEdited
  | vbaModuleAdded
  | vbaModuleRemoved
  | vbaModuleChanged
  | namedRangeAdded
  | namedRangeRemoved
  | namedRangeChanged
  | chartAdded
  | chartRemoved
  | chartChanged
  | queryAdded
  | queryRemoved
  | queryRenamed
  | queryDefinitionChanged
  | queryMetadataChanged
  | tableAdded
  | tableRemoved
  | modelColumnAdded
  | modelColumnRemoved
  | modelColumnTypeChanged
  | modelColumnPropertyChanged
  | calculatedColumnDefinitionChanged
  | relationshipAdded
  | relationshipRemoved
  | relationshipPropertyChanged
  | measureAdded
  | measureRemoved
  | measureDefinitionChanged
  deriving DecidableEq, Repr

namespace Kind

def all : List Kind :=
  [sheetAdded, sheetRemoved, sheetRenamed, rowAdded, rowRemoved, rowReplaced, duplicateKeyCluster,
    columnAdded, columnRemoved, blockMovedRows, blockMovedColumns, blockMovedRect, rectReplaced,
    cellEdited, vbaModuleAdded, vbaModuleRemoved, vbaModuleChanged, namedRangeAdded,
    namedRangeRemoved, namedRangeChanged, chartAdded, chartRemoved, chartChanged, queryAdded,
    queryRemoved, queryRenamed, queryDefinitionChanged, queryMetadataChanged, tableAdded,
    tableRemoved, modelColumnAdded, modelColumnRemoved, modelColumnTypeChanged,
    modelColumnPropertyChanged, calculatedColumnDefinitionChanged, relationshipAdded,
    relationshipRemoved, relationshipPropertyChanged, measureAdded, measureRemoved,
    measureDefinitionChanged]

def name : Kind → String
  | sheetAdded => "SheetAdded"
  | sheetRemoved => "SheetRemoved"
  | sheetRenamed => "SheetRenamed"
  | rowAdded => "RowAdded"
  | rowRemoved => "RowRemoved"
  | rowReplaced => "RowReplaced"
  | duplicateKeyCluster => "DuplicateKeyCluster"
  | columnAdded => "ColumnAdded"
  | columnRemoved => "ColumnRemoved"
  | blockMovedRows => "BlockMovedRows"
  | blockMovedColumns => "BlockMovedColumns"
  | blockMovedRect => "BlockMovedRect"
  | rectReplaced => "RectReplaced"
  | cellEdited => "CellEdited"
  | vbaModuleAdded => "VbaModuleAdded"
  | vbaModuleRemoved => "VbaModuleRemoved"
  | vbaModuleChanged => "VbaModuleChanged"
  | namedRangeAdded => "NamedRangeAdded"
  | namedRangeRemoved => "NamedRangeRemoved"
  | namedRangeChanged => "NamedRangeChanged"
  | chartAdded => "ChartAdded"
  | chartRemoved => "ChartRemoved"
  | chartChanged => "ChartChanged"
  | queryAdded => "QueryAdded"
  | queryRemoved => "QueryRemoved"
  | queryRenamed => "QueryRenamed"
  | queryDefinitionChanged => "QueryDefinitionChanged"
  | queryMetadataChanged => "QueryMetadataChanged"
  | tableAdded => "TableAdded"
  | tableRemoved => "TableRemoved"
  | modelColumnAdded => "ModelColumnAdded"
  | modelColumnRemoved => "ModelColumnRemoved"
  | modelColumnTypeChanged => "ModelColumnTypeChanged"
  | modelColumnPropertyChanged => "ModelColumnPropertyChanged"
  | calculatedColumnDefinitionChanged => "CalculatedColumnDefinitionChanged"
  | relationshipAdded => "RelationshipAdded"
  | relationshipRemoved => "RelationshipRemoved"
  | relationshipPropertyChanged => "RelationshipPropertyChanged"
  | measureAdded => "MeasureAdded"
  | measureRemoved => "MeasureRemoved"
  | measureDefinitionChanged => "MeasureDefinitionChanged"

def ofName? (s : String) : Option Kind := all.find? fun k => k.name = s

def ofJson? : Json.Shape Kind
  | .text s => ofName? s
  | .number (.nat n) => all[n]?
  | _ => none

@[simp] theorem ofName?_name (k : Kind) : ofName? k.name = some k := by cases k <;> decide

end Kind

end DiffView.Op
