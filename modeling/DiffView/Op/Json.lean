import DiffView.Json.Shape
import DiffView.Op.Basic

namespace DiffView

open Json Json.Shape

namespace Ref

def ofJson? : Shape Ref
  | .text s => some (.text s)
  | v => (index v).map .id

def toJson : Ref → Value
  | .id n => .nat n
  | .text s => .text s

end Ref

namespace Address

def ofJson? : Shape Address
  | .text s => some (.a1 s)
  | .record members =>
    match Value.fields? ["row", "col"] (.record members) with
    | some [row, col] => do pure (.cell (← required index row) (← required index col))
    | _ => none
  | _ => none

def toJson : Address → Value
  | .cell row col => .record [("row", .nat row), ("col", .nat col)]
  | .a1 text => .text text

end Address

namespace CellValue

def ofJson? : Shape CellValue
  | .text "Blank" => some .blank
  | .record [("Blank", .null)] => some .blank
  | .record [("Number", v)] => (double v).map .number
  | .record [("Text", v)] => (Ref.ofJson? v).map .text
  | .record [("Bool", v)] => (flag v).map .bool
  | .record [("Error", v)] => (Ref.ofJson? v).map .error
  | _ => none

def toJson : CellValue → Value
  | .blank => .text "Blank"
  | .number d => .record [("Number", .double d)]
  | .text r => .record [("Text", r.toJson)]
  | .bool b => .record [("Bool", .bool b)]
  | .error r => .record [("Error", r.toJson)]

end CellValue

namespace Content

def ofJson (v : Value) : Content :=
  match CellValue.ofJson? v with
  | some c => .typed c
  | none => .raw v

def toJson : Content → Value
  | .typed v => v.toJson
  | .raw v => v

end Content

namespace CellState

def fieldNames : List String := ["addr", "value", "formula"]

def ofJson? (v : Value) : Option CellState :=
  match v.fields? fieldNames with
  | some [addr, content, formula] => do
    pure ⟨← nullable Address.ofJson? addr, ← nullable (fun v => some (.ofJson v)) content,
      ← nullable Ref.ofJson? formula⟩
  | _ => none

def toJson (s : CellState) : Value :=
  .ofFields fieldNames
    [s.addr.map (·.toJson), some (.ofOption (·.toJson) s.content),
      some (.ofOption (·.toJson) s.formula)]

end CellState

namespace FormulaChange

def words : List (String × FormulaChange) :=
  [("unknown", unknown), ("unchanged", unchanged), ("added", added), ("removed", removed),
    ("formatting_only", formattingOnly), ("filled", filled), ("semantic_change", semantic),
    ("text_change", text)]

def word : FormulaChange → String
  | unknown => "unknown"
  | unchanged => "unchanged"
  | added => "added"
  | removed => "removed"
  | formattingOnly => "formatting_only"
  | filled => "filled"
  | semantic => "semantic_change"
  | text => "text_change"

end FormulaChange

namespace QueryEdit

def words : List (String × QueryEdit) :=
  [("semantic", semantic), ("Semantic", semantic), ("formatting_only", formattingOnly),
    ("FormattingOnly", formattingOnly), ("renamed", renamed), ("Renamed", renamed)]

def word : QueryEdit → String
  | semantic => "semantic"
  | formattingOnly => "formatting_only"
  | renamed => "renamed"

end QueryEdit

namespace ExpressionEdit

def words : List (String × ExpressionEdit) :=
  [("semantic", semantic), ("Semantic", semantic), ("formatting_only", formattingOnly),
    ("FormattingOnly", formattingOnly), ("unknown", unknown), ("Unknown", unknown)]

def word : ExpressionEdit → String
  | semantic => "semantic"
  | formattingOnly => "formatting_only"
  | unknown => "unknown"

end ExpressionEdit

namespace QueryField

def words : List (String × QueryField) :=
  [("LoadToSheet", loadToSheet), ("load_to_sheet", loadToSheet), ("LoadToModel", loadToModel),
    ("load_to_model", loadToModel), ("GroupPath", groupPath), ("group_path", groupPath),
    ("ConnectionOnly", connectionOnly), ("connection_only", connectionOnly)]

def word : QueryField → String
  | loadToSheet => "LoadToSheet"
  | loadToModel => "LoadToModel"
  | groupPath => "GroupPath"
  | connectionOnly => "ConnectionOnly"

end QueryField

namespace ColumnField

def words : List (String × ColumnField) :=
  [("hidden", hidden), ("format_string", formatString), ("sort_by", sortBy),
    ("summarize_by", summarizeBy)]

def word : ColumnField → String
  | hidden => "hidden"
  | formatString => "format_string"
  | sortBy => "sort_by"
  | summarizeBy => "summarize_by"

end ColumnField

namespace RelationField

def words : List (String × RelationField) :=
  [("cross_filtering_behavior", crossFilteringBehavior), ("cardinality", cardinality),
    ("is_active", isActive)]

def word : RelationField → String
  | crossFilteringBehavior => "cross_filtering_behavior"
  | cardinality => "cardinality"
  | isActive => "is_active"

end RelationField

/-- The fields of a kind, after the kind itself. -/
def Op.Kind.fieldNames : Op.Kind → List String
  | .sheetAdded | .sheetRemoved => ["sheet"]
  | .sheetRenamed => ["sheet", "from", "to"]
  | .rowAdded | .rowRemoved | .rowReplaced => ["sheet", "row_idx"]
  | .duplicateKeyCluster => ["sheet", "key", "left_rows", "right_rows"]
  | .columnAdded | .columnRemoved => ["sheet", "col_idx"]
  | .blockMovedRows => ["sheet", "src_start_row", "row_count", "dst_start_row", "block_hash"]
  | .blockMovedColumns => ["sheet", "src_start_col", "col_count", "dst_start_col", "block_hash"]
  | .blockMovedRect =>
    ["sheet", "src_start_row", "src_row_count", "src_start_col", "src_col_count",
      "dst_start_row", "dst_start_col", "block_hash"]
  | .rectReplaced => ["sheet", "start_row", "row_count", "start_col", "col_count"]
  | .cellEdited => ["sheet", "addr", "from", "to", "formula_diff"]
  | .vbaModuleAdded | .vbaModuleRemoved | .vbaModuleChanged | .namedRangeAdded
  | .namedRangeRemoved | .queryAdded | .queryRemoved | .tableAdded | .tableRemoved
  | .measureAdded | .measureRemoved => ["name"]
  | .namedRangeChanged => ["name", "old_ref", "new_ref"]
  | .chartAdded | .chartRemoved | .chartChanged => ["sheet", "name"]
  | .queryRenamed => ["from", "to"]
  | .queryDefinitionChanged =>
    ["name", "change_kind", "old_hash", "new_hash", "semantic_detail"]
  | .queryMetadataChanged => ["name", "field", "old", "new"]
  | .modelColumnAdded => ["table", "name", "data_type"]
  | .modelColumnRemoved => ["table", "name"]
  | .modelColumnTypeChanged => ["table", "name", "old_type", "new_type"]
  | .modelColumnPropertyChanged => ["table", "name", "field", "old", "new"]
  | .calculatedColumnDefinitionChanged => ["table", "name", "change_kind", "old_hash", "new_hash"]
  | .relationshipAdded | .relationshipRemoved =>
    ["from_table", "from_column", "to_table", "to_column"]
  | .relationshipPropertyChanged =>
    ["from_table", "from_column", "to_table", "to_column", "field", "old", "new"]
  | .measureDefinitionChanged => ["name", "change_kind", "old_hash", "new_hash"]

namespace Change

def wordOf {α : Type} (words : List (String × α)) : Shape α := oneOf isNullOrEmpty words

def ref : Option Value → Option Ref := required Ref.ofJson?

def ref? : Option Value → Option (Option Ref) := nullable Ref.ofJson?

def nat : Option Value → Option Nat := required index

def hash? : Option Value → Option (Option Nat) := nullable whole

def nats : Option Value → Option (List Nat) := optional (list index) []

def steps? (v : Value) : Option (List Value) :=
  match v.fields? ["step_diffs"] with
  | some [steps] => optional (list some) [] steps
  | _ => none

def gridOfFields? : Op.Kind → List (Option Value) → Option GridChange
  | .sheetAdded, [] => some .sheetAdded
  | .sheetRemoved, [] => some .sheetRemoved
  | .sheetRenamed, [source, target] => do pure (.sheetRenamed (← ref source) (← ref? target))
  | .rowAdded, [row] => do pure (.lineAdded .row (← nat row))
  | .rowRemoved, [row] => do pure (.lineRemoved .row (← nat row))
  | .columnAdded, [col] => do pure (.lineAdded .col (← nat col))
  | .columnRemoved, [col] => do pure (.lineRemoved .col (← nat col))
  | .rowReplaced, [row] => do pure (.rowReplaced (← nat row))
  | .duplicateKeyCluster, [key, old, new] => do
    pure (.duplicateKeys (← optional (list some) [] key) (← nats old) (← nats new))
  | .blockMovedRows, [src, count, dst, hash] => do
    pure (.moved (.rows (← nat src) (← nat count) (← nat dst)) (← hash? hash))
  | .blockMovedColumns, [src, count, dst, hash] => do
    pure (.moved (.cols (← nat src) (← nat count) (← nat dst)) (← hash? hash))
  | .blockMovedRect, [srcRow, rows, srcCol, cols, dstRow, dstCol, hash] => do
    pure (.moved (.rect (← nat srcRow) (← nat rows) (← nat srcCol) (← nat cols) (← nat dstRow)
      (← nat dstCol)) (← hash? hash))
  | .rectReplaced, [row, rows, col, cols] => do
    pure (.rectReplaced (← nat row) (← nat rows) (← nat col) (← nat cols))
  | .cellEdited, [addr, before, after, formula] => do
    pure (.cellEdited (← required Address.ofJson? addr)
      (← optional CellState.ofJson? .empty before) (← optional CellState.ofJson? .empty after)
      (← optional (wordOf FormulaChange.words) .unknown formula))
  | _, _ => none

def objectOfFields? : Op.Kind → List (Option Value) → Option ObjectChange
  | .vbaModuleAdded, [name] => do pure (.vbaModule .added (← ref name))
  | .vbaModuleRemoved, [name] => do pure (.vbaModule .removed (← ref name))
  | .vbaModuleChanged, [name] => do pure (.vbaModule .changed (← ref name))
  | .namedRangeAdded, [name] => do pure (.namedRangeAdded (← ref name))
  | .namedRangeRemoved, [name] => do pure (.namedRangeRemoved (← ref name))
  | .namedRangeChanged, [name, old, new] => do
    pure (.namedRangeChanged (← ref name) (← ref? old) (← ref? new))
  | .chartAdded, [sheet, name] => do pure (.chart .added (← ref? sheet) (← ref name))
  | .chartRemoved, [sheet, name] => do pure (.chart .removed (← ref? sheet) (← ref name))
  | .chartChanged, [sheet, name] => do pure (.chart .changed (← ref? sheet) (← ref name))
  | _, _ => none

def queryOfFields? : Op.Kind → List (Option Value) → Option QueryChange
  | .queryAdded, [name] => do pure (.added (← ref name))
  | .queryRemoved, [name] => do pure (.removed (← ref name))
  | .queryRenamed, [source, target] => do pure (.renamed (← ref source) (← ref target))
  | .queryDefinitionChanged, [name, edit, old, new, detail] => do
    pure (.redefined (← ref name) (← required (wordOf QueryEdit.words) edit)
      ⟨← hash? old, ← hash? new⟩ (← nullable steps? detail))
  | .queryMetadataChanged, [name, field, old, new] => do
    pure (.metadata (← ref name) (← required (wordOf QueryField.words) field) (← ref? old)
      (← ref? new))
  | _, _ => none

def ends? (fromTable fromColumn toTable toColumn : Option Value) : Option Ends := do
  pure ⟨← ref fromTable, ← ref fromColumn, ← ref toTable, ← ref toColumn⟩

def modelOfFields? : Op.Kind → List (Option Value) → Option ModelChange
  | .tableAdded, [name] => do pure (.tableAdded (← ref name))
  | .tableRemoved, [name] => do pure (.tableRemoved (← ref name))
  | .modelColumnAdded, [table, name, type] => do
    pure (.columnAdded (← ref table) (← ref name) (← ref? type))
  | .modelColumnRemoved, [table, name] => do pure (.columnRemoved (← ref table) (← ref name))
  | .modelColumnTypeChanged, [table, name, old, new] => do
    pure (.columnRetyped (← ref table) (← ref name) (← ref? old) (← ref? new))
  | .modelColumnPropertyChanged, [table, name, field, old, new] => do
    pure (.columnProperty (← ref table) (← ref name) (← required (wordOf ColumnField.words) field)
      (← ref? old) (← ref? new))
  | .calculatedColumnDefinitionChanged, [table, name, edit, old, new] => do
    pure (.columnRedefined (← ref table) (← ref name)
      (← optional (wordOf ExpressionEdit.words) .unknown edit) ⟨← hash? old, ← hash? new⟩)
  | .relationshipAdded, [a, b, c, d] => do pure (.relationshipAdded (← ends? a b c d))
  | .relationshipRemoved, [a, b, c, d] => do pure (.relationshipRemoved (← ends? a b c d))
  | .relationshipPropertyChanged, [a, b, c, d, field, old, new] => do
    pure (.relationshipProperty (← ends? a b c d) (← required (wordOf RelationField.words) field)
      (← ref? old) (← ref? new))
  | .measureAdded, [name] => do pure (.measureAdded (← ref name))
  | .measureRemoved, [name] => do pure (.measureRemoved (← ref name))
  | .measureDefinitionChanged, [name, edit, old, new] => do
    pure (.measureRedefined (← ref name) (← optional (wordOf ExpressionEdit.words) .unknown edit)
      ⟨← hash? old, ← hash? new⟩)
  | _, _ => none

inductive Scope
  | grid
  | object
  | query
  | model
  deriving DecidableEq, Repr

def scope : Op.Kind → Scope
  | .sheetAdded | .sheetRemoved | .sheetRenamed | .rowAdded | .rowRemoved | .rowReplaced
  | .duplicateKeyCluster | .columnAdded | .columnRemoved | .blockMovedRows | .blockMovedColumns
  | .blockMovedRect | .rectReplaced | .cellEdited => .grid
  | .vbaModuleAdded | .vbaModuleRemoved | .vbaModuleChanged | .namedRangeAdded
  | .namedRangeRemoved | .namedRangeChanged | .chartAdded | .chartRemoved | .chartChanged =>
    .object
  | .queryAdded | .queryRemoved | .queryRenamed | .queryDefinitionChanged
  | .queryMetadataChanged => .query
  | .tableAdded | .tableRemoved | .modelColumnAdded | .modelColumnRemoved
  | .modelColumnTypeChanged | .modelColumnPropertyChanged | .calculatedColumnDefinitionChanged
  | .relationshipAdded | .relationshipRemoved | .relationshipPropertyChanged | .measureAdded
  | .measureRemoved | .measureDefinitionChanged => .model

def ofFields? (kind : Op.Kind) (fields : List (Option Value)) : Option Change :=
  match scope kind, fields with
  | .grid, sheet :: fields => do pure (.grid (← ref sheet) (← gridOfFields? kind fields))
  | .grid, [] => none
  | .object, fields => (objectOfFields? kind fields).map .object
  | .query, fields => (queryOfFields? kind fields).map .query
  | .model, fields => (modelOfFields? kind fields).map .model

/-- The kind of an operation and what is left of it. -/
def tagged? : Value → Option (Op.Kind × Value)
  | .record members => do
    let kind ← Op.Kind.ofJson? (← members.lookup "kind")
    pure (kind, .record (members.filter (·.1 ≠ "kind")))
  | .list (tag :: items) => do pure (← Op.Kind.ofJson? tag, .list items)
  | _ => none

def ofJson? (v : Value) : Option Change := do
  let (kind, rest) ← tagged? v
  ofFields? kind (← rest.fields? kind.fieldNames)

def refJson (r : Ref) : Option Value := some r.toJson

def refOrNull (r : Option Ref) : Option Value := some (.ofOption (·.toJson) r)

def natJson (n : Nat) : Option Value := some (.nat n)

def natsJson (ns : List Nat) : Option Value := some (.list (ns.map .nat))

def wordJson (s : String) : Option Value := some (.text s)

def stepsJson (steps : List Value) : Value :=
  .ofFields ["step_diffs"] [Value.unlessEmpty steps]

end Change

def Block.toFields : Block → List (Option Value)
  | .rows src count dst => [src, count, dst].map Change.natJson
  | .cols src count dst => [src, count, dst].map Change.natJson
  | .rect srcRow height srcCol width dstRow dstCol =>
    [srcRow, height, srcCol, width, dstRow, dstCol].map Change.natJson

open Change in
def GridChange.toFields : GridChange → List (Option Value)
  | .sheetAdded => []
  | .sheetRemoved => []
  | .sheetRenamed source target => [refJson source, target.map (·.toJson)]
  | .lineAdded _ index => [natJson index]
  | .lineRemoved _ index => [natJson index]
  | .rowReplaced row => [natJson row]
  | .duplicateKeys key oldRows newRows => [some (.list key), natsJson oldRows, natsJson newRows]
  | .moved block hash => block.toFields ++ [hash.map .nat]
  | .rectReplaced row rows col cols => [row, rows, col, cols].map natJson
  | .cellEdited addr before after formula =>
    [some addr.toJson, some before.toJson, some after.toJson, wordJson formula.word]

open Change in
def ObjectChange.toFields : ObjectChange → List (Option Value)
  | .vbaModule _ name => [refJson name]
  | .namedRangeAdded name => [refJson name]
  | .namedRangeRemoved name => [refJson name]
  | .namedRangeChanged name old new => [refJson name, refOrNull old, refOrNull new]
  | .chart _ sheet name => [refOrNull sheet, refJson name]

def Hashes.toFields (h : Hashes) : List (Option Value) := [h.old.map .nat, h.new.map .nat]

open Change in
def QueryChange.toFields : QueryChange → List (Option Value)
  | .added name => [refJson name]
  | .removed name => [refJson name]
  | .renamed source target => [refJson source, refJson target]
  | .redefined name edit hashes steps =>
    [refJson name, wordJson edit.word] ++ hashes.toFields ++ [steps.map stepsJson]
  | .metadata name field old new =>
    [refJson name, wordJson field.word, refOrNull old, refOrNull new]

def Ends.toFields (e : Ends) : List (Option Value) :=
  [e.fromTable, e.fromColumn, e.toTable, e.toColumn].map Change.refJson

open Change in
def ModelChange.toFields : ModelChange → List (Option Value)
  | .tableAdded name => [refJson name]
  | .tableRemoved name => [refJson name]
  | .columnAdded table name type => [refJson table, refJson name, type.map (·.toJson)]
  | .columnRemoved table name => [refJson table, refJson name]
  | .columnRetyped table name old new =>
    [refJson table, refJson name, refOrNull old, refOrNull new]
  | .columnProperty table name field old new =>
    [refJson table, refJson name, wordJson field.word, refOrNull old, refOrNull new]
  | .columnRedefined table name edit hashes =>
    [refJson table, refJson name, wordJson edit.word] ++ hashes.toFields
  | .relationshipAdded ends => ends.toFields
  | .relationshipRemoved ends => ends.toFields
  | .relationshipProperty ends field old new =>
    ends.toFields ++ [wordJson field.word, refOrNull old, refOrNull new]
  | .measureAdded name => [refJson name]
  | .measureRemoved name => [refJson name]
  | .measureRedefined name edit hashes => [refJson name, wordJson edit.word] ++ hashes.toFields

def Change.toFields : Change → List (Option Value)
  | .grid sheet c => refJson sheet :: c.toFields
  | .object c => c.toFields
  | .query c => c.toFields
  | .model c => c.toFields

def Change.toJson (c : Change) : Value :=
  .ofFields ("kind" :: c.kind.fieldNames) (wordJson c.kind.name :: c.toFields)

namespace UnknownOp

def ofJson? : Shape UnknownOp
  | .record members =>
    match members.lookup "kind" with
    | none => some ⟨"", members⟩
    | some (.text kind) => some ⟨kind, members.filter (·.1 ≠ "kind")⟩
    | some _ => none
  | _ => none

def toJson (u : UnknownOp) : Value := .record (("kind", .text u.kind) :: u.members)

end UnknownOp

namespace Op

def ofJson? (v : Value) : Option Op :=
  match Change.ofJson? v with
  | some c => some (.known c)
  | none => (UnknownOp.ofJson? v).map .unknown

def toJson : Op → Value
  | .known c => c.toJson
  | .unknown u => u.toJson

end Op

end DiffView
