import DiffView.Json.Value
import DiffView.Line
import DiffView.Op.Kind

namespace DiffView

inductive Ref
  | id (n : Nat)
  | text (s : String)
  deriving DecidableEq, Repr

def unknownString : String := "<unknown>"

def Ref.resolve (strings : List String) : Ref → String
  | .id n => (strings[n]?).getD unknownString
  | .text s => s

inductive Address
  | cell (row col : Nat)
  | a1 (text : String)
  deriving DecidableEq, Repr

def Address.indices? : Address → Option (Nat × Nat)
  | .cell row col => some (row, col)
  | .a1 text => A1.parse? text

inductive CellValue
  | blank
  | number (d : Decimal.Double)
  | text (r : Ref)
  | bool (b : Bool)
  | error (r : Ref)
  deriving DecidableEq, Repr

inductive Content
  | typed (v : CellValue)
  | raw (v : Json.Value)
  deriving DecidableEq, Repr

structure CellState where
  addr : Option Address
  content : Option Content
  formula : Option Ref
  deriving DecidableEq, Repr

def CellState.empty : CellState := ⟨none, none, none⟩

inductive FormulaChange
  | unknown
  | unchanged
  | added
  | removed
  | formattingOnly
  | filled
  | semantic
  | text
  deriving DecidableEq, Repr

inductive QueryEdit
  | semantic
  | formattingOnly
  | renamed
  deriving DecidableEq, Repr

inductive ExpressionEdit
  | semantic
  | formattingOnly
  | unknown
  deriving DecidableEq, Repr

inductive QueryField
  | loadToSheet
  | loadToModel
  | groupPath
  | connectionOnly
  deriving DecidableEq, Repr

inductive ColumnField
  | hidden
  | formatString
  | sortBy
  | summarizeBy
  deriving DecidableEq, Repr

inductive RelationField
  | crossFilteringBehavior
  | cardinality
  | isActive
  deriving DecidableEq, Repr

/-- A block of cells that moved: where it was, how large it is, and where it is now. -/
inductive Block
  | rows (src count dst : Nat)
  | cols (src count dst : Nat)
  | rect (srcRow rows srcCol cols dstRow dstCol : Nat)
  deriving DecidableEq, Repr

inductive GridChange
  | sheetAdded
  | sheetRemoved
  /-- The sheet of the operation is the one with the new name. -/
  | sheetRenamed (source : Ref) (target : Option Ref)
  | lineAdded (line : Line) (index : Nat)
  | lineRemoved (line : Line) (index : Nat)
  | rowReplaced (row : Nat)
  | duplicateKeys (key : List Json.Value) (oldRows newRows : List Nat)
  | moved (block : Block) (hash : Option Nat)
  | rectReplaced (row rows col cols : Nat)
  | cellEdited (addr : Address) (before after : CellState) (formula : FormulaChange)
  deriving DecidableEq, Repr

inductive Fate
  | added
  | removed
  | changed
  deriving DecidableEq, Repr

inductive ObjectChange
  | vbaModule (fate : Fate) (name : Ref)
  | namedRangeAdded (name : Ref)
  | namedRangeRemoved (name : Ref)
  | namedRangeChanged (name : Ref) (old new : Option Ref)
  | chart (fate : Fate) (sheet : Option Ref) (name : Ref)
  deriving DecidableEq, Repr

structure Hashes where
  old : Option Nat
  new : Option Nat
  deriving DecidableEq, Repr

inductive QueryChange
  | added (name : Ref)
  | removed (name : Ref)
  | renamed (source target : Ref)
  | redefined (name : Ref) (edit : QueryEdit) (hashes : Hashes) (steps : Option (List Json.Value))
  | metadata (name : Ref) (field : QueryField) (old new : Option Ref)
  deriving DecidableEq, Repr

structure Ends where
  fromTable : Ref
  fromColumn : Ref
  toTable : Ref
  toColumn : Ref
  deriving DecidableEq, Repr

inductive ModelChange
  | tableAdded (name : Ref)
  | tableRemoved (name : Ref)
  | columnAdded (table name : Ref) (type : Option Ref)
  | columnRemoved (table name : Ref)
  | columnRetyped (table name : Ref) (old new : Option Ref)
  | columnProperty (table name : Ref) (field : ColumnField) (old new : Option Ref)
  | columnRedefined (table name : Ref) (edit : ExpressionEdit) (hashes : Hashes)
  | relationshipAdded (ends : Ends)
  | relationshipRemoved (ends : Ends)
  | relationshipProperty (ends : Ends) (field : RelationField) (old new : Option Ref)
  | measureAdded (name : Ref)
  | measureRemoved (name : Ref)
  | measureRedefined (name : Ref) (edit : ExpressionEdit) (hashes : Hashes)
  deriving DecidableEq, Repr

inductive Change
  | grid (sheet : Ref) (change : GridChange)
  | object (change : ObjectChange)
  | query (change : QueryChange)
  | model (change : ModelChange)
  deriving DecidableEq, Repr

/-- An operation of no known kind, or of a known kind with fields that do not fit it. -/
structure UnknownOp where
  kind : String
  members : List Json.Member
  deriving DecidableEq, Repr

inductive Op
  | known (c : Change)
  | unknown (u : UnknownOp)
  deriving DecidableEq, Repr

def GridChange.kind : GridChange → Op.Kind
  | .sheetAdded => .sheetAdded
  | .sheetRemoved => .sheetRemoved
  | .sheetRenamed .. => .sheetRenamed
  | .lineAdded .row _ => .rowAdded
  | .lineAdded .col _ => .columnAdded
  | .lineRemoved .row _ => .rowRemoved
  | .lineRemoved .col _ => .columnRemoved
  | .rowReplaced _ => .rowReplaced
  | .duplicateKeys .. => .duplicateKeyCluster
  | .moved (.rows ..) _ => .blockMovedRows
  | .moved (.cols ..) _ => .blockMovedColumns
  | .moved (.rect ..) _ => .blockMovedRect
  | .rectReplaced .. => .rectReplaced
  | .cellEdited .. => .cellEdited

def ObjectChange.kind : ObjectChange → Op.Kind
  | .vbaModule .added _ => .vbaModuleAdded
  | .vbaModule .removed _ => .vbaModuleRemoved
  | .vbaModule .changed _ => .vbaModuleChanged
  | .namedRangeAdded _ => .namedRangeAdded
  | .namedRangeRemoved _ => .namedRangeRemoved
  | .namedRangeChanged .. => .namedRangeChanged
  | .chart .added .. => .chartAdded
  | .chart .removed .. => .chartRemoved
  | .chart .changed .. => .chartChanged

def QueryChange.kind : QueryChange → Op.Kind
  | .added _ => .queryAdded
  | .removed _ => .queryRemoved
  | .renamed .. => .queryRenamed
  | .redefined .. => .queryDefinitionChanged
  | .metadata .. => .queryMetadataChanged

def ModelChange.kind : ModelChange → Op.Kind
  | .tableAdded _ => .tableAdded
  | .tableRemoved _ => .tableRemoved
  | .columnAdded .. => .modelColumnAdded
  | .columnRemoved .. => .modelColumnRemoved
  | .columnRetyped .. => .modelColumnTypeChanged
  | .columnProperty .. => .modelColumnPropertyChanged
  | .columnRedefined .. => .calculatedColumnDefinitionChanged
  | .relationshipAdded _ => .relationshipAdded
  | .relationshipRemoved _ => .relationshipRemoved
  | .relationshipProperty .. => .relationshipPropertyChanged
  | .measureAdded _ => .measureAdded
  | .measureRemoved _ => .measureRemoved
  | .measureRedefined .. => .measureDefinitionChanged

def Change.kind : Change → Op.Kind
  | .grid _ c => c.kind
  | .object c => c.kind
  | .query c => c.kind
  | .model c => c.kind

def UnknownOp.ref? (u : UnknownOp) (key : String) : Option Ref :=
  match u.members.lookup key with
  | some (.number (.nat n)) => if n ≤ maxIndex then some (.id n) else none
  | some (.text s) => some (.text s)
  | _ => none

def QueryChange.name : QueryChange → Ref
  | .added name => name
  | .removed name => name
  | .renamed _ target => target
  | .redefined name .. => name
  | .metadata name .. => name

def ObjectChange.name : ObjectChange → Ref
  | .vbaModule _ name => name
  | .namedRangeAdded name => name
  | .namedRangeRemoved name => name
  | .namedRangeChanged name .. => name
  | .chart _ _ name => name

def ModelChange.name? : ModelChange → Option Ref
  | .tableAdded name => some name
  | .tableRemoved name => some name
  | .columnAdded _ name _ => some name
  | .columnRemoved _ name => some name
  | .columnRetyped _ name .. => some name
  | .columnProperty _ name .. => some name
  | .columnRedefined _ name .. => some name
  | .relationshipAdded _ => none
  | .relationshipRemoved _ => none
  | .relationshipProperty .. => none
  | .measureAdded name => some name
  | .measureRemoved name => some name
  | .measureRedefined name .. => some name

namespace Op

def kindName : Op → String
  | .known c => c.kind.name
  | .unknown u => u.kind

/-- The sheet that lists the operation. A chart has a sheet but is listed with the workbook. -/
def sheet? : Op → Option Ref
  | .known (.grid sheet _) => some sheet
  | .known _ => none
  | .unknown u => u.ref? "sheet"

def gridChange? : Op → Option GridChange
  | .known (.grid _ c) => some c
  | _ => none

def name? : Op → Option Ref
  | .known (.grid ..) => none
  | .known (.object c) => some c.name
  | .known (.query c) => some c.name
  | .known (.model c) => c.name?
  | .unknown u => u.ref? "name"

/-- The block that the operation moves. -/
def block? (op : Op) : Option Block :=
  match op.gridChange? with
  | some (.moved block _) => some block
  | _ => none

def editAddress? (op : Op) : Option Address :=
  match op.gridChange? with
  | some (.cellEdited addr ..) => some addr
  | _ => none

end Op

structure Listed where
  index : Nat
  op : Op
  deriving DecidableEq, Repr

end DiffView
