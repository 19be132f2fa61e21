import DiffView.Op.Basic

namespace DiffView

inductive Category
  | grid
  | powerQuery
  | model
  | objects
  | other
  deriving DecidableEq, Repr

inductive Severity
  | low
  | medium
  | high
  deriving DecidableEq, Repr

inductive ChangeType
  | added
  | removed
  | modified
  | moved
  deriving DecidableEq, Repr

inductive Noise
  | unknown
  | formattingOnly
  | renameOnly
  | structural
  | move
  | valueChange
  | formulaChange
  deriving DecidableEq, Repr

structure Traits where
  category : Category
  severity : Severity
  changeType : ChangeType
  noise : Noise
  deriving DecidableEq, Repr

def Category.word : Category → String
  | .grid => "grid"
  | .powerQuery => "power_query"
  | .model => "model"
  | .objects => "objects"
  | .other => "other"

def Category.all : List Category := [.grid, .powerQuery, .model, .objects, .other]

def Category.rank : Category → Nat
  | .grid => 0
  | .powerQuery => 1
  | .model => 2
  | .objects => 3
  | .other => 4

def Severity.word : Severity → String
  | .low => "low"
  | .medium => "medium"
  | .high => "high"

def Severity.rank : Severity → Nat
  | .low => 0
  | .medium => 1
  | .high => 2

def ChangeType.word : ChangeType → String
  | .added => "added"
  | .removed => "removed"
  | .modified => "modified"
  | .moved => "moved"

def Noise.word : Noise → String
  | .unknown => "unknown"
  | .formattingOnly => "formatting_only"
  | .renameOnly => "rename_only"
  | .structural => "structural"
  | .move => "move"
  | .valueChange => "value_change"
  | .formulaChange => "formula_change"

def ExpressionEdit.severity : ExpressionEdit → Severity
  | .semantic => .high
  | .formattingOnly => .low
  | .unknown => .medium

def ExpressionEdit.noise : ExpressionEdit → Noise
  | .semantic => .formulaChange
  | .formattingOnly => .formattingOnly
  | .unknown => .unknown

def QueryEdit.severity : QueryEdit → Severity
  | .semantic => .high
  | .formattingOnly => .low
  | .renamed => .low

def QueryEdit.noise : QueryEdit → Noise
  | .semantic => .formulaChange
  | .formattingOnly => .formattingOnly
  | .renamed => .renameOnly

/-- Filled and rewritten formulas can still matter. -/
def FormulaChange.severity : FormulaChange → Severity
  | .semantic => .high
  | .formattingOnly => .low
  | _ => .medium

def FormulaChange.noise : FormulaChange → Noise
  | .formattingOnly => .formattingOnly
  | .unknown => .valueChange
  | .unchanged => .valueChange
  | _ => .formulaChange

def Fate.changeType : Fate → ChangeType
  | .added => .added
  | .removed => .removed
  | .changed => .modified

def Fate.noise : Fate → Noise
  | .changed => .unknown
  | _ => .structural

namespace GridChange

def severity : GridChange → Severity
  | .sheetAdded => .high
  | .sheetRemoved => .high
  | .sheetRenamed .. => .low
  | .duplicateKeys .. => .high
  | .cellEdited _ _ _ formula => formula.severity
  | _ => .medium

def changeType : GridChange → ChangeType
  | .sheetAdded => .added
  | .lineAdded .. => .added
  | .sheetRemoved => .removed
  | .lineRemoved .. => .removed
  | .moved .. => .moved
  | _ => .modified

def noise : GridChange → Noise
  | .sheetRenamed .. => .renameOnly
  | .moved .. => .move
  | .cellEdited _ _ _ formula => formula.noise
  | _ => .structural

def traits (c : GridChange) : Traits := ⟨.grid, c.severity, c.changeType, c.noise⟩

end GridChange

def ObjectChange.traits : ObjectChange → Traits
  | .vbaModule fate _ => ⟨.objects, .medium, fate.changeType, fate.noise⟩
  | .namedRangeAdded _ => ⟨.objects, .medium, .added, .structural⟩
  | .namedRangeRemoved _ => ⟨.objects, .medium, .removed, .structural⟩
  | .namedRangeChanged .. => ⟨.objects, .medium, .modified, .unknown⟩
  | .chart fate _ _ => ⟨.objects, .medium, fate.changeType, fate.noise⟩

def QueryChange.traits : QueryChange → Traits
  | .added _ => ⟨.powerQuery, .high, .added, .structural⟩
  | .removed _ => ⟨.powerQuery, .high, .removed, .structural⟩
  | .renamed .. => ⟨.powerQuery, .low, .modified, .renameOnly⟩
  | .redefined _ edit .. => ⟨.powerQuery, edit.severity, .modified, edit.noise⟩
  | .metadata _ .loadToSheet .. => ⟨.powerQuery, .low, .added, .unknown⟩
  | .metadata .. => ⟨.powerQuery, .low, .modified, .unknown⟩

def ModelChange.traits : ModelChange → Traits
  | .tableAdded _ => ⟨.model, .high, .added, .structural⟩
  | .tableRemoved _ => ⟨.model, .high, .removed, .structural⟩
  | .columnAdded .. => ⟨.model, .high, .added, .structural⟩
  | .columnRemoved .. => ⟨.model, .high, .removed, .structural⟩
  | .columnRetyped .. => ⟨.model, .high, .modified, .structural⟩
  | .columnProperty .. => ⟨.model, .low, .modified, .unknown⟩
  | .columnRedefined _ _ edit _ => ⟨.model, edit.severity, .modified, edit.noise⟩
  | .relationshipAdded _ => ⟨.model, .high, .added, .structural⟩
  | .relationshipRemoved _ => ⟨.model, .high, .removed, .structural⟩
  | .relationshipProperty .. => ⟨.model, .high, .modified, .unknown⟩
  | .measureAdded _ => ⟨.model, .high, .added, .structural⟩
  | .measureRemoved _ => ⟨.model, .high, .removed, .structural⟩
  | .measureRedefined _ edit _ => ⟨.model, edit.severity, .modified, edit.noise⟩

def Change.traits : Change → Traits
  | .grid _ c => c.traits
  | .object c => c.traits
  | .query c => c.traits
  | .model c => c.traits

/-- The first beginning that fits a name decides. -/
def categoryBeginnings : List (String × Category) :=
  [("Query", .powerQuery), ("Table", .model), ("ModelColumn", .model),
    ("CalculatedColumn", .model), ("Relationship", .model), ("Measure", .model),
    ("Chart", .objects), ("NamedRange", .objects), ("Vba", .objects), ("Sheet", .grid),
    ("Row", .grid), ("Column", .grid), ("Cell", .grid), ("Block", .grid), ("Rect", .grid),
    ("DuplicateKey", .grid)]

def Category.ofName (name : String) : Category :=
  match categoryBeginnings.find? fun b => b.1.toList.isPrefixOf name.toList with
  | some b => b.2
  | none => .other

def occurs (word : List Char) : List Char → Bool
  | [] => word.isEmpty
  | c :: cs => word.isPrefixOf (c :: cs) || occurs word cs

def ChangeType.ofName (name : String) : ChangeType :=
  if occurs "Added".toList name.toList then .added
  else if occurs "Removed".toList name.toList then .removed
  else if occurs "Moved".toList name.toList then .moved
  else .modified

def UnknownOp.traits (u : UnknownOp) : Traits :=
  ⟨Category.ofName u.kind, .medium, ChangeType.ofName u.kind, .unknown⟩

def Op.traits : Op → Traits
  | .known c => c.traits
  | .unknown u => u.traits

/-- What a view leaves out. -/
structure Filters where
  queryFormatting : Bool
  measureFormatting : Bool
  formulaFormatting : Bool
  repeatedMoves : Bool
  deriving DecidableEq, Repr

def Filters.none : Filters := ⟨false, false, false, false⟩

def Filters.hides (f : Filters) : Op → Bool
  | .known (.query (.redefined _ .formattingOnly ..)) => f.queryFormatting
  | .known (.model (.measureRedefined _ .formattingOnly _)) => f.measureFormatting
  | .known (.model (.columnRedefined _ _ .formattingOnly _)) => f.measureFormatting
  | .known (.grid _ (.cellEdited _ _ _ .formattingOnly)) => f.formulaFormatting
  | _ => false

end DiffView
