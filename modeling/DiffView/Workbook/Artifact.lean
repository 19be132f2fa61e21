import DiffView.Item.Others
import DiffView.Sorting

namespace DiffView

inductive Bucket
  | vba
  | namedRanges
  | charts
  | queries
  | model
  | misc
  deriving DecidableEq, Repr

namespace Bucket

def all : List Bucket := [vba, namedRanges, charts, queries, model, misc]

def word : Bucket → String
  | vba => "vba"
  | namedRanges => "namedRanges"
  | charts => "charts"
  | queries => "queries"
  | model => "model"
  | misc => "misc"

def ofOp : Op → Bucket
  | .known (.object (.vbaModule ..)) => vba
  | .known (.object (.namedRangeAdded _)) => namedRanges
  | .known (.object (.namedRangeRemoved _)) => namedRanges
  | .known (.object (.namedRangeChanged ..)) => namedRanges
  | .known (.object (.chart ..)) => charts
  | .known (.query _) => queries
  | .known (.model _) => model
  | .known (.grid ..) => misc
  | .unknown _ => misc

end Bucket

structure Artifact where
  id : String
  index : Nat
  kind : String
  traits : Traits
  bucket : Bucket
  label : String
  detail : String
  deriving DecidableEq, Repr

def Report.changeText (r : Report) (what : String) (old new : Option Ref) : String :=
  match old.map r.resolve, new.map r.resolve with
  | some old, some new => what ++ ": " ++ old ++ " -> " ++ new
  | _, _ => what ++ " changed"

def ExpressionEdit.text : ExpressionEdit → String
  | .semantic => "Definition changed"
  | .formattingOnly => "Formatting only"
  | .unknown => ""

def QueryEdit.text : QueryEdit → String
  | .semantic => "Definition changed"
  | .formattingOnly => "Formatting only"
  | .renamed => "Renamed"

def QueryField.text : QueryField → String
  | .loadToSheet => "Load to sheet"
  | .loadToModel => "Load to model"
  | .groupPath => "Group"
  | .connectionOnly => "Connection only"

def ColumnField.text : ColumnField → String
  | .hidden => "Hidden"
  | .formatString => "Format string"
  | .sortBy => "Sort by"
  | .summarizeBy => "Summarize by"

def RelationField.text : RelationField → String
  | .crossFilteringBehavior => "Cross filtering"
  | .cardinality => "Cardinality"
  | .isActive => "Active"

def ObjectChange.describe (r : Report) : ObjectChange → String × String
  | .vbaModule _ name => ("VBA Module: " ++ r.resolve name, "")
  | .namedRangeAdded name => ("Named Range: " ++ r.resolve name, "")
  | .namedRangeRemoved name => ("Named Range: " ++ r.resolve name, "")
  | .namedRangeChanged name old new =>
    ("Named Range: " ++ r.resolve name, r.changeText "Refers to" old new)
  | .chart _ _ name => ("Chart: " ++ r.resolve name, "")

def hasSteps (steps : Option (List Json.Value)) : Bool := steps.any fun s => !s.isEmpty

def QueryChange.detail (r : Report) : QueryChange → String
  | .added _ => ""
  | .removed _ => ""
  | .renamed source _ => "Renamed from " ++ r.resolve source
  | .redefined _ edit _ steps => if hasSteps steps then "Step diffs" else edit.text
  | .metadata _ field old new => r.changeText field.text old new

def QueryChange.describe (r : Report) (c : QueryChange) : String × String :=
  ("Query: " ++ r.resolve c.name, c.detail r)

def columnText (r : Report) (table name : Ref) : String :=
  "Column: " ++ r.resolve table ++ "[" ++ r.resolve name ++ "]"

def Ends.text (r : Report) (e : Ends) : String :=
  "Relationship: " ++ r.resolve e.fromTable ++ "[" ++ r.resolve e.fromColumn ++ "] -> " ++
    r.resolve e.toTable ++ "[" ++ r.resolve e.toColumn ++ "]"

def typeText (r : Report) : Option Ref → String
  | some type => "Type " ++ r.resolve type
  | none => ""

def ModelChange.describe (r : Report) : ModelChange → String × String
  | .tableAdded name => ("Table: " ++ r.resolve name, "")
  | .tableRemoved name => ("Table: " ++ r.resolve name, "")
  | .columnAdded table name type => (columnText r table name, typeText r type)
  | .columnRemoved table name => (columnText r table name, "")
  | .columnRetyped table name old new => (columnText r table name, r.changeText "Type" old new)
  | .columnProperty table name field old new =>
    (columnText r table name, r.changeText field.text old new)
  | .columnRedefined table name edit _ => (columnText r table name, edit.text)
  | .relationshipAdded ends => (ends.text r, "")
  | .relationshipRemoved ends => (ends.text r, "")
  | .relationshipProperty ends field old new => (ends.text r, r.changeText field.text old new)
  | .measureAdded name => ("Measure: " ++ r.resolve name, "")
  | .measureRemoved name => ("Measure: " ++ r.resolve name, "")
  | .measureRedefined name edit _ => ("Measure: " ++ r.resolve name, edit.text)

namespace Artifact

def describe (r : Report) (op : Op) : String × String :=
  match op with
  | .known (.object c) => c.describe r
  | .known (.query c) => c.describe r
  | .known (.model c) => c.describe r
  | op => (r.plainText op, "")

def ofOp (r : Report) (l : Listed) : Artifact :=
  let (label, detail) := describe r l.op
  ⟨s!"{l.op.kindName}-{l.index}", l.index, l.op.kindName, l.op.traits, .ofOp l.op, label, detail⟩

/-- By severity, the highest first, then by label, then by id. -/
def compare (a b : Artifact) : Ordering :=
  (Ord.compare b.traits.severity.rank a.traits.severity.rank).then
    ((Ord.compare a.label b.label).then (Ord.compare a.id b.id))

def topCount : Nat := 10

def top (as : List Artifact) : List Artifact := (sortBy compare as).take topCount

end Artifact

def Bucket.sort (as : List Artifact) : List Artifact :=
  all.flatMap fun b => as.filter fun a => a.bucket = b

end DiffView
