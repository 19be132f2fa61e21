import DiffView.Text.Lower
import DiffView.Workbook.Artifact
import DiffView.Workbook.Routing

namespace DiffView

structure WorkbookView where
  report : Report
  traits : List Traits
  sheets : List SheetView
  artifacts : List Artifact
  deriving DecidableEq, Repr

namespace SheetView

def severityRank (v : SheetView) : Nat := (v.severity?.map fun s => s.rank + 1).getD 0

/-- By severity, the highest first, then by the number of operations, the largest first, then by
name regardless of case, then by name. -/
def compare (v w : SheetView) : Ordering :=
  (Ord.compare w.severityRank v.severityRank).then
    ((Ord.compare w.opCount v.opCount).then
      ((Ord.compare (Text.lower v.name) (Text.lower w.name)).then (Ord.compare v.name w.name)))

end SheetView

namespace WorkbookView

def ofPayload (p : Payload) (o : Options) : WorkbookView where
  report := p.report
  traits := (p.keptOps o.filters).map fun l => l.op.traits
  sheets :=
    sortBy SheetView.compare ((p.sheetNames o.filters).filterMap (SheetView.ofPayload? p o))
  artifacts := Bucket.sort ((p.workbookOps o.filters).map (Artifact.ofOp p.report))

def sheet? (w : WorkbookView) (name : String) : Option SheetView :=
  w.sheets.find? fun v => v.name = name

def opCount (w : WorkbookView) : Nat := w.traits.length

def changeCounts (w : WorkbookView) : ChangeCounts := .ofTraits w.traits

def severityCounts (w : WorkbookView) : SeverityCounts := .ofTraits w.traits

def categoryCounts (w : WorkbookView) : CategoryCounts := .ofTraits w.traits

def breakdown (w : WorkbookView) : List (Category × SeverityCounts) :=
  (Category.ofTraits w.traits).map fun c =>
    (c, .ofTraits (w.traits.filter fun t => t.category = c))

def topSheetCount : Nat := 5

def topSheets (w : WorkbookView) : List String :=
  (w.sheets.take topSheetCount).map fun v => v.name

def topArtifacts (w : WorkbookView) : List Artifact := Artifact.top w.artifacts

def notes (p : Payload) (o : Options) : List Note :=
  let f := o.filters
  let w := ofPayload p o
  [.routed p.report.ops.length (p.sheetNames f).length (p.workbookOps f).length] ++
    (p.sheetNames f).flatMap (fun name => (p.sheetInput f name).notes o) ++
    [.built w.sheets.length w.artifacts.length w.opCount]

end WorkbookView

end DiffView
