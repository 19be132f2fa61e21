import DiffView.Options.Json
import DiffView.Sheet.Json
import DiffView.Workbook.View

namespace DiffView

open Json

def CategoryCounts.toJson (c : CategoryCounts) : Value :=
  .record
    [("grid", .nat c.grid), ("powerQuery", .nat c.powerQuery), ("model", .nat c.model),
      ("objects", .nat c.objects), ("other", .nat c.other)]

namespace Artifact

def toJson (a : Artifact) : Value :=
  .ofMembers
    [("id", some (.text a.id)), ("index", some (.nat a.index)), ("kind", some (.text a.kind)),
      ("changeType", some (.text a.traits.changeType.word)),
      ("category", some (.text a.traits.category.word)),
      ("severity", some (.text a.traits.severity.word)), ("label", some (.text a.label)),
      ("detail", Value.unlessBlank a.detail)]

def rankJson (a : Artifact) : Value :=
  .record
    [("id", .text a.id), ("label", .text a.label), ("category", .text a.traits.category.word),
      ("severity", .text a.traits.severity.word)]

end Artifact

namespace WorkbookView

def breakdownJson (row : Category × SeverityCounts) : Value :=
  .record
    [("category", .text row.1.word), ("total", .nat row.2.total), ("severity", row.2.toJson)]

def artifactsJson (w : WorkbookView) : Value :=
  .record (Bucket.all.map fun b =>
    (b.word, .list ((w.artifacts.filter fun a => a.bucket = b).map (·.toJson))))

def analysisJson (w : WorkbookView) : Value :=
  .ofMembers
    [("opCount", some (.nat w.opCount)), ("counts", some w.changeCounts.toJson),
      ("categories", some w.categoryCounts.toJson),
      ("categoryBreakdown", Value.unlessEmpty (w.breakdown.map breakdownJson)),
      ("severity", some w.severityCounts.toJson),
      ("sheets", Value.unlessEmpty (w.sheets.map (·.sumsJson))),
      ("topSheets", Value.unlessEmpty (w.topSheets.map .text)),
      ("topArtifacts", Value.unlessEmpty (w.topArtifacts.map (·.rankJson)))]

def toJson (w : WorkbookView) : Value :=
  .record
    [("report", w.report.toJson), ("warnings", .texts w.report.warnings),
      ("counts", w.changeCounts.toJson), ("sheets", .list (w.sheets.map (·.toJson))),
      ("other", w.artifactsJson), ("analysis", w.analysisJson)]

/-- The payload and the options of two texts. Without a text, options are the default ones; a fault
of the payload is found first. -/
def inputs (payload : String) (options : Option String) : Except Error (Payload × Options) := do
  let p ← Payload.ofText payload
  let o ← options.elim (.ok .default) Options.ofText
  pure (p, o)

def ofText (payload : String) (options : Option String) : Except Error WorkbookView := do
  let (p, o) ← inputs payload options
  pure (ofPayload p o)

def textOfText (payload : String) (options : Option String) : Except Error String := do
  pure (← ofText payload options).toJson.render

end WorkbookView

end DiffView
