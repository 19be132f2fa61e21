import DiffView.Sheet.Status
import DiffView.Text.Quoted

namespace DiffView

inductive Level
  | debug
  | warn
  deriving DecidableEq, Repr

def Level.word : Level → String
  | .debug => "debug"
  | .warn => "warn"

inductive Note
  | routed (ops sheets artifacts : Nat)
  | stray (count oldLength newLength : Nat)
  | dropped (edits : Nat)
  | unknownAxis (moveId axis : String)
  | sheet (name : String) (status : Status) (ops edits regions anchors hunks : Nat)
  | built (sheets artifacts ops : Nat)
  deriving DecidableEq, Repr

namespace Note

def level : Note → Level
  | stray .. => .warn
  | dropped _ => .warn
  | _ => .debug

def text : Note → String
  | routed ops sheets artifacts =>
    s!"routed {ops} ops: {sheets} sheets, {artifacts} workbook artifacts"
  | stray count oldLength newLength =>
    s!"alignment references {count} indices outside the sheet bounds " ++
      s!"(old={oldLength}, new={newLength})"
  | dropped edits => s!"{edits} cell edits could not be placed in the aligned view"
  | unknownAxis moveId axis => s!"ignoring move {moveId} on unknown axis {Text.quoted axis}"
  | sheet name status ops edits regions anchors hunks =>
    s!"sheet {Text.quoted name}: status={status.title} ops={ops} edits={edits} " ++
      s!"regions={regions} anchors={anchors} hunks={hunks}"
  | built sheets artifacts ops =>
    s!"workbook view model: {sheets} sheets, {artifacts} artifacts, {ops} ops"

/-- Nothing is noted where one of the sheets has no lines at all. -/
def ofAxis (a : Axis) : List Note :=
  if 0 < a.strayCount ∧ 0 < a.oldLength ∧ 0 < a.newLength then
    [stray a.strayCount a.oldLength a.newLength]
  else []

end Note

end DiffView
