import DiffView.Grid

namespace DiffView

/-- The grid is shown in the first two cases only. -/
inductive Status
  | ready
  | cut (message : String)
  | skipped (message : String)
  | missing (message : String)
  deriving DecidableEq, Repr

namespace Status

def word : Status → String
  | ready => "ok"
  | cut _ => "partial"
  | skipped _ => "skipped"
  | missing _ => "missing"

def title : Status → String
  | ready => "Ok"
  | cut _ => "Partial"
  | skipped _ => "Skipped"
  | missing _ => "Missing"

def message? : Status → Option String
  | ready => none
  | cut m => some m
  | skipped m => some m
  | missing m => some m

def isShown : Status → Bool
  | ready => true
  | cut _ => true
  | _ => false

def noAlignment : String := "Alignment data is missing for this sheet."

def noSnapshots : String := "Sheet snapshots are missing for this sheet."

def skippedText : String :=
  "Grid preview skipped because the aligned view is too large or inconsistent."

def cutText : String := "Sheet snapshot was truncated; some cells are not shown."

def given (text : Option String) (standard : String) : String :=
  match text with
  | some s => if s.isEmpty then standard else s
  | none => standard

def hasCells (s : Option Snapshot) : Bool := s.any fun s => !s.isEmpty

/-- The old sheet is the first to be blamed for missing cells. -/
def ofSnapshots (old new : Option Snapshot) : Status :=
  match (old.toList ++ new.toList).find? fun s => s.truncated with
  | some s => cut (given s.note cutText)
  | none => ready

def ofSheet (alignment : Option Alignment) (g : Grid) (old new : Option Snapshot) : Status :=
  match alignment with
  | none => missing noAlignment
  | some a =>
    if a.skipped then skipped (given a.skipReason skippedText)
    else if g.isEmpty || !(hasCells old || hasCells new) then missing noSnapshots
    else ofSnapshots old new

end Status

end DiffView
