import DiffView.Edits

namespace DiffView

structure Sheet where
  old : Option Snapshot
  new : Option Snapshot
  grid : Grid
  edits : Edits
  deriving DecidableEq, Repr

/-- A snapshot may list a cell more than once; then the last one counts. -/
def Snapshot.cell? (s : Snapshot) (row col : Nat) : Option Cell :=
  if col < colLimit then s.cells.reverse.find? fun c => c.row = row ∧ c.col = col else none

namespace Sheet

def snapshot? (s : Sheet) : Side → Option Snapshot
  | .old => s.old
  | .new => s.new

def cell? (s : Sheet) (side : Side) (row col : Nat) : Option Cell :=
  (s.snapshot? side).bind fun snapshot => snapshot.cell? row col

end Sheet

end DiffView
