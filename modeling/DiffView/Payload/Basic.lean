import DiffView.Op.Basic
import DiffView.Side

namespace DiffView

structure Report where
  version : Option String
  strings : List String
  ops : List Op
  complete : Bool
  warnings : List String
  deriving DecidableEq, Repr

structure Cell where
  row : Nat
  col : Nat
  value : Option String
  formula : Option String
  deriving DecidableEq, Repr

structure Snapshot where
  name : String
  rowCount : Nat
  colCount : Nat
  cells : List Cell
  truncated : Bool
  includedCells : Option Nat
  totalNonEmptyCells : Option Nat
  note : Option String
  deriving DecidableEq, Repr

inductive SlotKind
  | same
  | inserted
  | deleted
  | moveSource
  | moveTarget
  deriving DecidableEq, Repr

/-- One line of the common view of both sheets: which line of each of them it shows. -/
structure Slot where
  old : Option Nat
  new : Option Nat
  kind : SlotKind
  moveId : Option String
  deriving DecidableEq, Repr

structure MoveRecord where
  id : String
  axis : String
  src : Nat
  dst : Nat
  count : Nat
  deriving DecidableEq, Repr

/-- How the lines of the old sheet and those of the new one share a view. -/
structure Alignment where
  sheet : String
  rows : List Slot
  cols : List Slot
  moves : List MoveRecord
  skipped : Bool
  skipReason : Option String
  deriving DecidableEq, Repr

/-- An area worth showing, in the indices of the sheets themselves. The payload may give the end of
an area before its start. -/
structure Interest where
  id : String
  kind : String
  side : Sides
  rowStart : Nat
  rowEnd : Nat
  colStart : Nat
  colEnd : Nat
  moveId : Option String
  deriving DecidableEq, Repr

structure SheetInterests where
  sheet : String
  rects : List Interest
  deriving DecidableEq, Repr

structure Payload where
  report : Report
  old : List Snapshot
  new : List Snapshot
  alignments : List Alignment
  interests : List SheetInterests
  deriving DecidableEq, Repr

def Report.resolve (r : Report) (ref : Ref) : String := ref.resolve r.strings

def Snapshot.isEmpty (s : Snapshot) : Bool := s.rowCount = 0 || s.colCount = 0

namespace Payload

def ofReport (report : Report) : Payload := ⟨report, [], [], [], []⟩

def snapshots (p : Payload) : Side → List Snapshot
  | .old => p.old
  | .new => p.new

def snapshot? (p : Payload) (side : Side) (name : String) : Option Snapshot :=
  (p.snapshots side).find? fun s => s.name = name

def alignment? (p : Payload) (sheet : String) : Option Alignment :=
  p.alignments.find? fun a => a.sheet = sheet

def interests? (p : Payload) (sheet : String) : Option (List Interest) :=
  (p.interests.find? fun i => i.sheet = sheet).map (·.rects)

end Payload

end DiffView
