import DiffView.Grid
import DiffView.Item.Basic
import DiffView.Sorting

namespace DiffView

def Side.changeType : Side → ChangeType
  | .old => .removed
  | .new => .added

namespace Item

def replacedRow? (op : Op) : Option Nat :=
  match op.gridChange? with
  | some (.rowReplaced row) => some row
  | _ => none

def ofReplacedRow (rows : Axis) (row : Nat) : Item :=
  let view := rows.viewOrSame .new row
  ⟨s!"row-replaced-{row}", .rows, .modified,
    Line.row.spanText (rows.lineAt .new view) (rows.lineAt .new view) ++ " replaced", "",
    some (.lines .row (.point view))⟩

def replacedRows (g : Grid) (ops : List Listed) : List Item :=
  (distinct (ops.filterMap fun l => replacedRow? l.op)).map (ofReplacedRow g.rows)

def changedLine? (line : Line) (side : Side) (op : Op) : Option Nat :=
  match op.gridChange? with
  | some (.lineAdded l i) => if l = line ∧ side = .new then some i else none
  | some (.lineRemoved l i) => if l = line ∧ side = .old then some i else none
  | _ => none

def ofRun (a : Axis) (line : Line) (side : Side) (run : Span) : Item :=
  let action := side.changeType.word
  ⟨s!"{line.word}-{action}-{run.first}", line.group, side.changeType,
    line.spanText (a.lineAt side run.first) (a.lineAt side run.last) ++ " " ++ action, "",
    some (.lines line run)⟩

/-- Lines that follow one another in the view are listed together. -/
def changedLines (g : Grid) (line : Line) (side : Side) (ops : List Listed) : List Item :=
  let a := g.axis line
  let views := (ops.filterMap fun l => changedLine? line side l.op).map (a.viewOrSame side)
  (Span.runs (ascending views)).map (ofRun a line side)

def ofLines (g : Grid) (ops : List Listed) : List Item :=
  replacedRows g ops ++ changedLines g .row .new ops ++ changedLines g .row .old ops ++
    changedLines g .col .new ops ++ changedLines g .col .old ops

end Item

end DiffView
