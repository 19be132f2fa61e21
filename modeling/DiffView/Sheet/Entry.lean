import DiffView.Grid
import DiffView.Item.Moves
import DiffView.Item.Others

namespace DiffView

structure Entry where
  index : Nat
  kind : String
  traits : Traits
  label : String
  view : Option Place
  deriving DecidableEq, Repr

def A1.stretches (rows cols : Stretch) : String :=
  A1.range rows.start cols.start rows.last cols.last

namespace Block

/-- Rows are counted on beyond the last index. -/
def text : Block → String
  | .rows src count dst => s!"Rows {src + 1}-{src + max count 1} moved to row {dst + 1}"
  | .cols src count dst =>
    let last := (Stretch.mk src count).last
    s!"Columns {A1.column src}-{A1.column last} moved to column {A1.column dst}"
  | .rect srcRow height srcCol width dstRow dstCol =>
    let src := A1.stretches ⟨srcRow, height⟩ ⟨srcCol, width⟩
    let dst := A1.stretches ⟨dstRow, height⟩ ⟨dstCol, width⟩
    s!"Range {src} moved to {dst}"

def view? (g : Grid) : Block → Option Place
  | .rows src _ _ => (g.rows.viewOf? .old src).map (Grid.edge .row)
  | .cols src _ _ => (g.cols.viewOf? .old src).map (Grid.edge .col)
  | .rect srcRow _ srcCol _ _ _ => g.viewOf? .old srcRow srcCol

end Block

namespace Entry

def lineText (line : Line) (i : Nat) (action : String) : String :=
  line.spanText i i ++ " " ++ action

def lineView? (g : Grid) (line : Line) (side : Side) (i : Nat) : Option Place :=
  ((g.axis line).viewOf? side i).map (Grid.edge line)

def editText (addr : Address) : String :=
  match addr.indices? with
  | some (row, col) => s!"Cell {A1.cell row col} edited"
  | none => "Cell edited"

def editView? (g : Grid) (addr : Address) : Option Place := do
  let (row, col) ← addr.indices?
  g.place? .new row col

def describe (r : Report) (g : Grid) : GridChange → String × Option Place
  | .cellEdited addr .. => (editText addr, editView? g addr)
  | .lineAdded line i => (lineText line i "added", lineView? g line .new i)
  | .lineRemoved line i => (lineText line i "removed", lineView? g line .old i)
  | .rowReplaced row => (lineText .row row "replaced", lineView? g .row .new row)
  | .moved block _ => (block.text, block.view? g)
  | .rectReplaced row rows col cols =>
    ("Range " ++ A1.stretches ⟨row, rows⟩ ⟨col, cols⟩ ++ " replaced", g.viewOf? .new row col)
  | .sheetAdded => ("Sheet added", none)
  | .sheetRemoved => ("Sheet removed", none)
  | .sheetRenamed source _ => (r.renameText source, none)
  | .duplicateKeys _ oldRows newRows =>
    ("Duplicate key rows (" ++ clusterText oldRows newRows ++ ")", none)

def ofOp (r : Report) (g : Grid) (l : Listed) : Entry :=
  let (label, view) :=
    match l.op.gridChange? with
    | some c => describe r g c
    | none => (r.plainText l.op, none)
  ⟨l.index, l.op.kindName, l.op.traits, label, view⟩

end Entry

end DiffView
