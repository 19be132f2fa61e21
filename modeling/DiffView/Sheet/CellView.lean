import DiffView.Sheet.Basic

namespace DiffView

inductive CellKind
  | empty
  | unchanged
  | edited
  | added
  | removed
  | moved
  deriving DecidableEq, Repr

def CellKind.word : CellKind → String
  | .empty => "empty"
  | .unchanged => "unchanged"
  | .edited => "edited"
  | .added => "added"
  | .removed => "removed"
  | .moved => "moved"

inductive MoveRole
  | source
  | target
  deriving DecidableEq, Repr

def MoveRole.word : MoveRole → String
  | .source => "src"
  | .target => "dst"

structure CellSide where
  row : Nat
  col : Nat
  cell : Option Cell
  deriving DecidableEq, Repr

structure Display where
  text : String
  tooltip : String
  deriving DecidableEq, Repr

/-- A cell of the old sheet and one of the new, and how they differ. Its `view` is its place in the
grid. -/
structure CellView where
  view : Option Place
  old : Option CellSide
  new : Option CellSide
  kind : CellKind
  moveId : Option String
  role : Option MoveRole
  edit : Option Edit
  display : Display
  deriving DecidableEq, Repr

namespace Cell

def valueText (c : Cell) : String := c.value.getD ""

def formulaText (c : Cell) : String := c.formula.getD ""

def text (c : Cell) : String := firstFilled c.valueText c.formulaText

def tooltip (label : String) (c : Cell) : String :=
  let v := c.valueText
  let f := c.formulaText
  if v.isEmpty && f.isEmpty then ""
  else if v.isEmpty then label ++ ": " ++ f
  else if f.isEmpty || v = f then label ++ ": " ++ v
  else label ++ ": " ++ v ++ " | " ++ f

end Cell

namespace Display

def empty : Display := ⟨"", ""⟩

def ofCell (label : String) : Option Cell → Display
  | some c => ⟨c.text, c.tooltip label⟩
  | none => empty

def orEmpty (s : String) : String := if s.isEmpty then "(empty)" else s

def ofEdit (e : Edit) : Display :=
  ⟨firstFilled e.toText e.fromText,
    if e.fromText.isEmpty && e.toText.isEmpty then ""
    else "Changed: " ++ orEmpty e.fromText ++ " -> " ++ orEmpty e.toText⟩

end Display

namespace CellView

def empty (view : Option Place) : CellView := ⟨view, none, none, .empty, none, none, none, .empty⟩

end CellView

namespace Sheet

def cellSide? (s : Sheet) (side : Side) (row col : Slot) : Option CellSide := do
  let r ← row.line? side
  let c ← col.line? side
  pure ⟨r, c, s.cell? side r c⟩

/-- Where a row and a column cross, either of them can be part of a move. -/
def roleOf (row col : Slot) : Option MoveRole :=
  let either (k : SlotKind) := row.kind = k ∨ col.kind = k
  if either .moveSource then some .source
  else if either .moveTarget then some .target
  else none

def kindOf (row col : Slot) (edit : Option Edit) (old new : Option Cell) : CellKind :=
  let either (k : SlotKind) := row.kind = k ∨ col.kind = k
  if edit.isSome then .edited
  else if either .inserted then .added
  else if either .deleted then .removed
  else if (roleOf row col).isSome then .moved
  else if old.isSome || new.isSome then .unchanged
  else .empty

def display (kind : CellKind) (role : Option MoveRole) (edit : Option Edit)
    (old new : Option Cell) : Display :=
  match kind with
  | .edited => edit.elim .empty .ofEdit
  | .added => .ofCell "Added" new
  | .removed => .ofCell "Removed" old
  | .moved => .ofCell "Moved" (if role = some .source then old else new)
  | .unchanged => .ofCell "Value" (new.or old)
  | .empty => .empty

def crossing (s : Sheet) (p : Place) (row col : Slot) : CellView :=
  let old := s.cellSide? .old row col
  let new := s.cellSide? .new row col
  let oldCell := old.bind fun c => c.cell
  let newCell := new.bind fun c => c.cell
  let edit := s.edits.get? p
  let kind := kindOf row col edit oldCell newCell
  let role := roleOf row col
  ⟨some p, old, new, kind, row.moveId.or col.moveId, role, edit,
    display kind role edit oldCell newCell⟩

def cellAt (s : Sheet) (p : Place) : CellView :=
  match s.grid.rows.slot? p.row, s.grid.cols.slot? p.col with
  | some row, some col => s.crossing p row col
  | _, _ => .empty (some p)

/-- The cell of one sheet, where the grid does not show it. Edits are found by the rows and columns
of the new sheet if there is no grid at all. -/
def loneCell (s : Sheet) (side : Side) (row col : Nat) : CellView :=
  let cell := s.cell? side row col
  let edit :=
    if side = .new ∧ s.grid.rows.isEmpty ∧ s.grid.cols.isEmpty then s.edits.get? ⟨row, col⟩
    else none
  let there : CellSide := ⟨row, col, cell⟩
  let bare : CellView := { CellView.empty none with
    old := if side = .old then some there else none
    new := if side = .new then some there else none }
  match edit, cell with
  | some e, _ => { bare with kind := .edited, edit := some e, display := .ofEdit e }
  | none, some c => { bare with kind := .unchanged, display := .ofCell "Value" (some c) }
  | none, none => bare

def rawCellAt (s : Sheet) (side : Side) (row col : Nat) : CellView :=
  match s.grid.viewOf? side row col with
  | some p => s.cellAt p
  | none => s.loneCell side row col

end Sheet

end DiffView
