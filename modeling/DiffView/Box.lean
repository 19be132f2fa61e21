import DiffView.Span

namespace DiffView

structure Place where
  row : Nat
  col : Nat
  deriving DecidableEq, Repr

/-- Row by row, and by column within a row. -/
instance : Ord Place := ⟨fun p q => (compare p.row q.row).then (compare p.col q.col)⟩

structure Box where
  top : Nat
  left : Nat
  bottom : Nat
  right : Nat
  deriving DecidableEq, Repr

namespace Box

def ofSpans (rows cols : Span) : Box := ⟨rows.first, cols.first, rows.last, cols.last⟩

def height (b : Box) : Nat := b.bottom - b.top + 1

def width (b : Box) : Nat := b.right - b.left + 1

def maxArea : Nat := 18446744073709551615

def area (b : Box) : Nat := min (b.height * b.width) maxArea

def corner (b : Box) : Place := ⟨b.top, b.left⟩

/-- Grows a box by a margin, within a grid. There is nothing to grow into without a grid. -/
def expand (b : Box) (rows cols gridHeight gridWidth : Nat) : Box :=
  if gridHeight = 0 ∨ gridWidth = 0 then b
  else ⟨b.top - rows, b.left - cols, min (b.bottom + rows) (gridHeight - 1),
    min (b.right + cols) (gridWidth - 1)⟩

/-- Cuts rows off the bottom, or else columns off the right, until few enough cells are left. At
least one row and one column stay. A limit of zero is no limit. -/
def cap (b : Box) (maxCells : Nat) : Box :=
  if maxCells = 0 ∨ b.area ≤ maxCells then b
  else
    let rows := max (maxCells / b.width) 1
    let cols := max (maxCells / b.height) 1
    if rows < b.height then { b with bottom := b.top + (rows - 1) }
    else if cols < b.width then { b with right := b.left + (cols - 1) }
    else b

end Box

end DiffView
