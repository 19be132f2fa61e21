import DiffView.Axis
import DiffView.Box

namespace DiffView

structure Grid where
  rows : Axis
  cols : Axis
  deriving DecidableEq, Repr

namespace Grid

def axis (g : Grid) : Line → Axis
  | .row => g.rows
  | .col => g.cols

def isEmpty (g : Grid) : Bool := g.rows.isEmpty || g.cols.isEmpty

def viewOf? (g : Grid) (side : Side) (row col : Nat) : Option Place := do
  pure ⟨← g.rows.viewOf? side row, ← g.cols.viewOf? side col⟩

def place? (g : Grid) (side : Side) (row col : Nat) : Option Place := do
  pure ⟨← g.rows.place? side row, ← g.cols.place? side col⟩

def edge : Line → Nat → Place
  | .row, view => ⟨view, 0⟩
  | .col, view => ⟨0, view⟩

/-- The box that covers a part of a sheet; all rows or all columns where none are given. -/
def cover? (g : Grid) (side : Side) (rows cols : Option Stretch) : Option Box := do
  let rows ← rows.elim g.rows.full? (g.rows.cover? side)
  let cols ← cols.elim g.cols.full? (g.cols.cover? side)
  pure (.ofSpans rows cols)

/-- The box of a sheet whose edges show at the edges of a box of the grid. -/
def sheetBox (g : Grid) (side : Side) (b : Box) : Box :=
  ⟨g.rows.lineAt side b.top, g.cols.lineAt side b.left, g.rows.lineAt side b.bottom,
    g.cols.lineAt side b.right⟩

end Grid

end DiffView
