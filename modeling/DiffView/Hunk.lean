import DiffView.Interests
import DiffView.Region

namespace DiffView

inductive HunkKind
  | aligned (regionId : String)
  | raw (side : Sides)
  deriving DecidableEq, Repr

structure Hunk where
  id : String
  kind : HunkKind
  moveId : Option String
  box : Box
  label : String
  deriving DecidableEq, Repr

namespace Hunk

def ofRegion? (r : Region) : Option Hunk :=
  r.shown.map fun box => ⟨"hunk-" ++ r.id, .aligned r.id, r.moveId, box, r.label⟩

def kindTexts : List (String × String) :=
  [("cell", "Edited cells"), ("rect_replaced", "Replaced range"), ("row_added", "Added rows"),
    ("row_removed", "Removed rows"), ("row_replaced", "Replaced rows"),
    ("row_cluster", "Duplicate key rows"), ("col_added", "Added columns"),
    ("col_removed", "Removed columns"), ("move_src", "Moved from"), ("move_dst", "Moved to")]

def kindText (kind : String) : String := (kindTexts.lookup kind).getD kind

/-- The box of an interest within a sheet; none if it starts outside. A sheet without cells sets no
bounds. -/
def boxIn? (size : Size) (i : Interest) : Option Box :=
  let bottom := max i.rowEnd i.rowStart
  let right := max i.colEnd i.colStart
  if size.rows = 0 ∨ size.cols = 0 then some ⟨i.rowStart, i.colStart, bottom, right⟩
  else if size.rows ≤ i.rowStart ∨ size.cols ≤ i.colStart then none
  else some ⟨i.rowStart, i.colStart, min bottom (size.rows - 1), min right (size.cols - 1)⟩

def ofInterest? (o : Options) (sizes : Sizes) (i : Interest) : Option Hunk :=
  let size := sizes.on i.side
  (boxIn? size i).map fun box =>
    let box := (box.expand o.contextRows o.contextCols size.rows size.cols).cap o.maxVisualCells
    ⟨"hunk-" ++ i.id, .raw i.side, i.moveId, box,
      kindText i.kind ++ " " ++ A1.range box.top box.left box.bottom box.right⟩

end Hunk

end DiffView
