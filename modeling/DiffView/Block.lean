import DiffView.Op.Basic
import DiffView.Side
import DiffView.Stretch

namespace DiffView

namespace Block

def id : Block → String
  | .rows src count dst => s!"r:{src}+{count}->{dst}"
  | .cols src count dst => s!"c:{src}+{count}->{dst}"
  | .rect srcRow height srcCol width dstRow dstCol =>
    s!"rect:{srcRow},{srcCol}+{height}x{width}->{dstRow},{dstCol}"

def pick (side : Side) (src dst : Nat) : Nat :=
  match side with
  | .old => src
  | .new => dst

/-- The rows of the block in one of the sheets, unless it takes up all of them. -/
def rowsOn? (side : Side) : Block → Option Stretch
  | .rows src count dst => some ⟨pick side src dst, count⟩
  | .cols .. => none
  | .rect srcRow height _ _ dstRow _ => some ⟨pick side srcRow dstRow, height⟩

def colsOn? (side : Side) : Block → Option Stretch
  | .rows .. => none
  | .cols src count dst => some ⟨pick side src dst, count⟩
  | .rect _ _ srcCol width _ dstCol => some ⟨pick side srcCol dstCol, width⟩

end Block

end DiffView
