import DiffView.Block
import DiffView.Item.Basic
import DiffView.Payload.Basic
import DiffView.Sorting

namespace DiffView

def Line.stretchText (l : Line) (s : Stretch) : String := l.spanText s.start s.last

def Line.ofWord? : String → Option Line
  | "row" => some .row
  | "col" => some .col
  | _ => none

def A1.corners (rows cols : Stretch) : String :=
  A1.cell rows.start cols.start ++ ":" ++ A1.cell rows.last cols.last

namespace Item

def lineMove (moveId itemId : String) (line : Line) (src dst count : Nat) : Item :=
  ⟨itemId, .moves, .moved, line.stretchText ⟨src, count⟩ ++ " moved",
    s!"to {line.noun} {line.name dst}", some (.lineMove moveId line src dst count)⟩

/-- Moves along an axis that does not exist are not listed. -/
def ofMoveRecord? (m : MoveRecord) : Option Item :=
  (Line.ofWord? m.axis).map fun line => lineMove m.id ("move-" ++ m.id) line m.src m.dst m.count

def ofLineBlock? (b : Block) : Option Item :=
  match b with
  | .rows src count dst => some (lineMove b.id s!"move-rows-{src}-{dst}" .row src dst count)
  | .cols src count dst => some (lineMove b.id s!"move-cols-{src}-{dst}" .col src dst count)
  | .rect .. => none

def ofRectBlock? (b : Block) : Option Item :=
  match b with
  | .rect srcRow height srcCol width dstRow dstCol =>
    let src := A1.corners ⟨srcRow, height⟩ ⟨srcCol, width⟩
    let dst := A1.corners ⟨dstRow, height⟩ ⟨dstCol, width⟩
    some ⟨s!"move-rect-{A1.cell srcRow srcCol}-{A1.cell dstRow dstCol}", .moves, .moved,
      s!"Range {src} moved", "to " ++ dst, some (.rectMove b.id src dst)⟩
  | _ => none

def lineMoves (records : List MoveRecord) (blocks : List Block) : List Item :=
  if records.isEmpty then blocks.filterMap ofLineBlock? else records.filterMap ofMoveRecord?

def ofMoves (records : List MoveRecord) (ops : List Listed) : List Item :=
  let blocks := ops.filterMap fun l => l.op.block?
  lineMoves records blocks ++ blocks.filterMap ofRectBlock?

end Item

structure MoveEnds where
  src : String
  dst : String
  deriving DecidableEq, Repr

def Item.moveEnds? (i : Item) : Option (String × MoveEnds) :=
  match i.locator with
  | some (.lineMove moveId line src dst count) =>
    some (moveId, ⟨line.stretchText ⟨src, count⟩, line.stretchText ⟨dst, count⟩⟩)
  | some (.rectMove moveId src dst) => some (moveId, ⟨src, dst⟩)
  | _ => none

/-- The moves among some items, in ascending order of their ids. Of several moves with one id the
first one counts. -/
def MoveEnds.table (items : List Item) : List (String × MoveEnds) :=
  sortBy (fun a b => compare a.1 b.1) (distinctBy (·.1) (items.filterMap (·.moveEnds?)))

end DiffView
