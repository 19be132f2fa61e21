import DiffView.Anchor
import DiffView.Hunk
import DiffView.Item.Lines
import DiffView.Note
import DiffView.Sheet.CellView
import DiffView.Sheet.Entry
import DiffView.Tally

namespace DiffView

/-- What the payload says about one sheet. `oldName` is there if the sheet was renamed. -/
structure SheetInput where
  report : Report
  name : String
  oldName : Option String
  ops : List Listed
  old : Option Snapshot
  new : Option Snapshot
  alignment : Option Alignment
  interests : Option (List Interest)
  deriving DecidableEq, Repr

structure SheetView extends Sheet where
  name : String
  oldName : Option String
  status : Status
  items : List Item
  regions : List Region
  anchors : List Anchor
  hunks : List Hunk
  entries : List Entry
  options : Options
  deriving DecidableEq, Repr

namespace SheetInput

def sizes (i : SheetInput) : Sizes := .ofSnapshots i.old i.new

def slots (i : SheetInput) : Line → List Slot
  | .row => (i.alignment.map fun a => a.rows).getD []
  | .col => (i.alignment.map fun a => a.cols).getD []

def grid (i : SheetInput) : Grid :=
  ⟨⟨i.slots .row, i.sizes.old.rows, i.sizes.new.rows⟩,
    ⟨i.slots .col, i.sizes.old.cols, i.sizes.new.cols⟩⟩

def moveRecords (i : SheetInput) : List MoveRecord :=
  (i.alignment.map fun a => a.moves).getD []

def sheet (o : Options) (i : SheetInput) : Sheet :=
  ⟨i.old, i.new, i.grid, .ofOps i.report i.grid o.ignoreBlankToBlank i.ops⟩

def items (i : SheetInput) (regions : List Region) : List Item :=
  Item.ofLines i.grid i.ops ++ Item.ofMoves i.moveRecords i.ops ++
    regions.filterMap Item.ofRegion? ++ i.ops.filterMap (Item.ofOp? i.report)

/-- The interests that the payload gives, or else those of the operations. -/
def shownInterests (o : Options) (i : SheetInput) : List Interest :=
  i.interests.getD (Interest.ofOps o i.sizes i.ops)

def hunks (o : Options) (i : SheetInput) (status : Status) (regions : List Region) : List Hunk :=
  if status.isShown then regions.filterMap Hunk.ofRegion?
  else (i.shownInterests o).filterMap (Hunk.ofInterest? o i.sizes)

end SheetInput

namespace SheetView

def ofInput (o : Options) (i : SheetInput) : SheetView :=
  let sheet := i.sheet o
  let regions := Region.ofOps o i.grid sheet.edits i.ops
  let items := i.items regions
  let status := Status.ofSheet i.alignment i.grid i.old i.new
  { sheet with
    name := i.name
    oldName := i.oldName
    status := status
    items := items
    regions := regions
    anchors := Anchor.ofItems i.name (status.isShown && !i.grid.isEmpty) i.grid regions items
    hunks := i.hunks o status regions
    entries := i.ops.map (Entry.ofOp i.report i.grid)
    options := o }

def moves (v : SheetView) : List (String × MoveEnds) := MoveEnds.table v.items

def links (v : SheetView) (i : Item) : List Link := i.links v.anchors

def shownRegions (v : SheetView) : List String :=
  if v.status.isShown then v.regions.map fun r => r.id else []

def traits (v : SheetView) : List Traits := v.entries.map fun e => e.traits

def opCount (v : SheetView) : Nat := v.entries.length

def changeCounts (v : SheetView) : ChangeCounts := .ofTraits v.traits

def severityCounts (v : SheetView) : SeverityCounts := .ofTraits v.traits

def severity? (v : SheetView) : Option Severity := v.severityCounts.max?

def categories (v : SheetView) : List Category := Category.ofTraits v.traits

end SheetView

def SheetInput.notes (o : Options) (i : SheetInput) : List Note :=
  let v := SheetView.ofInput o i
  Note.ofAxis v.grid.rows ++ Note.ofAxis v.grid.cols ++
    (if 0 < v.edits.dropped then [.dropped v.edits.dropped] else []) ++
    (i.moveRecords.filter fun m => (Line.ofWord? m.axis).isNone).map
      (fun m => .unknownAxis m.id m.axis) ++
    [.sheet v.name v.status v.opCount v.edits.size v.regions.length v.anchors.length
      v.hunks.length]

end DiffView
