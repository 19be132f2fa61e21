import DiffView.Block
import DiffView.Cluster
import DiffView.Edits
import DiffView.Options.Basic

namespace DiffView

inductive RegionKind
  | cells
  | rect
  | moveSource
  | moveTarget
  deriving DecidableEq, Repr

def RegionKind.word : RegionKind → String
  | .cells => "cell"
  | .rect => "rect"
  | .moveSource => "move_src"
  | .moveTarget => "move_dst"

def RegionKind.rank : RegionKind → Nat
  | .cells => 2
  | .rect => 1
  | .moveSource => 0
  | .moveTarget => 0

/-- The sheet whose addresses name the region. -/
def RegionKind.side : RegionKind → Side
  | .moveSource => .old
  | _ => .new

structure Area where
  id : String
  kind : RegionKind
  box : Box
  cellCount : Nat
  moveId : Option String
  deriving DecidableEq, Repr

/-- A region of the sheet. The box `shown` is the part to show, if there is a grid to show it in. -/
structure Region extends Area where
  label : String
  shown : Option Box
  deriving DecidableEq, Repr

namespace Area

def ofBox (id : String) (kind : RegionKind) (moveId : Option String) (box : Box) : Area :=
  ⟨id, kind, box, box.area, moveId⟩

section Fields

variable (id : String) (kind : RegionKind) (moveId : Option String) (box : Box)

@[simp] theorem id_ofBox : (ofBox id kind moveId box).id = id := rfl

@[simp] theorem kind_ofBox : (ofBox id kind moveId box).kind = kind := rfl

@[simp] theorem moveId_ofBox : (ofBox id kind moveId box).moveId = moveId := rfl

end Fields

def ofCluster (c : Cluster) (n : Nat) : Area :=
  ⟨s!"cells-{n + 1}", .cells, .ofSpans c.rows c.cols, c.cells, none⟩

def clusters (o : Options) (es : Edits) : List Area :=
  (Cluster.ofPlaces o.maxCellsPerRegion o.mergeGap es.places).mapIdx fun n c => ofCluster c n

def sourceId (moveId : String) : String := "move-src-" ++ moveId

def targetId (moveId : String) : String := "move-dst-" ++ moveId

def ofBlock (g : Grid) (b : Block) : List Area :=
  let box (side : Side) := g.cover? side (b.rowsOn? side) (b.colsOn? side)
  ((box .old).map (ofBox (sourceId b.id) .moveSource (some b.id))).toList ++
    ((box .new).map (ofBox (targetId b.id) .moveTarget (some b.id))).toList

def ofOp (g : Grid) (op : Op) : List Area :=
  match op.gridChange? with
  | some (.rectReplaced row rows col cols) =>
    ((g.cover? .new (some ⟨row, rows⟩) (some ⟨col, cols⟩)).map
      (ofBox s!"rect-{row}-{col}" .rect none)).toList
  | some (.moved block _) => ofBlock g block
  | _ => []

/-- By corner, then by kind, then by id. -/
def compare (a b : Area) : Ordering :=
  (Ord.compare a.box.corner b.box.corner).then
    ((Ord.compare a.kind.rank b.kind.rank).then (Ord.compare a.id b.id))

def label (g : Grid) (a : Area) : String :=
  let b := g.sheetBox a.kind.side a.box
  let range := A1.range b.top b.left b.bottom b.right
  match a.kind with
  | .rect => "Region " ++ A1.cell b.top b.left ++ ":" ++ A1.cell b.bottom b.right
  | .cells => if ':' ∈ range.toList then "Cells " ++ range else "Cell " ++ range
  | _ => "Range " ++ range

end Area

namespace Region

def shownBox? (o : Options) (g : Grid) (b : Box) : Option Box :=
  if g.isEmpty then none
  else some ((b.expand o.contextRows o.contextCols g.rows.count g.cols.count).cap o.maxVisualCells)

def ofArea (o : Options) (g : Grid) (a : Area) : Region :=
  { a with label := a.label g, shown := shownBox? o g a.box }

def ofOps (o : Options) (g : Grid) (es : Edits) (ops : List Listed) : List Region :=
  (sortBy Area.compare (Area.clusters o es ++ ops.flatMap fun l => Area.ofOp g l.op)).map
    (ofArea o g)

/-- Of several regions with one id the last one is found. -/
def find? (regions : List Region) (id : String) : Option Region :=
  regions.reverse.find? fun r => r.id = id

end Region

end DiffView
