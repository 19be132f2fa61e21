import DiffView.Block
import DiffView.Options.Basic
import DiffView.Payload.Basic
import DiffView.Sorting

namespace DiffView

structure Size where
  rows : Nat
  cols : Nat
  deriving DecidableEq, Repr

structure Sizes where
  old : Size
  new : Size
  deriving DecidableEq, Repr

def Size.ofSnapshot : Option Snapshot → Size
  | some s => ⟨s.rowCount, s.colCount⟩
  | none => ⟨0, 0⟩

namespace Sizes

def ofSnapshots (old new : Option Snapshot) : Sizes := ⟨.ofSnapshot old, .ofSnapshot new⟩

def on (s : Sizes) : Sides → Size
  | .one .old => s.old
  | .one .new => s.new
  | .both => ⟨max s.old.rows s.new.rows, max s.old.cols s.new.cols⟩

/-- The sheet that shows the edits: the new one, unless only the old one has rows. -/
def editSide (s : Sizes) : Side := if s.new.rows = 0 ∧ 0 < s.old.rows then .old else .new

end Sizes

structure Request where
  kind : String
  side : Side
  rows : Stretch
  cols : Stretch
  moveId : Option String
  deriving DecidableEq, Repr

namespace Request

def bothSides (f : Side → Request) : List Request := [f .old, f .new]

def ofRow (o : Options) (kind : String) (side : Side) (row : Nat) : Request :=
  ⟨kind, side, ⟨row, 1⟩, ⟨0, o.previewCols⟩, none⟩

def ofCol (o : Options) (kind : String) (side : Side) (col : Nat) : Request :=
  ⟨kind, side, ⟨0, o.previewRows⟩, ⟨col, 1⟩, none⟩

def ofLine (o : Options) (line : Line) (action : String) (side : Side) (i : Nat) : Request :=
  match line with
  | .row => ofRow o ("row_" ++ action) side i
  | .col => ofCol o ("col_" ++ action) side i

/-- A block of whole rows is shown as wide as a preview, and one of whole columns as high. -/
def ofBlock (o : Options) (b : Block) (side : Side) : Request :=
  ⟨match side with
    | .old => "move_src"
    | .new => "move_dst",
    side, (b.rowsOn? side).getD ⟨0, o.previewRows⟩, (b.colsOn? side).getD ⟨0, o.previewCols⟩,
    some b.id⟩

def ofChange (o : Options) (editSide : Side) : GridChange → List Request
  | .cellEdited addr .. =>
    match addr.indices? with
    | some (row, col) => [⟨"cell", editSide, ⟨row, 1⟩, ⟨col, 1⟩, none⟩]
    | none => []
  | .rectReplaced row rows col cols =>
    bothSides fun side => ⟨"rect_replaced", side, ⟨row, rows⟩, ⟨col, cols⟩, none⟩
  | .lineAdded line i => [ofLine o line "added" .new i]
  | .lineRemoved line i => [ofLine o line "removed" .old i]
  | .rowReplaced row => bothSides fun side => ofRow o "row_replaced" side row
  | .duplicateKeys _ oldRows newRows =>
    oldRows.map (ofRow o "row_cluster" .old) ++ newRows.map (ofRow o "row_cluster" .new)
  | .moved block _ => bothSides (ofBlock o block)
  | .sheetAdded => []
  | .sheetRemoved => []
  | .sheetRenamed .. => []

end Request

/-- A part of a sheet that is worth showing. -/
structure Extent where
  kind : String
  side : Side
  rows : Span
  cols : Span
  moveId : Option String
  deriving DecidableEq, Repr

namespace Extent

def ofRequest? (s : Sizes) (r : Request) : Option Extent := do
  let size := s.on (.one r.side)
  pure ⟨r.kind, r.side, ← r.rows.clamp? size.rows, ← r.cols.clamp? size.cols, r.moveId⟩

def asked (o : Options) (s : Sizes) (ops : List Listed) : List Extent :=
  (ops.filterMap fun l => l.op.gridChange?).flatMap fun c =>
    (Request.ofChange o s.editSide c).filterMap (ofRequest? s)

/-- Each extent is shown once. -/
def ofOps (o : Options) (s : Sizes) (ops : List Listed) : List Extent := distinct (asked o s ops)

end Extent

namespace Interest

def ofExtent (e : Extent) (n : Nat) : Interest :=
  ⟨s!"ir-{n + 1}", e.kind, .one e.side, e.rows.first, e.rows.last, e.cols.first, e.cols.last,
    e.moveId⟩

def ofOps (o : Options) (s : Sizes) (ops : List Listed) : List Interest :=
  (Extent.ofOps o s ops).mapIdx fun n e => ofExtent e n

end Interest

end DiffView
