import DiffView.Error
import DiffView.Op.Traits

namespace DiffView

structure Options where
  contextRows : Nat
  contextCols : Nat
  maxCellsPerRegion : Nat
  maxVisualCells : Nat
  /-- How far the columns of edits in neighbouring rows may lie apart in one cluster. -/
  mergeGap : Nat
  ignoreBlankToBlank : Bool
  previewRows : Nat
  /-- Columns shown of a change of whole rows. -/
  previewCols : Nat
  filters : Filters
  deriving DecidableEq, Repr

namespace Options

def default : Options := ⟨1, 1, 200, 5000, 1, true, 200, 80, .none⟩

def check (o : Options) : Except Error Options :=
  if o.previewRows = 0 then .error (.zeroLimit .previewRows)
  else if o.previewCols = 0 then .error (.zeroLimit .previewCols)
  else .ok o

inductive Setting
  | context (rows cols : Nat)
  | preview (rows cols : Nat)
  | maxCellsPerRegion (n : Nat)
  | maxVisualCells (n : Nat)
  | mergeGap (n : Nat)
  | ignoreBlankToBlank (b : Bool)
  | filters (f : Filters)
  deriving DecidableEq, Repr

def set (o : Options) : Setting → Options
  | .context rows cols => { o with contextRows := rows, contextCols := cols }
  | .preview rows cols => { o with previewRows := rows, previewCols := cols }
  | .maxCellsPerRegion n => { o with maxCellsPerRegion := n }
  | .maxVisualCells n => { o with maxVisualCells := n }
  | .mergeGap n => { o with mergeGap := n }
  | .ignoreBlankToBlank b => { o with ignoreBlankToBlank := b }
  | .filters f => { o with filters := f }

def ofSettings (settings : List Setting) : Except Error Options :=
  (settings.foldl set default).check

end Options

end DiffView
