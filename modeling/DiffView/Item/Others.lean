import DiffView.Item.Basic
import DiffView.Payload.Basic
import DiffView.Region

namespace DiffView

namespace Report

def plainText (r : Report) (op : Op) : String :=
  match op.name? with
  | some name => op.kindName ++ ": " ++ r.resolve name
  | none => op.kindName

def renameText (r : Report) (source : Ref) : String := "Sheet renamed from " ++ r.resolve source

end Report

def clusterText (oldRows newRows : List Nat) : String :=
  s!"{oldRows.length} old, {newRows.length} new"

namespace Item

/-- Moves are listed by what moved, and not by region. -/
def ofRegion? (r : Region) : Option Item :=
  match r.kind with
  | .cells =>
    some ⟨"cell-region-" ++ r.id, .cells, .modified, r.label ++ " modified",
      if 1 < r.cellCount then s!"{r.cellCount} cells" else "", some (.region r.id)⟩
  | .rect =>
    some ⟨"rect-region-" ++ r.id, .cells, .modified, r.label ++ " replaced", "",
      some (.region r.id)⟩
  | _ => none

def plainText? (r : Report) (op : Op) : Option (String × String) :=
  match op with
  | .known (.grid _ (.sheetRenamed source _)) => some (r.renameText source, "")
  | .known (.grid _ (.duplicateKeys _ oldRows newRows)) =>
    some ("Duplicate key rows", clusterText oldRows newRows)
  | .known (.grid ..) => none
  | op => some (r.plainText op, "")

def ofOp? (r : Report) (l : Listed) : Option Item :=
  (plainText? r l.op).map fun (label, detail) =>
    ⟨s!"other-{l.op.kindName}-{l.index}", .other, l.op.traits.changeType, label, detail, none⟩

end Item

end DiffView
