import DiffView.Block
import DiffView.Note
import DiffView.Options.Basic
import DiffView.Payload.Basic
import DiffView.Sheet.View

namespace DiffView

namespace Listed

def ofReport (r : Report) : List Listed := r.ops.mapIdx fun i op => ⟨i, op⟩

/-- Keeps the first operation of each move that is not among those `seen`. -/
def firstMoves (seen : List String) : List Listed → List Listed
  | [] => []
  | l :: ls =>
    match l.op.block? with
    | some b => if b.id ∈ seen then firstMoves seen ls else l :: firstMoves (b.id :: seen) ls
    | none => l :: firstMoves seen ls

def kept (f : Filters) (ls : List Listed) : List Listed :=
  let shown := ls.filter fun l => !f.hides l.op
  if f.repeatedMoves then firstMoves [] shown else shown

def sheetName? (r : Report) (l : Listed) : Option String := l.op.sheet?.map r.resolve

end Listed

namespace Payload

def keptOps (p : Payload) (f : Filters) : List Listed := Listed.kept f (Listed.ofReport p.report)

def sheetNames (p : Payload) (f : Filters) : List String :=
  ascending ((p.keptOps f).filterMap (Listed.sheetName? p.report))

def sheetOps (p : Payload) (f : Filters) (name : String) : List Listed :=
  (p.keptOps f).filter fun l => l.sheetName? p.report = some name

def workbookOps (p : Payload) (f : Filters) : List Listed :=
  (p.keptOps f).filter fun l => (l.sheetName? p.report).isNone

def rename? (r : Report) : Op → Option (String × String)
  | .known (.grid sheet (.sheetRenamed source _)) => some (r.resolve sheet, r.resolve source)
  | _ => none

/-- The old name of a renamed sheet. Of several renames the last one counts, even a hidden one. -/
def oldName? (p : Payload) (name : String) : Option String :=
  (p.report.ops.filterMap (rename? p.report)).reverse.lookup name

def underName? {α : Type} (p : Payload) (find : String → Option α) (name : String) : Option α :=
  (find name).or ((p.oldName? name).bind find)

def sheetInput (p : Payload) (f : Filters) (name : String) : SheetInput where
  report := p.report
  name := name
  oldName := p.oldName? name
  ops := p.sheetOps f name
  old := p.underName? (p.snapshot? .old) name
  new := p.snapshot? .new name
  alignment := p.underName? p.alignment? name
  interests := p.underName? p.interests? name

end Payload

namespace SheetView

/-- The view of a sheet; none if it has no operations. -/
def ofPayload? (p : Payload) (o : Options) (name : String) : Option SheetView :=
  if (p.sheetOps o.filters name).isEmpty then none
  else some (ofInput o (p.sheetInput o.filters name))

end SheetView

end DiffView
