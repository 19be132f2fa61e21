import DiffView.Decimal.Layout
import DiffView.Grid
import DiffView.Json.Printer
import DiffView.Sorting

namespace DiffView

structure Edit where
  fromValue : String
  toValue : String
  fromFormula : String
  toFormula : String
  formulaChange : FormulaChange
  deriving DecidableEq, Repr

/-- Numbers in cells never have an exponent, and a point only before a fraction. -/
def cellLayout : Decimal.Layout := ⟨.up, fun _ => true, false⟩

def boolText (b : Bool) : String := if b then "TRUE" else "FALSE"

namespace Report

def valueText (r : Report) : CellValue → String
  | .blank => ""
  | .number d => cellLayout.text d
  | .text s => r.resolve s
  | .bool b => boolText b
  | .error s => r.resolve s

def rawText : Json.Value → String
  | .null => ""
  | .text s => if s = "Blank" then "" else s
  | .bool b => boolText b
  | v => v.render

def contentText (r : Report) : Option Content → String
  | none => ""
  | some (.typed v) => r.valueText v
  | some (.raw v) => rawText v

def formulaText (r : Report) (formula : Option Ref) : String :=
  match (formula.map r.resolve).getD "" with
  | "" => ""
  | s => if s.toList.head? = some '=' then s else "=" ++ s

def edit (r : Report) (before after : CellState) (formula : FormulaChange) : Edit where
  fromValue := r.contentText before.content
  toValue := r.contentText after.content
  fromFormula := r.formulaText before.formula
  toFormula := r.formulaText after.formula
  formulaChange := formula

end Report

def firstFilled (s t : String) : String := if s.isEmpty then t else s

namespace Edit

def isBlank (e : Edit) : Bool :=
  e.fromValue.isEmpty && e.toValue.isEmpty && e.fromFormula.isEmpty && e.toFormula.isEmpty

def fromText (e : Edit) : String := firstFilled e.fromValue e.fromFormula

def toText (e : Edit) : String := firstFilled e.toValue e.toFormula

end Edit

/-- Columns from here on hold no edits. -/
def colLimit : Nat := 16384

structure Edits where
  placed : List (Place × Edit)
  dropped : Nat
  deriving DecidableEq, Repr

namespace Edits

def placeOf? (g : Grid) (addr : Address) : Option Place := do
  let (row, col) ← addr.indices?
  let place ← g.place? .new row col
  if place.col < colLimit then some place else none

def ofOp? (r : Report) (g : Grid) (ignoreBlank : Bool) (op : Op) : Option (Place × Edit) :=
  match op.gridChange? with
  | some (.cellEdited addr before after formula) => do
    let place ← placeOf? g addr
    let edit := r.edit before after formula
    if ignoreBlank && edit.isBlank then none else some (place, edit)
  | _ => none

def isDropped (g : Grid) (op : Op) : Bool :=
  match op.editAddress? with
  | some addr => (placeOf? g addr).isNone
  | none => false

def ofOps (r : Report) (g : Grid) (ignoreBlank : Bool) (ops : List Listed) : Edits where
  placed := ops.filterMap fun l => ofOp? r g ignoreBlank l.op
  dropped := ops.countP fun l => isDropped g l.op

def get? (es : Edits) (p : Place) : Option Edit :=
  (es.placed.reverse.find? fun e => e.1 = p).map (·.2)

def places (es : Edits) : List Place := ascending (es.placed.map (·.1))

def size (es : Edits) : Nat := es.places.length

end Edits

end DiffView
