import DiffView.Payload.Basic
import DiffView.Stretch

namespace DiffView

def Slot.line? (s : Slot) : Side → Option Nat
  | .old => s.old
  | .new => s.new

/-- The lines of the view, each a slot, with the number of lines that each sheet has. -/
structure Axis where
  slots : List Slot
  oldLength : Nat
  newLength : Nat
  deriving DecidableEq, Repr

namespace Axis

def length (a : Axis) : Side → Nat
  | .old => a.oldLength
  | .new => a.newLength

def isEmpty (a : Axis) : Bool := a.slots.isEmpty

def count (a : Axis) : Nat := a.slots.length

def slot? (a : Axis) (view : Nat) : Option Slot := a.slots[view]?

def lastNaming? (side : Side) (line view : Nat) : List Slot → Option Nat
  | [] => none
  | s :: ss =>
    (lastNaming? side line (view + 1) ss).or (if s.line? side = some line then some view else none)

def viewOf? (a : Axis) (side : Side) (line : Nat) : Option Nat :=
  if line < a.length side then lastNaming? side line 0 a.slots else none

/-- Where an edit of a line shows. Without a view, or without a sheet, lines show where they are. -/
def place? (a : Axis) (side : Side) (line : Nat) : Option Nat :=
  if a.isEmpty ∨ a.length side = 0 then some line else a.viewOf? side line

def viewOrSame (a : Axis) (side : Side) (line : Nat) : Nat := (a.viewOf? side line).getD line

def lineAt (a : Axis) (side : Side) (view : Nat) : Nat :=
  ((a.slot? view).bind fun s => s.line? side).getD view

/-- The run of the view that covers some lines. Lines beyond the sheet show where they are. -/
def cover? (a : Axis) (side : Side) (s : Stretch) : Option Span :=
  if s.count = 0 then none
  else
    let length := a.length side
    let lines := List.range' s.start (min length (s.last + 1) - s.start)
    let beyond := if length ≤ s.last then [⟨max s.start length, s.last⟩] else []
    Span.hull? ((lines.map fun i => Span.point (a.viewOrSame side i)) ++ beyond)

def full? (a : Axis) : Option Span := if a.isEmpty then none else some ⟨0, a.count - 1⟩

def views (a : Axis) (side : Side) : List (Option Nat) :=
  (List.range (a.length side)).map fun i => a.viewOf? side i

def namesStray (a : Axis) (side : Side) (s : Slot) : Bool :=
  match s.line? side with
  | some line => a.length side ≤ line
  | none => false

def strayCount (a : Axis) : Nat :=
  a.slots.countP (a.namesStray .old) + a.slots.countP (a.namesStray .new)

end Axis

end DiffView
