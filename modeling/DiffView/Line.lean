import DiffView.A1

namespace DiffView

inductive Line
  | row
  | col
  deriving DecidableEq, Repr

namespace Line

def word : Line → String
  | row => "row"
  | col => "col"

def noun : Line → String
  | row => "row"
  | col => "column"

def title : Line → String
  | row => "Row"
  | col => "Column"

def name : Line → Nat → String
  | row, i => toString (i + 1)
  | col, i => A1.column i

def spanText (l : Line) (first last : Nat) : String :=
  if first = last then l.title ++ " " ++ l.name first
  else l.title ++ "s " ++ l.name first ++ "-" ++ l.name last

end Line

end DiffView
