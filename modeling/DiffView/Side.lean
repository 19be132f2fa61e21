namespace DiffView

inductive Side
  | old
  | new
  deriving DecidableEq, Repr

/-- One of the two workbooks, or both at once. -/
inductive Sides
  | one (side : Side)
  | both
  deriving DecidableEq, Repr

def Side.word : Side → String
  | .old => "old"
  | .new => "new"

def Sides.word : Sides → String
  | .one side => side.word
  | .both => "both"

end DiffView
