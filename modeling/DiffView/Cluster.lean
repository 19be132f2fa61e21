import DiffView.Box
import DiffView.Sorting

namespace DiffView

structure Cluster where
  rows : Span
  cols : Span
  cells : Nat
  deriving DecidableEq, Repr

namespace Cluster

def start (row : Nat) (run : Span) : Cluster := ⟨.point row, run, run.size⟩

def grow (c : Cluster) (row : Nat) (run : Span) : Cluster :=
  ⟨⟨c.rows.first, row⟩, c.cols.join run, c.cells + run.size⟩

def touches (gap row : Nat) (run : Span) (c : Cluster) : Bool :=
  c.rows.last + 1 = row && run.first ≤ c.cols.last + gap && c.cols.first ≤ run.last + gap

/-- The clusters so far: the `closed` ones are finished, those `above` end in the row above, and
those that are `grown` end in the current row. -/
structure State where
  closed : List Cluster
  above : List Cluster
  grown : List Cluster
  deriving DecidableEq, Repr

def addRun (budget gap row : Nat) (s : State) (run : Span) : State :=
  match s.above.find? (touches gap row run) with
  | none => { s with grown := s.grown ++ [start row run] }
  | some c =>
    let above := s.above.eraseP (touches gap row run)
    if budget ≠ 0 ∧ budget < c.cells + run.size then
      ⟨s.closed ++ [c], above, s.grown ++ [start row run]⟩
    else ⟨s.closed, above, s.grown ++ [c.grow row run]⟩

def State.endRow (s : State) : State := ⟨s.closed ++ s.above, s.grown, []⟩

def addRow (budget gap : Nat) (s : State) (strip : Nat × List Span) : State :=
  (strip.2.foldl (addRun budget gap strip.1) s).endRow

def strips (budget : Nat) (places : List Place) : List (Nat × List Span) :=
  (ascending (places.map (·.row))).map fun row =>
    let cols := ascending ((places.filter (·.row = row)).map (·.col))
    (row, (Span.runs cols).flatMap (Span.pieces budget))

/-- The clusters in the order in which they are closed. A budget of zero is no budget. -/
def ofPlaces (budget gap : Nat) (places : List Place) : List Cluster :=
  ((strips budget places).foldl (addRow budget gap) ⟨[], [], []⟩).endRow.closed

end Cluster

end DiffView
