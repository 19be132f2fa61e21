namespace DiffView

def maxIndex : Nat := 4294967295

/-- An inclusive run of indices. -/
structure Span where
  first : Nat
  last : Nat
  deriving DecidableEq, Repr

namespace Span

def point (i : Nat) : Span := ⟨i, i⟩

def size (s : Span) : Nat := s.last - s.first + 1

def join (s t : Span) : Span := ⟨min s.first t.first, max s.last t.last⟩

def hull? : List Span → Option Span
  | [] => none
  | s :: ss => some (ss.foldl join s)

/-- The maximal runs of an ascending list of indices. -/
def runs : List Nat → List Span
  | [] => []
  | i :: is =>
    match runs is with
    | s :: ss => if s.first = i + 1 then ⟨i, s.last⟩ :: ss else point i :: s :: ss
    | [] => [point i]

/-- Consecutive pieces of at most `budget` indices, cut from the left; a budget of zero cuts
nothing. -/
def pieces (budget : Nat) (s : Span) : List Span :=
  if budget = 0 then [s]
  else (List.range ((s.size + budget - 1) / budget)).map fun i =>
    ⟨s.first + i * budget, min (s.first + (i + 1) * budget - 1) s.last⟩

end Span

end DiffView
