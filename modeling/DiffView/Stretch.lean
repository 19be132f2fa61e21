import DiffView.Span

namespace DiffView

structure Stretch where
  start : Nat
  count : Nat
  deriving DecidableEq, Repr

namespace Stretch

/-- The last line of a stretch, which is never before the first; an empty stretch reads as a single
line. -/
def last (s : Stretch) : Nat := max s.start (min (s.start + (s.count - 1)) maxIndex)

def clamp? (s : Stretch) (length : Nat) : Option Span :=
  if s.count = 0 ∨ length ≤ s.start then none else some ⟨s.start, min s.last (length - 1)⟩

end Stretch

end DiffView
