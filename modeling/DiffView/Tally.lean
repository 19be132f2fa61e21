import DiffView.Op.Traits

namespace DiffView

structure ChangeCounts where
  added : Nat
  removed : Nat
  modified : Nat
  moved : Nat
  deriving DecidableEq, Repr

structure SeverityCounts where
  high : Nat
  medium : Nat
  low : Nat
  deriving DecidableEq, Repr

structure CategoryCounts where
  grid : Nat
  powerQuery : Nat
  model : Nat
  objects : Nat
  other : Nat
  deriving DecidableEq, Repr

namespace ChangeCounts

def ofTraits (ts : List Traits) : ChangeCounts :=
  let count (c : ChangeType) := ts.countP fun t => t.changeType = c
  ⟨count .added, count .removed, count .modified, count .moved⟩

end ChangeCounts

namespace SeverityCounts

def ofTraits (ts : List Traits) : SeverityCounts :=
  let count (s : Severity) := ts.countP fun t => t.severity = s
  ⟨count .high, count .medium, count .low⟩

def total (c : SeverityCounts) : Nat := c.high + c.medium + c.low

def max? (c : SeverityCounts) : Option Severity :=
  if 0 < c.high then some .high
  else if 0 < c.medium then some .medium
  else if 0 < c.low then some .low
  else none

end SeverityCounts

namespace CategoryCounts

def ofTraits (ts : List Traits) : CategoryCounts :=
  let count (c : Category) := ts.countP fun t => t.category = c
  ⟨count .grid, count .powerQuery, count .model, count .objects, count .other⟩

end CategoryCounts

def Category.ofTraits (ts : List Traits) : List Category :=
  Category.all.filter fun c => ts.any fun t => t.category = c

end DiffView
