namespace DiffView

variable {α κ : Type}

def insertBy (cmp : α → α → Ordering) (a : α) : List α → List α
  | [] => [a]
  | b :: bs => if (cmp a b).isLE then a :: b :: bs else b :: insertBy cmp a bs

/-- Stable: elements that compare equal keep their order. -/
def sortBy (cmp : α → α → Ordering) : List α → List α
  | [] => []
  | a :: as => insertBy cmp a (sortBy cmp as)

def insertNew [Ord α] (a : α) : List α → List α
  | [] => [a]
  | b :: bs =>
    match compare a b with
    | .lt => a :: b :: bs
    | .eq => b :: bs
    | .gt => b :: insertNew a bs

def ascending [Ord α] (as : List α) : List α := as.foldr insertNew []

/-- The first element of each key, in the order of the list. -/
def distinctBy [DecidableEq κ] (key : α → κ) : List α → List α
  | [] => []
  | a :: as => a :: (distinctBy key as).filter fun b => key b ≠ key a

def distinct [DecidableEq α] (as : List α) : List α := distinctBy id as

end DiffView
