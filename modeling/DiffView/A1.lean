import DiffView.Span
import DiffView.Text.Blank

namespace DiffView.A1

def letter (n : Nat) : Char := Char.ofNat ('A'.toNat + n)

/-- Puts the letters of a column before others. More than `col` steps are never needed. -/
def lettersBefore : Nat → Nat → List Char → List Char
  | 0, _, others => others
  | steps + 1, col, others =>
    if col < 26 then letter col :: others
    else lettersBefore steps (col / 26 - 1) (letter (col % 26) :: others)

def columnLetters (col : Nat) : List Char := lettersBefore (col + 1) col []

theorem lettersBefore_eq (steps col : Nat) (others : List Char) (h : col < steps) :
    lettersBefore steps col others = columnLetters col ++ others := by
  induction col using Nat.strongRecOn generalizing steps others with
  | _ col ih =>
    obtain ⟨steps, rfl⟩ : ∃ n, steps = n + 1 := ⟨steps - 1, by omega⟩
    simp only [columnLetters, lettersBefore]
    split
    · rfl
    · have hlt : col / 26 - 1 < col := by omega
      rw [ih _ hlt _ _ (by omega), ih _ hlt _ [letter (col % 26)] hlt, List.append_assoc]
      rfl

theorem columnLetters_eq (col : Nat) :
    columnLetters col =
      if col < 26 then [letter col] else columnLetters (col / 26 - 1) ++ [letter (col % 26)] := by
  rw [columnLetters, lettersBefore]
  split
  · rfl
  · exact lettersBefore_eq _ _ _ (by omega)

def column (col : Nat) : String := String.ofList (columnLetters col)

def cell (row col : Nat) : String := column col ++ toString (row + 1)

def range (top left bottom right : Nat) : String :=
  let first := cell top left
  let last := cell bottom right
  if first = last then first else first ++ ":" ++ last

def letterValue (c : Char) : Nat := c.toUpper.toNat - 'A'.toNat + 1

def digitValue (c : Char) : Nat := c.toNat - '0'.toNat

def index? (n : Nat) : Option Nat := if n ≤ maxIndex then some n else none

def push? (base n digit : Nat) : Option Nat := do index? ((← index? (n * base)) + digit)

def number? (base : Nat) (value : Char → Nat) (cs : List Char) : Option Nat :=
  cs.foldlM (fun n c => push? base n (value c)) 0

/-- The row and the column of an address, counted from zero. Case does not matter, nor do blanks
around the address. Both numbers must fit 32 bits, and there is no row zero. -/
def parse? (text : String) : Option (Nat × Nat) :=
  let cs := Text.trim text.toList
  let letters := cs.takeWhile Char.isAlpha
  let digits := cs.dropWhile Char.isAlpha
  if letters.isEmpty || digits.isEmpty || !digits.all Char.isDigit then none
  else do
    let col ← number? 26 letterValue letters
    let row ← number? 10 digitValue digits
    if row = 0 then none else some (row - 1, col - 1)

end DiffView.A1
