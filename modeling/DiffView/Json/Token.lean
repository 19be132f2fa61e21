import DiffView.Json.Value

namespace DiffView.Json

inductive Token
  | openList
  | closeList
  | openRecord
  | closeRecord
  | comma
  | colon
  | null
  | bool (b : Bool)
  | number (n : Option Number)
  | text (s : Option String)
  | bad
  deriving DecidableEq, Repr

namespace Token

def isSpace (c : Char) : Bool := c = ' ' || c = '\t' || c = '\n' || c = '\r'

def digit (c : Char) : Nat := c.toNat - '0'.toNat

def hexDigit? (c : Char) : Option Nat :=
  if c.isDigit then some (digit c)
  else if 'a' ≤ c && c ≤ 'f' then some (c.toNat - 'a'.toNat + 10)
  else if 'A' ≤ c && c ≤ 'F' then some (c.toNat - 'A'.toNat + 10)
  else none

/-- A text is written in characters and in 16-bit units. -/
inductive Piece
  | char (c : Char)
  | unit (n : Nat)

def escape? : Char → Option Char
  | '"' => some '"'
  | '\\' => some '\\'
  | '/' => some '/'
  | 'b' => some '\x08'
  | 'f' => some '\x0c'
  | 'n' => some '\n'
  | 'r' => some '\r'
  | 't' => some '\t'
  | _ => none

def unit? (a b c d : Char) : Option Nat := do
  pure ((((← hexDigit? a) * 16 + (← hexDigit? b)) * 16 + (← hexDigit? c)) * 16 + (← hexDigit? d))

def pieces (done : List Piece) (used : Nat) : List Char → Option (List Piece × Nat)
  | [] => none
  | '"' :: _ => some (done, used + 1)
  | '\\' :: 'u' :: a :: b :: c :: d :: cs =>
    match unit? a b c d with
    | some n => pieces (.unit n :: done) (used + 6) cs
    | none => none
  | '\\' :: c :: cs =>
    match escape? c with
    | some e => pieces (.char e :: done) (used + 2) cs
    | none => none
  | c :: cs => if c.toNat < 0x20 then none else pieces (.char c :: done) (used + 1) cs

def isHigh (n : Nat) : Bool := 0xd800 ≤ n && n ≤ 0xdbff

def isLow (n : Nat) : Bool := 0xdc00 ≤ n && n ≤ 0xdfff

def pair (high low : Nat) : Char := Char.ofNat (0x10000 + (high - 0xd800) * 0x400 + (low - 0xdc00))

/-- Reads the pieces backwards. A low surrogate needs a high one right before it. -/
def joinPieces (done : List Char) : List Piece → Option (List Char)
  | [] => some done
  | .char c :: ps => joinPieces (c :: done) ps
  | .unit n :: ps =>
    if isLow n then
      match ps with
      | .unit m :: ps => if isHigh m then joinPieces (pair m n :: done) ps else none
      | _ => none
    else if isHigh n then none
    else joinPieces (Char.ofNat n :: done) ps

def text? (cs : List Char) : Option (Token × Nat) := do
  let (ps, used) ← pieces [] 0 cs
  pure (.text ((joinPieces [] ps).map String.ofList), used)

def value (digits : List Nat) : Nat := digits.foldl (fun n d => n * 10 + d) 0

def numberOf (negative : Bool) (whole fraction : List Nat) (exponent : Option Int) :
    Option Number :=
  let n := value whole
  if fraction.isEmpty && exponent.isNone && !negative && n ≤ maxNat then some (.nat n)
  else if fraction.isEmpty && exponent.isNone && negative && n ≠ 0 && n ≤ maxNeg then some (.neg n)
  else (Decimal.ofDigits? negative whole fraction (exponent.getD 0)).map .double

def fraction? (cs : List Char) : Option (List Nat × Nat) :=
  match cs with
  | '.' :: cs =>
    let ds := cs.takeWhile Char.isDigit
    if ds.isEmpty then none else some (ds.map digit, ds.length + 1)
  | _ => some ([], 0)

def exponentSign : List Char → Bool × Nat
  | '+' :: _ => (false, 1)
  | '-' :: _ => (true, 1)
  | _ => (false, 0)

def exponent? (cs : List Char) : Option (Option Int × Nat) :=
  match cs with
  | c :: rest =>
    if c = 'e' ∨ c = 'E' then
      let (negative, sign) := exponentSign rest
      let ds := (rest.drop sign).takeWhile Char.isDigit
      let n := value (ds.map digit)
      if ds.isEmpty then none
      else some (some (if negative then -n else n), 1 + sign + ds.length)
    else some (none, 0)
  | [] => some (none, 0)

def number? (cs : List Char) : Option (Token × Nat) := do
  let negative := cs.head? = some '-'
  let sign := if negative then 1 else 0
  let cs := cs.drop sign
  let ds := cs.takeWhile Char.isDigit
  if ds.isEmpty || (ds.head? = some '0' && 1 < ds.length) then none
  else
    let cs := cs.drop ds.length
    let (fraction, fractionLength) ← fraction? cs
    let (exponent, exponentLength) ← exponent? (cs.drop fractionLength)
    pure (.number (numberOf negative (ds.map digit) fraction exponent),
      sign + ds.length + fractionLength + exponentLength)

def word? (cs : List Char) (word : String) (t : Token) : Option (Token × Nat) :=
  if word.toList.isPrefixOf cs then some (t, word.length) else none

def first? (c : Char) (cs : List Char) : Option (Token × Nat) :=
  match c with
  | '[' => some (.openList, 0)
  | ']' => some (.closeList, 0)
  | '{' => some (.openRecord, 0)
  | '}' => some (.closeRecord, 0)
  | ',' => some (.comma, 0)
  | ':' => some (.colon, 0)
  | '"' => text? cs
  | 'n' => word? cs "ull" .null
  | 't' => word? cs "rue" (.bool true)
  | 'f' => word? cs "alse" (.bool false)
  | c => (number? (c :: cs)).map fun (t, used) => (t, used - 1)

/-- Appends the tokens of a text to those found before it, latest first. The first `used` characters
belong to the last of these. -/
def scan (done : List Token) (used : Nat) : List Char → List Token
  | [] => done
  | c :: cs =>
    match used with
    | used + 1 => scan done used cs
    | 0 =>
      if isSpace c then scan done 0 cs
      else
        match first? c cs with
        | some (t, used) => scan (t :: done) used cs
        | none => .bad :: done

def ofText (s : String) : List Token := (scan [] 0 s.toList).reverse

end Token

end DiffView.Json
