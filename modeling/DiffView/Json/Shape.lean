import DiffView.Json.Value
import DiffView.Span

namespace DiffView.Json

/-- Reads a value, or refuses it. -/
abbrev Shape (α : Type) := Value → Option α

namespace Shape

variable {α : Type}

def text : Shape String
  | .text s => some s
  | _ => none

def flag : Shape Bool
  | .bool b => some b
  | _ => none

def whole : Shape Nat
  | .number (.nat n) => some n
  | _ => none

def index : Shape Nat
  | .number (.nat n) => if n ≤ maxIndex then some n else none
  | _ => none

def double : Shape Decimal.Double
  | .number (.nat n) => some (.ofNat n)
  | .number (.neg n) => some (Decimal.Double.ofNat n).negate
  | .number (.double d) => some d
  | _ => none

def list (s : Shape α) : Shape (List α)
  | .list vs => vs.mapM s
  | _ => none

def texts : Shape (List String) := list text

def isNull (v : Value) : Bool := v matches .null

def isNullOrEmpty (v : Value) : Bool := v matches .null | .record []

/-- One of several words, alone or as the only key of a record with an empty value. -/
def oneOf (isEmpty : Value → Bool) (words : List (String × α)) : Shape α
  | .text s => words.lookup s
  | .record [(s, v)] => if isEmpty v then words.lookup s else none
  | _ => none

def required (s : Shape α) (v : Option Value) : Option α := v.bind s

/-- A field that may be absent, but not null. -/
def optional (s : Shape α) (absent : α) : Option Value → Option α
  | none => some absent
  | some v => s v

def nullable (s : Shape α) : Option Value → Option (Option α)
  | none => some none
  | some .null => some none
  | some v => (s v).map some

end Shape

namespace Value

/-- The fields of a record by name. Other members do not matter; a field given twice is refused. -/
def recordFields? (names : List String) (members : List Member) : Option (List (Option Value)) :=
  names.mapM fun name =>
    match members.filter (·.1 = name) with
    | [] => some none
    | [m] => some (some m.2)
    | _ => none

def listFields? (names : List String) (items : List Value) : Option (List (Option Value)) :=
  if items.length ≤ names.length then
    some (items.map some ++ List.replicate (names.length - items.length) none)
  else none

/-- The fields of a record or of a list; none in the place of an absent field. -/
def fields? (names : List String) : Value → Option (List (Option Value))
  | .record members => recordFields? names members
  | .list items => listFields? names items
  | _ => none

/-- Members under other spellings get the proper ones. -/
def respell (spellings : List (String × String)) : Value → Value
  | .record members => .record (members.map fun m => ((spellings.lookup m.1).getD m.1, m.2))
  | v => v

def ofMembers (members : List (String × Option Value)) : Value :=
  .record (members.filterMap fun m => m.2.map fun v => (m.1, v))

def ofFields (names : List String) (values : List (Option Value)) : Value :=
  ofMembers (names.zip values)

def ofOption {α : Type} (f : α → Value) (a : Option α) : Value := (a.map f).getD .null

def texts (ss : List String) : Value := .list (ss.map .text)

def unlessEmpty (vs : List Value) : Option Value := if vs.isEmpty then none else some (.list vs)

def unlessBlank (s : String) : Option Value := if s.isEmpty then none else some (.text s)

end Value

end DiffView.Json
