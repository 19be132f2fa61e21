import DiffView.Decimal.Double

namespace DiffView.Json

def maxNat : Nat := 18446744073709551615

def maxNeg : Nat := 9223372036854775808

/-- A number: `nat n` for `n` up to `maxNat`, `neg n` for `-n` with `n` from 1 to `maxNeg`, or else
a double. -/
inductive Number
  | nat (n : Nat)
  | neg (n : Nat)
  | double (d : Decimal.Double)
  deriving DecidableEq, Repr

inductive Value
  | null
  | bool (b : Bool)
  | number (n : Number)
  | text (s : String)
  | list (items : List Value)
  | record (members : List (String × Value))
  deriving Repr, Inhabited

abbrev Member := String × Value

namespace Value

mutual

def decEq : (v w : Value) → Decidable (v = w)
  | .null, .null => isTrue rfl
  | .bool a, .bool b => decidable_of_iff (a = b) (by simp)
  | .number a, .number b => decidable_of_iff (a = b) (by simp)
  | .text a, .text b => decidable_of_iff (a = b) (by simp)
  | .list as, .list bs =>
    match decEqItems as bs with
    | isTrue h => isTrue (by rw [h])
    | isFalse h => isFalse (by simpa using h)
  | .record as, .record bs =>
    match decEqMembers as bs with
    | isTrue h => isTrue (by rw [h])
    | isFalse h => isFalse (by simpa using h)
  | .null, .bool _ => isFalse nofun
  | .null, .number _ => isFalse nofun
  | .null, .text _ => isFalse nofun
  | .null, .list _ => isFalse nofun
  | .null, .record _ => isFalse nofun
  | .bool _, .null => isFalse nofun
  | .bool _, .number _ => isFalse nofun
  | .bool _, .text _ => isFalse nofun
  | .bool _, .list _ => isFalse nofun
  | .bool _, .record _ => isFalse nofun
  | .number _, .null => isFalse nofun
  | .number _, .bool _ => isFalse nofun
  | .number _, .text _ => isFalse nofun
  | .number _, .list _ => isFalse nofun
  | .number _, .record _ => isFalse nofun
  | .text _, .null => isFalse nofun
  | .text _, .bool _ => isFalse nofun
  | .text _, .number _ => isFalse nofun
  | .text _, .list _ => isFalse nofun
  | .text _, .record _ => isFalse nofun
  | .list _, .null => isFalse nofun
  | .list _, .bool _ => isFalse nofun
  | .list _, .number _ => isFalse nofun
  | .list _, .text _ => isFalse nofun
  | .list _, .record _ => isFalse nofun
  | .record _, .null => isFalse nofun
  | .record _, .bool _ => isFalse nofun
  | .record _, .number _ => isFalse nofun
  | .record _, .text _ => isFalse nofun
  | .record _, .list _ => isFalse nofun

def decEqItems : (as bs : List Value) → Decidable (as = bs)
  | [], [] => isTrue rfl
  | [], _ :: _ => isFalse nofun
  | _ :: _, [] => isFalse nofun
  | a :: as, b :: bs =>
    match decEq a b, decEqItems as bs with
    | isTrue h, isTrue hs => isTrue (by rw [h, hs])
    | isFalse h, _ => isFalse fun e => h (List.cons.inj e).1
    | _, isFalse hs => isFalse fun e => hs (List.cons.inj e).2

def decEqMembers : (as bs : List (String × Value)) → Decidable (as = bs)
  | [], [] => isTrue rfl
  | [], _ :: _ => isFalse nofun
  | _ :: _, [] => isFalse nofun
  | (k, a) :: as, (l, b) :: bs =>
    match decEq a b, decEqMembers as bs with
    | isTrue h, isTrue hs =>
      if hk : k = l then isTrue (by rw [h, hs, hk])
      else isFalse fun e => hk (Prod.mk.inj (List.cons.inj e).1).1
    | isFalse h, _ => isFalse fun e => h (Prod.mk.inj (List.cons.inj e).1).2
    | _, isFalse hs => isFalse fun e => hs (List.cons.inj e).2

end

instance : DecidableEq Value := decEq

def nat (n : Nat) : Value := .number (.nat n)

def double (d : Decimal.Double) : Value := .number (.double d)

def member? (v : Value) (key : String) : Option Value :=
  match v with
  | .record members => members.lookup key
  | _ => none

end Value

def setMember (m : Member) : List Member → List Member
  | [] => [m]
  | n :: ns =>
    match compare m.1 n.1 with
    | .lt => m :: n :: ns
    | .eq => m :: ns
    | .gt => n :: setMember m ns

/-- The members in ascending order of their keys; of a repeated key the last one counts. -/
def orderMembers (members : List Member) : List Member :=
  members.foldl (fun done m => setMember m done) []

end DiffView.Json
