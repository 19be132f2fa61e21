import DiffView.Error
import DiffView.Json.Draft
import DiffView.Span

namespace DiffView.Json

abbrev Reader (α : Type) := Draft → Except Fault α

namespace Reader

variable {α : Type}

def refuse : Draft → Fault
  | .number none => .malformed
  | .text none => .malformed
  | .broken => .malformed
  | _ => .misshapen

def index : Reader Nat
  | .number (some (.nat n)) => if n ≤ maxIndex then .ok n else .error .misshapen
  | d => .error (refuse d)

def flag : Reader Bool
  | .bool b => .ok b
  | d => .error (refuse d)

structure Field (α : Type) where
  name : String
  set : α → Draft → Except Fault α

/-- Sets fields in the order in which they stand. No field may be set twice. -/
def members (fields : List (Field α)) (done : List String) (a : α) :
    List (Option String × Draft) → Except Fault α
  | [] => .ok a
  | (none, _) :: _ => .error .malformed
  | (some key, d) :: ms =>
    match fields.find? fun f => f.name = key with
    | some f =>
      if key ∈ done then .error .misshapen
      else do members fields (key :: done) (← f.set a d) ms
    | none => if d.sound then members fields done a ms else .error .malformed

def items (a : α) : List (Field α) → List Draft → Except Fault α
  | _, [] => .ok a
  | [], _ :: _ => .error .malformed
  | f :: fs, d :: ds => do items (← f.set a d) fs ds

def finished (whole : Bool) (a : α) : Except Fault α := if whole then .ok a else .error .malformed

/-- Sets the fields that a record names, or those at the places of a list. -/
def fields (fs : List (Field α)) (a : α) : Reader α
  | .record ms whole => do finished whole (← members fs [] a ms)
  | .list ds whole => do finished whole (← items a fs ds)
  | d => .error (refuse d)

def ofText (r : Reader α) (s : String) : Except Fault α :=
  let (d, clean) := Draft.ofText s
  do finished clean (← r d)

end Reader

end DiffView.Json
