import DiffView.Decimal.Layout
import DiffView.Json.Value

namespace DiffView.Json

/-- A double has an exponent from `1e16` on and below `1e-5`, and otherwise a decimal point. -/
def numberLayout : Decimal.Layout where
  tie := .toEven
  positional e := -5 ≤ e && e < 16
  point := true

def Number.render : Number → String
  | .nat n => toString n
  | .neg n => "-" ++ toString n
  | .double d => numberLayout.text d

def escapeChar (c : Char) : List Char :=
  match c with
  | '"' => ['\\', '"']
  | '\\' => ['\\', '\\']
  | '\x08' => ['\\', 'b']
  | '\x0c' => ['\\', 'f']
  | '\n' => ['\\', 'n']
  | '\r' => ['\\', 'r']
  | '\t' => ['\\', 't']
  | c =>
    if c.toNat < 0x20 then
      ['\\', 'u', '0', '0', Nat.digitChar (c.toNat / 16), Nat.digitChar (c.toNat % 16)]
    else [c]

def renderText (s : String) : String :=
  String.ofList ('"' :: s.toList.flatMap escapeChar ++ ['"'])

namespace Value

mutual

def render : Value → String
  | .null => "null"
  | .bool b => if b then "true" else "false"
  | .number n => n.render
  | .text s => renderText s
  | .list [] => "[]"
  | .list (v :: vs) => "[" ++ v.render ++ renderItems vs ++ "]"
  | .record [] => "\x7b\x7d"
  | .record ((k, v) :: ms) =>
    "\x7b" ++ renderText k ++ ":" ++ v.render ++ renderMembers ms ++ "\x7d"

def renderItems : List Value → String
  | [] => ""
  | v :: vs => "," ++ v.render ++ renderItems vs

def renderMembers : List (String × Value) → String
  | [] => ""
  | (k, v) :: ms => "," ++ renderText k ++ ":" ++ v.render ++ renderMembers ms

end

end Value

end DiffView.Json
