import DiffView.Json.Token

namespace DiffView.Json

/-- A value read loosely: `broken` stands where one should begin and none does, an unfinished list
or record is not `whole`, and a number, a text or a key that stands for nothing is none. -/
inductive Draft
  | null
  | bool (b : Bool)
  | number (n : Option Number)
  | text (s : Option String)
  | list (items : List Draft) (whole : Bool)
  | record (members : List (Option String × Draft)) (whole : Bool)
  | broken
  deriving Repr, Inhabited

def maxDepth : Nat := 127

namespace Draft

inductive Frame
  | list (items : List Draft)
  | record (members : List (Option String × Draft))
  | member (members : List (Option String × Draft)) (key : Option String)

inductive Want
  | value
  | valueOrEnd
  | key
  | keyOrEnd
  | colon
  | commaOrEnd
  deriving DecidableEq, Repr

inductive State
  | more (want : Want) (frames : List Frame)
  | done (d : Draft) (clean : Bool)

def place (d : Draft) : List Frame → State
  | [] => .done d true
  | .list items :: fs => .more .commaOrEnd (.list (d :: items) :: fs)
  | .member members key :: fs => .more .commaOrEnd (.record ((key, d) :: members) :: fs)
  | .record members :: fs => .more .commaOrEnd (.record members :: fs)

def breakOff (d : Draft) : List Frame → Draft
  | [] => d
  | .list items :: fs => breakOff (.list (d :: items).reverse false) fs
  | .member members key :: fs => breakOff (.record ((key, d) :: members).reverse false) fs
  | .record members :: fs => breakOff (.record members.reverse false) fs

def startValue (fs : List Frame) : Token → Option State
  | .null => some (place .null fs)
  | .bool b => some (place (.bool b) fs)
  | .number n => some (place (.number n) fs)
  | .text s => some (place (.text s) fs)
  | .openList => some (.more .valueOrEnd (.list [] :: fs))
  | .openRecord => some (.more .keyOrEnd (.record [] :: fs))
  | _ => none

def startMember : List Frame → Token → Option State
  | .record members :: fs, .text key => some (.more .colon (.member members key :: fs))
  | _, _ => none

def finish : List Frame → Token → Option State
  | .list items :: fs, .closeList => some (place (.list items.reverse true) fs)
  | .record members :: fs, .closeRecord => some (place (.record members.reverse true) fs)
  | _, _ => none

def continueWith : List Frame → Token → Option State
  | .list items :: fs, .comma => some (.more .value (.list items :: fs))
  | .record members :: fs, .comma => some (.more .key (.record members :: fs))
  | fs, t => finish fs t

def next? (want : Want) (fs : List Frame) (t : Token) : Option State :=
  match want with
  | .value => startValue fs t
  | .valueOrEnd => (finish fs t).or (startValue fs t)
  | .key => startMember fs t
  | .keyOrEnd => (finish fs t).or (startMember fs t)
  | .colon => if t = .colon then some (.more .value fs) else none
  | .commaOrEnd => continueWith fs t

def step : State → Token → State
  | .done d _, _ => .done d false
  | .more want fs, t => (next? want fs t).getD (.done (breakOff .broken fs) false)

/-- The draft of the tokens, and whether nothing follows it. -/
def ofTokens (ts : List Token) : Draft × Bool :=
  match ts.foldl step (.more .value []) with
  | .done d clean => (d, clean)
  | .more _ fs => (breakOff .broken fs, false)

def ofText (s : String) : Draft × Bool := ofTokens (Token.ofText s)

mutual

def sound : Draft → Bool
  | .list items whole => soundItems items && whole
  | .record members whole => soundMembers members && whole
  | .broken => false
  | _ => true

def soundItems : List Draft → Bool
  | [] => true
  | d :: ds => d.sound && soundItems ds

def soundMembers : List (Option String × Draft) → Bool
  | [] => true
  | (_, d) :: ms => d.sound && soundMembers ms

end

mutual

/-- The value of a draft that holds at most `room` containers one in another. -/
def value? (room : Nat) : Draft → Option Value
  | .null => some .null
  | .bool b => some (.bool b)
  | .number n => n.map .number
  | .text s => s.map .text
  | .list items whole =>
    if room = 0 || !whole then none else (valueItems? (room - 1) items).map .list
  | .record members whole =>
    if room = 0 || !whole then none
    else (valueMembers? (room - 1) members).map fun ms => .record (orderMembers ms)
  | .broken => none

def valueItems? (room : Nat) : List Draft → Option (List Value)
  | [] => some []
  | d :: ds => do pure ((← d.value? room) :: (← valueItems? room ds))

def valueMembers? (room : Nat) : List (Option String × Draft) → Option (List Member)
  | [] => some []
  | (key, d) :: ms => do pure ((← key, ← d.value? room) :: (← valueMembers? room ms))

end

end Draft

def Value.ofText? (s : String) : Option Value :=
  match Draft.ofText s with
  | (d, true) => d.value? maxDepth
  | (_, false) => none

end DiffView.Json
