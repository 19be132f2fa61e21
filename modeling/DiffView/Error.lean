namespace DiffView

inductive Fault
  | malformed
  | misshapen
  deriving DecidableEq, Repr

inductive Limit
  | previewRows
  | previewCols
  deriving DecidableEq, Repr

inductive Error
  | payload (fault : Fault)
  | options (fault : Fault)
  | zeroLimit (limit : Limit)
  deriving DecidableEq, Repr

def Limit.word : Limit → String
  | .previewRows => "previewRows"
  | .previewCols => "previewCols"

namespace Error

def code : Error → String
  | payload _ => "UIVM_PAYLOAD_001"
  | options _ => "UIVM_OPTIONS_001"
  | zeroLimit _ => "UIVM_OPTIONS_001"

def fault? : Error → Option Fault
  | payload f => some f
  | options f => some f
  | zeroLimit _ => none

def reason (describe : Fault → String) : Error → String
  | payload f => "invalid diff payload: " ++ describe f ++
      ". Suggestion: pass the JSON produced by the diff engine unchanged."
  | options f => "invalid view options JSON: " ++ describe f
  | zeroLimit l => "invalid view options: " ++ l.word ++ " must be greater than zero (got 0)"

def message (describe : Fault → String) (e : Error) : String :=
  "[" ++ e.code ++ "] " ++ e.reason describe

end Error

end DiffView
