import DiffView.Line
import DiffView.Op.Traits
import DiffView.Span
import DiffView.Stretch

namespace DiffView

inductive Group
  | rows
  | cols
  | cells
  | moves
  | other
  deriving DecidableEq, Repr

def Group.word : Group → String
  | .rows => "rows"
  | .cols => "cols"
  | .cells => "cells"
  | .moves => "moves"
  | .other => "other"

def Line.group : Line → Group
  | .row => .rows
  | .col => .cols

/-- The place of an item. Lines have indices of the grid, a move of lines has the indices of the
sheets, and a move of a rectangle has their addresses. -/
inductive Locator
  | lines (line : Line) (run : Span)
  | region (id : String)
  | lineMove (moveId : String) (line : Line) (src dst count : Nat)
  | rectMove (moveId src dst : String)
  deriving DecidableEq, Repr

structure Item where
  id : String
  group : Group
  changeType : ChangeType
  label : String
  detail : String
  locator : Option Locator
  deriving DecidableEq, Repr

def Item.moveId? (i : Item) : Option String :=
  match i.locator with
  | some (.lineMove moveId ..) => some moveId
  | some (.rectMove moveId ..) => some moveId
  | _ => none

end DiffView
