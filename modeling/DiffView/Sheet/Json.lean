import DiffView.Payload.Json
import DiffView.Sheet.View

namespace DiffView

open Json

def Box.members (b : Box) : List Member :=
  [("top", .nat b.top), ("left", .nat b.left), ("bottom", .nat b.bottom), ("right", .nat b.right)]

def Box.toJson (b : Box) : Value := .record b.members

def Place.toJson (p : Place) : Value := .record [("row", .nat p.row), ("col", .nat p.col)]

def Axis.toJson (a : Axis) : Value :=
  let views (side : Side) : Value := .list ((a.views side).map (.ofOption .nat))
  .record
    [("entries", .list (a.slots.map (·.toJson))), ("oldToView", views .old),
      ("newToView", views .new), ("oldLen", .nat a.oldLength), ("newLen", .nat a.newLength),
      ("count", .nat a.count)]

def Grid.toJson (g : Grid) : Value :=
  .record [("rows", g.rows.toJson), ("cols", g.cols.toJson)]

def Locator.toJson : Locator → Value
  | .lines line run =>
    .record
      [("kind", .text "range"), ("axis", .text line.word), ("viewStart", .nat run.first),
        ("viewEnd", .nat run.last)]
  | .region id => .record [("kind", .text "region"), ("regionId", .text id)]
  | .lineMove moveId line src dst count =>
    .record
      [("kind", .text "axis_move"), ("moveId", .text moveId), ("axis", .text line.word),
        ("srcStart", .nat src), ("dstStart", .nat dst), ("count", .nat count)]
  | .rectMove moveId src dst =>
    .record
      [("kind", .text "rect_move"), ("moveId", .text moveId), ("src", .text src),
        ("dst", .text dst)]

def Link.toJson (l : Link) : Value :=
  .ofMembers [("anchorId", some (.text l.anchorId)), ("label", l.label.map .text)]

def Item.toJson (links : List Link) (i : Item) : Value :=
  .ofMembers
    [("id", some (.text i.id)), ("group", some (.text i.group.word)),
      ("changeType", some (.text i.changeType.word)), ("label", some (.text i.label)),
      ("detail", Value.unlessBlank i.detail), ("locator", i.locator.map (·.toJson)),
      ("navTargets", Value.unlessEmpty (links.map (·.toJson)))]

def Region.toJson (r : Region) : Value :=
  .ofMembers
    ([("id", some (.text r.id)), ("kind", some (.text r.kind.word))] ++
      (r.box.members.map fun m => (m.1, some m.2)) ++
      [("cellCount", some (.nat r.cellCount)), ("moveId", r.moveId.map .text),
        ("label", some (.text r.label)), ("renderBounds", r.shown.map (·.toJson))])

def Target.toJson : Target → Value
  | .grid place regionId moveId =>
    .ofMembers
      [("kind", some (.text "grid")), ("viewRow", some (.nat place.row)),
        ("viewCol", some (.nat place.col)), ("regionId", regionId.map .text),
        ("moveId", moveId.map .text)]
  | .list elementId => .record [("kind", .text "list"), ("elementId", .text elementId)]

def Anchor.toJson (a : Anchor) : Value :=
  .ofMembers
    [("id", some (.text a.id)), ("group", some (.text a.group.word)),
      ("changeType", some (.text a.changeType.word)), ("label", some (.text a.label)),
      ("detail", Value.unlessBlank a.detail), ("target", some a.target.toJson)]

def MoveEnds.toJson (m : MoveEnds) : Value := .record [("src", .text m.src), ("dst", .text m.dst)]

def Entry.toJson (e : Entry) : Value :=
  .ofMembers
    [("index", some (.nat e.index)), ("kind", some (.text e.kind)),
      ("category", some (.text e.traits.category.word)),
      ("severity", some (.text e.traits.severity.word)),
      ("changeType", some (.text e.traits.changeType.word)),
      ("noiseClass", some (.text e.traits.noise.word)), ("label", some (.text e.label)),
      ("view", e.view.map (·.toJson))]

namespace HunkKind

def word : HunkKind → String
  | aligned _ => "aligned"
  | raw _ => "raw"

def regionId? : HunkKind → Option String
  | aligned id => some id
  | raw _ => none

def side? : HunkKind → Option Sides
  | aligned _ => none
  | raw side => some side

end HunkKind

def Hunk.toJson (h : Hunk) : Value :=
  .ofMembers
    [("id", some (.text h.id)), ("kind", some (.text h.kind.word)),
      ("regionId", h.kind.regionId?.map .text),
      ("side", h.kind.side?.map fun s => .text s.word), ("moveId", h.moveId.map .text),
      ("bounds", some h.box.toJson), ("label", some (.text h.label))]

def Status.toJson (s : Status) : Value :=
  .ofMembers [("kind", some (.text s.word)), ("message", s.message?.map .text)]

def ChangeCounts.toJson (c : ChangeCounts) : Value :=
  .record
    [("added", .nat c.added), ("removed", .nat c.removed), ("modified", .nat c.modified),
      ("moved", .nat c.moved)]

def SeverityCounts.toJson (c : SeverityCounts) : Value :=
  .record [("high", .nat c.high), ("medium", .nat c.medium), ("low", .nat c.low)]

def Edit.toJson (e : Edit) : Value :=
  .record
    [("fromValue", .text e.fromValue), ("toValue", .text e.toValue),
      ("fromFormula", .text e.fromFormula), ("toFormula", .text e.toFormula),
      ("formulaDiff", .text e.formulaChange.word)]

def CellSide.toJson (c : CellSide) : Value :=
  .record
    [("row", .nat c.row), ("col", .nat c.col), ("cell", .ofOption (·.toJson) c.cell)]

def Display.toJson (d : Display) : Value :=
  .record [("text", .text d.text), ("tooltip", .text d.tooltip)]

def CellView.toJson (c : CellView) : Value :=
  .ofMembers
    [("viewRow", c.view.map fun p => .nat p.row), ("viewCol", c.view.map fun p => .nat p.col),
      ("old", some (.ofOption (·.toJson) c.old)), ("new", some (.ofOption (·.toJson) c.new)),
      ("diffKind", some (.text c.kind.word)), ("moveId", c.moveId.map .text),
      ("moveRole", c.role.map fun r => .text r.word), ("edit", c.edit.map (·.toJson)),
      ("display", some c.display.toJson)]

namespace SheetView

def changesJson (v : SheetView) : Value :=
  .record
    [("items", .list (v.items.map fun i => i.toJson (v.links i))),
      ("regions", .list (v.regions.map (·.toJson))), ("anchors", .list (v.anchors.map (·.toJson))),
      ("moves", .record (v.moves.map fun m => (m.1, m.2.toJson)))]

def planJson (v : SheetView) : Value :=
  .record
    [("regionsToRender", .texts v.shownRegions), ("status", v.status.toJson),
      ("contextRows", .nat v.options.contextRows), ("contextCols", .nat v.options.contextCols),
      ("maxVisualCells", .nat v.options.maxVisualCells)]

def toJson (v : SheetView) : Value :=
  .ofMembers
    [("name", some (.text v.name)), ("oldName", v.oldName.map .text),
      ("axis", some v.grid.toJson), ("changes", some v.changesJson),
      ("ops", some (.list (v.entries.map (·.toJson)))),
      ("hunks", some (.list (v.hunks.map (·.toJson)))), ("renderPlan", some v.planJson),
      ("opCount", some (.nat v.opCount)), ("severity", v.severity?.map fun s => .text s.word),
      ("severityCounts", some v.severityCounts.toJson), ("counts", some v.changeCounts.toJson),
      ("categories", some (.texts (v.categories.map (·.word))))]

def sumsJson (v : SheetView) : Value :=
  .record
    [("sheetName", .text v.name), ("opCount", .nat v.opCount), ("counts", v.changeCounts.toJson),
      ("severity", v.severityCounts.toJson)]

end SheetView

end DiffView
