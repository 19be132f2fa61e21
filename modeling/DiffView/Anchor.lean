import DiffView.Item.Basic
import DiffView.Region

namespace DiffView

inductive Target
  | grid (place : Place) (regionId moveId : Option String)
  | list (elementId : String)
  deriving DecidableEq, Repr

structure Anchor where
  id : String
  group : Group
  changeType : ChangeType
  label : String
  detail : String
  target : Target
  deriving DecidableEq, Repr

structure Link where
  anchorId : String
  label : Option String
  deriving DecidableEq, Repr

def elementId (sheet item : String) : String := s!"change-{sheet}-{item}"

namespace Anchor

def lineId (line : Line) (type : ChangeType) (run : Span) : String :=
  s!"{line.word}:{type.word}:{run.first}-{run.last}"

def moveId (id : String) : Side → String
  | .old => s!"move:{id}:src"
  | .new => s!"move:{id}:dst"

def regionId (id : String) : String := "region:" ++ id

def otherId (item : String) : String := "other:" ++ item

end Anchor

/-- A place of an item at which a walk may stop; none for an item that is only in the list. -/
structure Stop where
  id : String
  detail : String
  place : Option Place
  region : Option Region
  moveId : Option String
  deriving DecidableEq, Repr

namespace Stop

def ofRegion? (regions : List Region) (id : String) (detail : String) : Option Stop :=
  (Region.find? regions id).map fun r =>
    ⟨Anchor.regionId r.id, detail, some r.box.corner, some r, r.moveId⟩

def ofLineMove? (g : Grid) (i : Item) (moveId : String) (line : Line) (side : Side)
    (s : Stretch) : Option Stop :=
  ((g.axis line).cover? side s).map fun run =>
    ⟨Anchor.moveId moveId side, i.detail, some (Grid.edge line run.first), none, some moveId⟩

def ofItem (g : Grid) (regions : List Region) (i : Item) : List Stop :=
  match i.locator with
  | none => [⟨Anchor.otherId i.id, i.detail, none, none, none⟩]
  | some (.lines line run) =>
    [⟨Anchor.lineId line i.changeType run, i.detail, some (Grid.edge line run.first), none, none⟩]
  | some (.region id) => (ofRegion? regions id i.detail).toList
  | some (.lineMove moveId line src dst count) =>
    (ofLineMove? g i moveId line .old ⟨src, count⟩).toList ++
      (ofLineMove? g i moveId line .new ⟨dst, count⟩).toList
  | some (.rectMove moveId _ _) =>
    (ofRegion? regions (Area.sourceId moveId) "From").toList ++
      (ofRegion? regions (Area.targetId moveId) "To").toList

def isRect (s : Stop) : Bool := s.region.any fun r => r.kind = .rect

def rank (s : Stop) : Group → Nat
  | .moves => 0
  | .rows => 1
  | .cols => 1
  | .cells => if s.isRect then 2 else 3
  | .other => if s.isRect then 2 else 4

end Stop

structure Candidate where
  place : Option Place
  rank : Nat
  anchor : Anchor
  deriving DecidableEq, Repr

namespace Candidate

/-- Without a grid to show, all anchors are in the list. -/
def ofStop (sheet : String) (hasGrid : Bool) (i : Item) (s : Stop) : Candidate where
  place := s.place
  rank := s.rank i.group
  anchor :=
    { id := s.id
      group := i.group
      changeType := i.changeType
      label := i.label
      detail := s.detail
      target :=
        match s.place with
        | some place =>
          if hasGrid then .grid place (s.region.map (·.id)) s.moveId
          else .list (elementId sheet i.id)
        | none => .list (elementId sheet i.id) }

def comparePlaces : Option Place → Option Place → Ordering
  | some p, some q => compare p q
  | some _, none => .lt
  | none, some _ => .gt
  | none, none => .eq

/-- By place, then by rank, then by id. Anchors without a place come last. -/
def compare (a b : Candidate) : Ordering :=
  (comparePlaces a.place b.place).then
    ((Ord.compare a.rank b.rank).then (Ord.compare a.anchor.id b.anchor.id))

end Candidate

namespace Anchor

/-- The anchors of a sheet in the order of a walk. Of several stops with one id the first counts. -/
def ofItems (sheet : String) (hasGrid : Bool) (g : Grid) (regions : List Region)
    (items : List Item) : List Anchor :=
  let candidates := items.flatMap fun i =>
    (Stop.ofItem g regions i).map (Candidate.ofStop sheet hasGrid i)
  (sortBy Candidate.compare (distinctBy (·.anchor.id) candidates)).map (·.anchor)

end Anchor

namespace Item

def wanted (i : Item) : List Link :=
  match i.locator with
  | none => [⟨Anchor.otherId i.id, none⟩]
  | some (.lines line run) => [⟨Anchor.lineId line i.changeType run, none⟩]
  | some (.region id) => [⟨Anchor.regionId id, none⟩]
  | some (.lineMove moveId ..) =>
    [⟨Anchor.moveId moveId .old, some "From"⟩, ⟨Anchor.moveId moveId .new, some "To"⟩]
  | some (.rectMove moveId ..) =>
    [⟨Anchor.regionId (Area.sourceId moveId), some "From"⟩,
      ⟨Anchor.regionId (Area.targetId moveId), some "To"⟩]

def links (anchors : List Anchor) (i : Item) : List Link :=
  i.wanted.filter fun l => anchors.any fun a => a.id = l.anchorId

end Item

end DiffView
