import DiffView.Proofs.CellRegions
import DiffView.Proofs.Covers
import DiffView.Proofs.Edits

namespace DiffView

/-- A part of one of the sheets: some of its rows and some of its columns, or else all of them. -/
structure Part where
  side : Side
  rows : Option Stretch
  cols : Option Stretch
  deriving DecidableEq, Repr

namespace Part

def ofLines (line : Line) (side : Side) (s : Stretch) : Part :=
  match line with
  | .row => ⟨side, some s, none⟩
  | .col => ⟨side, none, some s⟩

def on? (p : Part) : Line → Option Stretch
  | .row => p.rows
  | .col => p.cols

end Part

def Block.part (b : Block) (side : Side) : Part := ⟨side, b.rowsOn? side, b.colsOn? side⟩

def GridChange.parts : GridChange → List Part
  | .cellEdited addr .. =>
    addr.indices?.toList.map fun (row, col) => ⟨.new, some ⟨row, 1⟩, some ⟨col, 1⟩⟩
  | .lineAdded line i => [.ofLines line .new ⟨i, 1⟩]
  | .lineRemoved line i => [.ofLines line .old ⟨i, 1⟩]
  | .rowReplaced row => [.ofLines .row .new ⟨row, 1⟩]
  | .moved block _ => [block.part .old, block.part .new]
  | .rectReplaced row rows col cols => [⟨.new, some ⟨row, rows⟩, some ⟨col, cols⟩⟩]
  | _ => []

def Op.parts (op : Op) : List Part := op.gridChange?.elim [] GridChange.parts

def MoveRecord.parts (m : MoveRecord) : List Part :=
  (Line.ofWord? m.axis).elim [] fun line =>
    [.ofLines line .old ⟨m.src, m.count⟩, .ofLines line .new ⟨m.dst, m.count⟩]

def Place.on (p : Place) : Line → Nat
  | .row => p.row
  | .col => p.col

def Box.Upright (b : Box) : Prop := b.top ≤ b.bottom ∧ b.left ≤ b.right

namespace Grid

variable {g : Grid} {side : Side}

/-- An index of the view at which something of a part can begin: the first one, or the place of one
of its lines. -/
def Begins (g : Grid) (p : Part) (line : Line) (i : Nat) : Prop :=
  i = 0 ∨ ∃ s, p.on? line = some s ∧ ∃ n ∈ s.lines, i = (g.axis line).viewOrSame p.side n

theorem full?_eq_some {a : Axis} {run : Span} (h : a.full? = some run) :
    run.first = 0 ∧ run.first ≤ run.last := by
  rw [Axis.full?] at h
  split at h
  · cases h
  · cases h
    exact ⟨rfl, Nat.zero_le _⟩

theorem begins_of_cover? {p : Part} (line : Line) {run : Span}
    (h : (p.on? line).elim (g.axis line).full? ((g.axis line).cover? p.side) = some run) :
    run.first ≤ run.last ∧ g.Begins p line run.first := by
  cases hs : p.on? line with
  | none =>
      rw [hs, Option.elim_none] at h
      exact ⟨(full?_eq_some h).2, .inl (full?_eq_some h).1⟩
  | some s =>
      rw [hs, Option.elim_some] at h
      have hbounds := Axis.cover?_bounds h
      obtain ⟨n, hn, hfirst⟩ := hbounds.first.1
      exact ⟨hbounds.first_le_last, .inr ⟨s, hs, n, hn, hfirst.symm⟩⟩

theorem cover?_part {p : Part} {b : Box} (h : g.cover? p.side p.rows p.cols = some b) :
    b.Upright ∧ ∀ line, g.Begins p line (b.corner.on line) := by
  obtain ⟨rows, hrows, h⟩ := Option.bind_eq_some_iff.mp h
  obtain ⟨cols, hcols, h⟩ := Option.bind_eq_some_iff.mp h
  cases h
  obtain ⟨hrowsle, hrow⟩ := begins_of_cover? .row hrows
  obtain ⟨hcolsle, hcol⟩ := begins_of_cover? .col hcols
  refine ⟨⟨hrowsle, hcolsle⟩, ?_⟩
  intro line
  cases line with
  | row => exact hrow
  | col => exact hcol

theorem cover?_rect_isSome_iff {rows cols : Stretch} :
    (g.cover? side (some rows) (some cols)).isSome ↔ 0 < rows.count ∧ 0 < cols.count := by
  have hrows : (g.rows.cover? side rows).isSome ↔ rows.count ≠ 0 := Axis.cover?_isSome_iff
  have hcols : (g.cols.cover? side cols).isSome ↔ cols.count ≠ 0 := Axis.cover?_isSome_iff
  rw [Nat.pos_iff_ne_zero, Nat.pos_iff_ne_zero, ← hrows, ← hcols, cover?, Option.elim_some,
    Option.elim_some]
  cases g.rows.cover? side rows <;> cases g.cols.cover? side cols <;> simp

end Grid

theorem Area.mem_ofOp {g : Grid} {op : Op} {a : Area} (ha : a ∈ Area.ofOp g op) :
    ∃ p ∈ op.parts, g.cover? p.side p.rows p.cols = some a.box := by
  rw [Area.ofOp] at ha
  rw [Op.parts]
  cases hc : op.gridChange? with
  | none =>
      rw [hc] at ha
      cases ha
  | some c =>
      rw [hc] at ha
      rw [Option.elim_some]
      cases c with
      | rectReplaced row rows col cols =>
          obtain ⟨b, hb, rfl⟩ := Option.map_eq_some_iff.mp (Option.mem_toList.mp ha)
          exact ⟨_, List.mem_singleton_self _, hb⟩
      | moved block hash =>
          rcases List.mem_append.mp ha with ha | ha
          · obtain ⟨b, hb, rfl⟩ := Option.map_eq_some_iff.mp (Option.mem_toList.mp ha)
            exact ⟨block.part .old, List.mem_cons_self, hb⟩
          · obtain ⟨b, hb, rfl⟩ := Option.map_eq_some_iff.mp (Option.mem_toList.mp ha)
            exact ⟨block.part .new, List.mem_cons_of_mem _ List.mem_cons_self, hb⟩
      | _ => cases ha

theorem Box.Bounds.upright {b : Box} {s : Set Place} (h : b.Bounds s) : b.Upright :=
  ⟨h.top.2 h.bottom.1, h.left.2 h.right.1⟩

theorem Box.Bounds.exists_on {b : Box} {s : Set Place} (h : b.Bounds s) (line : Line) :
    ∃ p ∈ s, p.on line = b.corner.on line := by
  cases line with
  | row => exact h.top.1
  | col => exact h.left.1

theorem Area.exists_bounds_of_mem_clusters {o : Options} {es : Edits} {a : Area}
    (ha : a ∈ Area.clusters o es) :
    ∃ part : Set Place, a.box.Bounds part ∧ ∀ p ∈ part, p ∈ es.places := by
  obtain ⟨parts, hcovers, hparts⟩ :=
    Area.ofPlaces_covers o.maxCellsPerRegion o.mergeGap es.places
  obtain ⟨part, hpart, hcover⟩ := exists_of_forall₂_of_mem hcovers.flip ha
  exact ⟨part, hcover.bounds, fun p hp => (hparts.mem_iff p).mpr ⟨part, hpart, hp⟩⟩

theorem Edits.begins_of_mem_places {r : Report} {g : Grid} {ignoreBlank : Bool}
    {ops : List Listed} {p : Place} (hp : p ∈ (Edits.ofOps r g ignoreBlank ops).places)
    (line : Line) : ∃ l ∈ ops, ∃ part ∈ l.op.parts, g.Begins part line (p.on line) := by
  obtain ⟨l, hl, e, he⟩ := mem_places_ofOps.mp hp
  obtain ⟨addr, before, after, formula, hop, hplace, -⟩ := ofOp?_eq_some_iff.mp he
  obtain ⟨-, row, col, haddr, hrow, hcol⟩ := placeOf?_eq_some_iff.mp hplace
  refine ⟨l, hl, ⟨.new, some ⟨row, 1⟩, some ⟨col, 1⟩⟩, ?_, .inr ?_⟩
  · rw [Op.parts, hop, Option.elim_some, GridChange.parts, haddr]
    exact List.mem_singleton_self _
  · cases line with
    | row =>
        refine ⟨_, rfl, row, ?_, (Axis.viewOrSame_eq_of_place? hrow).symm⟩
        rw [Stretch.lines_one, Set.mem_singleton_iff]
    | col =>
        refine ⟨_, rfl, col, ?_, (Axis.viewOrSame_eq_of_place? hcol).symm⟩
        rw [Stretch.lines_one, Set.mem_singleton_iff]

theorem Status.not_isEmpty_of_isShown {alignment : Option Alignment} {g : Grid}
    {old new : Option Snapshot} (h : (Status.ofSheet alignment g old new).isShown) :
    g.isEmpty = false := by
  cases alignment with
  | none => cases h
  | some a =>
    simp only [Status.ofSheet] at h
    split at h
    · cases h
    · split at h
      · cases h
      · rename_i hcells
        simp only [Bool.or_eq_true, not_or] at hcells
        exact Bool.eq_false_iff.mpr hcells.1

theorem Grid.count_pos {g : Grid} (h : g.isEmpty = false) (line : Line) :
    0 < (g.axis line).count := by
  simp only [Grid.isEmpty, Axis.isEmpty, Bool.or_eq_false_iff, List.isEmpty_eq_false_iff] at h
  cases line with
  | row => exact List.length_pos_iff.mpr h.1
  | col => exact List.length_pos_iff.mpr h.2

@[simp] theorem Region.mem_ofOps {o : Options} {g : Grid} {es : Edits} {ops : List Listed}
    {r : Region} :
    r ∈ Region.ofOps o g es ops ↔
      ∃ a, (a ∈ Area.clusters o es ∨ ∃ l ∈ ops, a ∈ Area.ofOp g l.op) ∧
        Region.ofArea o g a = r := by
  rw [Region.ofOps, List.mem_map]
  simp only [(sortBy_perm Area.compare _).mem_iff, List.mem_append, List.mem_flatMap]

namespace SheetInput

variable {i : SheetInput} {line : Line}

def parts (i : SheetInput) : List Part :=
  (i.ops.flatMap fun l => l.op.parts) ++ i.moveRecords.flatMap fun m => m.parts

/-- The changes of a sheet concern a line that has no place in the view, and that is not even beside
a line of the view. -/
def Astray (i : SheetInput) (line : Line) (n : Nat) : Prop :=
  (i.grid.axis line).count ≤ n ∧ ∃ p ∈ i.parts, ∃ s, p.on? line = some s ∧ n ∈ s.lines ∧
    (i.grid.axis line).viewOf? p.side n = none

theorem mem_parts_of_op {l : Listed} (hl : l ∈ i.ops) {p : Part} (hp : p ∈ l.op.parts) :
    p ∈ i.parts :=
  List.mem_append_left _ (List.mem_flatMap.mpr ⟨l, hl, hp⟩)

theorem lt_count_or_astray {p : Part} (hp : p ∈ i.parts) {n : Nat} (h : i.grid.Begins p line n)
    (hcount : 0 < (i.grid.axis line).count) :
    n < (i.grid.axis line).count ∨ i.Astray line n := by
  rcases Nat.lt_or_ge n (i.grid.axis line).count with hlt | hge
  · exact .inl hlt
  · rcases h with rfl | ⟨s, hs, m, hm, rfl⟩
    · exact .inl hcount
    · obtain ⟨hview, hsame⟩ := Axis.viewOf?_of_count_le hge
      rw [hsame] at hge ⊢
      exact .inr ⟨hge, p, hp, s, hs, hm, hview⟩

theorem region_begins {o : Options} {r : Region} (hr : r ∈ (SheetView.ofInput o i).regions) :
    r.box.Upright ∧ ∀ line, ∃ p ∈ i.parts, i.grid.Begins p line (r.box.corner.on line) := by
  obtain ⟨a, ha, rfl⟩ := Region.mem_ofOps.mp hr
  rcases ha with ha | ⟨l, hl, ha⟩
  · obtain ⟨part, hbounds, hpart⟩ := Area.exists_bounds_of_mem_clusters ha
    refine ⟨hbounds.upright, ?_⟩
    intro line
    obtain ⟨p, hp, hon⟩ := hbounds.exists_on line
    obtain ⟨l, hl, q, hq, hbegins⟩ := Edits.begins_of_mem_places (hpart p hp) line
    exact ⟨q, mem_parts_of_op hl hq, hon ▸ hbegins⟩
  · obtain ⟨p, hp, hcover⟩ := Area.mem_ofOp ha
    obtain ⟨hupright, hbegins⟩ := Grid.cover?_part hcover
    exact ⟨hupright, fun line => ⟨p, mem_parts_of_op hl hp, hbegins line⟩⟩

end SheetInput

end DiffView
