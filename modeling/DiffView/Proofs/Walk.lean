import DiffView.Proofs.EditsReached
import DiffView.Proofs.Moves

namespace DiffView

namespace Target

def place? : Target → Option Place
  | grid place _ _ => some place
  | list _ => none

def regionId? : Target → Option String
  | grid _ regionId _ => regionId
  | list _ => none

end Target

namespace Anchor

/-- Of the changes at one cell, moves come first, then whole rows and columns, then replaced
rectangles, then edits. -/
def priority (regions : List Region) (a : Anchor) : Nat :=
  match a.group with
  | .moves => 0
  | .rows => 1
  | .cols => 1
  | .cells => if ∃ r ∈ regions, r.kind = .rect ∧ a.target.regionId? = some r.id then 2 else 3
  | .other => 4

def key (regions : List Region) (p : Place) (a : Anchor) : ℕ ×ₗ ℕ ×ₗ ℕ ×ₗ String :=
  toLex (p.row, toLex (p.col, toLex (a.priority regions, a.id)))

/-- How one anchor comes before another one on a walk. -/
inductive Before (regions : List Region) (a b : Anchor) : Prop
  | inGrid {p q : Place} (ha : a.target.place? = some p) (hb : b.target.place? = some q)
      (h : a.key regions p < b.key regions q)
  | gridFirst {p : Place} (ha : a.target.place? = some p) (hb : b.target.place? = none)
  | inList (ha : a.target.place? = none) (hb : b.target.place? = none) (h : a.id < b.id)

end Anchor

theorem Region.rect_of_id_eq {o : Options} {g : Grid} {es : Edits} {ops : List Listed}
    {r s : Region} (hr : r ∈ ofOps o g es ops) (hs : s ∈ ofOps o g es ops) (h : r.id = s.id)
    (hkind : s.kind = .rect) : r.kind = .rect := by
  cases origin hs with
  | atEnd side hl hb hcover hid hkind' =>
      rw [hkind] at hkind'
      cases side <;> cases hkind'
  | plain hid hkind' =>
      cases origin hr with
      | atEnd side hl hb hcover hid' =>
          have hhead := h ▸ hid' ▸ Area.head?_endId _ side
          exact absurd hhead hid
      | plain hid' hends =>
          cases hcase : r.kind with
          | rect => rfl
          | moveSource => exact absurd hcase (hends .old)
          | moveTarget => exact absurd hcase (hends .new)
          | cells =>
              obtain rfl := eq_of_id_eq hr hcase hs h.symm
              cases hkind.symm.trans hcase

theorem Item.group_eq_other_iff {i : SheetInput} {regions : List Region} {item : Item}
    (h : item ∈ i.items regions) : item.group = .other ↔ item.locator = none := by
  rcases mem_items.mp h with h | h | h | h
  · rcases mem_ofLines.mp h with h | ⟨line, side, h⟩
    · obtain ⟨row, -, rfl⟩ := List.mem_map.mp h
      simp [ofReplacedRow]
    · obtain ⟨run, -, rfl⟩ := List.mem_map.mp h
      cases line <;> simp [ofRun, Line.group]
  · rcases mem_ofMoves.mp h with ⟨m, -, h⟩ | ⟨l, -, b, -, ⟨-, h⟩ | h⟩
    · obtain ⟨line, -, rfl⟩ := Option.map_eq_some_iff.mp h
      simp [lineMove]
    · cases b <;> cases h <;> simp [lineMove]
    · cases b <;> cases h
      simp
  · obtain ⟨r, -, h⟩ := List.mem_filterMap.mp h
    rw [ofRegion?.eq_def] at h
    split at h <;> cases h <;> simp
  · obtain ⟨l, -, h⟩ := List.mem_filterMap.mp h
    obtain ⟨text, -, rfl⟩ := Option.map_eq_some_iff.mp h
    simp

namespace Candidate

theorem comparePlaces_eq (p q : Option Place) : comparePlaces p q =
    (Ord.compare p.isNone q.isNone).then (Ord.compare (p.getD ⟨0, 0⟩) (q.getD ⟨0, 0⟩)) := by
  cases p <;> cases q <;> rfl

instance : Std.TransCmp Candidate.compare := by
  have h : Candidate.compare = compareLex
      (compareLex (compareOn fun c => c.place.isNone) (compareOn fun c => c.place.getD ⟨0, 0⟩))
      (compareLex (compareOn fun c => c.rank) (compareOn fun c => c.anchor.id)) := by
    funext a b
    rw [Candidate.compare, comparePlaces_eq]
    rfl
  rw [h]
  infer_instance

/-- Where there is a grid, a candidate is ordered by what its anchor shows. -/
structure Ordered (regions : List Region) (c : Candidate) : Prop where
  place : c.anchor.target.place? = c.place
  rank : c.rank = c.anchor.priority regions
  other : c.place = none → c.anchor.group = .other

variable {regions : List Region} {a b : Candidate}

theorem Ordered.before (ha : a.Ordered regions) (hb : b.Ordered regions)
    (h : Candidate.compare a b = .lt) : a.anchor.Before regions b.anchor := by
  rw [Candidate.compare, Ordering.then_eq_lt] at h
  cases hp : a.place with
  | none =>
      cases hq : b.place with
      | some q => simp [hp, hq, comparePlaces] at h
      | none =>
          have hranks : a.rank = b.rank := by
            rw [ha.rank, hb.rank, Anchor.priority, Anchor.priority, ha.other hp, hb.other hq]
          refine .inList (ha.place.trans hp) (hb.place.trans hq) ?_
          simpa [hp, hq, comparePlaces, hranks, Ordering.then_eq_lt, compare_lt_iff_lt] using h
  | some p =>
      cases hq : b.place with
      | none => exact .gridFirst (ha.place.trans hp) (hb.place.trans hq)
      | some q =>
          refine .inGrid (ha.place.trans hp) (hb.place.trans hq) ?_
          rw [hp, hq, ha.rank, hb.rank] at h
          simp only [comparePlaces, Place.compare_eq, Ordering.then_eq_lt, Ordering.then_eq_eq,
            compare_lt_iff_lt, compare_eq_iff_eq] at h
          simp only [Anchor.key, Prod.Lex.toLex_lt_toLex]
          tauto

end Candidate

namespace SheetView

variable {o : Options} {i : SheetInput} {item : Item} {s : Stop} {c : Candidate}

theorem isRect_iff (hs : Stop.Of i.grid (ofInput o i).regions item s) {target : Target}
    (h : target.regionId? = s.region.map fun r => r.id) : s.isRect ↔
      ∃ r ∈ (ofInput o i).regions, r.kind = .rect ∧ target.regionId? = some r.id := by
  rw [Stop.isRect, h]
  cases hs with
  | listed | lines | lineMove => simp
  | region detail hfind =>
      simp only [Option.any_some, decide_eq_true_eq, Option.map_some, Option.some.injEq]
      have hmem := (Region.mem_of_find? hfind).1
      constructor
      · exact fun hkind => ⟨_, hmem, hkind, rfl⟩
      · rintro ⟨r, hr, hkind, hid⟩
        exact Region.rect_of_id_eq hmem hr hid hkind

theorem target_ofStop (hshown : (ofInput o i).status.isShown) (item : Item) (s : Stop) :
    (Candidate.ofStop i.name (ofInput o i).hasGrid item s).anchor.target =
      s.place.elim (.list (elementId i.name item.id))
        fun place => .grid place (s.region.map fun r => r.id) s.moveId := by
  cases hplace : s.place with
  | none => simp only [Candidate.ofStop, hplace, Option.elim_none]
  | some place => exact Candidate.target_ofStop (hasGrid_of_isShown hshown) hplace

theorem stop_of_other (hitem : item ∈ (ofInput o i).items) (hgroup : item.group = .other)
    (hs : s ∈ Stop.ofItem i.grid (ofInput o i).regions item) : s.region = none := by
  have hlocator : item.locator = none := (Item.group_eq_other_iff hitem).mp hgroup
  rw [Stop.ofItem.eq_def, hlocator] at hs
  rw [List.mem_singleton.mp hs]

theorem rank_eq_priority (hitem : item ∈ (ofInput o i).items)
    (hs : s ∈ Stop.ofItem i.grid (ofInput o i).regions item) {a : Anchor}
    (hgroup : a.group = item.group)
    (hregion : a.target.regionId? = s.region.map fun r => r.id) :
    s.rank item.group = a.priority (ofInput o i).regions := by
  rw [Anchor.priority, hgroup]
  cases hcase : item.group with
  | moves | rows | cols => rfl
  | cells => exact if_congr (isRect_iff (Stop.of_mem_ofItem hs) hregion) rfl rfl
  | other => simp [Stop.rank, Stop.isRect, stop_of_other hitem hcase hs]

theorem ordered_ofStop (hshown : (ofInput o i).status.isShown)
    (hitem : item ∈ (ofInput o i).items)
    (hs : s ∈ Stop.ofItem i.grid (ofInput o i).regions item) :
    (Candidate.ofStop i.name (ofInput o i).hasGrid item s).Ordered (ofInput o i).regions := by
  have htarget := target_ofStop hshown item s
  have hof := Stop.of_mem_ofItem hs
  refine ⟨?_, rank_eq_priority hitem hs rfl ?_, ?_⟩
  · rw [htarget]
    cases hplace : s.place <;> simp [Candidate.ofStop, hplace, Target.place?]
  · rw [htarget]
    cases hof <;> rfl
  · intro hplace
    cases hof with
    | listed h => exact (Item.group_eq_other_iff hitem).mpr h
    | lines | region | lineMove => cases hplace

def candidates (o : Options) (i : SheetInput) : List Candidate :=
  sortBy Candidate.compare (distinctBy (·.anchor.id) ((ofInput o i).items.flatMap fun item =>
    (Stop.ofItem i.grid (ofInput o i).regions item).map
      (Candidate.ofStop i.name (ofInput o i).hasGrid item)))

theorem map_anchor_candidates (o : Options) (i : SheetInput) :
    (candidates o i).map (·.anchor) = (ofInput o i).anchors := rfl

theorem candidates_ids_nodup (o : Options) (i : SheetInput) :
    ((candidates o i).map (·.anchor.id)).Nodup :=
  ((sortBy_perm _ _).map _).nodup_iff.mpr (distinctBy_keys_nodup _ _)

theorem anchor_ids_nodup (o : Options) (i : SheetInput) :
    ((ofInput o i).anchors.map (·.id)).Nodup := by
  rw [← map_anchor_candidates, List.map_map]
  exact candidates_ids_nodup o i

theorem ordered_of_mem_candidates (hshown : (ofInput o i).status.isShown)
    (hc : c ∈ candidates o i) : c.Ordered (ofInput o i).regions := by
  have hmem := (distinctBy_sublist _ _).mem ((sortBy_perm Candidate.compare _).mem_iff.mp hc)
  obtain ⟨item, hitem, hc⟩ := List.mem_flatMap.mp hmem
  obtain ⟨s, hs, rfl⟩ := List.mem_map.mp hc
  exact ordered_ofStop hshown hitem hs

theorem candidates_pairwise_lt (o : Options) (i : SheetInput) :
    (candidates o i).Pairwise fun a b => Candidate.compare a b = .lt := by
  refine sortBy_pairwise_lt ?_ (distinctBy_keys_nodup (fun c : Candidate => c.anchor.id) _)
  intro a b hcompare
  rw [Candidate.compare, Ordering.then_eq_eq, Ordering.then_eq_eq] at hcompare
  exact Std.LawfulEqOrd.eq_of_compare hcompare.2.2

theorem anchors_pairwise_before (hshown : (ofInput o i).status.isShown) :
    (ofInput o i).anchors.Pairwise (Anchor.Before (ofInput o i).regions) := by
  rw [← map_anchor_candidates, List.pairwise_map]
  apply (candidates_pairwise_lt o i).imp_of_mem
  intro a b ha hb hlt
  exact (ordered_of_mem_candidates hshown ha).before (ordered_of_mem_candidates hshown hb) hlt

theorem listed_iff (hshown : (ofInput o i).status.isShown) {a : Anchor}
    (ha : a ∈ (ofInput o i).anchors) : a.target.place? = none ↔
      ∃ item ∈ (ofInput o i).items, item.locator = none ∧ a.id = Anchor.otherId item.id := by
  obtain ⟨item, hitem, s, hs, rfl⟩ := Anchor.exists_mem_ofItem ha
  have hof := Stop.of_mem_ofItem hs
  change (Candidate.ofStop i.name (ofInput o i).hasGrid item s).anchor.target.place? = none ↔ _
  rw [target_ofStop hshown]
  constructor
  · intro hplace
    cases hof with
    | listed h => exact ⟨item, hitem, h, rfl⟩
    | lines | region | lineMove => cases hplace
  · rintro ⟨item', -, -, hid⟩
    cases hof with
    | listed => rfl
    | lines => exact absurd hid.symm (Anchor.otherId_ne_lineId _ _ _ _)
    | region detail h => exact absurd hid.symm (Anchor.otherId_ne_regionId _ _)
    | lineMove side => exact absurd hid.symm (Anchor.otherId_ne_moveId _ _ _)

end SheetView

/-- No two anchors of a sheet have one id. Where the grid is shown, a walk goes through the anchors
in the grid by row, column, priority and id, and then through the others by id. These are the
anchors of the items without a place, each of which has one. -/
theorem walk_in_order (o : Options) (i : SheetInput) :
    let v := SheetView.ofInput o i
    (v.anchors.map (·.id)).Nodup ∧
      (v.status.isShown →
        v.anchors.Pairwise (Anchor.Before v.regions) ∧
        (∀ a ∈ v.anchors, a.target.place? = none ↔
          ∃ item ∈ v.items, item.locator = none ∧ a.id = Anchor.otherId item.id) ∧
        ∀ item ∈ v.items, item.locator = none →
          ∃ a ∈ v.anchors, a.id = Anchor.otherId item.id) := by
  intro v
  refine ⟨SheetView.anchor_ids_nodup o i, ?_⟩
  intro hshown
  refine ⟨SheetView.anchors_pairwise_before hshown, fun a ha => SheetView.listed_iff hshown ha, ?_⟩
  intro item hitem hlocator
  have hstop : Stop.mk (Anchor.otherId item.id) item.detail none none none ∈
      Stop.ofItem i.grid v.regions item := by
    rw [Stop.ofItem.eq_def, hlocator]
    exact List.mem_singleton_self _
  exact SheetView.exists_anchor_of_stop hitem hstop

end DiffView
