import DiffView.Proofs.ClusterPlaces
import DiffView.Proofs.Lists
import DiffView.Sheet.View
import Mathlib.Data.Finset.Card

namespace DiffView

def Area.ofPlaces (budget gap : Nat) (places : List Place) : List Area :=
  (Cluster.ofPlaces budget gap places).mapIdx fun n c => Area.ofCluster c n

/-- A region stands for some places: its box is the smallest one around them, it counts them, and
none of its rows is without any. -/
structure Area.Covers (a : Area) (part : Finset Place) : Prop where
  bounds : a.box.Bounds part
  count : a.cellCount = part.card
  rows : ∀ row, a.box.top ≤ row → row ≤ a.box.bottom → ∃ p ∈ part, p.row = row

/-- No two of the parts have a place in common, and all of them together are the given places. -/
structure IsPartition (parts : List (Finset Place)) (places : List Place) : Prop where
  disjoint : parts.Pairwise Disjoint
  mem_iff : ∀ p, p ∈ places ↔ ∃ part ∈ parts, p ∈ part

namespace Cluster

variable {budget gap : Nat}

theorem Made.covers {c : Cluster} {pieces : List Piece} (h : Made budget gap c pieces)
    (hruns : ∀ q ∈ pieces, q.2.first ≤ q.2.last) (hnodup : (placesOf pieces).Nodup) (n : Nat) :
    (Area.ofCluster c n).Covers (placesOf pieces).toFinset where
  bounds := by
    rw [List.coe_toFinset]
    exact h.bounds hruns
  count := by
    rw [List.toFinset_card_of_nodup hnodup]
    exact h.cells_eq
  rows row hfirst hlast := by
    obtain ⟨p, hp, hrow⟩ := h.exists_in_row hruns hfirst hlast
    exact ⟨p, List.mem_toFinset.mpr hp, hrow⟩

section Parts

variable {places : List Place} {parts : List (List Piece)}
  (hmade : List.Forall₂ (Made budget gap) (ofPlaces budget gap places) parts)
  (hparts : parts.flatten.Perm (allPieces budget places))
include hparts

theorem placesOf_parts_perm :
    (parts.map placesOf).flatten.Perm (placesOf (allPieces budget places)) :=
  placesOf_flatten parts ▸ hparts.flatMap_right _

theorem nodup_placesOf_parts : (parts.map placesOf).flatten.Nodup :=
  (placesOf_parts_perm hparts).nodup_iff.mpr (nodup_placesOf_allPieces budget places)

theorem isPartition_parts :
    IsPartition (parts.map fun part => (placesOf part).toFinset) places where
  disjoint := by
    have hdisjoint := (List.nodup_flatten.mp (nodup_placesOf_parts hparts)).2
    rw [List.pairwise_map] at hdisjoint ⊢
    apply hdisjoint.imp
    intro part part' h
    rwa [List.disjoint_toFinset_iff_disjoint]
  mem_iff p := by
    rw [← mem_placesOf_allPieces budget, ← (placesOf_parts_perm hparts).mem_iff]
    simp only [List.mem_flatten, List.mem_map, exists_exists_and_eq_and, List.mem_toFinset]

theorem first_le_last_of_mem_parts {part : List Piece} (hpart : part ∈ parts) {q : Piece}
    (hq : q ∈ part) : q.2.first ≤ q.2.last :=
  first_le_last_of_mem_allPieces (hparts.mem_iff.mp (List.mem_flatten.mpr ⟨part, hpart, hq⟩))

include hmade

theorem covers_parts : List.Forall₂ Area.Covers (Area.ofPlaces budget gap places)
    (parts.map fun part => (placesOf part).toFinset) := by
  rw [List.forall₂_map_right_iff]
  refine forall₂_mapIdx hmade _ ?_
  intro n c part hpart hc
  exact hc.covers (fun q hq => first_le_last_of_mem_parts hparts hpart hq)
    ((List.nodup_flatten.mp (nodup_placesOf_parts hparts)).1 _ (List.mem_map_of_mem hpart)) n

end Parts

end Cluster

theorem Area.ofPlaces_covers (budget gap : Nat) (places : List Place) :
    ∃ parts : List (Finset Place),
      List.Forall₂ Area.Covers (Area.ofPlaces budget gap places) parts ∧
        IsPartition parts places := by
  obtain ⟨parts, hmade, hparts⟩ := Cluster.divide_ofPlaces budget gap places
  exact ⟨_, Cluster.covers_parts hmade hparts, Cluster.isPartition_parts hparts⟩

theorem Area.sum_cellCount_ofPlaces (budget gap : Nat) (places : List Place) :
    ((Area.ofPlaces budget gap places).map (·.cellCount)).sum = (ascending places).length := by
  have h : (Area.ofPlaces budget gap places).map (·.cellCount) =
      (Cluster.ofPlaces budget gap places).map (·.cells) := by
    apply List.ext_getElem?
    intro n
    simp only [Area.ofPlaces, List.getElem?_map, List.getElem?_mapIdx, Option.map_map]
    rfl
  rw [h, Cluster.sum_cells_ofPlaces]

namespace Edits

theorem get?_isSome_iff {es : Edits} {p : Place} : (es.get? p).isSome ↔ p ∈ es.places := by
  simp [get?, places]

end Edits

theorem Area.kind_ne_cells_of_mem_ofOp {g : Grid} {op : Op} {a : Area} (ha : a ∈ Area.ofOp g op) :
    a.kind ≠ .cells := by
  rw [Area.ofOp] at ha
  split at ha
  · obtain ⟨b, -, rfl⟩ := Option.map_eq_some_iff.mp (Option.mem_toList.mp ha)
    simp
  · rcases List.mem_append.mp ha with ha | ha
    · obtain ⟨b, -, rfl⟩ := Option.map_eq_some_iff.mp (Option.mem_toList.mp ha)
      simp
    · obtain ⟨b, -, rfl⟩ := Option.map_eq_some_iff.mp (Option.mem_toList.mp ha)
      simp
  · cases ha

theorem Area.kind_of_mem_clusters {o : Options} {es : Edits} {a : Area}
    (ha : a ∈ Area.clusters o es) : a.kind = .cells := by
  obtain ⟨n, hn, rfl⟩ := List.mem_mapIdx.mp ha
  rfl

theorem Region.filter_cells_perm (o : Options) (g : Grid) (es : Edits) (ops : List Listed) :
    ((Region.ofOps o g es ops).filter fun r => r.kind = .cells).Perm
      ((Area.clusters o es).map (Region.ofArea o g)) := by
  rw [Region.ofOps, List.filter_map]
  refine List.Perm.map _ ?_
  apply ((sortBy_perm Area.compare _).filter _).trans
  rw [List.filter_append]
  have hcells : (Area.clusters o es).filter
      ((fun r : Region => r.kind = .cells) ∘ Region.ofArea o g)
      = Area.clusters o es := by
    apply List.filter_eq_self.mpr
    intro a ha
    exact decide_eq_true (Area.kind_of_mem_clusters ha)
  have hblocks : (ops.flatMap fun l => Area.ofOp g l.op).filter
      ((fun r : Region => r.kind = .cells) ∘ Region.ofArea o g) = [] := by
    apply List.filter_eq_nil_iff.mpr
    intro a ha
    obtain ⟨l, -, ha⟩ := List.mem_flatMap.mp ha
    exact fun h => Area.kind_ne_cells_of_mem_ofOp ha (of_decide_eq_true h)
  rw [hcells, hblocks, List.append_nil]

namespace SheetView

theorem cellRegions_perm (o : Options) (i : SheetInput) :
    ((ofInput o i).regions.filter fun r => r.kind = .cells).Perm
      ((Area.clusters o (ofInput o i).edits).map (Region.ofArea o i.grid)) :=
  Region.filter_cells_perm o i.grid (i.sheet o).edits i.ops

theorem exists_cellRegion (o : Options) (i : SheetInput) {p : Place}
    (hp : p ∈ (ofInput o i).edits.places) :
    ∃ r ∈ (ofInput o i).regions, r.kind = .cells ∧ p ∈ r.box := by
  obtain ⟨parts, hcovers, hparts⟩ :=
    Area.ofPlaces_covers o.maxCellsPerRegion o.mergeGap (ofInput o i).edits.places
  obtain ⟨part, hpart, hp⟩ := (hparts.mem_iff p).mp hp
  obtain ⟨a, ha, hcover⟩ := exists_of_forall₂_of_mem hcovers hpart
  have hr := (cellRegions_perm o i).mem_iff.mpr (List.mem_map_of_mem ha)
  obtain ⟨hr, hkind⟩ := List.mem_filter.mp hr
  exact ⟨_, hr, of_decide_eq_true hkind, hcover.bounds.mem hp⟩

theorem sum_cellCount (o : Options) (i : SheetInput) :
    (((ofInput o i).regions.filter fun r => r.kind = .cells).map (·.cellCount)).sum =
      (ofInput o i).edits.size := by
  rw [((cellRegions_perm o i).map _).sum_nat, List.map_map]
  have hsum := Area.sum_cellCount_ofPlaces o.maxCellsPerRegion o.mergeGap
    (ofInput o i).edits.places
  exact hsum.trans (ascending_perm (ascending_nodup _)).length_eq

end SheetView

/-- The regions of edited cells divide the edited places up among them, whatever the places and the
limits are. So in a sheet, they show every edit, and they count each of them once. -/
theorem cellRegions_partition_edits :
    (∀ (budget gap : Nat) (places : List Place), ∃ parts : List (Finset Place),
      List.Forall₂ Area.Covers (Area.ofPlaces budget gap places) parts ∧
        IsPartition parts places) ∧
    ∀ (o : Options) (i : SheetInput),
      (∀ p, ((SheetView.ofInput o i).edits.get? p).isSome →
        ∃ r ∈ (SheetView.ofInput o i).regions, r.kind = .cells ∧ p ∈ r.box) ∧
      (((SheetView.ofInput o i).regions.filter fun r => r.kind = .cells).map (·.cellCount)).sum =
        (SheetView.ofInput o i).edits.size := by
  refine ⟨Area.ofPlaces_covers, ?_⟩
  intro o i
  refine ⟨?_, SheetView.sum_cellCount o i⟩
  intro p hp
  exact SheetView.exists_cellRegion o i (Edits.get?_isSome_iff.mp hp)

end DiffView
