import DiffView.Proofs.Cluster
import Mathlib.Algebra.GroupWithZero.Nat
import Mathlib.Data.List.Nodup
import Mathlib.Data.List.Pairwise

namespace DiffView.Cluster

def box (c : Cluster) : Box := .ofSpans c.rows c.cols

theorem Piece.mem_places {q : Piece} (hq : q.2.first ≤ q.2.last) {p : Place} :
    p ∈ q.places ↔ p.row = q.1 ∧ q.2.first ≤ p.col ∧ p.col ≤ q.2.last := by
  obtain ⟨row, run⟩ := q
  obtain ⟨r, c⟩ := p
  simp only [Piece.places, List.mem_map, Span.mem_members hq, Place.mk.injEq]
  constructor
  · rintro ⟨col, hcol, rfl, rfl⟩
    exact ⟨rfl, hcol⟩
  · rintro ⟨rfl, hcol⟩
    exact ⟨c, hcol, rfl, rfl⟩

@[simp] theorem Piece.length_places (q : Piece) : q.places.length = q.2.size := by
  rw [Piece.places, List.length_map, Span.length_members]

theorem Piece.bounds {row : Nat} {run : Span} (h : run.first ≤ run.last) :
    (Box.ofSpans (.point row) run).Bounds {p | p ∈ Piece.places (row, run)} := by
  have hmem (p : Place) : p ∈ Piece.places (row, run) ↔ _ := Piece.mem_places (q := (row, run)) h
  have hfirst := (hmem ⟨row, run.first⟩).mpr ⟨rfl, Nat.le_refl _, h⟩
  have hlast := (hmem ⟨row, run.last⟩).mpr ⟨rfl, h, Nat.le_refl _⟩
  refine ⟨⟨⟨_, hfirst, rfl⟩, ?_⟩, ⟨⟨_, hfirst, rfl⟩, ?_⟩, ⟨⟨_, hfirst, rfl⟩, ?_⟩,
    ⟨⟨_, hlast, rfl⟩, ?_⟩⟩
  · rintro _ ⟨p, hp, rfl⟩
    exact Nat.le_of_eq ((hmem p).mp hp).1.symm
  · rintro _ ⟨p, hp, rfl⟩
    exact ((hmem p).mp hp).2.1
  · rintro _ ⟨p, hp, rfl⟩
    exact Nat.le_of_eq ((hmem p).mp hp).1
  · rintro _ ⟨p, hp, rfl⟩
    exact ((hmem p).mp hp).2.2

def placesOf (pieces : List Piece) : List Place := pieces.flatMap Piece.places

variable {budget gap : Nat} {c : Cluster} {pieces : List Piece}

theorem Made.cells_eq (h : Made budget gap c pieces) : c.cells = (placesOf pieces).length := by
  induction h with
  | start row run => simp [Cluster.start, placesOf]
  | grow row run _ _ _ ih =>
      simp only [Cluster.grow, placesOf, List.flatMap_cons, List.length_append,
        Piece.length_places] at ih ⊢
      omega

theorem Made.first_le_last (h : Made budget gap c pieces) : c.rows.first ≤ c.rows.last := by
  induction h with
  | start row run => exact Nat.le_refl row
  | grow row run _ near _ ih =>
      simp only [touches, Bool.and_eq_true, decide_eq_true_eq] at near
      exact ih.trans (near.1.1 ▸ Nat.le_succ _)

theorem Made.bounds (h : Made budget gap c pieces) (hruns : ∀ q ∈ pieces, q.2.first ≤ q.2.last) :
    c.box.Bounds {p | p ∈ placesOf pieces} := by
  induction h with
  | start row run =>
      have hrun := hruns (row, run) (List.mem_singleton_self _)
      simpa [placesOf, box, Cluster.start] using Piece.bounds hrun
  | @grow c pieces row run made near _ ih =>
      have hrun := hruns (row, run) List.mem_cons_self
      have hc := ih fun q hq => hruns q (List.mem_cons_of_mem _ hq)
      have hrows := made.first_le_last
      simp only [touches, Bool.and_eq_true, decide_eq_true_eq] at near
      have hbox : (c.grow row run).box = c.box.join (.ofSpans (.point row) run) := by
        simp only [box, Cluster.grow, Box.ofSpans, Box.join, Span.join, Span.point, Box.mk.injEq,
          and_true, true_and]
        omega
      have hplaces : {p | p ∈ placesOf ((row, run) :: pieces)} =
          {p | p ∈ placesOf pieces} ∪ {p | p ∈ Piece.places (row, run)} := by
        ext p
        simp [placesOf, or_comm]
      rw [hbox, hplaces]
      exact hc.join (Piece.bounds hrun)

/-- No row of a cluster is without places. -/
theorem Made.exists_in_row (h : Made budget gap c pieces)
    (hruns : ∀ q ∈ pieces, q.2.first ≤ q.2.last) {row : Nat} (hfirst : c.rows.first ≤ row)
    (hlast : row ≤ c.rows.last) : ∃ p ∈ placesOf pieces, p.row = row := by
  induction h with
  | start r run =>
      have hrun := hruns (r, run) (List.mem_singleton_self _)
      have hr : row = r := Nat.le_antisymm hlast hfirst
      refine ⟨⟨row, run.first⟩, ?_, rfl⟩
      simp [placesOf, Piece.mem_places, hrun, hr]
  | @grow c pieces r run made near _ ih =>
      have hrun := hruns (r, run) List.mem_cons_self
      simp only [touches, Bool.and_eq_true, decide_eq_true_eq] at near
      change row ≤ r at hlast
      -- The rows above the new one are those of the cluster before it grew: its last row touches.
      by_cases hr : row = r
      · refine ⟨⟨row, run.first⟩, ?_, rfl⟩
        simp [placesOf, Piece.mem_places, hrun, hr]
      · obtain ⟨p, hp, hrow⟩ :=
          ih (fun q hq => hruns q (List.mem_cons_of_mem _ hq)) hfirst (by omega)
        exact ⟨p, List.mem_append_right _ hp, hrow⟩

theorem first_le_last_of_mem_allPieces {places : List Place} {q : Piece}
    (hq : q ∈ allPieces budget places) : q.2.first ≤ q.2.last := by
  obtain ⟨strip, hstrip, hq⟩ := List.mem_flatMap.mp hq
  obtain ⟨row, -, rfl⟩ := List.mem_map.mp hstrip
  obtain ⟨piece, hpiece, rfl⟩ := List.mem_map.mp hq
  obtain ⟨run, hrun, hpiece⟩ := List.mem_flatMap.mp hpiece
  exact Span.first_le_last_of_mem_pieces (Span.first_le_last_of_mem_runs hrun) hpiece

def colsIn (places : List Place) (row : Nat) : List Nat :=
  ascending ((places.filter (·.row = row)).map (·.col))

theorem members_pieces_runs (budget : Nat) (cols : List Nat) :
    ((Span.runs cols).flatMap (Span.pieces budget)).flatMap Span.members = cols := by
  rw [List.flatMap_assoc]
  have h : (Span.runs cols).flatMap (fun s => (s.pieces budget).flatMap Span.members) =
      (Span.runs cols).flatMap Span.members :=
    List.flatMap_congr fun s hs => Span.members_pieces budget (Span.first_le_last_of_mem_runs hs)
  rw [h, Span.members_runs]

theorem placesOf_stripPieces (row : Nat) (runs : List Span) :
    placesOf (stripPieces (row, runs)) = (runs.flatMap Span.members).map (Place.mk row) := by
  simp only [placesOf, stripPieces, Piece.places, List.flatMap_map, List.map_flatMap]

theorem placesOf_allPieces (budget : Nat) (places : List Place) :
    placesOf (allPieces budget places) =
      (ascending (places.map (·.row))).flatMap fun row =>
        (colsIn places row).map (Place.mk row) := by
  have h (row : Nat) : placesOf (stripPieces
      (row, (Span.runs (colsIn places row)).flatMap (Span.pieces budget))) =
        (colsIn places row).map (Place.mk row) := by
    rw [placesOf_stripPieces, members_pieces_runs]
  simp only [placesOf, allPieces, strips, List.flatMap_assoc, List.flatMap_map]
  exact List.flatMap_congr fun row _ => h row

@[simp] theorem mem_placesOf_allPieces (budget : Nat) {places : List Place} {p : Place} :
    p ∈ placesOf (allPieces budget places) ↔ p ∈ places := by
  obtain ⟨row, col⟩ := p
  simp only [placesOf_allPieces, colsIn, List.mem_flatMap, List.mem_map, mem_ascending,
    List.mem_filter, decide_eq_true_eq, Place.mk.injEq]
  constructor
  · rintro ⟨r, -, c, ⟨⟨r', c'⟩, ⟨hp, hr⟩, hc⟩, rfl, rfl⟩
    simp_all
  · intro hp
    exact ⟨row, ⟨_, hp, rfl⟩, col, ⟨_, ⟨hp, rfl⟩, rfl⟩, rfl, rfl⟩

theorem nodup_placesOf_allPieces (budget : Nat) (places : List Place) :
    (placesOf (allPieces budget places)).Nodup := by
  rw [placesOf_allPieces, List.nodup_flatMap]
  constructor
  · intro row _
    exact (ascending_nodup _).map fun c d h => (Place.mk.inj h).2
  · apply (ascending_nodup _).imp
    intro row row' hne p hp hp'
    obtain ⟨c, -, rfl⟩ := List.mem_map.mp hp
    obtain ⟨d, -, hd⟩ := List.mem_map.mp hp'
    exact hne (Place.mk.inj hd).1.symm

theorem placesOf_allPieces_perm (budget : Nat) (places : List Place) :
    (placesOf (allPieces budget places)).Perm (ascending places) := by
  refine (List.perm_ext_iff_of_nodup (nodup_placesOf_allPieces budget places)
    (ascending_nodup places)).mpr ?_
  intro p
  rw [mem_placesOf_allPieces, mem_ascending]

theorem placesOf_flatten (parts : List (List Piece)) :
    placesOf parts.flatten = (parts.map placesOf).flatten := by
  simp only [placesOf, List.flatMap_def, List.map_flatten, List.flatten_flatten, List.map_map]
  rfl

theorem Divide.sum_cells {clusters : List Cluster} (h : Divide budget gap clusters pieces) :
    (clusters.map (·.cells)).sum = (placesOf pieces).length := by
  obtain ⟨parts, hmade, hparts⟩ := h
  have hplaces : (placesOf parts.flatten).Perm (placesOf pieces) := hparts.flatMap_right _
  rw [← hplaces.length_eq]
  clear hparts hplaces
  induction hmade with
  | nil => rfl
  | cons hc _ ih =>
      rw [List.map_cons, List.sum_cons, ih, hc.cells_eq, List.flatten_cons, placesOf, placesOf,
        placesOf, List.flatMap_append, List.length_append]

theorem sum_cells_ofPlaces (budget gap : Nat) (places : List Place) :
    ((ofPlaces budget gap places).map (·.cells)).sum = (ascending places).length :=
  (divide_ofPlaces budget gap places).sum_cells.trans
    (placesOf_allPieces_perm budget places).length_eq

end DiffView.Cluster
