import DiffView.Proofs.CellRegions
import Mathlib.Algebra.Order.Floor.Div

namespace DiffView

namespace Cluster

variable {budget gap : Nat} {c : Cluster} {pieces : List Piece} {q r : Piece}

theorem Made.cells_le (h : Made budget gap c pieces) (hb : 0 < budget)
    (hsize : ∀ q ∈ pieces, q.2.size ≤ budget) : c.cells ≤ budget := by
  cases h with
  | start row run => exact hsize _ (List.mem_singleton_self _)
  | grow row run made near fits => exact fits.resolve_left (Nat.ne_of_gt hb)

@[simp] theorem mem_allPieces {places : List Place} : q ∈ allPieces budget places ↔
    (∃ p ∈ places, p.row = q.1) ∧
      ∃ run ∈ Span.runs (colsIn places q.1), q.2 ∈ run.pieces budget := by
  obtain ⟨row, piece⟩ := q
  simp only [allPieces, strips, stripPieces, colsIn, List.flatMap_map, List.mem_flatMap,
    List.mem_map, mem_ascending, Prod.mk.injEq]
  constructor
  · rintro ⟨row, hrow, piece, hpiece, rfl, rfl⟩
    exact ⟨hrow, hpiece⟩
  · rintro ⟨hrow, hpiece⟩
    exact ⟨row, hrow, piece, hpiece, rfl, rfl⟩

theorem size_le_of_mem_allPieces {places : List Place} (hb : 0 < budget)
    (hq : q ∈ allPieces budget places) : q.2.size ≤ budget := by
  obtain ⟨-, run, -, hpiece⟩ := mem_allPieces.mp hq
  exact Span.size_le_of_mem_pieces hb hpiece

theorem cells_le_of_mem_ofPlaces {places : List Place} (hb : 0 < budget)
    (hc : c ∈ ofPlaces budget gap places) : c.cells ≤ budget := by
  obtain ⟨parts, hmade, hparts⟩ := divide_ofPlaces budget gap places
  obtain ⟨part, hpart, h⟩ := exists_of_forall₂_of_mem hmade.flip hc
  apply h.cells_le hb
  intro q hq
  exact size_le_of_mem_allPieces hb (hparts.mem_iff.mp (List.mem_flatten.mpr ⟨part, hpart, hq⟩))

theorem Made.row_le_last (h : Made budget gap c pieces) (hq : q ∈ pieces) :
    q.1 ≤ c.rows.last := by
  induction h with
  | start row run =>
      obtain rfl := List.mem_singleton.mp hq
      exact Nat.le_refl row
  | @grow c pieces row run made near fits ih =>
      change q.1 ≤ row
      rcases List.mem_cons.mp hq with rfl | hq
      · exact Nat.le_refl row
      · have hlast := ih hq
        simp only [touches, Bool.and_eq_true, decide_eq_true_eq] at near
        omega

theorem Made.eq_of_row_eq (h : Made budget gap c pieces) (hq : q ∈ pieces) (hr : r ∈ pieces)
    (hrow : q.1 = r.1) : q = r := by
  induction h with
  | start row run =>
      rw [List.mem_singleton.mp hq, List.mem_singleton.mp hr]
  | @grow c pieces row run made near fits ih =>
      -- The pieces so far are above the new one.
      have habove (q : Piece) (hq : q ∈ pieces) : q.1 < row := by
        have hlast := made.row_le_last hq
        simp only [touches, Bool.and_eq_true, decide_eq_true_eq] at near
        omega
      rcases List.mem_cons.mp hq with rfl | hq <;> rcases List.mem_cons.mp hr with rfl | hr
      · rfl
      · exact absurd hrow (Nat.ne_of_gt (habove r hr))
      · exact absurd hrow (Nat.ne_of_lt (habove q hq))
      · exact ih hq hr

theorem Made.mem_placesOf_iff (h : Made budget gap c pieces)
    (hruns : ∀ q ∈ pieces, q.2.first ≤ q.2.last) (hq : q ∈ pieces) (col : Nat) :
    ⟨q.1, col⟩ ∈ placesOf pieces ↔ q.2.first ≤ col ∧ col ≤ q.2.last := by
  rw [placesOf, List.mem_flatMap]
  constructor
  · rintro ⟨r, hr, hmem⟩
    obtain ⟨hrow, hcol⟩ := (Piece.mem_places (hruns r hr)).mp hmem
    rwa [h.eq_of_row_eq hq hr hrow]
  · intro hcol
    exact ⟨q, hq, (Piece.mem_places (hruns q hq)).mpr ⟨rfl, hcol⟩⟩

end Cluster

/-- What a part has of a row is one run. -/
def TakesRun (part : Finset Place) (row : Nat) (run : Span) : Prop :=
  ∀ col, ⟨row, col⟩ ∈ part ↔ run.first ≤ col ∧ col ≤ run.last

open Cluster in
theorem exists_takesRun {budget gap : Nat} {places : List Place} {parts : List (List Piece)}
    (hmade : List.Forall₂ (Made budget gap) (ofPlaces budget gap places) parts)
    (hparts : parts.flatten.Perm (allPieces budget places)) {q : Piece}
    (hq : q ∈ allPieces budget places) :
    ∃ part ∈ parts.map fun part => (placesOf part).toFinset, TakesRun part q.1 q.2 := by
  obtain ⟨part, hpart, hq⟩ := List.mem_flatten.mp (hparts.mem_iff.mpr hq)
  obtain ⟨c, -, h⟩ := exists_of_forall₂_of_mem hmade hpart
  refine ⟨_, List.mem_map_of_mem hpart, fun col => ?_⟩
  rw [List.mem_toFinset]
  exact h.mem_placesOf_iff (fun r hr => first_le_last_of_mem_parts hparts hpart hr) hq col

theorem Cluster.mem_allPieces_of_isRun {budget : Nat} {places : List Place} {row : Nat}
    {run piece : Span} (h : run.IsRun {col | ⟨row, col⟩ ∈ places})
    (hpiece : piece ∈ run.pieces budget) : (row, piece) ∈ allPieces budget places := by
  have hfirst := h.mem run.first (Nat.le_refl _) h.first_le_last
  have hcols : {col | (⟨row, col⟩ : Place) ∈ places} = {col | col ∈ colsIn places row} := by
    ext col
    simp only [colsIn, mem_ascending, List.mem_map, List.mem_filter, decide_eq_true_eq,
      Set.mem_ofPred_eq]
    constructor
    · intro hmem
      exact ⟨_, ⟨hmem, rfl⟩, rfl⟩
    · rintro ⟨p, ⟨hp, rfl⟩, rfl⟩
      exact hp
  rw [hcols] at h
  have hrun := Span.mem_runs_of_isRun (ascending_pairwise_lt _) h
  exact mem_allPieces.mpr ⟨⟨_, hfirst, rfl⟩, run, hrun, hpiece⟩

/-- The regions of edited cells keep to the budget, if there is one. They divide the places up among
them such that a maximal run within the budget is what one region has of its row, and so is each of
the pieces, counted from the left, into which the budget cuts a longer run. The pieces are those
that are cut off one by one. -/
theorem regions_keep_runs (budget gap : Nat) (places : List Place) :
    (0 < budget → ∀ a ∈ Area.ofPlaces budget gap places, a.cellCount ≤ budget) ∧
    ∃ parts : List (Finset Place),
      List.Forall₂ Area.Covers (Area.ofPlaces budget gap places) parts ∧
      IsPartition parts places ∧
      ∀ (row : Nat) (run : Span), run.IsRun {col | ⟨row, col⟩ ∈ places} →
        (budget = 0 ∨ run.size ≤ budget → ∃ part ∈ parts, TakesRun part row run) ∧
        (0 < budget → ∀ n < run.size ⌈/⌉ budget,
          ∃ part ∈ parts, TakesRun part row
            ⟨run.first + n * budget, min (run.first + (n + 1) * budget - 1) run.last⟩) ∧
        ∀ piece ∈ run.cut budget, ∃ part ∈ parts, TakesRun part row piece := by
  constructor
  · intro hb a ha
    obtain ⟨n, hn, rfl⟩ := List.mem_mapIdx.mp ha
    exact Cluster.cells_le_of_mem_ofPlaces hb (List.getElem_mem hn)
  · obtain ⟨parts, hmade, hparts⟩ := Cluster.divide_ofPlaces budget gap places
    refine ⟨_, Cluster.covers_parts hmade hparts, Cluster.isPartition_parts hparts, ?_⟩
    intro row run hrun
    refine ⟨fun hfits => ?_, fun hb n hn => ?_, fun piece hpiece => ?_⟩
    · have hpiece : run ∈ run.pieces budget := by
        rw [Span.pieces_eq_singleton hrun.first_le_last hfits]
        exact List.mem_singleton_self run
      exact exists_takesRun hmade hparts (Cluster.mem_allPieces_of_isRun hrun hpiece)
    · rw [Nat.ceilDiv_eq_add_pred_div] at hn
      have hpiece : run.piece budget n ∈ run.pieces budget := by
        rw [Span.pieces_of_pos hb]
        exact List.mem_map_of_mem (List.mem_range.mpr hn)
      exact exists_takesRun hmade hparts (Cluster.mem_allPieces_of_isRun hrun hpiece)
    · rw [← Span.pieces_eq_cut budget hrun.first_le_last] at hpiece
      exact exists_takesRun hmade hparts (Cluster.mem_allPieces_of_isRun hrun hpiece)

theorem regions_keep_runs_of_fiveCells :
    let places : List Place := [⟨0, 0⟩, ⟨0, 1⟩, ⟨0, 2⟩, ⟨0, 3⟩, ⟨0, 4⟩]
    Span.IsRun {col | ⟨0, col⟩ ∈ places} ⟨0, 4⟩ ∧
      ∃ parts, List.Forall₂ Area.Covers (Area.ofPlaces 2 1 places) parts ∧
        ∃ part ∈ parts, TakesRun part 0 ⟨4, 4⟩ := by
  intro places
  have hcols (col : Nat) : (⟨0, col⟩ : Place) ∈ places ↔ col ≤ 4 := by
    simp [places]
    omega
  have hrun : Span.IsRun {col | ⟨0, col⟩ ∈ places} ⟨0, 4⟩ :=
    ⟨by decide, fun col _ hcol => (hcols col).mpr hcol, fun col hcol => by simp at hcol,
      fun hcol => by simpa using (hcols 5).mp hcol⟩
  obtain ⟨-, parts, hcovers, -, htakes⟩ := regions_keep_runs 2 1 places
  exact ⟨hrun, parts, hcovers, (htakes 0 _ hrun).2.1 (by decide) 2 (by decide)⟩

end DiffView
