import DiffView.Span
import Mathlib.Data.List.Pairwise
import Mathlib.Data.Set.Basic

namespace DiffView.Span

def members (s : Span) : List Nat := List.range' s.first s.size

@[simp] theorem length_members (s : Span) : s.members.length = s.size := List.length_range'

@[simp] theorem members_point (i : Nat) : (point i).members = [i] := by simp [members, point, size]

theorem mem_members {s : Span} (h : s.first ≤ s.last) {i : Nat} :
    i ∈ s.members ↔ s.first ≤ i ∧ i ≤ s.last := by
  rw [members, List.mem_range'_1, size]
  omega

theorem members_cons {i : Nat} {s : Span} (hi : s.first = i + 1) (h : s.first ≤ s.last) :
    members ⟨i, s.last⟩ = i :: s.members := by
  have hsize : size ⟨i, s.last⟩ = s.size + 1 := by simp only [size]; omega
  rw [members, members, hsize, List.range'_succ, hi]

theorem first_le_last_of_mem_runs {is : List Nat} {s : Span} (hs : s ∈ runs is) :
    s.first ≤ s.last := by
  induction is generalizing s with
  | nil => cases hs
  | cons i is ih =>
      rw [runs] at hs
      split at hs
      · rename_i t ts heq
        have ht := ih (s := t) (by simp [heq])
        split at hs
        · rcases List.mem_cons.mp hs with rfl | hs
          · show i ≤ t.last
            omega
          · exact ih (by simp [heq, hs])
        · rcases List.mem_cons.mp hs with rfl | hs
          · exact Nat.le_refl i
          · exact ih (by rw [heq]; exact hs)
      · rw [List.mem_singleton.mp hs]
        exact Nat.le_refl i

@[simp] theorem members_runs (is : List Nat) : (runs is).flatMap members = is := by
  induction is with
  | nil => rfl
  | cons i is ih =>
      rw [runs]
      split
      · rename_i s ss heq
        rw [heq, List.flatMap_cons] at ih
        split
        · rename_i hi
          have hmem : s ∈ runs is := by simp [heq]
          have hs := first_le_last_of_mem_runs hmem
          rw [List.flatMap_cons, members_cons hi hs, List.cons_append, ih]
        · rw [List.flatMap_cons, List.flatMap_cons, members_point i, ih]
          rfl
      · rename_i heq
        rw [heq] at ih
        rw [List.flatMap_cons, members_point i, ← ih]
        rfl

theorem mem_iff_exists_run {is : List Nat} {i : Nat} :
    i ∈ is ↔ ∃ s ∈ runs is, s.first ≤ i ∧ i ≤ s.last := by
  conv_lhs => rw [← members_runs is, List.mem_flatMap]
  refine exists_congr fun s => and_congr_right fun hs => ?_
  exact mem_members (first_le_last_of_mem_runs hs)

theorem first_mem_of_mem_runs {is : List Nat} {run : Span} (h : run ∈ runs is) :
    run.first ∈ is :=
  mem_iff_exists_run.mpr ⟨run, h, Nat.le_refl _, first_le_last_of_mem_runs h⟩

/-- A run of some indices that cannot be made longer at either end. -/
structure IsRun (is : Set Nat) (run : Span) : Prop where
  first_le_last : run.first ≤ run.last
  mem : ∀ i, run.first ≤ i → i ≤ run.last → i ∈ is
  before : ∀ i, i + 1 = run.first → i ∉ is
  after : run.last + 1 ∉ is

theorem runs_apart {is : List Nat} (h : is.Pairwise (· < ·)) :
    (runs is).Pairwise fun s t => s.last + 1 < t.first := by
  induction is with
  | nil => exact .nil
  | cons i is ih =>
      obtain ⟨hi, his⟩ := List.pairwise_cons.mp h
      have hapart := ih his
      rw [runs]
      split
      · rename_i s ss heq
        rw [heq] at hapart
        obtain ⟨hs, hss⟩ := List.pairwise_cons.mp hapart
        split
        · exact .cons hs hss
        · rename_i hne
          have hsmem : s ∈ runs is := by simp [heq]
          have hlt := hi _ (first_mem_of_mem_runs hsmem)
          have hle := first_le_last_of_mem_runs hsmem
          refine .cons ?_ hapart
          intro t ht
          change i + 1 < t.first
          rcases List.mem_cons.mp ht with rfl | ht
          · omega
          · have := hs t ht
            omega
      · exact List.pairwise_singleton _ _

theorem eq_or_apart_of_mem_runs {is : List Nat} (h : is.Pairwise (· < ·)) {s t : Span}
    (hs : s ∈ runs is) (ht : t ∈ runs is) :
    s = t ∨ s.last + 1 < t.first ∨ t.last + 1 < s.first := by
  let R (s t : Span) : Prop := s = t ∨ s.last + 1 < t.first ∨ t.last + 1 < s.first
  have hapart : (runs is).Pairwise R := (runs_apart h).imp fun hlt => .inr (.inl hlt)
  have hflip : (runs is).Pairwise (flip R) := (runs_apart h).imp fun hlt => .inr (.inr hlt)
  exact List.Pairwise.forall_of_forall_of_flip (fun _ _ => .inl rfl) hapart hflip hs ht

theorem mem_runs_of_isRun {is : List Nat} (h : is.Pairwise (· < ·)) {run : Span}
    (hrun : run.IsRun {i | i ∈ is}) : run ∈ runs is := by
  have hle := hrun.first_le_last
  obtain ⟨s, hs, hfirst, hlast⟩ :=
    mem_iff_exists_run.mp (hrun.mem run.first (Nat.le_refl _) hle)
  have hbegin : s.first = run.first := by
    by_contra hne
    apply hrun.before (run.first - 1) (by omega)
    exact mem_iff_exists_run.mpr ⟨s, hs, by omega, by omega⟩
  have hend : s.last = run.last := by
    rcases Nat.lt_trichotomy s.last run.last with hlt | heq | hgt
    · obtain ⟨t, ht, htfirst, htlast⟩ :=
        mem_iff_exists_run.mp (hrun.mem (s.last + 1) (by omega) hlt)
      rcases eq_or_apart_of_mem_runs h hs ht with rfl | hapart | hapart
      · omega
      · omega
      · omega
    · exact heq
    · apply absurd _ hrun.after
      exact mem_iff_exists_run.mpr ⟨s, hs, by omega, hgt⟩
  have heq : s = run := by
    cases s
    cases run
    simp_all
  exact heq ▸ hs

theorem mem_runs_iff_isRun {is : List Nat} (h : is.Pairwise (· < ·)) {run : Span} :
    run ∈ runs is ↔ run.IsRun {i | i ∈ is} := by
  refine ⟨fun hrun => ?_, mem_runs_of_isRun h⟩
  have hle := first_le_last_of_mem_runs hrun
  refine ⟨hle, fun i hfirst hlast => mem_iff_exists_run.mpr ⟨run, hrun, hfirst, hlast⟩, ?_, ?_⟩
  · intro i hi hmem
    obtain ⟨s, hs, hfirst, hlast⟩ := mem_iff_exists_run.mp hmem
    rcases eq_or_apart_of_mem_runs h hrun hs with rfl | hapart | hapart <;> omega
  · intro hmem
    obtain ⟨s, hs, hfirst, hlast⟩ := mem_iff_exists_run.mp hmem
    rcases eq_or_apart_of_mem_runs h hrun hs with rfl | hapart | hapart <;> omega

/-- The piece that begins after `n` others. -/
def piece (budget : Nat) (s : Span) (n : Nat) : Span :=
  ⟨s.first + n * budget, min (s.first + (n + 1) * budget - 1) s.last⟩

def pieceCount (budget : Nat) (s : Span) : Nat := (s.size + budget - 1) / budget

theorem pieces_of_pos {budget : Nat} (hb : 0 < budget) (s : Span) :
    s.pieces budget = (List.range (s.pieceCount budget)).map (s.piece budget) :=
  if_neg (Nat.ne_of_gt hb)

theorem lt_size_of_lt_pieceCount {budget n : Nat} (hb : 0 < budget) {s : Span}
    (hn : n < s.pieceCount budget) : n * budget < s.size := by
  have h := (Nat.le_div_iff_mul_le hb).mp (Nat.succ_le_of_lt hn)
  rw [Nat.succ_mul] at h
  omega

theorem size_le_pieceCount {budget : Nat} (hb : 0 < budget) (s : Span) :
    s.size ≤ s.pieceCount budget * budget := by
  have h := Nat.lt_mul_div_succ (s.size + budget - 1) hb
  rw [Nat.mul_comm, Nat.succ_mul] at h
  change _ < s.pieceCount budget * budget + budget at h
  omega

theorem piece_first_le_last {budget n : Nat} (hb : 0 < budget) {s : Span} (hs : s.first ≤ s.last)
    (hn : n < s.pieceCount budget) : (s.piece budget n).first ≤ (s.piece budget n).last := by
  have h := lt_size_of_lt_pieceCount hb hn
  simp only [piece, size, Nat.succ_mul] at *
  omega

theorem members_piece {budget n : Nat} (hb : 0 < budget) {s : Span} (hs : s.first ≤ s.last)
    (hn : n < s.pieceCount budget) :
    (s.piece budget n).members =
      List.range' (s.first + n * budget) (min ((n + 1) * budget) s.size - n * budget) := by
  have h := lt_size_of_lt_pieceCount hb hn
  have hsize : (s.piece budget n).size = min ((n + 1) * budget) s.size - n * budget := by
    simp only [piece, size, Nat.succ_mul] at *
    omega
  rw [members, hsize]
  rfl

theorem members_firstPieces {budget : Nat} (hb : 0 < budget) {s : Span} (hs : s.first ≤ s.last)
    {n : Nat} (hn : n ≤ s.pieceCount budget) :
    ((List.range n).map (s.piece budget)).flatMap members =
      List.range' s.first (min (n * budget) s.size) := by
  induction n with
  | zero => simp
  | succ n ih =>
      have hlt := lt_size_of_lt_pieceCount hb hn
      rw [List.range_succ, List.map_append, List.flatMap_append, ih (Nat.le_of_succ_le hn),
        Nat.min_eq_left (Nat.le_of_lt hlt)]
      simp only [List.map_cons, List.map_nil, List.flatMap_cons, List.flatMap_nil,
        List.append_nil]
      rw [members_piece hb hs hn]
      have happend := List.range'_append_1 (s := s.first) (m := n * budget)
        (n := min ((n + 1) * budget) s.size - n * budget)
      rw [happend]
      congr 1
      rw [Nat.succ_mul]
      omega

theorem members_pieces (budget : Nat) {s : Span} (hs : s.first ≤ s.last) :
    (s.pieces budget).flatMap members = s.members := by
  rcases Nat.eq_zero_or_pos budget with rfl | hb
  · simp [pieces]
  · rw [pieces_of_pos hb, members_firstPieces hb hs (Nat.le_refl _),
      Nat.min_eq_right (size_le_pieceCount hb s)]
    rfl

theorem first_le_last_of_mem_pieces {budget : Nat} {s t : Span} (hs : s.first ≤ s.last)
    (ht : t ∈ s.pieces budget) : t.first ≤ t.last := by
  rcases Nat.eq_zero_or_pos budget with rfl | hb
  · simp only [pieces, if_true, List.mem_singleton] at ht
    rwa [ht]
  · rw [pieces_of_pos hb] at ht
    obtain ⟨n, hn, rfl⟩ := List.mem_map.mp ht
    exact piece_first_le_last hb hs (List.mem_range.mp hn)

theorem size_le_of_mem_pieces {budget : Nat} (hb : 0 < budget) {s t : Span}
    (ht : t ∈ s.pieces budget) : t.size ≤ budget := by
  rw [pieces_of_pos hb] at ht
  obtain ⟨n, -, rfl⟩ := List.mem_map.mp ht
  simp only [piece, size, Nat.succ_mul]
  omega

theorem piece_succ (budget : Nat) (s : Span) (n : Nat) :
    s.piece budget (n + 1) = piece budget ⟨s.first + budget, s.last⟩ n := by
  have hfirst : s.first + (n + 1) * budget = s.first + budget + n * budget := by
    rw [Nat.succ_mul, Nat.add_comm (n * budget), Nat.add_assoc]
  have hnext : s.first + (n + 1 + 1) * budget = s.first + budget + (n + 1) * budget := by
    rw [Nat.succ_mul (n + 1), Nat.add_comm ((n + 1) * budget), Nat.add_assoc]
  rw [piece, piece, hfirst, hnext]

theorem pieces_of_size_le {budget : Nat} (hb : 0 < budget) {s : Span} (hs : s.first ≤ s.last)
    (h : s.size ≤ budget) : s.pieces budget = [s] := by
  have hcount : s.pieceCount budget = 1 := by
    rw [size] at h
    rw [pieceCount, Nat.div_eq_iff hb, size]
    omega
  have hpiece : s.piece budget 0 = s := by
    cases s
    simp only [piece, size, mk.injEq] at *
    omega
  rw [pieces_of_pos hb, hcount, List.range_one, List.map_singleton, hpiece]

theorem pieces_of_lt_size {budget : Nat} (hb : 0 < budget) {s : Span} (h : budget < s.size) :
    s.pieces budget =
      ⟨s.first, s.first + budget - 1⟩ :: pieces budget ⟨s.first + budget, s.last⟩ := by
  rw [size] at h
  have hsize : s.size = size ⟨s.first + budget, s.last⟩ + budget := by
    simp only [size]
    omega
  have hcount : s.pieceCount budget = pieceCount budget ⟨s.first + budget, s.last⟩ + 1 := by
    rw [pieceCount, pieceCount, hsize, Nat.sub_add_comm (by omega), Nat.add_div_right _ hb]
  have hpiece : s.piece budget 0 = ⟨s.first, s.first + budget - 1⟩ := by
    simp only [piece, mk.injEq]
    omega
  rw [pieces_of_pos hb, pieces_of_pos hb, hcount, List.range_succ_eq_map, List.map_cons,
    List.map_map, hpiece]
  simp only [Function.comp_def, Nat.succ_eq_add_one, piece_succ]

/-- Without a budget, or within it, a run is not cut. -/
theorem pieces_eq_singleton {budget : Nat} {s : Span} (hs : s.first ≤ s.last)
    (h : budget = 0 ∨ s.size ≤ budget) : s.pieces budget = [s] := by
  rcases Nat.eq_zero_or_pos budget with rfl | hb
  · exact if_pos rfl
  · exact pieces_of_size_le hb hs (h.resolve_left (Nat.ne_of_gt hb))

def cutFrom (budget last first : Nat) : List Span :=
  if 0 < budget ∧ first ≤ last then
    let stop := min (first + budget - 1) last
    ⟨first, stop⟩ :: cutFrom budget last (stop + 1)
  else []
termination_by last + 1 - first

def cut (budget : Nat) (s : Span) : List Span :=
  if budget = 0 ∨ s.size ≤ budget then [s] else cutFrom budget s.last s.first

theorem cutFrom_eq_pieces {budget first last : Nat} (hb : 0 < budget) (h : first ≤ last) :
    cutFrom budget last first = pieces budget ⟨first, last⟩ := by
  fun_induction cutFrom budget last first with
  | case1 first hleft stop ih =>
      rcases Nat.lt_or_ge budget (size ⟨first, last⟩) with hlong | hfits
      · rw [pieces_of_lt_size hb hlong]
        simp only [size] at hlong
        have hstop : stop = first + budget - 1 := by omega
        have hnext : stop + 1 = first + budget := by omega
        rw [ih (by omega), hnext, hstop]
      · rw [pieces_of_size_le hb h hfits]
        simp only [size] at hfits
        have hstop : stop = last := by omega
        rw [hstop, cutFrom, if_neg (by omega)]
  | case2 first hend => exact absurd ⟨hb, h⟩ hend

/-- Counted or cut off one by one, the pieces are the same. -/
theorem pieces_eq_cut (budget : Nat) {s : Span} (hs : s.first ≤ s.last) :
    s.pieces budget = s.cut budget := by
  rw [cut]
  split
  · rename_i h
    exact pieces_eq_singleton hs h
  · rename_i h
    exact (cutFrom_eq_pieces (Nat.pos_of_ne_zero fun h0 => h (.inl h0)) hs).symm

end DiffView.Span
