import DiffView.Proofs.Runs
import DiffView.Proofs.Slots
import Mathlib.Order.Bounds.Basic

namespace DiffView

namespace Span

variable {s t run : Span} {is js : Set Nat}

/-- A run reaches from the least to the greatest of some indices. -/
structure Bounds (run : Span) (is : Set Nat) : Prop where
  first : IsLeast is run.first
  last : IsGreatest is run.last

theorem Bounds.join (hs : s.Bounds is) (ht : t.Bounds js) : (s.join t).Bounds (is ∪ js) :=
  ⟨hs.first.union ht.first, hs.last.union ht.last⟩

theorem Bounds.first_le_last (h : run.Bounds is) : run.first ≤ run.last := h.first.2 h.last.1

theorem bounds_members (h : s.first ≤ s.last) : s.Bounds {i | i ∈ s.members} := by
  simp only [mem_members h]
  exact ⟨⟨⟨Nat.le_refl _, h⟩, fun i hi => hi.1⟩, ⟨⟨h, Nat.le_refl _⟩, fun i hi => hi.2⟩⟩

theorem bounds_foldl_join {ss : List Span} (hs : s.Bounds is)
    (hss : ∀ t ∈ ss, t.first ≤ t.last) :
    (ss.foldl Span.join s).Bounds (is ∪ {i | i ∈ ss.flatMap members}) := by
  induction ss generalizing s is with
  | nil => simpa using hs
  | cons t ss ih =>
      have ht := hs.join (bounds_members (hss t List.mem_cons_self))
      have h := ih ht fun u hu => hss u (List.mem_cons_of_mem t hu)
      have hunion : is ∪ {i | i ∈ t.members} ∪ {i | i ∈ ss.flatMap members} =
          is ∪ {i | i ∈ (t :: ss).flatMap members} := by
        ext i
        simp [or_assoc]
      rwa [hunion] at h

theorem hull?_bounds {ss : List Span} (h : hull? ss = some run)
    (hss : ∀ t ∈ ss, t.first ≤ t.last) : run.Bounds {i | i ∈ ss.flatMap members} := by
  cases ss with
  | nil => cases h
  | cons s ss =>
      obtain rfl := Option.some_inj.mp h
      have hs := bounds_members (hss s List.mem_cons_self)
      have hjoin := bounds_foldl_join hs fun t ht => hss t (List.mem_cons_of_mem s ht)
      have hunion : {i | i ∈ s.members} ∪ {i | i ∈ ss.flatMap members} =
          {i | i ∈ (s :: ss).flatMap members} := by
        ext i
        simp
      rwa [hunion] at hjoin

theorem hull?_isSome_iff {ss : List Span} : (hull? ss).isSome ↔ ss ≠ [] := by
  cases ss with
  | nil => simp [hull?]
  | cons s ss => simp [hull?]

end Span

namespace Stretch

def lines (s : Stretch) : Set Nat := Set.Icc s.start s.last

theorem start_le_last (s : Stretch) : s.start ≤ s.last := Nat.le_max_left _ _

theorem lines_one (i : Nat) : (Stretch.mk i 1).lines = {i} := by
  have hlast : (Stretch.mk i 1).last = i := by
    simp only [last]
    omega
  rw [lines, hlast, Set.Icc_self]

variable {s : Stretch} {length i : Nat}

theorem mem_within :
    i ∈ List.range' s.start (min length (s.last + 1) - s.start) ↔ i ∈ s.lines ∧ i < length := by
  rw [lines, Set.mem_Icc, List.mem_range'_1]
  omega

theorem first_le_last_of_mem_beyond {t : Span}
    (h : t ∈ if length ≤ s.last then [Span.mk (max s.start length) s.last] else []) :
    t.first ≤ t.last := by
  split at h
  · rw [List.mem_singleton.mp h]
    exact Nat.max_le.mpr ⟨s.start_le_last, by assumption⟩
  · cases h

theorem mem_beyond :
    i ∈ (if length ≤ s.last then [Span.mk (max s.start length) s.last] else []).flatMap
      Span.members ↔ i ∈ s.lines ∧ length ≤ i := by
  have hle := s.start_le_last
  rw [lines, Set.mem_Icc]
  split
  · rename_i hlength
    rw [List.flatMap_singleton, Span.mem_members (Nat.max_le.mpr ⟨hle, hlength⟩), Nat.max_le]
    exact and_right_comm
  · simp only [List.flatMap_nil, List.not_mem_nil, false_iff]
    omega

end Stretch

namespace Axis

variable {a : Axis} {side : Side} {s : Stretch} {run : Span}

/-- Lines beyond the sheet show where they are, so one run stands for all of them. -/
theorem mem_image_lines_iff {view : Nat} :
    view ∈ a.viewOrSame side '' s.lines ↔
      (∃ line, (line ∈ s.lines ∧ line < a.length side) ∧ a.viewOrSame side line = view) ∨
        view ∈ s.lines ∧ a.length side ≤ view := by
  constructor
  · rintro ⟨line, hline, rfl⟩
    rcases Nat.lt_or_ge line (a.length side) with hlt | hge
    · exact .inl ⟨line, ⟨hline, hlt⟩, rfl⟩
    · rw [viewOrSame_of_length_le hge]
      exact .inr ⟨hline, hge⟩
  · rintro (⟨line, ⟨hline, -⟩, rfl⟩ | ⟨hview, hge⟩)
    · exact ⟨line, hline, rfl⟩
    · exact ⟨view, hview, viewOrSame_of_length_le hge⟩

theorem cover?_bounds (h : a.cover? side s = some run) :
    run.Bounds (a.viewOrSame side '' s.lines) := by
  rw [cover?] at h
  split at h
  · cases h
  · have hbounds := Span.hull?_bounds h fun t ht => by
      rcases List.mem_append.mp ht with ht | ht
      · obtain ⟨line, -, rfl⟩ := List.mem_map.mp ht
        exact Nat.le_refl _
      · exact Stretch.first_le_last_of_mem_beyond ht
    convert hbounds using 1
    ext view
    rw [mem_image_lines_iff, Set.mem_ofPred_eq, List.flatMap_append, List.mem_append,
      Stretch.mem_beyond, List.flatMap_map, List.mem_flatMap]
    simp only [Stretch.mem_within, Span.members_point, List.mem_singleton, eq_comm]

theorem cover?_isSome_iff : (a.cover? side s).isSome ↔ s.count ≠ 0 := by
  by_cases hcount : s.count = 0
  · simp [cover?, hcount]
  · have hle := s.start_le_last
    rw [cover?, if_neg hcount, Span.hull?_isSome_iff, iff_true_right hcount]
    intro hnil
    obtain ⟨hwithin, hbeyond⟩ := List.append_eq_nil_iff.mp hnil
    rw [List.map_eq_nil_iff, List.range'_eq_nil_iff] at hwithin
    split at hbeyond
    · cases hbeyond
    · omega

end Axis

end DiffView
