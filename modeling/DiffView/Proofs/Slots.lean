import DiffView.Axis
import Mathlib.Data.List.Nodup
import Mathlib.Data.List.Perm.Basic

namespace DiffView.Axis

variable {a : Axis} {side : Side} {view view' line : Nat}

def Names (a : Axis) (side : Side) (view line : Nat) : Prop :=
  (a.slot? view).bind (fun s => s.line? side) = some line

theorem Names.lt_count (h : a.Names side view line) : view < a.count := by
  obtain ⟨s, hs, -⟩ := Option.bind_eq_some_iff.mp h
  exact (List.getElem?_eq_some_iff.mp hs).1

theorem lastNaming?_eq_some {slots : List Slot} {first : Nat}
    (h : lastNaming? side line first slots = some view) :
    ∃ n, view = first + n ∧ (slots[n]?).bind (fun s => s.line? side) = some line := by
  induction slots generalizing first view with
  | nil => cases h
  | cons s slots ih =>
      rw [lastNaming?] at h
      cases hrest : lastNaming? side line (first + 1) slots with
      | some later =>
          rw [hrest, Option.some_or, Option.some_inj] at h
          obtain ⟨n, hn, hnames⟩ := ih hrest
          exact ⟨n + 1, by omega, hnames⟩
      | none =>
          rw [hrest, Option.none_or] at h
          split at h
          · rename_i hs
            exact ⟨0, (Option.some_inj.mp h).symm, hs⟩
          · cases h

theorem names_of_viewOf? (h : a.viewOf? side line = some view) : a.Names side view line := by
  rw [viewOf?] at h
  split at h
  · obtain ⟨n, rfl, hnames⟩ := lastNaming?_eq_some h
    rwa [Names, slot?, Nat.zero_add]
  · cases h

theorem viewOrSame_eq_of_viewOf? (h : a.viewOf? side line = some view) :
    a.viewOrSame side line = view := by
  rw [viewOrSame, h, Option.getD_some]

theorem viewOrSame_of_length_le (h : a.length side ≤ line) : a.viewOrSame side line = line := by
  rw [viewOrSame, viewOf?, if_neg (Nat.not_lt.mpr h), Option.getD_none]

theorem viewOf?_of_count_le (h : a.count ≤ a.viewOrSame side line) :
    a.viewOf? side line = none ∧ a.viewOrSame side line = line := by
  cases hview : a.viewOf? side line with
  | none => exact ⟨rfl, by rw [viewOrSame, hview, Option.getD_none]⟩
  | some view =>
      rw [viewOrSame_eq_of_viewOf? hview] at h
      exact absurd (names_of_viewOf? hview).lt_count (Nat.not_lt.mpr h)

theorem viewOf?_inj {line' : Nat} (h : a.viewOf? side line = some view)
    (h' : a.viewOf? side line' = some view) : line = line' := by
  have hnames : (a.slot? view).bind (fun s => s.line? side) = some line := names_of_viewOf? h
  exact Option.some_inj.mp (hnames.symm.trans (names_of_viewOf? h'))

/-- Edits of a sheet show at the indices of its lines: there is no view, or no line. -/
def Bare (a : Axis) (side : Side) : Prop := a.isEmpty ∨ a.length side = 0

instance : Decidable (a.Bare side) := inferInstanceAs (Decidable (_ ∨ _))

theorem place?_of_bare (h : a.Bare side) : a.place? side line = some line := if_pos h

theorem place?_of_not_bare (h : ¬a.Bare side) : a.place? side line = a.viewOf? side line := if_neg h

theorem viewOf?_of_bare (h : a.Bare side) : a.viewOf? side line = none := by
  rw [viewOf?]
  rcases h with hempty | hlength
  · simp [List.isEmpty_iff.mp hempty, lastNaming?]
  · simp [hlength]

theorem place?_inj {line' : Nat} (h : a.place? side line = some view)
    (h' : a.place? side line' = some view) : line = line' := by
  by_cases hbare : a.Bare side
  · rw [place?_of_bare hbare] at h h'
    exact Option.some_inj.mp (h.trans h'.symm)
  · rw [place?_of_not_bare hbare] at h h'
    exact viewOf?_inj h h'

theorem viewOrSame_eq_of_place? (h : a.place? side line = some view) :
    a.viewOrSame side line = view := by
  by_cases hbare : a.Bare side
  · rw [place?_of_bare hbare, Option.some_inj] at h
    rw [viewOrSame, viewOf?_of_bare hbare, Option.getD_none, h]
  · rw [place?_of_not_bare hbare] at h
    exact viewOrSame_eq_of_viewOf? h

/-- The slots name each line of both sheets once, and no line that a sheet does not have. -/
def Complete (a : Axis) : Prop :=
  ∀ side, (a.slots.filterMap fun s => s.line? side).Perm (List.range (a.length side))

theorem Complete.exists_names (h : a.Complete) (hline : line < a.length side) :
    ∃ view, a.Names side view line := by
  have hmem := (h side).mem_iff.mpr (List.mem_range.mpr hline)
  obtain ⟨s, hs, hnames⟩ := List.mem_filterMap.mp hmem
  obtain ⟨view, hview⟩ := List.mem_iff_getElem?.mp hs
  refine ⟨view, ?_⟩
  rw [Names, slot?, hview, Option.bind_some, hnames]

theorem Complete.names_inj (h : a.Complete) (hview : a.Names side view line)
    (hview' : a.Names side view' line) : view = view' := by
  have hnodup := (h side).nodup_iff.mpr List.nodup_range
  rw [List.Nodup, List.pairwise_filterMap, List.pairwise_iff_getElem] at hnodup
  obtain ⟨s, hs, hnames⟩ := Option.bind_eq_some_iff.mp hview
  obtain ⟨s', hs', hnames'⟩ := Option.bind_eq_some_iff.mp hview'
  obtain ⟨hlt, rfl⟩ := List.getElem?_eq_some_iff.mp hs
  obtain ⟨hlt', rfl⟩ := List.getElem?_eq_some_iff.mp hs'
  rcases Nat.lt_trichotomy view view' with hv | hv | hv
  · exact absurd rfl (hnodup view view' hlt hlt' hv line hnames line hnames')
  · exact hv
  · exact absurd rfl (hnodup view' view hlt' hlt hv line hnames' line hnames)

theorem Complete.existsUnique_names (h : a.Complete) (hline : line < a.length side) :
    ∃! view, a.Names side view line := by
  obtain ⟨view, hview⟩ := h.exists_names hline
  exact ⟨view, hview, fun view' hview' => h.names_inj hview' hview⟩

end DiffView.Axis
