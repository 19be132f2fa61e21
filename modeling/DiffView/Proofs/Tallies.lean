import DiffView.Proofs.Lists
import DiffView.Tally
import Mathlib.Algebra.GroupWithZero.Nat

namespace DiffView

variable {ts us : List Traits}

section Order

variable (h : us.Perm ts)

include h

theorem ChangeCounts.ofTraits_perm : ofTraits us = ofTraits ts := by
  simp only [ofTraits, h.countP_eq]

theorem SeverityCounts.ofTraits_perm : ofTraits us = ofTraits ts := by
  simp only [ofTraits, h.countP_eq]

theorem Category.ofTraits_perm : ofTraits us = ofTraits ts := by
  apply List.filter_congr
  intro c _
  exact h.any_eq

end Order

def ChangeCounts.of (c : ChangeCounts) : ChangeType → Nat
  | .added => c.added
  | .removed => c.removed
  | .modified => c.modified
  | .moved => c.moved

def SeverityCounts.of (c : SeverityCounts) : Severity → Nat
  | .high => c.high
  | .medium => c.medium
  | .low => c.low

def CategoryCounts.of (c : CategoryCounts) : Category → Nat
  | .grid => c.grid
  | .powerQuery => c.powerQuery
  | .model => c.model
  | .objects => c.objects
  | .other => c.other

@[simp] theorem ChangeCounts.of_ofTraits (ts : List Traits) (c : ChangeType) :
    (ofTraits ts).of c = ts.countP fun t => t.changeType = c := by
  cases c <;> rfl

@[simp] theorem SeverityCounts.of_ofTraits (ts : List Traits) (s : Severity) :
    (ofTraits ts).of s = ts.countP fun t => t.severity = s := by
  cases s <;> rfl

@[simp] theorem CategoryCounts.of_ofTraits (ts : List Traits) (c : Category) :
    (ofTraits ts).of c = ts.countP fun t => t.category = c := by
  cases c <;> rfl

namespace SeverityCounts

@[simp] theorem total_ofTraits (ts : List Traits) : (ofTraits ts).total = ts.length := by
  induction ts with
  | nil => rfl
  | cons t ts ih =>
      rw [total] at ih ⊢
      simp only [ofTraits, List.countP_cons, List.length_cons] at ih ⊢
      cases t.severity <;> simp <;> omega

theorem of_ofTraits_pos_iff {s : Severity} :
    0 < (ofTraits ts).of s ↔ ∃ t ∈ ts, t.severity = s := by
  rw [of_ofTraits, List.countP_pos_iff]
  simp only [decide_eq_true_eq]

theorem max?_eq_some_iff {c : SeverityCounts} {s : Severity} :
    c.max? = some s ↔ 0 < c.of s ∧ ∀ s', 0 < c.of s' → s'.rank ≤ s.rank := by
  -- Without the quantifier both sides speak of three counts.
  have hall (p : Severity → Prop) : (∀ s', p s') ↔ p .high ∧ p .medium ∧ p .low :=
    ⟨fun h => ⟨h _, h _, h _⟩, fun h s' => by cases s' <;> simp only [h]⟩
  rw [hall, max?]
  cases s <;> simp only [of, Severity.rank] <;> split_ifs <;> simp <;> omega

theorem max?_ofTraits_eq_some_iff {s : Severity} : (ofTraits ts).max? = some s ↔
    (∃ t ∈ ts, t.severity = s) ∧ ∀ t ∈ ts, t.severity.rank ≤ s.rank := by
  rw [max?_eq_some_iff, of_ofTraits_pos_iff]
  simp only [of_ofTraits_pos_iff, forall_exists_index, and_imp, forall_apply_eq_imp_iff₂]

theorem exists_max?_ofTraits (h : ts ≠ []) : ∃ s, (ofTraits ts).max? = some s := by
  obtain ⟨t, ht⟩ := List.exists_mem_of_ne_nil ts h
  have hpos : 0 < (ofTraits ts).of t.severity := of_ofTraits_pos_iff.mpr ⟨t, ht, rfl⟩
  rw [← Option.isSome_iff_exists, max?]
  cases hs : t.severity <;> rw [hs] at hpos <;> simp only [of] at hpos <;> split_ifs <;> simp

end SeverityCounts

namespace Category

variable {c : Category}

@[simp] theorem mem_ofTraits : c ∈ ofTraits ts ↔ ∃ t ∈ ts, t.category = c := by
  rw [ofTraits, List.mem_filter, List.any_eq_true]
  simp only [decide_eq_true_eq, and_iff_right_iff_imp]
  intro _
  cases c <;> decide

theorem ofTraits_pairwise (ts : List Traits) : (ofTraits ts).Pairwise fun c d => c.rank < d.rank :=
  (show all.Pairwise fun c d => c.rank < d.rank by decide).sublist List.filter_sublist

theorem sum_ofTraits (ts : List Traits) :
    ((ofTraits ts).map fun c => (ts.filter fun t => t.category = c).length).sum = ts.length := by
  have hnodup : (ofTraits ts).Nodup :=
    (ofTraits_pairwise ts).imp fun h heq => absurd (heq ▸ h) (Nat.lt_irrefl _)
  have hkeys : ∀ t ∈ ts, true ↔ t.category ∈ ofTraits ts := fun t ht =>
    iff_of_true rfl (mem_ofTraits.mpr ⟨t, ht, rfl⟩)
  -- The parts for the categories make up the whole list.
  have hperm := flatMap_filter_perm (fun t : Traits => t.category) hnodup hkeys
  rw [← List.length_flatMap, hperm.length_eq, List.filter_true]

end Category

end DiffView
