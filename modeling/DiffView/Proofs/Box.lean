import DiffView.Box
import Mathlib.Order.Bounds.Basic

namespace DiffView.Box

instance : Membership Place Box where
  mem b p := b.top ≤ p.row ∧ p.row ≤ b.bottom ∧ b.left ≤ p.col ∧ p.col ≤ b.right

theorem mem_iff {b : Box} {p : Place} :
    p ∈ b ↔ b.top ≤ p.row ∧ p.row ≤ b.bottom ∧ b.left ≤ p.col ∧ p.col ≤ b.right := Iff.rfl

/-- Every edge of the box is reached by some of the places, and none of them lies outside. -/
structure Bounds (b : Box) (s : Set Place) : Prop where
  top : IsLeast (Place.row '' s) b.top
  left : IsLeast (Place.col '' s) b.left
  bottom : IsGreatest (Place.row '' s) b.bottom
  right : IsGreatest (Place.col '' s) b.right

def join (b c : Box) : Box :=
  ⟨min b.top c.top, min b.left c.left, max b.bottom c.bottom, max b.right c.right⟩

theorem Bounds.mem {b : Box} {s : Set Place} (h : b.Bounds s) {p : Place} (hp : p ∈ s) : p ∈ b :=
  ⟨h.top.2 ⟨p, hp, rfl⟩, h.bottom.2 ⟨p, hp, rfl⟩, h.left.2 ⟨p, hp, rfl⟩, h.right.2 ⟨p, hp, rfl⟩⟩

theorem Bounds.join {b c : Box} {s t : Set Place} (hb : b.Bounds s) (hc : c.Bounds t) :
    (b.join c).Bounds (s ∪ t) where
  top := by rw [Set.image_union]; exact hb.top.union hc.top
  left := by rw [Set.image_union]; exact hb.left.union hc.left
  bottom := by rw [Set.image_union]; exact hb.bottom.union hc.bottom
  right := by rw [Set.image_union]; exact hb.right.union hc.right

end DiffView.Box
