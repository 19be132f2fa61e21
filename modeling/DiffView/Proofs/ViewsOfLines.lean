import DiffView.Proofs.Slots
import Mathlib.Data.List.Induction
import Mathlib.Logic.Function.Basic
import Mathlib.Order.Bounds.Basic

namespace DiffView

namespace Axis

variable {a : Axis} {side : Side} {s : Slot} {line view : Nat}

theorem exists_le_lastNaming? {slots : List Slot} {n : Nat} (first : Nat)
    (h : (slots[n]?).bind (fun s => s.line? side) = some line) :
    ∃ view, first + n ≤ view ∧ lastNaming? side line first slots = some view := by
  induction slots generalizing first n with
  | nil => cases h
  | cons s slots ih =>
      rw [lastNaming?]
      cases n with
      | zero =>
          cases hrest : lastNaming? side line (first + 1) slots with
          | some later =>
              obtain ⟨m, hm, -⟩ := lastNaming?_eq_some hrest
              exact ⟨later, by omega, rfl⟩
          | none => exact ⟨first, Nat.le_refl _, if_pos h⟩
      | succ n =>
          obtain ⟨view, hle, hview⟩ := ih (first + 1) h
          exact ⟨view, by omega, by rw [hview, Option.some_or]⟩

theorem exists_le_viewOf? (hline : line < a.length side) (h : a.Names side view line) :
    ∃ last, view ≤ last ∧ a.viewOf? side line = some last := by
  obtain ⟨last, hle, hlast⟩ := exists_le_lastNaming? 0 h
  rw [Nat.zero_add] at hle
  exact ⟨last, hle, (if_pos hline).trans hlast⟩

theorem viewOf?_eq_some_iff : a.viewOf? side line = some view ↔
    line < a.length side ∧ IsGreatest {v | a.Names side v line} view := by
  constructor
  · intro h
    have hline : line < a.length side := by
      by_contra hline
      rw [viewOf?, if_neg hline] at h
      cases h
    refine ⟨hline, names_of_viewOf? h, ?_⟩
    intro later hlater
    obtain ⟨last, hle, hlast⟩ := exists_le_viewOf? hline hlater
    obtain rfl := Option.some_inj.mp (h.symm.trans hlast)
    exact hle
  · rintro ⟨hline, hview, hgreatest⟩
    obtain ⟨last, hle, hlast⟩ := exists_le_viewOf? hline hview
    have hge := hgreatest (names_of_viewOf? hlast)
    rw [hlast, Nat.le_antisymm hge hle]

theorem lineAt_of_names (h : a.Names side view line) : a.lineAt side view = line := by
  have hnames : (a.slot? view).bind (fun s => s.line? side) = some line := h
  rw [lineAt, hnames, Option.getD_some]

def NamesOnce (a : Axis) (side : Side) : Prop :=
  ∀ line < a.length side, ∀ view view', a.Names side view line → a.Names side view' line →
    view = view'

theorem namesOnce_iff : a.NamesOnce side ↔ ∀ view line, a.Names side view line →
    line < a.length side → a.viewOf? side (a.lineAt side view) = some view := by
  constructor
  · intro honce view line hview hline
    rw [lineAt_of_names hview]
    obtain ⟨last, -, hlast⟩ := exists_le_viewOf? hline hview
    rw [hlast, honce line hline last view (names_of_viewOf? hlast) hview]
  · intro hback line hline view view' hview hview'
    have h := hback view line hview hline
    have h' := hback view' line hview' hline
    rw [lineAt_of_names hview] at h
    rw [lineAt_of_names hview'] at h'
    exact Option.some_inj.mp (h.symm.trans h')

def push (a : Axis) (s : Slot) : Axis := { a with slots := a.slots ++ [s] }

@[simp] theorem length_push : (a.push s).length side = a.length side := by cases side <;> rfl

theorem names_push_iff : (a.push s).Names side view line ↔
    a.Names side view line ∨ view = a.count ∧ s.line? side = some line := by
  simp only [Names, slot?, push, count]
  rcases Nat.lt_trichotomy view a.slots.length with hlt | rfl | hgt
  · simp [List.getElem?_append_left hlt, Nat.ne_of_lt hlt]
  · simp
  · have hnone : (a.slots ++ [s])[view]? = none := by
      rw [List.getElem?_eq_none_iff, List.length_append, List.length_singleton]
      omega
    simp [hnone, List.getElem?_eq_none (Nat.le_of_lt hgt), Nat.ne_of_gt hgt]

theorem viewOf?_push (hline : line < a.length side) : (a.push s).viewOf? side line =
    if s.line? side = some line then some a.count else a.viewOf? side line := by
  split
  · rename_i hs
    refine viewOf?_eq_some_iff.mpr ⟨by rwa [length_push], names_push_iff.mpr (.inr ⟨rfl, hs⟩), ?_⟩
    intro view hview
    have hlt := Names.lt_count hview
    rw [count, push, List.length_append, List.length_singleton] at hlt
    exact Nat.le_of_lt_succ hlt
  · rename_i hs
    ext view
    rw [viewOf?_eq_some_iff, viewOf?_eq_some_iff, length_push]
    simp only [names_push_iff, hs, and_false, or_false]

theorem views_push : (a.push s).views side = match s.line? side with
    | some line => (a.views side).set line (some a.count)
    | none => a.views side := by
  have hviews : (a.push s).views side = (List.range (a.length side)).map fun line =>
      if s.line? side = some line then some a.count else a.viewOf? side line := by
    rw [views, length_push]
    exact List.map_congr_left fun line hline => viewOf?_push (List.mem_range.mp hline)
  rw [hviews]
  cases hs : s.line? side with
  | none => simp [views]
  | some named =>
      apply List.ext_getElem?
      intro line
      rw [List.getElem?_set, views, List.length_map, List.length_range, List.getElem?_map,
        List.getElem?_map]
      by_cases hnamed : named = line
      · subst hnamed
        by_cases hline : named < a.length side <;> simp [hline]
      · by_cases hline : line < a.length side <;> simp [hline, hnamed]

theorem strayCount_push : (a.push s).strayCount =
    a.strayCount + (if a.namesStray .old s then 1 else 0) +
      if a.namesStray .new s then 1 else 0 := by
  have hstray (side : Side) : (a.push s).namesStray side = a.namesStray side := by
    funext t
    simp [namesStray]
  rw [strayCount, strayCount, hstray, hstray, push, List.countP_append, List.countP_append,
    List.countP_singleton, List.countP_singleton, Nat.add_add_add_comm, ← Nat.add_assoc]

end Axis

/-- For each line of both sheets the place at which it shows, and how many names had no line. -/
structure ViewTable where
  views : Side → Array (Option Nat)
  strays : Nat

namespace ViewTable

variable {a : Axis} {t : ViewTable} {s : Slot} {side : Side}

def blank (a : Axis) : ViewTable := ⟨fun side => Array.replicate (a.length side) none, 0⟩

def write (t : ViewTable) (side : Side) (line view : Nat) : ViewTable where
  views := Function.update t.views side ((t.views side).setIfInBounds line (some view))
  strays := if line < (t.views side).size then t.strays else t.strays + 1

def addOn (t : ViewTable) (view : Nat) (s : Slot) (side : Side) : ViewTable :=
  match s.line? side with
  | some line => t.write side line view
  | none => t

def add (t : ViewTable) (view : Nat) (s : Slot) : ViewTable :=
  (t.addOn view s .old).addOn view s .new

def ofAxis (a : Axis) : ViewTable := a.slots.zipIdx.foldl (fun t s => t.add s.2 s.1) (blank a)

def get? (t : ViewTable) (side : Side) (line : Nat) : Option Nat := ((t.views side)[line]?).join

theorem views_addOn_self (h : t.views side = (a.views side).toArray) :
    (t.addOn a.count s side).views side = ((a.push s).views side).toArray := by
  rw [addOn, Axis.views_push]
  cases s.line? side with
  | none => exact h
  | some line => simp [write, h]

theorem views_addOn_of_ne {side' : Side} (h : side' ≠ side) (view : Nat) :
    (t.addOn view s side).views side' = t.views side' := by
  rw [addOn]
  cases s.line? side with
  | none => rfl
  | some line => exact Function.update_of_ne h _ _

theorem strays_addOn (h : (t.views side).size = a.length side) (view : Nat) :
    (t.addOn view s side).strays = t.strays + if a.namesStray side s then 1 else 0 := by
  rw [addOn, Axis.namesStray]
  cases s.line? side with
  | none => rfl
  | some line =>
      rcases Nat.lt_or_ge line (a.length side) with hline | hline
      · simp [write, h, hline]
      · simp [write, h, hline, Nat.not_lt.mpr hline]

structure Agrees (t : ViewTable) (a : Axis) : Prop where
  views_eq : ∀ side, t.views side = (a.views side).toArray
  strays_eq : t.strays = a.strayCount

theorem Agrees.size_views (h : t.Agrees a) (side : Side) :
    (t.views side).size = a.length side := by
  simp [h.views_eq, Axis.views]

theorem agrees_add (h : t.Agrees a) (s : Slot) : (t.add a.count s).Agrees (a.push s) where
  views_eq side := by
    rw [add]
    cases side with
    | old =>
        rw [views_addOn_of_ne (by decide)]
        exact views_addOn_self (h.views_eq .old)
    | new =>
        apply views_addOn_self
        rw [views_addOn_of_ne (by decide)]
        exact h.views_eq .new
  strays_eq := by
    have hnew : ((t.addOn a.count s .old).views .new).size = a.length .new := by
      rw [views_addOn_of_ne (by decide), h.size_views]
    rw [add, strays_addOn hnew, strays_addOn (h.size_views .old), h.strays_eq,
      Axis.strayCount_push]

theorem ofAxis_push (a : Axis) (s : Slot) : ofAxis (a.push s) = (ofAxis a).add a.count s := by
  have hblank : blank (a.push s) = blank a := by
    rw [blank, blank]
    simp
  rw [ofAxis, ofAxis, hblank, Axis.push, List.zipIdx_append, List.foldl_append]
  simp [Axis.count]

theorem agrees_ofAxis (a : Axis) : (ofAxis a).Agrees a := by
  obtain ⟨slots, oldLength, newLength⟩ := a
  induction slots using List.reverseRecOn with
  | nil =>
      refine ⟨fun side => ?_, rfl⟩
      have hnone (line : Nat) : (Axis.mk [] oldLength newLength).viewOf? side line = none :=
        Axis.viewOf?_of_bare (.inl rfl)
      simp [ofAxis, blank, Axis.views, hnone]
  | append_singleton slots s ih =>
      have hstep := agrees_add ih s
      rwa [← ofAxis_push] at hstep

@[simp] theorem get?_ofAxis (a : Axis) (side : Side) (line : Nat) :
    (ofAxis a).get? side line = a.viewOf? side line := by
  rw [get?, (agrees_ofAxis a).views_eq, List.getElem?_toArray, Axis.views, List.getElem?_map]
  by_cases hline : line < a.length side
  · simp [hline]
  · simp [hline, Axis.viewOf?]

end ViewTable

/-- A line of a sheet shows at the last slot that names it, so lines never share a place, and the
slot at that place names the line. Each slot that names a line of the sheet is its place, just if no
two of them name the same one. A table that is written slot by slot holds the same places. -/
theorem views_undo_slots (a : Axis) (side : Side) :
    (∀ line view, a.viewOf? side line = some view ↔
      line < a.length side ∧ IsGreatest {v | a.Names side v line} view) ∧
    (∀ line line' view, a.viewOf? side line = some view → a.viewOf? side line' = some view →
      line = line') ∧
    (∀ line view, a.viewOf? side line = some view → a.lineAt side view = line) ∧
    (a.NamesOnce side ↔ ∀ view line, a.Names side view line → line < a.length side →
      a.viewOf? side (a.lineAt side view) = some view) ∧
    (∀ line, (ViewTable.ofAxis a).get? side line = a.viewOf? side line) ∧
    (ViewTable.ofAxis a).views side = (a.views side).toArray ∧
    (ViewTable.ofAxis a).strays = a.strayCount := by
  have htable := ViewTable.agrees_ofAxis a
  refine ⟨fun line view => Axis.viewOf?_eq_some_iff, fun line line' view => Axis.viewOf?_inj, ?_,
    Axis.namesOnce_iff, ViewTable.get?_ofAxis a side, htable.views_eq side, htable.strays_eq⟩
  intro line view h
  exact Axis.lineAt_of_names (Axis.names_of_viewOf? h)

end DiffView
