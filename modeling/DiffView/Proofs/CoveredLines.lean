import DiffView.Proofs.Covers

namespace DiffView

namespace Span

variable {s t : Span} {ss : List Span}

theorem hull?_concat : hull? (ss ++ [s]) = some ((hull? ss).elim s fun r => r.join s) := by
  cases ss with
  | nil => rfl
  | cons t ss => simp [hull?]

theorem Bounds.eq {is : Set Nat} (hs : s.Bounds is) (ht : t.Bounds is) : s = t := by
  cases s
  cases t
  rw [mk.injEq]
  exact ⟨hs.first.unique ht.first, hs.last.unique ht.last⟩

end Span

theorem Stretch.last_eq {s : Stretch} (h : s.start ≤ maxIndex) :
    s.last = min (s.start + (s.count - 1)) maxIndex :=
  max_eq_right (le_min (Nat.le_add_right _ _) h)

theorem Axis.cover?_eq_some_iff {a : Axis} {side : Side} {s : Stretch} {run : Span} :
    a.cover? side s = some run ↔ s.count ≠ 0 ∧ run.Bounds (a.viewOrSame side '' s.lines) := by
  constructor
  · intro h
    exact ⟨cover?_isSome_iff.mp (Option.isSome_of_eq_some h), cover?_bounds h⟩
  · rintro ⟨hcount, hrun⟩
    obtain ⟨covering, hcovering⟩ := Option.isSome_iff_exists.mp (cover?_isSome_iff.mpr hcount)
    rw [hcovering, (cover?_bounds hcovering).eq hrun]

/-- What a walk along lines has covered so far, and the lines that it looked up. -/
structure Walk where
  run : Option Span
  looked : List Nat

namespace Walk

variable {a : Axis} {side : Side} {first count : Nat}

def start : Walk := ⟨none, []⟩

def widen (w : Walk) (s : Span) : Walk := { w with run := some (w.run.elim s fun r => r.join s) }

def look (a : Axis) (side : Side) (w : Walk) (line : Nat) : Walk :=
  { w.widen (.point (a.viewOrSame side line)) with looked := w.looked ++ [line] }

/-- Sums end at the last index. The lines beyond the sheet are covered by a single run. -/
def along (a : Axis) (side : Side) (first count : Nat) : Walk :=
  if count = 0 then start
  else
    let last := min (first + (count - 1)) maxIndex
    let stop := min (a.length side) (min (last + 1) maxIndex)
    let w := (List.range' first (stop - first)).foldl (look a side) start
    if a.length side ≤ last then w.widen ⟨max first (a.length side), last⟩ else w

variable {w : Walk} {ss : List Span}

theorem run_widen (h : w.run = Span.hull? ss) (s : Span) :
    (w.widen s).run = Span.hull? (ss ++ [s]) := by
  rw [Span.hull?_concat, ← h]
  rfl

theorem foldl_look (h : w.run = Span.hull? ss) (lines : List Nat) :
    lines.foldl (look a side) w =
      ⟨Span.hull? (ss ++ lines.map fun i => .point (a.viewOrSame side i)), w.looked ++ lines⟩ := by
  induction lines generalizing w ss with
  | nil => simp [← h]
  | cons line lines ih =>
      have hlook : (look a side w line).run =
          Span.hull? (ss ++ [.point (a.viewOrSame side line)]) := run_widen h _
      rw [List.foldl_cons, ih hlook, List.append_assoc]
      simp [look, widen]

theorem along_eq (hfirst : first ≤ maxIndex) (hlength : a.length side ≤ maxIndex) :
    along a side first count = ⟨a.cover? side ⟨first, count⟩, if count = 0 then [] else
      List.range' first (min (a.length side) ((Stretch.mk first count).last + 1) - first)⟩ := by
  have hlast := Stretch.last_eq (s := ⟨first, count⟩) hfirst
  rw [along, Axis.cover?, ← hlast]
  -- The sheet has no line at the last index, so a sum that ends there loses none.
  have hstop : min (a.length side) (min ((Stretch.mk first count).last + 1) maxIndex) =
      min (a.length side) ((Stretch.mk first count).last + 1) := by omega
  have hstart : start.run = Span.hull? [] := rfl
  split
  · rfl
  · simp only [hstop]
    rw [foldl_look hstart]
    split
    · simp only [widen, List.nil_append, Span.hull?_concat]
      rfl
    · simp only [List.nil_append, List.append_nil]
      rfl

theorem mem_looked_iff (hfirst : first ≤ maxIndex) (hlength : a.length side ≤ maxIndex)
    {line : Nat} : line ∈ (along a side first count).looked ↔
      count ≠ 0 ∧ line ∈ (Stretch.mk first count).lines ∧ line < a.length side := by
  rw [along_eq hfirst hlength]
  by_cases hcount : count = 0
  · simp [hcount]
  · simp only [hcount, if_false, ne_eq, not_false_eq_true, true_and]
    exact Stretch.mem_within (s := ⟨first, count⟩)

theorem nodup_looked (hfirst : first ≤ maxIndex) (hlength : a.length side ≤ maxIndex) :
    (along a side first count).looked.Nodup := by
  rw [along_eq hfirst hlength]
  by_cases hcount : count = 0
  · simp [hcount]
  · simp only [hcount, if_false]
    exact List.nodup_range'

end Walk

/-- The run that covers some lines goes from the least to the greatest index at which one of them
shows, also where they reach beyond the sheet or to the last index. A walk finds it that looks up
each line once, and no line beyond the sheet. -/
theorem covers_from_least_to_greatest (a : Axis) (side : Side) (first count : Nat)
    (hfirst : first ≤ maxIndex) (hlength : a.length side ≤ maxIndex) :
    let lines := Set.Icc first (min (first + count - 1) maxIndex)
    let w := Walk.along a side first count
    (a.cover? side ⟨first, count⟩ = none ↔ count = 0) ∧
    (∀ run, a.cover? side ⟨first, count⟩ = some run ↔ count ≠ 0 ∧
      IsLeast (a.viewOrSame side '' lines) run.first ∧
        IsGreatest (a.viewOrSame side '' lines) run.last) ∧
    w.run = a.cover? side ⟨first, count⟩ ∧ w.looked.Nodup ∧
    ∀ line, line ∈ w.looked ↔ count ≠ 0 ∧ line ∈ lines ∧ line < a.length side := by
  intro lines w
  have hlines (hcount : count ≠ 0) : (Stretch.mk first count).lines = lines := by
    rw [Stretch.lines, Stretch.last_eq hfirst, ← Nat.add_sub_assoc (Nat.pos_of_ne_zero hcount)]
  refine ⟨?_, fun run => ?_, congrArg Walk.run (Walk.along_eq hfirst hlength),
    Walk.nodup_looked hfirst hlength, fun line => ?_⟩
  · rw [← Option.not_isSome_iff_eq_none, Axis.cover?_isSome_iff, not_not]
  · rw [Axis.cover?_eq_some_iff]
    refine and_congr_right fun hcount => ?_
    rw [hlines hcount]
    exact ⟨fun h => ⟨h.first, h.last⟩, fun h => ⟨h.1, h.2⟩⟩
  · rw [Walk.mem_looked_iff hfirst hlength]
    refine and_congr_right fun hcount => ?_
    rw [hlines hcount]

def crossed : Axis := ⟨[⟨some 1, some 0, .same, none⟩, ⟨some 0, some 1, .same, none⟩], 2, 2⟩

theorem covers_from_least_to_greatest_of_crossed :
    1 ≤ maxIndex ∧ crossed.length .old ≤ maxIndex ∧
      crossed.cover? .old ⟨1, maxIndex⟩ = some ⟨0, maxIndex⟩ ∧
      IsLeast (crossed.viewOrSame .old '' Set.Icc 1 (min (1 + maxIndex - 1) maxIndex)) 0 := by
  have hfirst : 1 ≤ maxIndex := by decide
  have hlength : crossed.length .old ≤ maxIndex := by decide
  have hcover : crossed.cover? .old ⟨1, maxIndex⟩ = some ⟨0, maxIndex⟩ := by decide
  obtain ⟨-, hrun, -⟩ :=
    covers_from_least_to_greatest crossed .old 1 maxIndex hfirst hlength
  exact ⟨hfirst, hlength, hcover, ((hrun _).mp hcover).2.1⟩

end DiffView
