import DiffView.Edits
import DiffView.Proofs.Slots
import DiffView.Proofs.Sorting

namespace DiffView

theorem Place.mk_eq_some_iff {row? col? : Option Nat} {p : Place} :
    (do pure (Place.mk (← row?) (← col?))) = some p ↔ row? = some p.row ∧ col? = some p.col := by
  obtain ⟨r, c⟩ := p
  simp only [Option.bind_eq_bind, Option.pure_def, Option.bind_eq_some_iff, Option.some.injEq,
    Place.mk.injEq]
  constructor
  · rintro ⟨r', hr, c', hc, rfl, rfl⟩
    exact ⟨hr, hc⟩
  · rintro ⟨hr, hc⟩
    exact ⟨r, hr, c, hc, rfl, rfl⟩

namespace Grid

variable {g : Grid} {side : Side} {row col : Nat} {p : Place}

theorem place?_eq_some_iff : g.place? side row col = some p ↔
    g.rows.place? side row = some p.row ∧ g.cols.place? side col = some p.col :=
  Place.mk_eq_some_iff

theorem viewOf?_eq_some_iff : g.viewOf? side row col = some p ↔
    g.rows.viewOf? side row = some p.row ∧ g.cols.viewOf? side col = some p.col :=
  Place.mk_eq_some_iff

end Grid

namespace Edits

variable {r : Report} {g : Grid} {ignoreBlank : Bool} {ops : List Listed} {p : Place}

theorem placeOf?_eq_some_iff {addr : Address} :
    placeOf? g addr = some p ↔ p.col < colLimit ∧ ∃ row col, addr.indices? = some (row, col) ∧
      g.rows.place? .new row = some p.row ∧ g.cols.place? .new col = some p.col := by
  simp only [placeOf?, Option.bind_eq_bind, Option.bind_eq_some_iff, ← Grid.place?_eq_some_iff]
  constructor
  · rintro ⟨⟨row, col⟩, haddr, q, hq, h⟩
    obtain ⟨hlimit, h⟩ := Option.ite_none_right_eq_some.mp h
    cases h
    exact ⟨hlimit, row, col, haddr, hq⟩
  · rintro ⟨hlimit, row, col, haddr, hp⟩
    exact ⟨(row, col), haddr, p, hp, if_pos hlimit⟩

theorem ofOp?_eq_some_iff {op : Op} {e : Edit} :
    ofOp? r g ignoreBlank op = some (p, e) ↔ ∃ addr before after formula,
      op.gridChange? = some (.cellEdited addr before after formula) ∧ placeOf? g addr = some p ∧
        e = r.edit before after formula ∧ (ignoreBlank && e.isBlank) = false := by
  rw [ofOp?]
  constructor
  · intro h
    split at h
    · rename_i addr before after formula hop
      obtain ⟨q, hq, h⟩ := Option.bind_eq_some_iff.mp h
      obtain ⟨hblank, h⟩ := Option.ite_none_left_eq_some.mp h
      cases h
      exact ⟨addr, before, after, formula, hop, hq, rfl, Bool.eq_false_iff.mpr hblank⟩
    · cases h
  · rintro ⟨addr, before, after, formula, hop, hplace, rfl, hblank⟩
    rw [hop]
    simp only [hplace, Option.bind_eq_bind, Option.bind_some]
    exact if_neg (Bool.eq_false_iff.mp hblank)

@[simp] theorem mem_places_ofOps : p ∈ (ofOps r g ignoreBlank ops).places ↔
    ∃ l ∈ ops, ∃ e, ofOp? r g ignoreBlank l.op = some (p, e) := by
  simp only [places, ofOps, mem_ascending, List.mem_map, List.mem_filterMap, Prod.exists]
  constructor
  · rintro ⟨q, e, ⟨l, hl, he⟩, rfl⟩
    exact ⟨l, hl, e, he⟩
  · rintro ⟨l, hl, e, he⟩
    exact ⟨p, e, ⟨l, hl, he⟩, rfl⟩

theorem get?_ofOps {before after : List Listed} {l : Listed} {e : Edit}
    (hl : ofOp? r g ignoreBlank l.op = some (p, e))
    (hafter : ∀ m ∈ after, ∀ e', ofOp? r g ignoreBlank m.op ≠ some (p, e')) :
    (ofOps r g ignoreBlank (before ++ l :: after)).get? p = some e := by
  have hnone : ((after.filterMap fun m => ofOp? r g ignoreBlank m.op).reverse.find?
      fun e => e.1 = p) = none := by
    simp only [List.find?_eq_none, List.mem_reverse, List.mem_filterMap, decide_eq_true_eq]
    rintro ⟨q, e'⟩ ⟨m, hm, he'⟩ rfl
    exact hafter m hm e' he'
  simp [get?, ofOps, hl, hnone]

end Edits

end DiffView
