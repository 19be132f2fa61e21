import DiffView.Workbook.Routing
import Mathlib.Data.List.Basic

namespace DiffView

def Op.moveId? (op : Op) : Option String := op.block?.map Block.id

namespace Listed

def InOrder (ls : List Listed) : Prop := ls.Pairwise (fun l m => l.index < m.index)

variable {l m : Listed} {ls : List Listed}

@[simp] theorem mem_ofReport {r : Report} : l ∈ ofReport r ↔ r.ops[l.index]? = some l.op := by
  obtain ⟨i, op⟩ := l
  rw [ofReport, List.mem_mapIdx]
  constructor
  · rintro ⟨n, hn, h⟩
    cases h
    exact List.getElem?_eq_getElem hn
  · intro h
    obtain ⟨hi, hop⟩ := List.getElem?_eq_some_iff.mp h
    exact ⟨i, hi, congrArg (Listed.mk i) hop⟩

theorem ofReport_inOrder (r : Report) : InOrder (ofReport r) := by
  rw [InOrder, ofReport, List.pairwise_iff_getElem]
  intro i j hi hj hij
  simpa using hij

theorem firstMoves_cons (seen : List String) (l : Listed) (ls : List Listed) :
    firstMoves seen (l :: ls) =
      match l.op.moveId? with
      | some id => if id ∈ seen then firstMoves seen ls else l :: firstMoves (id :: seen) ls
      | none => l :: firstMoves seen ls := by
  rw [firstMoves, Op.moveId?]
  cases l.op.block? <;> rfl

theorem firstMoves_sublist (seen : List String) (ls : List Listed) :
    (firstMoves seen ls).Sublist ls := by
  induction ls generalizing seen with
  | nil => exact .slnil
  | cons l ls ih =>
      rw [firstMoves_cons]
      split
      · split
        · exact (ih seen).cons l
        · exact (ih _).cons_cons l
      · exact (ih seen).cons_cons l

theorem mem_firstMoves (h : InOrder ls) (seen : List String) :
    l ∈ firstMoves seen ls ↔ l ∈ ls ∧ ∀ id, l.op.moveId? = some id →
      id ∉ seen ∧ ∀ m ∈ ls, m.index < l.index → m.op.moveId? ≠ some id := by
  induction ls generalizing seen with
  | nil => simp [firstMoves]
  | cons a ls ih =>
      obtain ⟨ha, hls⟩ := List.pairwise_cons.mp h
      have hmem := ih hls
      rw [firstMoves_cons]
      split
      · rename_i id hid
        split
        · rw [hmem]
          grind
        · rw [List.mem_cons, hmem]
          grind
      · rw [List.mem_cons, hmem]
        grind

theorem kept_sublist (f : Filters) (ls : List Listed) : (kept f ls).Sublist ls := by
  rw [kept]
  split
  · exact (firstMoves_sublist [] _).trans List.filter_sublist
  · exact List.filter_sublist

end Listed

theorem Op.block?_eq_some_iff {op : Op} {b : Block} :
    op.block? = some b ↔ ∃ sheet hash, op = .known (.grid sheet (.moved b hash)) := by
  constructor
  · intro h
    rw [Op.block?] at h
    split at h
    · rename_i block hash hchange
      cases h
      rw [Op.gridChange?.eq_def] at hchange
      split at hchange
      · rename_i sheet change
        cases hchange
        exact ⟨sheet, hash, rfl⟩
      · cases hchange
    · cases h
  · rintro ⟨sheet, hash, rfl⟩
    rfl

theorem Filters.hides_of_moveId? (f : Filters) {op : Op} {id : String} (h : op.moveId? = some id) :
    f.hides op = false := by
  obtain ⟨b, hb, -⟩ := Option.map_eq_some_iff.mp h
  obtain ⟨sheet, hash, rfl⟩ := Op.block?_eq_some_iff.mp hb
  rfl

namespace Payload

/-- An operation of the report that no filter hides, and that repeats no earlier move where
repeated moves are left out. -/
structure Survives (p : Payload) (f : Filters) (l : Listed) : Prop where
  listed : p.report.ops[l.index]? = some l.op
  shown : f.hides l.op = false
  first : f.repeatedMoves → ∀ id, l.op.moveId? = some id →
    ∀ i op, i < l.index → p.report.ops[i]? = some op → op.moveId? ≠ some id

variable {p : Payload} {f : Filters} {l : Listed}

theorem keptOps_inOrder (p : Payload) (f : Filters) : Listed.InOrder (p.keptOps f) :=
  (Listed.ofReport_inOrder p.report).sublist (Listed.kept_sublist f _)

theorem mem_shown : l ∈ (Listed.ofReport p.report).filter (fun l => !f.hides l.op) ↔
    p.report.ops[l.index]? = some l.op ∧ f.hides l.op = false := by
  rw [List.mem_filter, Listed.mem_ofReport, Bool.not_eq_true']

@[simp] theorem mem_keptOps : l ∈ p.keptOps f ↔ p.Survives f l := by
  rw [keptOps, Listed.kept]
  split
  · rename_i hf
    have horder := (Listed.ofReport_inOrder p.report).sublist
      (List.filter_sublist (p := fun l => !f.hides l.op))
    rw [Listed.mem_firstMoves horder, mem_shown]
    -- What makes a move is never hidden, so no earlier move of the report is missing here.
    constructor
    · rintro ⟨⟨hlisted, hshown⟩, hfirst⟩
      refine ⟨hlisted, hshown, fun _ id hid i op hi hop hmove => ?_⟩
      have hmem := (mem_shown (l := ⟨i, op⟩)).mpr ⟨hop, f.hides_of_moveId? hmove⟩
      exact (hfirst id hid).2 _ hmem hi hmove
    · rintro ⟨hlisted, hshown, hfirst⟩
      refine ⟨⟨hlisted, hshown⟩, fun id hid => ⟨List.not_mem_nil, fun m hm hlt => ?_⟩⟩
      exact hfirst hf id hid m.index m.op hlt (mem_shown.mp hm).1
  · rename_i hf
    rw [mem_shown]
    exact ⟨fun h => ⟨h.1, h.2, fun h => absurd h hf⟩, fun h => ⟨h.listed, h.shown⟩⟩

end Payload

end DiffView
