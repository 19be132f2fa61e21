import DiffView.Proofs.Survivors
import Mathlib.Data.List.Nodup

namespace DiffView

def Op.makes (id : String) (op : Op) : Bool := op.moveId? = some id

theorem Op.makes_iff {id : String} {op : Op} : op.makes id ↔ op.moveId? = some id :=
  decide_eq_true_iff

namespace Listed

variable {l : Listed} {ls : List Listed}

theorem InOrder.nodup (h : InOrder ls) : ls.Nodup := by
  apply h.imp
  rintro l m hlt rfl
  exact Nat.lt_irrefl _ hlt

theorem InOrder.find?_eq_some_iff (h : InOrder ls) {q : Listed → Bool} :
    ls.find? q = some l ↔ l ∈ ls ∧ q l ∧ ∀ m ∈ ls, m.index < l.index → ¬q m := by
  induction ls with
  | nil => simp
  | cons a ls ih =>
      obtain ⟨ha, hls⟩ := List.pairwise_cons.mp h
      have hmem := ih hls
      rw [List.find?_cons]
      split
      · grind
      · rw [hmem]
        grind

end Listed

namespace Payload

variable {p : Payload} {f : Filters} {id : String}

def firstMove? (p : Payload) (id : String) : Option Listed :=
  (Listed.ofReport p.report).find? fun l => l.op.makes id

theorem firstMove?_eq_some_iff {l : Listed} :
    p.firstMove? id = some l ↔ p.report.ops[l.index]? = some l.op ∧ l.op.moveId? = some id ∧
      ∀ i op, i < l.index → p.report.ops[i]? = some op → op.moveId? ≠ some id := by
  rw [firstMove?, (Listed.ofReport_inOrder p.report).find?_eq_some_iff, Listed.mem_ofReport,
    Op.makes_iff]
  refine and_congr_right fun _ => and_congr_right fun _ => ?_
  constructor
  · intro h i op hi hop hmove
    exact h ⟨i, op⟩ (Listed.mem_ofReport.mpr hop) hi (Op.makes_iff.mpr hmove)
  · intro h m hm hlt hmove
    exact h m.index m.op hlt (Listed.mem_ofReport.mp hm) (Op.makes_iff.mp hmove)

theorem survives_iff_firstMove? (hf : f.repeatedMoves) {l : Listed} (hid : l.op.moveId? = some id) :
    p.Survives f l ↔ p.firstMove? id = some l := by
  rw [firstMove?_eq_some_iff]
  constructor
  · intro h
    exact ⟨h.listed, hid, h.first hf id hid⟩
  · rintro ⟨hlisted, -, hfirst⟩
    refine ⟨hlisted, f.hides_of_moveId? hid, ?_⟩
    intro _ id' hid'
    rw [hid] at hid'
    cases hid'
    exact hfirst

theorem filter_keptOps_makes (hf : f.repeatedMoves) (p : Payload) (id : String) :
    (p.keptOps f).filter (fun l => l.op.makes id) = (p.firstMove? id).toList := by
  have hmem (l : Listed) : l ∈ (p.keptOps f).filter (fun l => l.op.makes id) ↔
      l ∈ (p.firstMove? id).toList := by
    rw [List.mem_filter, mem_keptOps, Op.makes_iff, Option.mem_toList]
    constructor
    · rintro ⟨hl, hid⟩
      exact (survives_iff_firstMove? hf hid).mp hl
    · intro hl
      have hid := (firstMove?_eq_some_iff.mp hl).2.1
      exact ⟨(survives_iff_firstMove? hf hid).mpr hl, hid⟩
  have hnodup : ((p.keptOps f).filter fun l => l.op.makes id).Nodup :=
    (p.keptOps_inOrder f).nodup.filter _
  have hperm := (List.perm_ext_iff_of_nodup hnodup (by cases p.firstMove? id <;> simp)).mpr hmem
  cases h : p.firstMove? id with
  | none =>
      rw [h] at hperm
      exact hperm.eq_nil
  | some l =>
      rw [h] at hperm
      exact List.perm_singleton.mp hperm

/-- What is left out of a move comes after what is kept of it. -/
theorem not_mem_keptOps_iff (hf : f.repeatedMoves) {l : Listed}
    (hl : p.report.ops[l.index]? = some l.op) (hid : l.op.moveId? = some id) :
    l ∉ p.keptOps f ↔ ∃ m ∈ p.keptOps f, m.index < l.index ∧ m.op.moveId? = some id := by
  rw [mem_keptOps, survives_iff_firstMove? hf hid]
  constructor
  · intro h
    have hsome : (p.firstMove? id).isSome :=
      List.find?_isSome.mpr ⟨l, Listed.mem_ofReport.mpr hl, Op.makes_iff.mpr hid⟩
    obtain ⟨m, hm⟩ := Option.isSome_iff_exists.mp hsome
    obtain ⟨hlisted, hmid, hfirst⟩ := firstMove?_eq_some_iff.mp hm
    have hle : m.index ≤ l.index := Nat.le_of_not_lt fun hlt => hfirst l.index l.op hlt hl hid
    have hne : m.index ≠ l.index := by
      intro heq
      rw [heq, hl] at hlisted
      have hml : m = l := by cases m; cases l; simp_all
      exact h (hml ▸ hm)
    exact ⟨m, mem_keptOps.mpr ((survives_iff_firstMove? hf hmid).mpr hm),
      Nat.lt_of_le_of_ne hle hne, hmid⟩
  · rintro ⟨m, hm, hlt, hmid⟩ hfirst
    exact (firstMove?_eq_some_iff.mp hfirst).2.2 m.index m.op hlt (mem_keptOps.mp hm).listed hmid

theorem filter_sheetOps_makes (hf : f.repeatedMoves) (p : Payload) (name id : String) :
    (p.sheetOps f name).filter (fun l => l.op.makes id) =
      (p.firstMove? id).toList.filter fun l => l.sheetName? p.report = some name := by
  rw [sheetOps, List.filter_comm, filter_keptOps_makes hf]

end Payload

/-- An operation that makes a move is left out just if a kept one before it makes the same move.
So of all operations of a move, one is listed: the first one, by the sheet that it belongs to. -/
theorem first_of_each_move_kept (p : Payload) (f : Filters) (hf : f.repeatedMoves) :
    (∀ l id, p.report.ops[l.index]? = some l.op → l.op.moveId? = some id →
      (l ∉ p.keptOps f ↔ ∃ m ∈ p.keptOps f, m.index < l.index ∧ m.op.moveId? = some id)) ∧
    ∀ name id, (p.sheetOps f name).filter (fun l => l.op.makes id) =
      (p.firstMove? id).toList.filter fun l => l.sheetName? p.report = some name :=
  ⟨fun _ _ hl hid => Payload.not_mem_keptOps_iff hf hl hid,
    Payload.filter_sheetOps_makes hf p⟩

def firstMovesOnly : Filters := { Filters.none with repeatedMoves := true }

def rowsMoved (sheet : String) : Op :=
  .known (.grid (.text sheet) (.moved (.rows 2 3 10) none))

def twinMoves : Payload := .ofReport ⟨none, [], [rowsMoved "A", rowsMoved "B"], true, []⟩

theorem first_of_each_move_kept_of_twins :
    firstMovesOnly.repeatedMoves = true ∧
      (∃ m ∈ twinMoves.keptOps firstMovesOnly, m.index < 1 ∧
        m.op.moveId? = some "r:2+3->10") ∧
      (twinMoves.sheetOps firstMovesOnly "A").filter (fun l => l.op.makes "r:2+3->10") =
        [⟨0, rowsMoved "A"⟩] := by
  obtain ⟨hleft, hlisted⟩ := first_of_each_move_kept twinMoves firstMovesOnly rfl
  refine ⟨rfl, ?_, ?_⟩
  · exact (hleft ⟨1, rowsMoved "B"⟩ "r:2+3->10" rfl (by decide)).mp (by decide)
  · rw [hlisted "A" "r:2+3->10"]
    decide

/-- A move does not keep its place in a sheet if one of another sheet has the same id. -/
theorem not_first_of_each_sheet_kept :
    (twinMoves.sheetOps firstMovesOnly "B" = []) ∧
      ¬∀ (p : Payload) (f : Filters) (l : Listed) (id : String), f.repeatedMoves →
        p.report.ops[l.index]? = some l.op → l.op.moveId? = some id → l ∉ p.keptOps f →
        ∃ m ∈ p.keptOps f, m.index < l.index ∧ m.op.moveId? = some id ∧
          m.sheetName? p.report = l.sheetName? p.report := by
  refine ⟨by decide, ?_⟩
  intro h
  obtain ⟨m, hm, -, -, hsheet⟩ := h twinMoves firstMovesOnly ⟨1, rowsMoved "B"⟩ "r:2+3->10" rfl
    rfl (by decide) (by decide)
  have hkept : ∀ m ∈ twinMoves.keptOps firstMovesOnly,
      m.sheetName? twinMoves.report ≠ some "B" := by decide
  exact hkept m hm hsheet

end DiffView
