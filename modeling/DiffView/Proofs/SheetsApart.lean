import DiffView.Proofs.KeptOnly
import DiffView.Proofs.RenamedSheets
import DiffView.Proofs.Strings

namespace DiffView

theorem Listed.InOrder.eq_of_mem_iff {ls ms : List Listed} (hl : InOrder ls) (hm : InOrder ms)
    (h : ∀ l, l ∈ ls ↔ l ∈ ms) : ls = ms := by
  have hperm : ls.Perm ms := (List.perm_ext_iff_of_nodup hl.nodup hm.nodup).mpr h
  exact hperm.eq_of_pairwise (fun a b _ _ hab hba => absurd hab hba.asymm) hl hm

namespace Payload

variable {p q : Payload} {f : Filters} {name source : String}

theorem mem_sheetOps_iff (hf : f.repeatedMoves = false) {l : Listed} :
    l ∈ p.sheetOps f name ↔ p.report.ops[l.index]? = some l.op ∧ f.hides l.op = false ∧
      l.sheetName? p.report = some name := by
  rw [mem_sheetOps, keptOps, Listed.kept, if_neg (Bool.eq_false_iff.mp hf), mem_shown, and_assoc]

theorem sheetName?_of_rename? {r : Report} {l : Listed} (h : rename? r l.op = some (name, source)) :
    l.sheetName? r = some name := by
  obtain ⟨sheet, ref, target, hop, rfl, -⟩ := rename?_eq_some_iff.mp h
  rw [Listed.sheetName?, hop]
  rfl

theorem oldName?_eq_getLast? (p : Payload) (f : Filters) (name : String) : p.oldName? name =
    ((p.sheetOps f name).filterMap fun l => oldNameBy? p.report name l.op).getLast? := by
  have hkept : (p.keptOps f).filterMap (fun l => oldNameBy? p.report name l.op) =
      p.report.ops.filterMap (oldNameBy? p.report name) := by
    have h := filterMap_rename?_kept (r := p.report) f (Listed.ofReport p.report)
    calc
      _ = ((Listed.ofReport p.report).filterMap fun l => rename? p.report l.op).filterMap
            fun rename => if name = rename.1 then some rename.2 else none := by
          rw [← h, List.filterMap_filterMap]
          rfl
      _ = ((Listed.ofReport p.report).map fun l => l.op).filterMap
            (oldNameBy? p.report name) := by
          rw [List.filterMap_filterMap, List.filterMap_map]
          rfl
      _ = _ := by rw [ops_ofReport]
  have hsheet : (p.sheetOps f name).filterMap (fun l => oldNameBy? p.report name l.op) =
      (p.keptOps f).filterMap fun l => oldNameBy? p.report name l.op := by
    rw [sheetOps, List.filterMap_filter]
    apply List.filterMap_congr
    intro l _
    split
    · rfl
    · rename_i hl
      symm
      rw [oldNameBy?_eq_none_iff]
      intro source hrename
      exact hl (decide_eq_true (sheetName?_of_rename? hrename))
  rw [hsheet, hkept, oldName?_eq_findSome?, ← List.head?_filterMap, List.filterMap_reverse,
    List.head?_reverse]

/-- Payloads that say the same about a sheet. Operations of other sheets may differ in any way, and
there may be more or fewer of them. -/
structure AgreeOn (name : String) (p q : Payload) : Prop where
  strings : q.report.strings = p.report.strings
  old : q.old = p.old
  new : q.new = p.new
  alignments : q.alignments = p.alignments
  interests : q.interests = p.interests
  ops : ∀ (i : Nat) (op : Op), op.sheet?.map p.report.resolve = some name →
    (q.report.ops[i]? = some op ↔ p.report.ops[i]? = some op)

namespace AgreeOn

theorem sheetOps (h : AgreeOn name p q) (hf : f.repeatedMoves = false) :
    q.sheetOps f name = p.sheetOps f name := by
  apply (q.sheetOps_inOrder f name).eq_of_mem_iff (p.sheetOps_inOrder f name)
  intro l
  rw [mem_sheetOps_iff hf, mem_sheetOps_iff hf, Listed.sheetName?_report h.strings]
  constructor
  · rintro ⟨hop, hshown, hsheet⟩
    exact ⟨(h.ops _ _ hsheet).mp hop, hshown, hsheet⟩
  · rintro ⟨hop, hshown, hsheet⟩
    exact ⟨(h.ops _ _ hsheet).mpr hop, hshown, hsheet⟩

theorem oldName? (h : AgreeOn name p q) (hf : f.repeatedMoves = false) :
    q.oldName? name = p.oldName? name := by
  have hby (op : Op) : oldNameBy? q.report name op = oldNameBy? p.report name op := by
    rw [oldNameBy?, rename?_report h.strings, ← oldNameBy?]
  rw [oldName?_eq_getLast? q f, oldName?_eq_getLast? p f, h.sheetOps hf]
  simp only [hby]

theorem sheetInput (h : AgreeOn name p q) (hf : f.repeatedMoves = false) :
    q.sheetInput f name = { p.sheetInput f name with report := q.report } := by
  have hsnapshot (side : Side) : q.snapshot? side = p.snapshot? side := by
    funext sheet
    cases side with
    | old => exact congrArg (List.find? fun s => s.name = sheet) h.old
    | new => exact congrArg (List.find? fun s => s.name = sheet) h.new
  have halignment : q.alignment? = p.alignment? := by
    funext sheet
    rw [alignment?, h.alignments, ← alignment?]
  have hinterests : q.interests? = p.interests? := by
    funext sheet
    rw [interests?, h.interests, ← interests?]
  simp only [Payload.sheetInput, underName?, h.sheetOps hf, h.oldName? hf, hsnapshot, halignment,
    hinterests]

end AgreeOn

end Payload

/-- Sheets do not interfere: unless repeated moves are left out, no operation of another sheet and
no rename of one has a part in the view of a sheet or in the cells that it shows. -/
theorem other_sheets_unseen {p q : Payload} (o : Options) {name : String}
    (hmoves : o.filters.repeatedMoves = false) (h : p.AgreeOn name q) :
    SheetView.ofPayload? q o name = SheetView.ofPayload? p o name := by
  have hview : SheetView.ofInput o (q.sheetInput o.filters name) =
      SheetView.ofInput o (p.sheetInput o.filters name) := by
    rw [h.sheetInput hmoves]
    exact SheetView.ofInput_report o _ h.strings
  rw [SheetView.ofPayload?, SheetView.ofPayload?, h.sheetOps hmoves, hview]

def rowAddedThen (others : List Op) : Payload :=
  .ofReport ⟨none, ["S", "T"], .known (.grid (.id 0) (.lineAdded .row 0)) :: others, true, []⟩

theorem other_sheets_unseen_of_rowAdded :
    let p := rowAddedThen [.known (.grid (.id 1) (.lineRemoved .col 2))]
    let q := rowAddedThen [renamed "R" "T", .known (.query (.added (.text "S")))]
    p.AgreeOn "S" q ∧ (SheetView.ofPayload? p .default "S").isSome ∧
      SheetView.ofPayload? q .default "S" = SheetView.ofPayload? p .default "S" := by
  intro p q
  have h : p.AgreeOn "S" q := by
    refine ⟨rfl, rfl, rfl, rfl, rfl, ?_⟩
    intro i op hop
    match i with
    | 0 => exact Iff.rfl
    | 1 =>
        constructor
        · rintro ⟨⟩
          exact absurd hop (by decide)
        · rintro ⟨⟩
          exact absurd hop (by decide)
    | 2 =>
        constructor
        · rintro ⟨⟩
          cases hop
        · rintro ⟨⟩
    | i + 3 => exact Iff.rfl
  exact ⟨h, rfl, other_sheets_unseen .default rfl h⟩

end DiffView
