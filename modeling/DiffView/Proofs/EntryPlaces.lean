import DiffView.Proofs.EditsByPlace
import DiffView.Proofs.HunksInGrid
import DiffView.Proofs.Kinds

namespace DiffView

namespace Op

/-- Where an edit is placed, blank or not. -/
def editPlace? (g : Grid) (op : Op) : Option Place := op.editAddress?.bind (Edits.placeOf? g)

/-- An operation has the name of an edit, and can not be read as one. -/
def IsUnread (op : Op) : Prop := op.editAddress? = none ∧ op.kindName = "CellEdited"

instance (op : Op) : Decidable op.IsUnread := inferInstanceAs (Decidable (_ ∧ _))

variable {op : Op}

theorem gridChange?_of_editAddress? {addr : Address} (h : op.editAddress? = some addr) :
    ∃ before after formula, op.gridChange? = some (.cellEdited addr before after formula) := by
  rw [editAddress?] at h
  split at h
  · rename_i before after formula hop
    cases h
    exact ⟨before, after, formula, hop⟩
  · cases h

theorem kindName_of_editAddress? {addr : Address} (h : op.editAddress? = some addr) :
    op.kindName = "CellEdited" := by
  obtain ⟨before, after, formula, hop⟩ := gridChange?_of_editAddress? h
  match op with
  | .known (.grid sheet change) =>
      cases hop
      rfl
  | .known (.object _) | .known (.query _) | .known (.model _) | .unknown _ => cases hop

theorem IsUnread.gridChange? (h : op.IsUnread) : op.gridChange? = none := by
  obtain ⟨haddr, hname⟩ := h
  cases op with
  | unknown u => rfl
  | known c =>
      change c.kind.name = "CellEdited" at hname
      have hkind : c.kind = .cellEdited := by
        have hfound : Kind.ofName? "CellEdited" = some .cellEdited :=
          Kind.ofName?_name .cellEdited
        rw [← hname, Kind.ofName?_name] at hfound
        exact Option.some_inj.mp hfound
      have hgrid : c.kind ∈ Kind.ofGrid := by
        rw [hkind]
        decide
      obtain ⟨sheet, change, rfl⟩ := Change.exists_grid_of_kind hgrid
      obtain ⟨addr, before, after, formula, rfl⟩ := GridChange.eq_cellEdited_of_kind hkind
      cases haddr

theorem editPlace?_of_editAddress? {g : Grid} {addr : Address} (h : op.editAddress? = some addr) :
    op.editPlace? g = Edits.placeOf? g addr := by
  rw [editPlace?, h, Option.bind_some]

end Op

namespace Edits

variable {r : Report} {g : Grid} {op : Op}

theorem Lands.editPlace?_eq {ignoreBlank : Bool} {p : Place} {e : Edit}
    (h : Lands r g ignoreBlank op p e) : op.editPlace? g = some p := by
  obtain ⟨addr, before, after, formula, hop, hplace, -⟩ := ofOp?_eq_some_iff.mp (lands_iff.mp h)
  rw [Op.editPlace?, Op.editAddress?, hop]
  exact hplace

theorem isLost_iff_editPlace? {addr : Address} (h : op.editAddress? = some addr) :
    IsLost g op ↔ op.editPlace? g = none := by
  rw [isLost_iff, isDropped, h, Op.editPlace?_of_editAddress? h, Option.isNone_iff_eq_none]

end Edits

namespace Entry

variable {r : Report} {g : Grid} {l : Listed} {p : Place}

theorem view_ofOp {addr : Address} (h : l.op.editAddress? = some addr) :
    (ofOp r g l).view = editView? g addr := by
  obtain ⟨before, after, formula, hop⟩ := Op.gridChange?_of_editAddress? h
  rw [ofOp, hop]
  rfl

theorem placeOf?_eq_some_iff {addr : Address} :
    Edits.placeOf? g addr = some p ↔ editView? g addr = some p ∧ p.col < colLimit := by
  rw [Edits.placeOf?_eq_some_iff, editView?, Option.bind_eq_bind, Option.bind_eq_some_iff,
    and_comm]
  simp only [Prod.exists, Grid.place?_eq_some_iff]

def IsBeyond (e : Entry) : Prop := ∃ p, e.view = some p ∧ colLimit ≤ p.col

instance (e : Entry) : Decidable e.IsBeyond :=
  inferInstanceAs (Decidable (∃ p, p ∈ e.view ∧ colLimit ≤ p.col))

structure OfEdit (g : Grid) (op : Op) (e : Entry) : Prop where
  place_iff : ∀ p, op.editPlace? g = some p ↔ e.view = some p ∧ p.col < colLimit
  view_of_lands : ∀ r ignoreBlank p edit, Edits.Lands r g ignoreBlank op p edit → e.view = some p
  lost_iff : Edits.IsLost g op ↔ e.view = none ∨ e.IsBeyond
  agrees_iff : (e.view.isSome ↔ ¬Edits.IsLost g op) ↔ ¬e.IsBeyond

theorem ofEdit {addr : Address} (h : l.op.editAddress? = some addr) :
    OfEdit g l.op (ofOp r g l) := by
  have hplace (p : Place) : l.op.editPlace? g = some p ↔
      (ofOp r g l).view = some p ∧ p.col < colLimit := by
    rw [Op.editPlace?_of_editAddress? h, placeOf?_eq_some_iff, view_ofOp h]
  have hlost : Edits.IsLost g l.op ↔ (ofOp r g l).view = none ∨ (ofOp r g l).IsBeyond := by
    rw [Edits.isLost_iff_editPlace? h, Option.eq_none_iff_forall_ne_some]
    simp only [ne_eq, hplace, not_and, Nat.not_lt]
    rw [IsBeyond]
    cases (ofOp r g l).view <;> simp
  refine ⟨hplace, fun r ignoreBlank p edit hlands => ((hplace p).mp hlands.editPlace?_eq).1,
    hlost, ?_⟩
  rw [hlost, IsBeyond]
  cases (ofOp r g l).view <;> simp

theorem view_of_isUnread (h : l.op.IsUnread) : (ofOp r g l).view = none := by
  rw [ofOp, h.gridChange?]

theorem isLost_or_isUnread_iff : Edits.IsLost g l.op ∨ l.op.IsUnread ↔
    l.op.kindName = "CellEdited" ∧ ((ofOp r g l).view = none ∨ (ofOp r g l).IsBeyond) := by
  cases haddr : l.op.editAddress? with
  | some addr =>
      have hunread : ¬l.op.IsUnread := fun h => Option.some_ne_none _ (haddr.symm.trans h.1)
      rw [(ofEdit haddr).lost_iff, or_iff_left hunread]
      exact (and_iff_right (Op.kindName_of_editAddress? haddr)).symm
  | none =>
      have hlost : ¬Edits.IsLost g l.op := by
        rintro ⟨addr, h, -⟩
        cases haddr.symm.trans h
      rw [or_iff_right hlost]
      constructor
      · exact fun h => ⟨h.2, .inl (view_of_isUnread h)⟩
      · exact fun h => ⟨haddr, h.1⟩

end Entry

namespace SheetView

variable (o : Options) (i : SheetInput)

theorem forall₂_entries : List.Forall₂ (fun l e => e = Entry.ofOp i.report i.grid l) i.ops
    (ofInput o i).entries :=
  List.forall₂_map_right_iff.mpr (List.forall₂_same.mpr fun _ _ => rfl)

theorem dropped_add_unread :
    (ofInput o i).edits.dropped + (i.ops.countP fun l => l.op.IsUnread) =
      ((ofInput o i).entries.countP fun e => e.kind = "CellEdited" ∧ e.view = none) +
        (ofInput o i).entries.countP fun e => e.kind = "CellEdited" ∧ e.IsBeyond := by
  have hdropped : (ofInput o i).edits.dropped = i.ops.countP fun l => Edits.IsLost i.grid l.op :=
    Edits.dropped_ofOps
  have hentries : (ofInput o i).entries = i.ops.map (Entry.ofOp i.report i.grid) := rfl
  rw [hdropped, hentries, List.countP_map, List.countP_map, countP_add_countP, countP_add_countP]
  · apply List.countP_congr
    intro l _
    have hkind : (Entry.ofOp i.report i.grid l).kind = l.op.kindName := rfl
    simp only [Function.comp_apply, Bool.or_eq_true, decide_eq_true_eq, hkind, ← and_or_left]
    exact Entry.isLost_or_isUnread_iff
  · rintro l - h hbeyond
    obtain ⟨-, p, hp, -⟩ := of_decide_eq_true hbeyond
    cases (of_decide_eq_true h).2.symm.trans hp
  · intro l _ hlost hunread
    obtain ⟨addr, h, -⟩ := of_decide_eq_true hlost
    cases (of_decide_eq_true hunread).1.symm.trans h

end SheetView

/-- The view places an edit where its entry shows it, unless that is beyond the column limit; then
the edit is dropped. So the entries of edits without a place are as many as the dropped edits just
if those that show a place beyond the limit are as many as what could not be read as an edit. -/
theorem edit_entries (o : Options) (i : SheetInput) :
    let v := SheetView.ofInput o i
    List.Forall₂ (fun l e => l.op.editAddress?.isSome → e.OfEdit i.grid l.op) i.ops v.entries ∧
      v.edits.dropped + (i.ops.countP fun l => l.op.IsUnread) =
        (v.entries.countP fun e => e.kind = "CellEdited" ∧ e.view = none) +
          v.entries.countP fun e => e.kind = "CellEdited" ∧ e.IsBeyond := by
  intro v
  refine ⟨(SheetView.forall₂_entries o i).imp ?_, SheetView.dropped_add_unread o i⟩
  rintro l e rfl hedit
  obtain ⟨addr, haddr⟩ := Option.isSome_iff_exists.mp hedit
  exact Entry.ofEdit haddr

def firstBeyond : Payload := { oneCell (setTo true 0 colLimit) with alignments := [] }

/-- The edit is dropped, and its entry has a place. -/
theorem not_edit_entries :
    ((SheetView.ofPayload? firstBeyond .default "S").map fun v =>
      (v.edits.dropped, v.entries.map fun e => (e.kind, e.view))) =
        some (1, [("CellEdited", some ⟨0, 16384⟩)]) ∧
    (¬∀ (p : Payload) (o : Options) (name : String) (v : SheetView),
      SheetView.ofPayload? p o name = some v →
      List.Forall₂ (fun l e => l.op.editAddress?.isSome →
          (e.view.isSome ↔ ¬Edits.IsLost v.grid l.op) ∧
            ∀ q, e.view = some q → l.op.editPlace? v.grid = some q)
        (p.sheetInput o.filters name).ops v.entries) ∧
    ¬∀ (p : Payload) (o : Options) (name : String) (v : SheetView),
      SheetView.ofPayload? p o name = some v →
      v.edits.dropped = v.entries.countP fun e => e.kind = "CellEdited" ∧ e.view = none := by
  refine ⟨rfl, ?_, ?_⟩
  · intro h
    obtain ⟨hedit, -⟩ := List.forall₂_cons.mp (h firstBeyond .default "S" _ rfl)
    have hplace := (hedit rfl).2 ⟨0, 16384⟩ rfl
    cases hplace
  · intro h
    exact absurd (h firstBeyond .default "S" _ rfl) (by decide)

end DiffView
