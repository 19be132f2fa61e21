import DiffView.Op.Basic

namespace DiffView

namespace Op.Kind

def ofGrid : List Kind :=
  [sheetAdded, sheetRemoved, sheetRenamed, rowAdded, rowRemoved, rowReplaced, duplicateKeyCluster,
    columnAdded, columnRemoved, blockMovedRows, blockMovedColumns, blockMovedRect, rectReplaced,
    cellEdited]

def ofMoves : List Kind := [blockMovedRows, blockMovedColumns, blockMovedRect]

theorem mem_ofGrid_of_mem_ofMoves {k : Kind} (h : k ∈ ofMoves) : k ∈ ofGrid := by
  have hall : ∀ k ∈ ofMoves, k ∈ ofGrid := by decide
  exact hall k h

end Op.Kind

theorem Change.exists_grid_of_kind {c : Change} (h : c.kind ∈ Op.Kind.ofGrid) :
    ∃ sheet change, c = .grid sheet change := by
  cases c with
  | grid sheet change => exact ⟨sheet, change, rfl⟩
  | object change =>
      cases change with
      | vbaModule fate | chart fate =>
          cases fate <;> simp [kind, ObjectChange.kind, Op.Kind.ofGrid] at h
      | _ => simp [kind, ObjectChange.kind, Op.Kind.ofGrid] at h
  | query change => cases change <;> simp [kind, QueryChange.kind, Op.Kind.ofGrid] at h
  | model change => cases change <;> simp [kind, ModelChange.kind, Op.Kind.ofGrid] at h

namespace GridChange

variable {c : GridChange}

theorem eq_cellEdited_of_kind (h : c.kind = .cellEdited) :
    ∃ addr before after formula, c = .cellEdited addr before after formula := by
  cases c with
  | cellEdited addr before after formula => exact ⟨addr, before, after, formula, rfl⟩
  | lineAdded line | lineRemoved line => cases line <;> cases h
  | moved block => cases block <;> cases h
  | _ => cases h

@[simp] theorem kind_mem_ofMoves_iff :
    c.kind ∈ Op.Kind.ofMoves ↔ ∃ block hash, c = .moved block hash := by
  constructor
  · intro h
    cases c with
    | moved block hash => exact ⟨block, hash, rfl⟩
    | lineAdded line | lineRemoved line => cases line <;> simp [kind, Op.Kind.ofMoves] at h
    | _ => simp [kind, Op.Kind.ofMoves] at h
  · rintro ⟨block, hash, rfl⟩
    cases block <;> simp [kind, Op.Kind.ofMoves]

end GridChange

end DiffView
