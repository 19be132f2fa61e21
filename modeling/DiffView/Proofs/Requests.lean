import DiffView.Proofs.Parts

namespace DiffView

namespace Part

def rowsShown (o : Options) (p : Part) : Stretch := p.rows.getD ⟨0, o.previewRows⟩

def colsShown (o : Options) (p : Part) : Stretch := p.cols.getD ⟨0, o.previewCols⟩

def request (o : Options) (kind : String) (p : Part) (moveId : Option String) : Request :=
  ⟨kind, p.side, p.rowsShown o, p.colsShown o, moveId⟩

end Part

/-- A change touches parts of the sheets, each in its own way. Edits are of one sheet. -/
inductive GridChange.Touches (edited : Side) : GridChange → String → Part → Option String → Prop
  | cell {addr : Address} {before after : CellState} {formula : FormulaChange} {row col : Nat}
      (h : addr.indices? = some (row, col)) :
      Touches edited (.cellEdited addr before after formula) "cell"
        ⟨edited, some ⟨row, 1⟩, some ⟨col, 1⟩⟩ none
  | rect (row rows col cols : Nat) (side : Side) :
      Touches edited (.rectReplaced row rows col cols) "rect_replaced"
        ⟨side, some ⟨row, rows⟩, some ⟨col, cols⟩⟩ none
  | rowReplaced (row : Nat) (side : Side) :
      Touches edited (.rowReplaced row) "row_replaced" (.ofLines .row side ⟨row, 1⟩) none
  | oldTwin {key : List Json.Value} {oldRows newRows : List Nat} {row : Nat} (h : row ∈ oldRows) :
      Touches edited (.duplicateKeys key oldRows newRows) "row_cluster"
        (.ofLines .row .old ⟨row, 1⟩) none
  | newTwin {key : List Json.Value} {oldRows newRows : List Nat} {row : Nat} (h : row ∈ newRows) :
      Touches edited (.duplicateKeys key oldRows newRows) "row_cluster"
        (.ofLines .row .new ⟨row, 1⟩) none
  | added (line : Line) (n : Nat) :
      Touches edited (.lineAdded line n) (line.word ++ "_added") (.ofLines line .new ⟨n, 1⟩) none
  | removed (line : Line) (n : Nat) :
      Touches edited (.lineRemoved line n) (line.word ++ "_removed") (.ofLines line .old ⟨n, 1⟩)
        none
  | source (b : Block) (hash : Option Nat) :
      Touches edited (.moved b hash) "move_src" (b.part .old) (some b.id)
  | target (b : Block) (hash : Option Nat) :
      Touches edited (.moved b hash) "move_dst" (b.part .new) (some b.id)

theorem GridChange.Touches.block {edited : Side} {c : GridChange} {kind : String} {p : Part}
    {id : String} (h : c.Touches edited kind p (some id)) :
    ∃ b hash, c = .moved b hash ∧ b.id = id := by
  cases h with
  | source b hash | target b hash => exact ⟨b, hash, rfl, rfl⟩

namespace Request

variable {o : Options} {edited : Side} {c : GridChange} {r : Request}

@[simp] theorem mem_bothSides {f : Side → Request} : r ∈ bothSides f ↔ ∃ side, f side = r := by
  constructor
  · intro h
    rcases List.mem_pair.mp h with rfl | rfl
    · exact ⟨.old, rfl⟩
    · exact ⟨.new, rfl⟩
  · rintro ⟨side, rfl⟩
    cases side with
    | old => exact List.mem_cons_self
    | new => exact List.mem_cons_of_mem _ List.mem_cons_self

@[simp] theorem mem_ofChange_iff : r ∈ ofChange o edited c ↔
    ∃ kind p moveId, c.Touches edited kind p moveId ∧ p.request o kind moveId = r := by
  constructor
  · intro h
    cases c with
    | cellEdited addr before after formula =>
        rw [ofChange] at h
        split at h
        · rename_i row col haddr
          exact ⟨_, _, _, .cell haddr, (List.mem_singleton.mp h).symm⟩
        · cases h
    | rectReplaced row rows col cols =>
        rw [ofChange, mem_bothSides] at h
        obtain ⟨side, rfl⟩ := h
        exact ⟨_, _, _, .rect row rows col cols side, rfl⟩
    | lineAdded line n =>
        obtain rfl := List.mem_singleton.mp h
        exact ⟨_, _, _, .added line n, by cases line <;> rfl⟩
    | lineRemoved line n =>
        obtain rfl := List.mem_singleton.mp h
        exact ⟨_, _, _, .removed line n, by cases line <;> rfl⟩
    | rowReplaced row =>
        rw [ofChange, mem_bothSides] at h
        obtain ⟨side, rfl⟩ := h
        exact ⟨_, _, _, .rowReplaced row side, rfl⟩
    | duplicateKeys key oldRows newRows =>
        rcases List.mem_append.mp h with h | h
        · obtain ⟨row, hrow, rfl⟩ := List.mem_map.mp h
          exact ⟨_, _, _, .oldTwin hrow, rfl⟩
        · obtain ⟨row, hrow, rfl⟩ := List.mem_map.mp h
          exact ⟨_, _, _, .newTwin hrow, rfl⟩
    | moved b hash =>
        rw [ofChange, mem_bothSides] at h
        obtain ⟨side, rfl⟩ := h
        cases side with
        | old => exact ⟨_, _, _, .source b hash, rfl⟩
        | new => exact ⟨_, _, _, .target b hash, rfl⟩
    | sheetAdded | sheetRemoved | sheetRenamed => cases h
  · rintro ⟨kind, p, moveId, h, rfl⟩
    cases h with
    | cell haddr =>
        rw [ofChange, haddr]
        exact List.mem_singleton_self _
    | rect row rows col cols side =>
        rw [ofChange, mem_bothSides]
        exact ⟨side, rfl⟩
    | rowReplaced row side =>
        rw [ofChange, mem_bothSides]
        exact ⟨side, rfl⟩
    | oldTwin h => exact List.mem_append_left _ (List.mem_map_of_mem h)
    | newTwin h => exact List.mem_append_right _ (List.mem_map_of_mem h)
    | added line n | removed line n => cases line <;> exact List.mem_singleton_self _
    | source b hash =>
        rw [ofChange, mem_bothSides]
        exact ⟨.old, rfl⟩
    | target b hash =>
        rw [ofChange, mem_bothSides]
        exact ⟨.new, rfl⟩

end Request

namespace Extent

variable {o : Options} {s : Sizes} {ops : List Listed} {e : Extent} {r : Request}

theorem ofRequest?_eq_some_iff : ofRequest? s r = some e ↔
    r.rows.clamp? (s.on (.one r.side)).rows = some e.rows ∧
      r.cols.clamp? (s.on (.one r.side)).cols = some e.cols ∧
      e.kind = r.kind ∧ e.side = r.side ∧ e.moveId = r.moveId := by
  obtain ⟨kind, side, rows, cols, moveId⟩ := e
  simp only [ofRequest?, Option.bind_eq_bind, Option.pure_def, Option.bind_eq_some_iff,
    Option.some.injEq, mk.injEq]
  constructor
  · rintro ⟨rows', hrows, cols', hcols, rfl, rfl, rfl, rfl, rfl⟩
    exact ⟨hrows, hcols, rfl, rfl, rfl⟩
  · rintro ⟨hrows, hcols, rfl, rfl, rfl⟩
    exact ⟨rows, hrows, cols, hcols, rfl, rfl, rfl, rfl, rfl⟩

@[simp] theorem mem_asked : e ∈ asked o s ops ↔ ∃ l ∈ ops, ∃ c, l.op.gridChange? = some c ∧
    ∃ kind p moveId, c.Touches s.editSide kind p moveId ∧
      ofRequest? s (p.request o kind moveId) = some e := by
  simp only [asked, List.mem_flatMap, List.mem_filterMap, Request.mem_ofChange_iff]
  constructor
  · rintro ⟨c, ⟨l, hl, hc⟩, -, ⟨kind, p, moveId, htouches, rfl⟩, he⟩
    exact ⟨l, hl, c, hc, kind, p, moveId, htouches, he⟩
  · rintro ⟨l, hl, c, hc, kind, p, moveId, htouches, he⟩
    exact ⟨c, ⟨l, hl, hc⟩, _, ⟨kind, p, moveId, htouches, rfl⟩, he⟩

theorem mem_ofOps : e ∈ ofOps o s ops ↔ ∃ l ∈ ops, ∃ c, l.op.gridChange? = some c ∧
    ∃ kind p moveId, c.Touches s.editSide kind p moveId ∧
      ofRequest? s (p.request o kind moveId) = some e := mem_distinct.trans mem_asked

end Extent

theorem Interest.exists_extent_of_mem_ofOps {o : Options} {s : Sizes} {ops : List Listed}
    {t : Interest} (h : t ∈ ofOps o s ops) : ∃ e ∈ Extent.ofOps o s ops, ∃ n, ofExtent e n = t := by
  obtain ⟨n, hn, rfl⟩ := List.mem_mapIdx.mp h
  exact ⟨_, List.getElem_mem hn, n, rfl⟩

end DiffView
