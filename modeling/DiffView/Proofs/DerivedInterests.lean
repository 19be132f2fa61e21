import DiffView.Proofs.InterestKeys
import DiffView.Proofs.Previews

namespace DiffView

namespace Stretch

variable {s : Stretch} {length : Nat} {run : Span}

theorem clamp?_eq_some_iff : s.clamp? length = some run ↔
    0 < s.count ∧ s.start < length ∧ run = ⟨s.start, min s.last (length - 1)⟩ := by
  rw [clamp?]
  by_cases hinside : s.count = 0 ∨ length ≤ s.start
  · rw [if_pos hinside]
    refine iff_of_false (by simp) ?_
    omega
  · rw [if_neg hinside, Option.some_inj, eq_comm]
    have hpos : 0 < s.count ∧ s.start < length := by omega
    simp only [hpos, true_and]

theorem clamp?_isSome_iff : (s.clamp? length).isSome ↔ 0 < s.count ∧ s.start < length := by
  simp only [Option.isSome_iff_exists, clamp?_eq_some_iff, exists_and_left, exists_eq, and_true]

theorem bounds_of_clamp? (h : s.clamp? length = some run) :
    run.first ≤ run.last ∧ run.last < length := by
  obtain ⟨-, hlt, rfl⟩ := clamp?_eq_some_iff.mp h
  have hle := s.start_le_last
  constructor
  · show s.start ≤ min s.last (length - 1)
    omega
  · show min s.last (length - 1) < length
    omega

theorem mem_clamp?_iff (h : s.clamp? length = some run) {n : Nat} (hn : n ≤ maxIndex) :
    run.first ≤ n ∧ n ≤ run.last ↔ s.start ≤ n ∧ n < s.start + s.count ∧ n < length := by
  obtain ⟨hcount, hlt, rfl⟩ := clamp?_eq_some_iff.mp h
  simp only [last]
  omega

end Stretch

namespace Part

variable {o : Options} {p : Part}

def corner (p : Part) : Place :=
  ⟨p.rows.elim 0 fun s => s.start, p.cols.elim 0 fun s => s.start⟩

def HasCells (p : Part) : Prop := ∀ line s, p.on? line = some s → 0 < s.count

@[simp] theorem start_rowsShown : (p.rowsShown o).start = p.corner.row := by
  rw [rowsShown, corner]
  cases p.rows <;> rfl

@[simp] theorem start_colsShown : (p.colsShown o).start = p.corner.col := by
  rw [colsShown, corner]
  cases p.cols <;> rfl

theorem hasCells_iff (hrows : 0 < o.previewRows) (hcols : 0 < o.previewCols) :
    p.HasCells ↔ 0 < (p.rowsShown o).count ∧ 0 < (p.colsShown o).count := by
  have hline : p.HasCells ↔ (∀ s, p.rows = some s → 0 < s.count) ∧
      ∀ s, p.cols = some s → 0 < s.count := by
    constructor
    · exact fun h => ⟨h .row, h .col⟩
    · rintro ⟨hrow, hcol⟩ (_ | _)
      · exact hrow
      · exact hcol
  rw [hline, rowsShown, colsShown]
  cases p.rows <;> cases p.cols <;> simp [hrows, hcols]

/-- An operation touches a part, which has cells and begins in its sheet. -/
structure Asked (s : Sizes) (ops : List Listed) (kind : String) (p : Part)
    (moveId : Option String) : Prop where
  touches : ∃ l ∈ ops, ∃ c, l.op.gridChange? = some c ∧ c.Touches s.editSide kind p moveId
  hasCells : p.HasCells
  corner_mem : p.corner ∈ s.on (.one p.side)

end Part

namespace Extent

variable {o : Options} {s : Sizes} {ops : List Listed} {e : Extent} {p : Part} {kind : String}
  {moveId : Option String}

/-- A sheet has something of a part just if the part has cells and begins in the sheet. -/
theorem exists_ofRequest?_iff (hrows : 0 < o.previewRows) (hcols : 0 < o.previewCols) :
    (∃ e, ofRequest? s (p.request o kind moveId) = some e) ↔
      p.HasCells ∧ p.corner ∈ s.on (.one p.side) := by
  have hclamps : (∃ e, ofRequest? s (p.request o kind moveId) = some e) ↔
      ((p.rowsShown o).clamp? (s.on (.one p.side)).rows).isSome ∧
        ((p.colsShown o).clamp? (s.on (.one p.side)).cols).isSome := by
    simp only [ofRequest?_eq_some_iff, Option.isSome_iff_exists]
    constructor
    · rintro ⟨e, hrow, hcol, -⟩
      exact ⟨⟨_, hrow⟩, ⟨_, hcol⟩⟩
    · rintro ⟨⟨rows, hrow⟩, ⟨cols, hcol⟩⟩
      exact ⟨⟨kind, p.side, rows, cols, moveId⟩, hrow, hcol, rfl, rfl, rfl⟩
  rw [hclamps, Stretch.clamp?_isSome_iff, Stretch.clamp?_isSome_iff, Part.start_rowsShown,
    Part.start_colsShown, Part.hasCells_iff hrows hcols, and_and_and_comm]
  rfl

theorem mem_ofOps_iff_asked (hrows : 0 < o.previewRows) (hcols : 0 < o.previewCols) :
    e ∈ ofOps o s ops ↔ ∃ kind p moveId, Part.Asked s ops kind p moveId ∧
      ofRequest? s (p.request o kind moveId) = some e := by
  rw [mem_ofOps]
  constructor
  · rintro ⟨l, hl, c, hc, kind, p, moveId, htouches, he⟩
    obtain ⟨hcells, hcorner⟩ := (exists_ofRequest?_iff hrows hcols).mp ⟨e, he⟩
    exact ⟨kind, p, moveId, ⟨⟨l, hl, c, hc, htouches⟩, hcells, hcorner⟩, he⟩
  · rintro ⟨kind, p, moveId, ⟨⟨l, hl, c, hc, htouches⟩, -, -⟩, he⟩
    exact ⟨l, hl, c, hc, kind, p, moveId, htouches, he⟩

end Extent

namespace Interest

variable {o : Options} {s : Sizes} {ops : List Listed} {e : Extent} {t : Interest} {p : Part}
  {kind : String} {moveId : Option String}

/-- An interest is what a sheet has of a part. Of whole rows or whole columns it is a preview. -/
structure IsOf (o : Options) (s : Sizes) (t : Interest) (kind : String) (p : Part)
    (moveId : Option String) : Prop where
  kind_eq : t.kind = kind
  side_eq : t.side = .one p.side
  moveId_eq : t.moveId = moveId
  rows : ∀ n ≤ maxIndex, t.rowStart ≤ n ∧ n ≤ t.rowEnd ↔ (p.rowsShown o).start ≤ n ∧
    n < (p.rowsShown o).start + (p.rowsShown o).count ∧ n < (s.on t.side).rows
  cols : ∀ n ≤ maxIndex, t.colStart ≤ n ∧ n ≤ t.colEnd ↔ (p.colsShown o).start ≤ n ∧
    n < (p.colsShown o).start + (p.colsShown o).count ∧ n < (s.on t.side).cols

/-- An interest has an extent, and all of it lies in its sheet. -/
structure Inside (s : Sizes) (t : Interest) : Prop where
  rowStart_le : t.rowStart ≤ t.rowEnd
  rowEnd_lt : t.rowEnd < (s.on t.side).rows
  colStart_le : t.colStart ≤ t.colEnd
  colEnd_lt : t.colEnd < (s.on t.side).cols

def key (t : Interest) : String × Sides × (Nat × Nat) × (Nat × Nat) × Option String :=
  (t.kind, t.side, (t.rowStart, t.rowEnd), (t.colStart, t.colEnd), t.moveId)

theorem exists_of_mem_extents (h : e ∈ Extent.ofOps o s ops) :
    ∃ n, ofExtent e n ∈ ofOps o s ops := by
  obtain ⟨n, hn, rfl⟩ := List.mem_iff_getElem.mp h
  exact ⟨n, List.mem_mapIdx.mpr ⟨n, hn, rfl⟩⟩

theorem isOf_ofExtent (h : Extent.ofRequest? s (p.request o kind moveId) = some e) (n : Nat) :
    (ofExtent e n).IsOf o s kind p moveId := by
  obtain ⟨hrows, hcols, hkind, hside, hmoveId⟩ := Extent.ofRequest?_eq_some_iff.mp h
  have hsides : (ofExtent e n).side = .one p.side := congrArg Sides.one hside
  refine ⟨hkind, hsides, hmoveId, ?_, ?_⟩
  · intro n hn
    rw [hsides]
    exact Stretch.mem_clamp?_iff hrows hn
  · intro n hn
    rw [hsides]
    exact Stretch.mem_clamp?_iff hcols hn

theorem inside_of_mem_ofOps (h : t ∈ ofOps o s ops) : t.Inside s := by
  obtain ⟨e, he, n, rfl⟩ := exists_extent_of_mem_ofOps h
  obtain ⟨-, -, -, -, kind, p, moveId, -, hr⟩ := Extent.mem_ofOps.mp he
  obtain ⟨hrows, hcols, -, hside, -⟩ := Extent.ofRequest?_eq_some_iff.mp hr
  rw [← hside] at hrows hcols
  obtain ⟨hrowle, hrowlt⟩ := Stretch.bounds_of_clamp? hrows
  obtain ⟨hcolle, hcollt⟩ := Stretch.bounds_of_clamp? hcols
  exact ⟨hrowle, hrowlt, hcolle, hcollt⟩

theorem keys_nodup (o : Options) (s : Sizes) (ops : List Listed) :
    ((ofOps o s ops).map key).Nodup := by
  have hkeys : (ofOps o s ops).map key =
      (Extent.ofOps o s ops).map fun e => key (ofExtent e 0) := by
    apply List.ext_getElem
    · simp [ofOps]
    · intro n hn hn'
      simp [ofOps, key, ofExtent]
  have hinj : Function.Injective fun e => key (ofExtent e 0) := by
    rintro ⟨kind, side, ⟨top, bottom⟩, ⟨left, right⟩, moveId⟩ e h
    cases h
    rfl
  rw [hkeys]
  exact (distinct_nodup _).map hinj

theorem ids_eq (o : Options) (s : Sizes) (ops : List Listed) :
    (ofOps o s ops).map (·.id) =
      (List.range (ofOps o s ops).length).map fun n => s!"ir-{n + 1}" := by
  apply List.ext_getElem
  · simp
  · intro n hn hn'
    simp [ofOps, ofExtent]

end Interest

/-- The interests that operations ask for lie in their sheets, differ in more than their ids, and
are numbered from one. They are what the sheets have of the parts that the operations touch, as far
as these have cells and begin in the sheet, and a text for each of them tells them apart as well. -/
theorem derived_interests (o : Options) (s : Sizes) (ops : List Listed)
    (hrows : 0 < o.previewRows) (hcols : 0 < o.previewCols) :
    let ts := Interest.ofOps o s ops
    (∀ t ∈ ts, t.Inside s) ∧ (ts.map Interest.key).Nodup ∧
    Extent.ofOps o s ops = distinctBy Extent.key (Extent.asked o s ops) ∧
    ts.map (·.id) = (List.range ts.length).map (fun n => s!"ir-{n + 1}") ∧
    (∀ kind p moveId, Part.Asked s ops kind p moveId → ∃ t ∈ ts, t.IsOf o s kind p moveId) ∧
    ∀ t ∈ ts, ∃ kind p moveId, Part.Asked s ops kind p moveId ∧ t.IsOf o s kind p moveId := by
  intro ts
  refine ⟨fun t => Interest.inside_of_mem_ofOps, Interest.keys_nodup o s ops,
    Extent.ofOps_eq_distinctBy o s ops, Interest.ids_eq o s ops, ?_, ?_⟩
  · intro kind p moveId hasked
    have hexists : ∃ e, Extent.ofRequest? s (p.request o kind moveId) = some e :=
      (Extent.exists_ofRequest?_iff hrows hcols).mpr ⟨hasked.hasCells, hasked.corner_mem⟩
    obtain ⟨e, hr⟩ := hexists
    have he : e ∈ Extent.ofOps o s ops :=
      (Extent.mem_ofOps_iff_asked hrows hcols).mpr ⟨kind, p, moveId, hasked, hr⟩
    obtain ⟨n, hn⟩ := Interest.exists_of_mem_extents he
    exact ⟨_, hn, Interest.isOf_ofExtent hr n⟩
  · intro t ht
    obtain ⟨e, he, n, rfl⟩ := Interest.exists_extent_of_mem_ofOps ht
    obtain ⟨kind, p, moveId, hasked, hr⟩ := (Extent.mem_ofOps_iff_asked hrows hcols).mp he
    exact ⟨kind, p, moveId, hasked, Interest.isOf_ofExtent hr n⟩

theorem derived_interests_of_movedRows :
    let s : Sizes := ⟨⟨3, 2⟩, ⟨2, 1⟩⟩
    let b : Block := .rows 1 2 1
    let ops : List Listed := [⟨0, .known (.grid (.text "S") (.moved b none))⟩]
    0 < Options.default.previewRows ∧ 0 < Options.default.previewCols ∧
      ∃ t ∈ Interest.ofOps .default s ops,
        t.IsOf .default s "move_dst" (b.part .new) (some b.id) := by
  intro s b ops
  have hrows : 0 < Options.default.previewRows := by decide
  have hcols : 0 < Options.default.previewCols := by decide
  obtain ⟨-, -, -, -, hshown, -⟩ := derived_interests .default s ops hrows hcols
  refine ⟨hrows, hcols, hshown _ _ _ ⟨⟨_, List.mem_cons_self, _, rfl, .target b none⟩, ?_, ?_⟩⟩
  · rintro (_ | _) t ht
    · cases ht
      decide
    · cases ht
  · exact ⟨by decide, by decide⟩

end DiffView
