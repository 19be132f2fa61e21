import DiffView.Proofs.DerivedInterests

namespace DiffView

namespace Size

variable {size : Size} {b : Box} {o : Options}

def HasCells (size : Size) : Prop := 0 < size.rows ∧ 0 < size.cols

instance : Decidable size.HasCells := inferInstanceAs (Decidable (_ ∧ _))

instance (p : Place) : Decidable (p ∈ size) := inferInstanceAs (Decidable (_ ∧ _))

theorem not_hasCells_iff : ¬size.HasCells ↔ size.rows = 0 ∨ size.cols = 0 := by
  rw [HasCells]
  omega

structure Holds (size : Size) (b : Box) : Prop where
  upright : b.Upright
  bottom_lt : b.bottom < size.rows
  right_lt : b.right < size.cols

theorem Holds.expand (h : size.Holds b) (rows cols : Nat) :
    size.Holds (b.expand rows cols size.rows size.cols) := by
  have hrows : 0 < size.rows := Nat.zero_lt_of_lt h.bottom_lt
  have hcols : 0 < size.cols := Nat.zero_lt_of_lt h.right_lt
  have htop : b.top < size.rows + rows :=
    (h.upright.1.trans_lt h.bottom_lt).trans_le (Nat.le_add_right _ _)
  have hleft : b.left < size.cols + cols :=
    (h.upright.2.trans_lt h.right_lt).trans_le (Nat.le_add_right _ _)
  have hupright := (Box.upright_expand_iff _ _ hrows hcols h.upright).mpr ⟨htop, hleft⟩
  have hlt := Box.expand_lt rows cols hrows hcols b
  exact ⟨hupright, hlt.1, hlt.2⟩

theorem Holds.cap (h : size.Holds b) (n : Nat) : size.Holds (b.cap n) := by
  have hle := b.cap_le n
  exact ⟨Box.upright_cap_iff.mpr h.upright, hle.1.trans_lt h.bottom_lt, hle.2.trans_lt h.right_lt⟩

theorem Holds.preview (h : size.Holds b) : size.Holds (b.preview o size) := (h.expand _ _).cap _

end Size

/-- An interest begins in its sheet, unless the sheet has no cells. -/
def Interest.Begins (s : Sizes) (t : Interest) : Prop :=
  (s.on t.side).HasCells → t.box.corner ∈ s.on t.side

instance (s : Sizes) (t : Interest) : Decidable (t.Begins s) :=
  inferInstanceAs (Decidable (_ → _))

/-- A hunk is that of an interest. It lies in the sheet, unless that has no cells. -/
structure Sizes.RawHunkOf (s : Sizes) (t : Interest) (h : Hunk) : Prop where
  id : h.id = "hunk-" ++ t.id
  kind : h.kind = .raw t.side
  moveId : h.moveId = t.moveId
  holds : (s.on t.side).HasCells → (s.on t.side).Holds h.box

namespace Hunk

variable {o : Options} {s : Sizes} {t : Interest} {h : Hunk} {size : Size} {b : Box}

theorem boxIn?_eq_some_iff (hcells : size.HasCells) : boxIn? size t = some b ↔
    t.box.corner ∈ size ∧ b = { t.box with
      bottom := min t.box.bottom (size.rows - 1)
      right := min t.box.right (size.cols - 1) } := by
  obtain ⟨hrows, hcols⟩ := hcells
  have hcorner : t.box.corner ∈ size ↔ t.rowStart < size.rows ∧ t.colStart < size.cols := Iff.rfl
  rw [boxIn?, if_neg (by omega), hcorner]
  by_cases houtside : size.rows ≤ t.rowStart ∨ size.cols ≤ t.colStart
  · rw [if_pos houtside]
    refine iff_of_false (by simp) ?_
    omega
  · have hinside : t.rowStart < size.rows ∧ t.colStart < size.cols := by omega
    rw [if_neg houtside, Option.some_inj, eq_comm, and_iff_right hinside]
    rfl

theorem boxIn?_isSome_iff : (boxIn? size t).isSome ↔ (size.HasCells → t.box.corner ∈ size) := by
  by_cases hcells : size.HasCells
  · simp only [Option.isSome_iff_exists, boxIn?_eq_some_iff hcells, exists_and_left, exists_eq,
      and_true, hcells, true_imp_iff]
  · rw [boxIn?, if_pos (Size.not_hasCells_iff.mp hcells)]
    exact iff_of_true rfl fun h => absurd h hcells

theorem holds_of_boxIn? (hcells : size.HasCells) (h : boxIn? size t = some b) : size.Holds b := by
  obtain ⟨⟨hrow, hcol⟩, rfl⟩ := (boxIn?_eq_some_iff hcells).mp h
  have hbottom : t.rowStart ≤ t.box.bottom := Nat.le_max_right _ _
  have hright : t.colStart ≤ t.box.right := Nat.le_max_right _ _
  refine ⟨⟨?_, ?_⟩, ?_, ?_⟩
  · exact le_min hbottom (Nat.le_sub_one_of_lt hrow)
  · exact le_min hright (Nat.le_sub_one_of_lt hcol)
  · exact (min_le_right _ _).trans_lt (Nat.sub_one_lt_of_lt hrow)
  · exact (min_le_right _ _).trans_lt (Nat.sub_one_lt_of_lt hcol)

theorem ofInterest?_isSome_iff : (ofInterest? o s t).isSome ↔ t.Begins s := by
  rw [ofInterest?, Option.isSome_map, boxIn?_isSome_iff, Interest.Begins]

theorem rawHunkOf (hh : ofInterest? o s t = some h) : s.RawHunkOf t h := by
  obtain ⟨b, hb, rfl⟩ := Option.map_eq_some_iff.mp hh
  exact ⟨rfl, rfl, rfl, fun hcells => (holds_of_boxIn? hcells hb).preview⟩

theorem filterMap_ofInterest? (o : Options) (s : Sizes) (ts : List Interest) :
    ts.filterMap (ofInterest? o s) =
      (ts.filter fun t => t.Begins s).filterMap (ofInterest? o s) := by
  rw [List.filterMap_filter]
  apply List.filterMap_congr
  intro t _
  by_cases hbegins : t.Begins s
  · simp [hbegins]
  · have hnone : ofInterest? o s t = none := by
      rw [← Option.not_isSome_iff_eq_none, ofInterest?_isSome_iff]
      exact hbegins
    simp [hbegins, hnone]

end Hunk

theorem Interest.Inside.corner_mem {s : Sizes} {t : Interest} (h : t.Inside s) :
    t.box.corner ∈ s.on t.side :=
  ⟨h.rowStart_le.trans_lt h.rowEnd_lt, h.colStart_le.trans_lt h.colEnd_lt⟩

/-- Of a sheet with cells, the interests that begin in it have hunks, in the same order. These have
an extent, and lie in the sheet. Each interest that the operations ask for has one. -/
theorem raw_hunks_in_sheet (o : Options) (s : Sizes) (ts : List Interest) :
    (∀ t, (s.on t.side).HasCells → ((Hunk.ofInterest? o s t).isSome ↔
      t.rowStart < (s.on t.side).rows ∧ t.colStart < (s.on t.side).cols)) ∧
    List.Forall₂ s.RawHunkOf (ts.filter fun t => t.Begins s) (ts.filterMap (Hunk.ofInterest? o s)) ∧
    (∀ (limits : Options) (ops : List Listed),
      List.Forall₂ (fun t h => s.RawHunkOf t h ∧ (s.on t.side).Holds h.box)
        (Interest.ofOps limits s ops)
        ((Interest.ofOps limits s ops).filterMap (Hunk.ofInterest? o s))) ∧
    ∀ i : SheetInput, i.sizes = s → i.shownInterests o = ts →
      ¬(SheetView.ofInput o i).status.isShown →
      (SheetView.ofInput o i).hunks = ts.filterMap (Hunk.ofInterest? o s) := by
  refine ⟨?_, ?_, ?_, ?_⟩
  · intro t hcells
    rw [Hunk.ofInterest?_isSome_iff, Interest.Begins]
    exact ⟨fun h => h hcells, fun h _ => h⟩
  · rw [Hunk.filterMap_ofInterest?]
    apply forall₂_filterMap
    intro t ht
    have hbegins : t.Begins s := of_decide_eq_true (List.mem_filter.mp ht).2
    obtain ⟨h, hh⟩ := Option.isSome_iff_exists.mp (Hunk.ofInterest?_isSome_iff.mpr hbegins)
    exact ⟨h, hh, Hunk.rawHunkOf hh⟩
  · intro limits ops
    apply forall₂_filterMap
    intro t ht
    have hcorner := (Interest.inside_of_mem_ofOps ht).corner_mem
    obtain ⟨h, hh⟩ := Option.isSome_iff_exists.mp
      (Hunk.ofInterest?_isSome_iff (o := o).mpr fun _ => hcorner)
    have hof := Hunk.rawHunkOf hh
    exact ⟨h, hh, hof, hof.holds ⟨Nat.zero_lt_of_lt hcorner.1, Nat.zero_lt_of_lt hcorner.2⟩⟩
  · rintro i rfl rfl hshown
    exact if_neg hshown

end DiffView
