import DiffView.Proofs.Moves
import DiffView.Proofs.ShownSheets
import DiffView.Proofs.Survivors

namespace DiffView

namespace Area

variable {o : Options} {g : Grid} {es : Edits} {op op' : Op} {id : String}

def rectId (row col : Nat) : String := s!"rect-{row}-{col}"

theorem rectId_inj {row col row' col' : Nat} (h : rectId row col = rectId row' col') :
    row = row' ∧ col = col' := by
  have hchars := congrArg String.toList h
  simpa [rectId, toString] using hchars

theorem rectId_ne_endId (row col : Nat) (moveId : String) (side : Side) :
    rectId row col ≠ endId moveId side := by
  intro h
  have hhead := h ▸ head?_endId moveId side
  simp [rectId, toString] at hhead

theorem clusters_ids_nodup (o : Options) (es : Edits) : ((clusters o es).map (·.id)).Nodup := by
  refine List.Nodup.map_on (fun a ha b hb h => eq_of_mem_clusters ha hb h) ?_
  rw [clusters, List.Nodup, List.pairwise_iff_getElem]
  intro m n hm hn hmn heq
  have hrepr : (m + 1).repr = (n + 1).repr := by
    simpa [ofCluster, toString] using congrArg (·.id) heq
  have := Nat.repr_injective hrepr
  omega

/-- An operation gives an area an id: that of a rectangle with cells, or that of an end of a move
that can be seen. -/
inductive Named (g : Grid) (op : Op) : String → Prop
  | rect {row rows col cols : Nat} (h : op.gridChange? = some (.rectReplaced row rows col cols))
      (hcells : 0 < rows ∧ 0 < cols) : Named g op (rectId row col)
  | atEnd {b : Block} (side : Side) (hb : op.block? = some b)
      (hcover : (g.cover? side (b.rowsOn? side) (b.colsOn? side)).isSome) :
      Named g op (endId b.id side)

theorem exists_rect {row rows col cols : Nat}
    (hop : op.gridChange? = some (.rectReplaced row rows col cols)) (hcells : 0 < rows ∧ 0 < cols) :
    ∃ a ∈ ofOp g op, a.kind = .rect ∧ a.id = rectId row col := by
  have hcover : (g.cover? .new (some ⟨row, rows⟩) (some ⟨col, cols⟩)).isSome :=
    Grid.cover?_rect_isSome_iff.mpr hcells
  obtain ⟨box, hbox⟩ := Option.isSome_iff_exists.mp hcover
  refine ⟨ofBox (rectId row col) .rect none box, ?_, rfl, rfl⟩
  rw [ofOp, hop]
  exact Option.mem_toList.mpr (congrArg (Option.map _) hbox)

theorem rect_or_atEnd_of_mem_ofOp {a : Area} (ha : a ∈ ofOp g op) :
    (∃ row rows col cols, op.gridChange? = some (.rectReplaced row rows col cols) ∧
      (0 < rows ∧ 0 < cols) ∧ a.id = rectId row col) ∨
    ∃ b side, op.block? = some b ∧ (g.cover? side (b.rowsOn? side) (b.colsOn? side)).isSome ∧
      a.kind = endKind side ∧ a.id = endId b.id side := by
  rw [ofOp] at ha
  split at ha
  · rename_i row rows col cols hop
    obtain ⟨box, hbox, rfl⟩ := Option.map_eq_some_iff.mp (Option.mem_toList.mp ha)
    have hcells := Grid.cover?_rect_isSome_iff.mp (Option.isSome_of_eq_some hbox)
    exact .inl ⟨row, rows, col, cols, hop, hcells, rfl⟩
  · rename_i b hash hop
    obtain ⟨side, box, hbox, rfl⟩ := mem_ofBlock.mp ha
    exact .inr ⟨b, side, by rw [Op.block?, hop], Option.isSome_of_eq_some hbox, rfl, rfl⟩
  · cases ha

theorem mem_ids_ofOp : id ∈ (ofOp g op).map (·.id) ↔ Named g op id := by
  rw [List.mem_map]
  constructor
  · rintro ⟨a, ha, rfl⟩
    rcases rect_or_atEnd_of_mem_ofOp ha with
      ⟨row, rows, col, cols, hop, hcells, hid⟩ | ⟨b, side, hb, hcover, -, hid⟩
    · exact hid ▸ .rect hop hcells
    · exact hid ▸ .atEnd side hb hcover
  · intro h
    cases h with
    | rect hop hcells =>
        obtain ⟨a, ha, -, hid⟩ := exists_rect hop hcells
        exact ⟨a, ha, hid⟩
    | @atEnd b side hb hcover =>
        obtain ⟨box, hbox⟩ := Option.isSome_iff_exists.mp hcover
        obtain ⟨sheet, hash, rfl⟩ := Op.block?_eq_some_iff.mp hb
        exact ⟨_, mem_ofBlock.mpr ⟨side, box, hbox, rfl⟩, rfl⟩

theorem ids_ofBlock_sublist (g : Grid) (b : Block) :
    ((ofBlock g b).map (·.id)).Sublist [sourceId b.id, targetId b.id] := by
  have hone (id : String) (kind : RegionKind) (box? : Option Box) :
      ((box?.map (ofBox id kind (some b.id))).toList.map (·.id)).Sublist [id] := by
    cases box? with
    | none => exact List.nil_sublist _
    | some box => exact List.Sublist.refl _
  rw [ofBlock, List.map_append]
  exact (hone _ _ _).append (hone _ _ _)

theorem ids_ofOp_nodup (g : Grid) (op : Op) : ((ofOp g op).map (·.id)).Nodup := by
  rw [ofOp]
  split
  · cases g.cover? _ _ _ <;> simp
  · rename_i b hash hop
    have hne : sourceId b.id ≠ targetId b.id := by
      intro h
      have hends : endId b.id .old = endId b.id .new := h
      cases (endId_inj hends).2
    exact List.Nodup.sublist (ids_ofBlock_sublist g b) (by simpa using hne)
  · exact List.nodup_nil

/-- Two operations give areas the same id. -/
inductive Clash (g : Grid) (op op' : Op) : Prop
  | rects {row col rows cols rows' cols' : Nat}
      (h : op.gridChange? = some (.rectReplaced row rows col cols))
      (h' : op'.gridChange? = some (.rectReplaced row rows' col cols'))
      (hcells : 0 < rows ∧ 0 < cols) (hcells' : 0 < rows' ∧ 0 < cols')
  | moves {b : Block} (h : op.block? = some b) (h' : op'.block? = some b) (hareas : ofBlock g b ≠ [])

theorem clash_iff : Clash g op op' ↔ ∃ id, Named g op id ∧ Named g op' id := by
  constructor
  · intro h
    cases h with
    | rects h h' hcells hcells' =>
        exact ⟨_, .rect h hcells, .rect h' hcells'⟩
    | moves h h' hareas =>
        obtain ⟨a, ha⟩ := List.exists_mem_of_ne_nil _ hareas
        obtain ⟨side, box, hbox, -⟩ := mem_ofBlock.mp ha
        have hcover := Option.isSome_of_eq_some hbox
        exact ⟨_, .atEnd side h hcover, .atEnd side h' hcover⟩
  · rintro ⟨id, h, h'⟩
    cases h with
    | @rect row rows col cols hop hcells =>
        generalize hid : rectId row col = id at h'
        cases h' with
        | rect hop' hcells' =>
            obtain ⟨rfl, rfl⟩ := rectId_inj hid
            exact .rects hop hop' hcells hcells'
        -- Ids of rectangles and ids of moves begin with different letters.
        | atEnd side hb hcover => exact absurd hid (rectId_ne_endId _ _ _ _)
    | @atEnd b side hb hcover =>
        generalize hid : endId b.id side = id at h'
        cases h' with
        | rect hop' hcells' => exact absurd hid.symm (rectId_ne_endId _ _ _ _)
        | atEnd side' hb' hcover' =>
            obtain ⟨hblock, -⟩ := endId_inj hid
            obtain rfl := Block.id_inj hblock
            obtain ⟨box, hbox⟩ := Option.isSome_iff_exists.mp hcover
            refine .moves hb hb' (List.ne_nil_of_mem (mem_ofBlock.mpr ⟨side, box, hbox, rfl⟩))

end Area

theorem Region.ids_perm (o : Options) (g : Grid) (es : Edits) (ops : List Listed) :
    ((ofOps o g es ops).map (·.id)).Perm ((Area.clusters o es).map (·.id) ++
      ops.flatMap fun l => (Area.ofOp g l.op).map (·.id)) := by
  have h := (sortBy_perm Area.compare
    (Area.clusters o es ++ ops.flatMap fun l => Area.ofOp g l.op)).map (·.id)
  rw [List.map_append, List.map_flatMap] at h
  rw [ofOps, List.map_map]
  exact h

theorem Region.ids_nodup_iff {o : Options} {g : Grid} {es : Edits} {ops : List Listed} :
    ((ofOps o g es ops).map (·.id)).Nodup ↔
      ops.Pairwise fun l m => ¬Area.Clash g l.op m.op := by
  -- Clusters are numbered, so just the ids of operations can repeat.
  have hclusters : List.Disjoint ((Area.clusters o es).map (·.id))
      (ops.flatMap fun l => (Area.ofOp g l.op).map (·.id)) := by
    intro id hid hid'
    obtain ⟨a, ha, rfl⟩ := List.mem_map.mp hid
    obtain ⟨l, -, hl⟩ := List.mem_flatMap.mp hid'
    obtain ⟨b, hb, heq⟩ := List.mem_map.mp hl
    exact Area.head?_id_of_mem_ofOp hb (heq ▸ Area.head?_id_of_mem_clusters ha)
  have hops : ∀ l ∈ ops, ((Area.ofOp g l.op).map (·.id)).Nodup := fun l _ =>
    Area.ids_ofOp_nodup g l.op
  rw [(ids_perm o g es ops).nodup_iff, List.nodup_append', List.nodup_flatMap,
    and_iff_right (Area.clusters_ids_nodup o es), and_iff_left hclusters, and_iff_right hops]
  refine List.Pairwise.iff fun {l m} => ?_
  simp only [Function.onFun, List.disjoint_left, Area.mem_ids_ofOp, Area.clash_iff, not_exists,
    not_and]

theorem SheetView.InGrid.hunk_ids {v : SheetView} (h : v.InGrid) :
    v.hunks.map (·.id) = (v.regions.map (·.id)).map fun id => "hunk-" ++ id := by
  have hids : List.Forall₂ (· = ·) (v.regions.map fun r => "hunk-" ++ r.id)
      (v.hunks.map (·.id)) :=
    List.forall₂_map_left_iff.mpr (List.forall₂_map_right_iff.mpr
      (h.hunks.imp fun _ _ hk => hk.id.symm))
  rw [List.forall₂_eq_eq_eq] at hids
  rw [List.map_map]
  exact hids.symm

/-- The regions of a sheet have ids of their own just if no two operations clash: if no two of them
replace rectangles that begin in one cell, and no two make the same move. Where the grid is shown,
the same holds of its hunks and of the list of regions to show. -/
theorem region_ids_nodup_iff (o : Options) (i : SheetInput) :
    let v := SheetView.ofInput o i
    ((v.regions.map (·.id)).Nodup ↔ i.ops.Pairwise fun l m => ¬Area.Clash i.grid l.op m.op) ∧
    (v.status.isShown →
      ((v.hunks.map (·.id)).Nodup ↔ (v.regions.map (·.id)).Nodup) ∧
      (v.shownRegions.Nodup ↔ (v.regions.map (·.id)).Nodup)) := by
  refine ⟨Region.ids_nodup_iff, fun hshown => ?_⟩
  have hgrid := SheetView.inGrid hshown
  have hinj : Function.Injective fun id : String => "hunk-" ++ id := fun _ _ h =>
    (String.append_right_inj _).mp h
  constructor
  · rw [hgrid.hunk_ids, List.nodup_map_iff hinj]
  · rw [hgrid.shownRegions]

def nestedRects : Payload where
  report := ⟨none, [], [.known (.grid (.text "S") (.rectReplaced 0 1 0 1)),
    .known (.grid (.text "S") (.rectReplaced 0 1 0 2))], true, []⟩
  old := [⟨"S", 1, 2, [], false, none, none, none⟩]
  new := [⟨"S", 1, 2, [], false, none, none, none⟩]
  alignments := [⟨"S", [⟨some 0, some 0, .same, none⟩], [⟨some 0, some 0, .same, none⟩,
    ⟨some 1, some 1, .same, none⟩], [], false, none⟩]
  interests := []

/-- Rectangles that begin in one cell share an id, even if they differ in size. -/
theorem not_region_ids_nodup :
    ((SheetView.ofPayload? nestedRects .default "S").map fun v =>
      (v.regions.map (·.id), v.hunks.map (·.id), v.shownRegions)) =
        some (["rect-0-0", "rect-0-0"], ["hunk-rect-0-0", "hunk-rect-0-0"],
          ["rect-0-0", "rect-0-0"]) ∧
    ¬∀ (p : Payload) (o : Options) (name : String) (v : SheetView),
      SheetView.ofPayload? p o name = some v →
      ((p.sheetOps o.filters name).Pairwise fun l m => ∀ row rows col cols,
        l.op.gridChange? = some (.rectReplaced row rows col cols) → m.op.gridChange? ≠
          some (.rectReplaced row rows col cols)) →
      ((p.sheetOps o.filters name).Pairwise fun l m => ∀ id,
        l.op.moveId? = some id → m.op.moveId? ≠ some id) →
      (v.regions.map (·.id)).Nodup := by
  refine ⟨rfl, ?_⟩
  intro h
  have hrects : (nestedRects.sheetOps Options.default.filters "S").Pairwise fun l m =>
      ∀ row rows col cols, l.op.gridChange? = some (.rectReplaced row rows col cols) →
        m.op.gridChange? ≠ some (.rectReplaced row rows col cols) :=
    List.pairwise_pair.mpr fun _ _ _ _ hl hm => absurd (hl.trans hm.symm) (by decide)
  have hmoves : (nestedRects.sheetOps Options.default.filters "S").Pairwise fun l m =>
      ∀ id, l.op.moveId? = some id → m.op.moveId? ≠ some id :=
    List.pairwise_pair.mpr fun _ hl => nomatch hl
  exact absurd (h nestedRects .default "S" _ rfl hrects hmoves) (by decide)

end DiffView
