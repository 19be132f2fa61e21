import DiffView.Proofs.Anchors
import DiffView.Proofs.Parts

namespace DiffView

structure Region.ShownBy (r : Region) (h : Hunk) : Prop where
  id : h.id = "hunk-" ++ r.id
  kind : h.kind = .aligned r.id
  moveId : h.moveId = r.moveId
  label : h.label = r.label
  shown : r.shown = some h.box

theorem Region.exists_shownBy {o : Options} {g : Grid} (hg : g.isEmpty = false) (a : Area) :
    ∃ h, Hunk.ofRegion? (ofArea o g a) = some h ∧ (ofArea o g a).ShownBy h := by
  have hbox : shownBox? o g a.box = some _ := if_neg (Bool.eq_false_iff.mp hg)
  exact ⟨_, congrArg (Option.map _) hbox, rfl, rfl, rfl, rfl, hbox⟩

namespace SheetView

structure InGrid (v : SheetView) : Prop where
  count_pos : ∀ line, 0 < (v.grid.axis line).count
  hunks : List.Forall₂ Region.ShownBy v.regions v.hunks
  shownRegions : v.shownRegions = v.regions.map fun r => r.id

structure InList (v : SheetView) : Prop where
  shownRegions : v.shownRegions = []
  hunks : ∀ h ∈ v.hunks, ∃ side, h.kind = .raw side
  anchors : ∀ a ∈ v.anchors, ∃ item ∈ v.items, a.target = .list (elementId v.name item.id)

variable {o : Options} {i : SheetInput}

theorem inGrid (h : (ofInput o i).status.isShown) : (ofInput o i).InGrid where
  count_pos := i.grid.count_pos (Status.not_isEmpty_of_isShown h)
  hunks := by
    have hhunks : (ofInput o i).hunks = (ofInput o i).regions.filterMap Hunk.ofRegion? := if_pos h
    rw [hhunks]
    apply forall₂_filterMap
    intro r hr
    obtain ⟨a, -, rfl⟩ := Region.mem_ofOps.mp hr
    exact Region.exists_shownBy (Status.not_isEmpty_of_isShown h) a
  shownRegions := if_pos h

theorem inList (h : ¬(ofInput o i).status.isShown) : (ofInput o i).InList where
  shownRegions := if_neg h
  hunks := by
    have hhunks : (ofInput o i).hunks =
        (i.shownInterests o).filterMap (Hunk.ofInterest? o i.sizes) := if_neg h
    rw [hhunks]
    intro hunk hmem
    obtain ⟨interest, -, hof⟩ := List.mem_filterMap.mp hmem
    obtain ⟨box, -, rfl⟩ := Option.map_eq_some_iff.mp hof
    exact ⟨interest.side, rfl⟩
  anchors := by
    intro a ha
    obtain ⟨item, hitem, s, -, rfl⟩ := exists_stop_of_mem_anchors ha
    have hgrid : (ofInput o i).hasGrid = false := by
      rw [hasGrid, Bool.eq_false_iff.mpr h, Bool.false_and]
    exact ⟨item, hitem, Candidate.target_of_not_hasGrid hgrid⟩

end SheetView

/-- With a grid to show, a sheet has rows and columns, and a hunk for each of its regions, all of
which are to be shown. Without one, no region is to be shown, each hunk is a piece of a snapshot and
each anchor is an entry of the list of changes. -/
theorem status_governs (o : Options) (i : SheetInput) :
    ((SheetView.ofInput o i).status.isShown → (SheetView.ofInput o i).InGrid) ∧
      (¬(SheetView.ofInput o i).status.isShown → (SheetView.ofInput o i).InList) :=
  ⟨SheetView.inGrid, SheetView.inList⟩

end DiffView
