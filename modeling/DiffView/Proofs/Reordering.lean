import DiffView.Proofs.RawEdits
import DiffView.Proofs.SheetsApart
import DiffView.Proofs.Tallies

namespace DiffView

/-- An operation that adds or removes a line, or edits a cell. -/
inductive Op.Plain : Op → Prop
  | lineAdded (sheet : Ref) (line : Line) (i : Nat) :
    Plain (.known (.grid sheet (.lineAdded line i)))
  | lineRemoved (sheet : Ref) (line : Line) (i : Nat) :
    Plain (.known (.grid sheet (.lineRemoved line i)))
  | cellEdited (sheet : Ref) (addr : Address) (before after : CellState) (c : FormulaChange) :
    Plain (.known (.grid sheet (.cellEdited addr before after c)))

namespace Op.Plain

variable {op : Op} {r : Report} {g : Grid}

theorem block? (h : op.Plain) : op.block? = none := by cases h <;> rfl

theorem rename? (h : op.Plain) : Payload.rename? r op = none := by cases h <;> rfl

theorem areas (h : op.Plain) : Area.ofOp g op = [] := by cases h <;> rfl

theorem replacedRow? (h : op.Plain) : Item.replacedRow? op = none := by cases h <;> rfl

theorem plainText? (h : op.Plain) : Item.plainText? r op = none := by cases h <;> rfl

end Op.Plain

namespace Listed

variable {ls ms : List Listed} {β : Type}

def Reorders (ms ls : List Listed) : Prop := (ms.map fun l => l.op).Perm (ls.map fun l => l.op)

namespace Reorders

theorem map (h : Reorders ms ls) (f : Op → β) :
    (ms.map fun l => f l.op).Perm (ls.map fun l => f l.op) := by
  have hf := List.Perm.map f h
  rwa [List.map_map, List.map_map] at hf

theorem filterMap (h : Reorders ms ls) (f : Op → Option β) :
    (ms.filterMap fun l => f l.op).Perm (ls.filterMap fun l => f l.op) := by
  have hf := List.Perm.filterMap f h
  rwa [List.filterMap_map, List.filterMap_map] at hf

theorem countP (h : Reorders ms ls) (q : Op → Bool) :
    (ms.countP fun l => q l.op) = ls.countP fun l => q l.op := by
  have hq := List.Perm.countP_eq q h
  rwa [List.countP_map, List.countP_map] at hq

theorem forall_op (h : Reorders ms ls) {P : Op → Prop} (hls : ∀ l ∈ ls, P l.op) :
    ∀ m ∈ ms, P m.op := by
  intro m hm
  obtain ⟨l, hl, hop⟩ := List.mem_map.mp (h.mem_iff.mp (List.mem_map_of_mem hm))
  rw [← hop]
  exact hls l hl

end Reorders

end Listed

/-- Plain operations that edit no cell twice. -/
structure Independent (ops : List Op) : Prop where
  plain : ∀ op ∈ ops, op.Plain
  apart : (ops.filterMap Op.editedCell?).Nodup

theorem Independent.perm {ops ops' : List Op} (h : Independent ops) (hops : ops'.Perm ops) :
    Independent ops' :=
  ⟨fun op hop => h.plain op (hops.mem_iff.mp hop),
    (hops.filterMap Op.editedCell?).nodup_iff.mpr h.apart⟩

/-! ### Edits -/

theorem find?_key_perm {α κ : Type} [DecidableEq κ] {key : α → κ} {as bs : List α}
    (has : (as.map key).Nodup) (h : as.Perm bs) (k : κ) :
    (as.find? fun a => key a = k) = bs.find? fun a => key a = k := by
  cases hb : bs.find? fun a => key a = k with
  | none =>
      rw [List.find?_eq_none] at hb ⊢
      intro a ha
      exact hb a (h.mem_iff.mp ha)
  | some b =>
      have hkey : key b = k := by simpa using List.find?_some hb
      rw [← hkey]
      exact find?_key_eq_some has (h.mem_iff.mpr (List.mem_of_find?_eq_some hb))

namespace Edits

variable {r : Report} {g : Grid} {ignoreBlank : Bool} {ls ms : List Listed}

theorem nodup_placed (h : Independent (ls.map fun l => l.op)) :
    ((ofOps r g ignoreBlank ls).placed.map (·.1)).Nodup := by
  have hcells := h.apart
  rw [List.filterMap_map, List.Nodup, List.pairwise_filterMap] at hcells
  rw [List.Nodup, List.pairwise_map, ofOps, List.pairwise_filterMap]
  apply hcells.imp
  rintro l m hcells ⟨p, e⟩ hp ⟨q, e'⟩ hq rfl
  obtain ⟨row, col, hl, hplace⟩ := exists_place_of_ofOp? hp
  obtain ⟨row', col', hm, hplace'⟩ := exists_place_of_ofOp? hq
  obtain ⟨rfl, rfl⟩ := Grid.place?_inj hplace hplace'
  exact hcells _ hl _ hm rfl

theorem get?_perm {es es' : Edits} (hnodup : (es.placed.map (·.1)).Nodup)
    (h : es'.placed.Perm es.placed) (p : Place) : es'.get? p = es.get? p := by
  have hfind (as : List (Place × Edit)) (has : es.placed.Perm as) :
      (as.find? fun e => e.1 = p) = es.placed.find? fun e => e.1 = p :=
    (find?_key_perm hnodup has p).symm
  rw [get?, get?, hfind _ (es.placed.reverse_perm).symm,
    hfind _ (h.symm.trans es'.placed.reverse_perm.symm)]

variable (h : Listed.Reorders ms ls)

include h

theorem placed_reorder :
    (ofOps r g ignoreBlank ms).placed.Perm (ofOps r g ignoreBlank ls).placed :=
  h.filterMap (ofOp? r g ignoreBlank)

theorem dropped_reorder :
    (ofOps r g ignoreBlank ms).dropped = (ofOps r g ignoreBlank ls).dropped :=
  h.countP (isDropped g)

theorem places_reorder :
    (ofOps r g ignoreBlank ms).places = (ofOps r g ignoreBlank ls).places :=
  ascending_congr fun _ => ((placed_reorder h).map (·.1)).mem_iff

end Edits

/-! ### The view of a sheet -/

/-- Two views of a sheet are the same, but for the order of their entries and for the indices of
these. Hunks are the same where the grid is shown. -/
structure SheetView.SameUpToOrder (v w : SheetView) : Prop where
  name : v.name = w.name
  oldName : v.oldName = w.oldName
  status : v.status = w.status
  grid : v.grid = w.grid
  items : v.items = w.items
  regions : v.regions = w.regions
  anchors : v.anchors = w.anchors
  moves : v.moves = w.moves
  edit : ∀ p, v.edits.get? p = w.edits.get? p
  editedPlaces : v.edits.places = w.edits.places
  droppedEdits : v.edits.dropped = w.edits.dropped
  cellAt : ∀ p, v.cellAt p = w.cellAt p
  rawCellAt : ∀ side row col, v.rawCellAt side row col = w.rawCellAt side row col
  hunks : v.status.isShown → v.hunks = w.hunks
  shownRegions : v.shownRegions = w.shownRegions
  options : v.options = w.options
  entries : (v.entries.map (Entry.renumber fun _ => 0)).Perm
    (w.entries.map (Entry.renumber fun _ => 0))
  opCount : v.opCount = w.opCount
  severity : v.severity? = w.severity?
  severityCounts : v.severityCounts = w.severityCounts
  changeCounts : v.changeCounts = w.changeCounts
  categories : v.categories = w.categories

namespace Sheet

variable {s t : Sheet} (h : s = { t with edits := s.edits })
  (hedit : ∀ p, s.edits.get? p = t.edits.get? p)

include h hedit

theorem cellAt_congr (p : Place) : s.cellAt p = t.cellAt p := by
  rw [h, cellAt, cellAt]
  simp only [crossing, hedit]
  rfl

theorem rawCellAt_congr (side : Side) (row col : Nat) :
    s.rawCellAt side row col = t.rawCellAt side row col := by
  have hlone : s.loneCell side row col = t.loneCell side row col := by
    rw [h, loneCell, loneCell]
    simp only [hedit]
    rfl
  have hgrid : s.grid = t.grid := by rw [h]
  rw [rawCellAt, rawCellAt, hgrid, hlone]
  simp only [cellAt_congr h hedit]

end Sheet

/-! ### Regions and items -/

section Plain

variable {r : Report} {g : Grid} {ls : List Listed} (h : ∀ l ∈ ls, l.op.Plain)

include h

theorem Area.ofOps_of_plain : (ls.flatMap fun l => ofOp g l.op) = [] :=
  List.flatMap_eq_nil_iff.mpr fun l hl => (h l hl).areas

theorem Item.replacedRows_of_plain : replacedRows g ls = [] := by
  rw [replacedRows, List.filterMap_eq_nil_iff.mpr fun l hl => (h l hl).replacedRow?]
  rfl

theorem Item.ofMoves_of_plain (records : List MoveRecord) :
    ofMoves records ls = lineMoves records [] := by
  rw [ofMoves, List.filterMap_eq_nil_iff.mpr fun l hl => (h l hl).block?]
  exact List.append_nil _

theorem Item.ofOps_of_plain : ls.filterMap (ofOp? r) = [] := by
  apply List.filterMap_eq_nil_iff.mpr
  intro l hl
  rw [ofOp?, (h l hl).plainText?]
  rfl

end Plain

theorem Item.changedLines_reorder {g : Grid} {ls ms : List Listed} (h : Listed.Reorders ms ls)
    (line : Line) (side : Side) : changedLines g line side ms = changedLines g line side ls := by
  have hviews := (h.filterMap (changedLine? line side)).map ((g.axis line).viewOrSame side)
  exact congrArg (fun views => (Span.runs views).map (ofRun (g.axis line) line side))
    (ascending_congr fun _ => hviews.mem_iff)

namespace SheetInput

def withOps (i : SheetInput) (ops : List Listed) : SheetInput := { i with ops := ops }

variable {i : SheetInput} {ms : List Listed} (h : Listed.Reorders ms i.ops)
  (hops : ∀ l ∈ i.ops, l.op.Plain)

include h hops

theorem regions_reorder (o : Options) {es es' : Edits} (hplaces : es'.places = es.places) :
    Region.ofOps o i.grid es' ms = Region.ofOps o i.grid es i.ops := by
  rw [Region.ofOps, Region.ofOps, Area.ofOps_of_plain hops, Area.ofOps_of_plain (h.forall_op hops),
    Area.clusters, hplaces, ← Area.clusters]

theorem items_reorder (regions : List Region) : (i.withOps ms).items regions = i.items regions := by
  have hms := h.forall_op hops
  have hlines : Item.ofLines i.grid ms = Item.ofLines i.grid i.ops := by
    rw [Item.ofLines, Item.ofLines, Item.replacedRows_of_plain hms,
      Item.replacedRows_of_plain hops, Item.changedLines_reorder h, Item.changedLines_reorder h,
      Item.changedLines_reorder h, Item.changedLines_reorder h]
  change Item.ofLines i.grid ms ++ Item.ofMoves i.moveRecords ms ++
    regions.filterMap Item.ofRegion? ++ ms.filterMap (Item.ofOp? i.report) = _
  rw [items, hlines, Item.ofMoves_of_plain hms, Item.ofMoves_of_plain hops,
    Item.ofOps_of_plain hms, Item.ofOps_of_plain hops]

end SheetInput

namespace SheetView

theorem sameUpToOrder (o : Options) {i : SheetInput} {ms : List Listed}
    (h : Listed.Reorders ms i.ops) (hops : Independent (i.ops.map fun l => l.op)) :
    SameUpToOrder (ofInput o (i.withOps ms)) (ofInput o i) := by
  have hplain : ∀ l ∈ i.ops, l.op.Plain := List.forall_mem_map.mp hops.plain
  have hplaces : (ofInput o (i.withOps ms)).edits.places = (ofInput o i).edits.places :=
    Edits.places_reorder h
  have hedit (p : Place) : (ofInput o (i.withOps ms)).edits.get? p = (ofInput o i).edits.get? p :=
    Edits.get?_perm (Edits.nodup_placed hops) (Edits.placed_reorder h) p
  have hregions : (ofInput o (i.withOps ms)).regions = (ofInput o i).regions :=
    SheetInput.regions_reorder h hplain o hplaces
  have hitems : (ofInput o (i.withOps ms)).items = (ofInput o i).items := by
    change (i.withOps ms).items (ofInput o (i.withOps ms)).regions = i.items (ofInput o i).regions
    rw [hregions, SheetInput.items_reorder h hplain]
  have hanchors : (ofInput o (i.withOps ms)).anchors = (ofInput o i).anchors := by
    rw [anchors_ofInput, anchors_ofInput, hregions, hitems]
    rfl
  have hentries : ((ofInput o (i.withOps ms)).entries.map (Entry.renumber fun _ => 0)).Perm
      ((ofInput o i).entries.map (Entry.renumber fun _ => 0)) := by
    have hperm := h.map fun op => Entry.ofOp i.report i.grid ⟨0, op⟩
    change ((ms.map _).map _).Perm ((i.ops.map _).map _)
    rw [List.map_map, List.map_map]
    exact hperm
  have htraits : (ofInput o (i.withOps ms)).traits.Perm (ofInput o i).traits := by
    have hperm := hentries.map (·.traits)
    rw [List.map_map, List.map_map] at hperm
    exact hperm
  have hhunks (hshown : (ofInput o (i.withOps ms)).status.isShown) :
      (ofInput o (i.withOps ms)).hunks = (ofInput o i).hunks := by
    calc
      _ = (ofInput o (i.withOps ms)).regions.filterMap Hunk.ofRegion? := if_pos hshown
      _ = (ofInput o i).regions.filterMap Hunk.ofRegion? := by rw [hregions]
      _ = _ := (if_pos hshown).symm
  exact {
    name := rfl
    oldName := rfl
    status := rfl
    grid := rfl
    items := hitems
    regions := hregions
    anchors := hanchors
    moves := by rw [moves, moves, hitems]
    edit := hedit
    editedPlaces := hplaces
    droppedEdits := Edits.dropped_reorder h
    cellAt := Sheet.cellAt_congr rfl hedit
    rawCellAt := Sheet.rawCellAt_congr rfl hedit
    hunks := hhunks
    shownRegions := by rw [shownRegions, shownRegions, hregions]; rfl
    options := rfl
    entries := hentries
    opCount := by
      have hlength := hentries.length_eq
      rwa [List.length_map, List.length_map] at hlength
    severity := by
      rw [severity?, severity?, severityCounts, severityCounts,
        SeverityCounts.ofTraits_perm htraits]
    severityCounts := SeverityCounts.ofTraits_perm htraits
    changeCounts := ChangeCounts.ofTraits_perm htraits
    categories := Category.ofTraits_perm htraits }

end SheetView

namespace Payload

variable {p : Payload} {f : Filters} {name : String} {ops : List Op}

def opsOn (p : Payload) (f : Filters) (name : String) : List Op :=
  p.report.ops.filter fun op => decide (op.sheet?.map p.report.resolve = some name) && !f.hides op

def withOps (p : Payload) (ops : List Op) : Payload :=
  { p with report := { p.report with ops := ops } }

theorem opsOn_withOps (h : ops.Perm p.report.ops) (f : Filters) (name : String) :
    ((p.withOps ops).opsOn f name).Perm (p.opsOn f name) :=
  h.filter _

theorem filter_firstMoves {q : Op → Bool} (seen : List String) {ls : List Listed}
    (hq : ∀ l ∈ ls, q l.op → l.op.moveId? = none) :
    (Listed.firstMoves seen ls).filter (fun l => q l.op) = ls.filter fun l => q l.op := by
  induction ls generalizing seen with
  | nil => rfl
  | cons l ls ih =>
      have hrest (seen : List String) := ih seen fun m hm => hq m (List.mem_cons_of_mem l hm)
      rw [Listed.firstMoves_cons]
      split
      · rename_i id hid
        have hl : q l.op = false := by
          rw [Bool.eq_false_iff]
          intro hl
          cases hid.symm.trans (hq l List.mem_cons_self hl)
        split
        · rw [hrest, List.filter_cons, hl, if_neg Bool.false_ne_true]
        · rw [List.filter_cons, List.filter_cons, hrest]
      · rw [List.filter_cons, List.filter_cons, hrest]

theorem ops_sheetOps (h : Independent (p.opsOn f name)) :
    (p.sheetOps f name).map (fun l => l.op) = p.opsOn f name := by
  have hkept : p.sheetOps f name =
      ((Listed.ofReport p.report).filter fun l => !f.hides l.op).filter fun l =>
        l.sheetName? p.report = some name := by
    rw [sheetOps, keptOps, Listed.kept]
    split
    · apply filter_firstMoves (q := fun op => op.sheet?.map p.report.resolve = some name)
      intro l hl hsheet
      obtain ⟨hop, hshown⟩ := mem_shown.mp hl
      have hmem : l.op ∈ p.opsOn f name := by
        rw [opsOn, List.mem_filter, hshown, hsheet]
        exact ⟨List.mem_of_getElem? hop, rfl⟩
      rw [Op.moveId?, (h.plain _ hmem).block?]
      rfl
    · rfl
  rw [hkept, List.filter_filter, opsOn, ← ops_ofReport, List.filter_map]
  rfl

theorem oldName?_of_independent (h : Independent (p.opsOn f name)) : p.oldName? name = none := by
  have hnone (l : Listed) (hl : l ∈ p.sheetOps f name) : oldNameBy? p.report name l.op = none := by
    have hmem : l.op ∈ p.opsOn f name := by
      rw [← ops_sheetOps h]
      exact List.mem_map_of_mem hl
    rw [oldNameBy?, (h.plain _ hmem).rename?, Option.bind_none]
  rw [oldName?_eq_getLast? p f, List.filterMap_eq_nil_iff.mpr hnone, List.getLast?_nil]

end Payload

/-- In every order of the report, independent operations give the same view of their sheet. -/
theorem order_unseen (p : Payload) (o : Options) {name : String} {ops : List Op}
    (hops : ops.Perm p.report.ops) (h : Independent (p.opsOn o.filters name)) :
    Option.Rel SheetView.SameUpToOrder (SheetView.ofPayload? (p.withOps ops) o name)
      (SheetView.ofPayload? p o name) := by
  have hperm := Payload.opsOn_withOps hops o.filters name
  have h' := h.perm hperm
  have hreorders : Listed.Reorders ((p.withOps ops).sheetOps o.filters name)
      (p.sheetOps o.filters name) := by
    rw [Listed.Reorders, Payload.ops_sheetOps h, Payload.ops_sheetOps h']
    exact hperm
  have hinput : (p.withOps ops).sheetInput o.filters name =
      { (p.sheetInput o.filters name).withOps ((p.withOps ops).sheetOps o.filters name) with
        report := (p.withOps ops).report } := by
    rw [Payload.sheetInput, Payload.sheetInput, Payload.underName?, Payload.underName?,
      Payload.underName?, Payload.underName?, Payload.underName?, Payload.underName?,
      Payload.oldName?_of_independent h, Payload.oldName?_of_independent h']
    rfl
  have hview : SheetView.ofInput o ((p.withOps ops).sheetInput o.filters name) =
      SheetView.ofInput o ((p.sheetInput o.filters name).withOps
        ((p.withOps ops).sheetOps o.filters name)) := by
    rw [hinput]
    exact SheetView.ofInput_report o _ rfl
  have hempty : ((p.withOps ops).sheetOps o.filters name).isEmpty =
      (p.sheetOps o.filters name).isEmpty := by
    have hops := List.Perm.isEmpty_eq hreorders
    rwa [List.isEmpty_map, List.isEmpty_map] at hops
  rw [SheetView.ofPayload?, SheetView.ofPayload?, hempty, hview]
  split
  · exact .none
  · apply Option.Rel.some
    apply SheetView.sameUpToOrder o hreorders
    rw [← Payload.ops_sheetOps h] at h
    exact h

theorem order_unseen_of_reversed :
    let p := rowAddedThen [.known (.grid (.id 0) (setTo true 0 0)),
      .known (.grid (.text "S") (setTo false 0 1)), renamed "R" "T"]
    Independent (p.opsOn Options.default.filters "S") ∧
      (SheetView.ofPayload? p .default "S").map (·.edits.places) = some [⟨0, 0⟩, ⟨0, 1⟩] ∧
      Option.Rel SheetView.SameUpToOrder
        (SheetView.ofPayload? (p.withOps p.report.ops.reverse) .default "S")
        (SheetView.ofPayload? p .default "S") := by
  intro p
  have h : Independent (p.opsOn Options.default.filters "S") := by
    refine ⟨?_, by decide⟩
    have hops : p.opsOn Options.default.filters "S" = p.report.ops.take 3 := by decide
    rw [hops]
    intro op hop
    fin_cases hop
    · exact .lineAdded ..
    · exact .cellEdited ..
    · exact .cellEdited ..
  exact ⟨h, by decide, order_unseen p .default p.report.ops.reverse_perm h⟩

end DiffView
