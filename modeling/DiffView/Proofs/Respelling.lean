import DiffView.Proofs.Strings
import DiffView.Proofs.Survivors
import DiffView.Workbook.Json

namespace DiffView

variable {f : Ref → Ref} {r : Report} {g : Grid}

/-- Spelled by `f`, a reference stands for what it stands for in the report. -/
def Ref.Respells (f : Ref → Ref) (r : Report) : Prop := ∀ x, r.resolve (f x) = r.resolve x

theorem Ref.Respells.resolve (h : Ref.Respells f r) (x : Ref) : r.resolve (f x) = r.resolve x :=
  h x

theorem Ref.Respells.resolve_map (h : Ref.Respells f r) (x : Option Ref) :
    (x.map f).map r.resolve = x.map r.resolve := by
  cases x with
  | none => rfl
  | some x => exact congrArg some (h x)

/-! ### Edits -/

def CellValue.mapRefs (f : Ref → Ref) : CellValue → CellValue
  | .text x => .text (f x)
  | .error x => .error (f x)
  | v => v

def Content.mapRefs (f : Ref → Ref) : Content → Content
  | .typed v => .typed (v.mapRefs f)
  | .raw v => .raw v

def CellState.mapRefs (f : Ref → Ref) (s : CellState) : CellState :=
  { s with content := s.content.map (Content.mapRefs f), formula := s.formula.map f }

namespace Report

theorem valueText_mapRefs (h : Ref.Respells f r) (v : CellValue) :
    r.valueText (v.mapRefs f) = r.valueText v := by
  cases v with
  | text x => exact h x
  | error x => exact h x
  | blank | number | bool => rfl

theorem contentText_mapRefs (h : Ref.Respells f r) (c : Option Content) :
    r.contentText (c.map (Content.mapRefs f)) = r.contentText c := by
  match c with
  | none => rfl
  | some (.typed v) => exact valueText_mapRefs h v
  | some (.raw v) => rfl

theorem formulaText_map (h : Ref.Respells f r) (x : Option Ref) :
    r.formulaText (x.map f) = r.formulaText x := by
  rw [formulaText, h.resolve_map, ← formulaText]

theorem edit_mapRefs (h : Ref.Respells f r) (before after : CellState) (c : FormulaChange) :
    r.edit (before.mapRefs f) (after.mapRefs f) c = r.edit before after c := by
  simp only [edit, CellState.mapRefs, contentText_mapRefs h, formulaText_map h]

end Report

/-! ### Operations -/

def GridChange.mapRefs (f : Ref → Ref) : GridChange → GridChange
  | .sheetRenamed source target => .sheetRenamed (f source) (target.map f)
  | .cellEdited addr before after c => .cellEdited addr (before.mapRefs f) (after.mapRefs f) c
  | c => c

def ObjectChange.mapRefs (f : Ref → Ref) : ObjectChange → ObjectChange
  | .vbaModule fate name => .vbaModule fate (f name)
  | .namedRangeAdded name => .namedRangeAdded (f name)
  | .namedRangeRemoved name => .namedRangeRemoved (f name)
  | .namedRangeChanged name old new => .namedRangeChanged (f name) (old.map f) (new.map f)
  | .chart fate sheet name => .chart fate (sheet.map f) (f name)

def QueryChange.mapRefs (f : Ref → Ref) : QueryChange → QueryChange
  | .added name => .added (f name)
  | .removed name => .removed (f name)
  | .renamed source target => .renamed (f source) (f target)
  | .redefined name edit hashes steps => .redefined (f name) edit hashes steps
  | .metadata name field old new => .metadata (f name) field (old.map f) (new.map f)

def Ends.mapRefs (f : Ref → Ref) (e : Ends) : Ends :=
  ⟨f e.fromTable, f e.fromColumn, f e.toTable, f e.toColumn⟩

def ModelChange.mapRefs (f : Ref → Ref) : ModelChange → ModelChange
  | .tableAdded name => .tableAdded (f name)
  | .tableRemoved name => .tableRemoved (f name)
  | .columnAdded table name type => .columnAdded (f table) (f name) (type.map f)
  | .columnRemoved table name => .columnRemoved (f table) (f name)
  | .columnRetyped table name old new =>
    .columnRetyped (f table) (f name) (old.map f) (new.map f)
  | .columnProperty table name field old new =>
    .columnProperty (f table) (f name) field (old.map f) (new.map f)
  | .columnRedefined table name edit hashes => .columnRedefined (f table) (f name) edit hashes
  | .relationshipAdded ends => .relationshipAdded (ends.mapRefs f)
  | .relationshipRemoved ends => .relationshipRemoved (ends.mapRefs f)
  | .relationshipProperty ends field old new =>
    .relationshipProperty (ends.mapRefs f) field (old.map f) (new.map f)
  | .measureAdded name => .measureAdded (f name)
  | .measureRemoved name => .measureRemoved (f name)
  | .measureRedefined name edit hashes => .measureRedefined (f name) edit hashes

def Change.mapRefs (f : Ref → Ref) : Change → Change
  | .grid sheet c => .grid (f sheet) (c.mapRefs f)
  | .object c => .object (c.mapRefs f)
  | .query c => .query (c.mapRefs f)
  | .model c => .model (c.mapRefs f)

def Op.mapRefs (f : Ref → Ref) : Op → Op
  | .known c => .known (c.mapRefs f)
  | .unknown u => .unknown u

def Listed.mapRefs (f : Ref → Ref) (l : Listed) : Listed := { l with op := l.op.mapRefs f }

@[simp] theorem GridChange.kind_mapRefs (c : GridChange) : (c.mapRefs f).kind = c.kind := by
  cases c <;> rfl

@[simp] theorem ObjectChange.kind_mapRefs (c : ObjectChange) : (c.mapRefs f).kind = c.kind := by
  cases c with
  | vbaModule fate => cases fate <;> rfl
  | chart fate => cases fate <;> rfl
  | namedRangeAdded | namedRangeRemoved | namedRangeChanged => rfl

@[simp] theorem QueryChange.traits_mapRefs (c : QueryChange) : (c.mapRefs f).traits = c.traits := by
  cases c with
  | metadata name field => cases field <;> rfl
  | added | removed | renamed | redefined => rfl

namespace Op

@[simp] theorem gridChange?_mapRefs (op : Op) :
    (op.mapRefs f).gridChange? = op.gridChange?.map (GridChange.mapRefs f) := by
  match op with
  | .known (.grid ..) => rfl
  | .known (.object _) | .known (.query _) | .known (.model _) | .unknown _ => rfl

@[simp] theorem kindName_mapRefs (op : Op) : (op.mapRefs f).kindName = op.kindName := by
  match op with
  | .known (.grid _ c) => exact congrArg Kind.name c.kind_mapRefs
  | .known (.object c) => exact congrArg Kind.name c.kind_mapRefs
  | .known (.query c) => cases c <;> rfl
  | .known (.model c) => cases c <;> rfl
  | .unknown u => rfl

@[simp] theorem traits_mapRefs (op : Op) : (op.mapRefs f).traits = op.traits := by
  match op with
  | .known (.grid _ c) => cases c <;> rfl
  | .known (.object c) => cases c <;> rfl
  | .known (.query c) => exact c.traits_mapRefs
  | .known (.model c) => cases c <;> rfl
  | .unknown u => rfl

@[simp] theorem hides_mapRefs (filters : Filters) (op : Op) :
    filters.hides (op.mapRefs f) = filters.hides op := by
  match op with
  | .known (.grid _ c) =>
      cases c with
      | cellEdited addr before after formula => cases formula <;> rfl
      | _ => rfl
  | .known (.object c) => rfl
  | .known (.query c) =>
      cases c with
      | redefined name edit => cases edit <;> rfl
      | _ => rfl
  | .known (.model c) =>
      cases c with
      | columnRedefined table name edit => cases edit <;> rfl
      | measureRedefined name edit => cases edit <;> rfl
      | _ => rfl
  | .unknown u => rfl

@[simp] theorem block?_mapRefs (op : Op) : (op.mapRefs f).block? = op.block? := by
  match op with
  | .known (.grid _ c) => cases c <;> rfl
  | .known (.object _) | .known (.query _) | .known (.model _) | .unknown _ => rfl

theorem sheet?_mapRefs (h : Ref.Respells f r) (op : Op) :
    (op.mapRefs f).sheet?.map r.resolve = op.sheet?.map r.resolve := by
  match op with
  | .known (.grid sheet _) => exact congrArg some (h sheet)
  | .known (.object _) | .known (.query _) | .known (.model _) | .unknown _ => rfl

theorem name?_mapRefs (h : Ref.Respells f r) (op : Op) :
    (op.mapRefs f).name?.map r.resolve = op.name?.map r.resolve := by
  match op with
  | .known (.grid ..) => rfl
  | .known (.object c) => cases c <;> exact congrArg some (h _)
  | .known (.query c) => cases c <;> exact congrArg some (h _)
  | .known (.model c) =>
      cases c with
      | relationshipAdded | relationshipRemoved | relationshipProperty => rfl
      | _ => exact congrArg some (h _)
  | .unknown _ => rfl

end Op

theorem Report.plainText_mapRefs (h : Ref.Respells f r) (op : Op) :
    r.plainText (op.mapRefs f) = r.plainText op := by
  have hname := op.name?_mapRefs h
  rw [plainText, plainText, Op.kindName_mapRefs]
  cases hx : op.name? with
  | none =>
      rw [hx, Option.map_none, Option.map_eq_none_iff] at hname
      rw [hname]
  | some x =>
      rw [hx, Option.map_some, Option.map_eq_some_iff] at hname
      obtain ⟨y, hy, hyx⟩ := hname
      rw [hy]
      simp only [hyx]

/-! ### Sheets -/

theorem Edits.ofOp?_mapRefs (h : Ref.Respells f r) (ignoreBlank : Bool) (op : Op) :
    ofOp? r g ignoreBlank (op.mapRefs f) = ofOp? r g ignoreBlank op := by
  rw [ofOp?, ofOp?, Op.gridChange?_mapRefs]
  cases op.gridChange? with
  | none => rfl
  | some c =>
      cases c with
      | cellEdited addr before after formula =>
          simp only [Option.map_some, GridChange.mapRefs, Report.edit_mapRefs h]
      | _ => rfl

@[simp] theorem Edits.isDropped_mapRefs (op : Op) :
    isDropped g (op.mapRefs f) = isDropped g op := by
  match op with
  | .known (.grid _ c) => cases c <;> rfl
  | .known (.object _) | .known (.query _) | .known (.model _) | .unknown _ => rfl

@[simp] theorem Area.ofOp_mapRefs (op : Op) : ofOp g (op.mapRefs f) = ofOp g op := by
  match op with
  | .known (.grid _ c) => cases c <;> rfl
  | .known (.object _) | .known (.query _) | .known (.model _) | .unknown _ => rfl

@[simp] theorem Entry.ofOp_mapRefs (h : Ref.Respells f r) (l : Listed) :
    ofOp r g (l.mapRefs f) = ofOp r g l := by
  have hdescribe (c : GridChange) : describe r g (c.mapRefs f) = describe r g c := by
    cases c with
    | sheetRenamed source target =>
        exact congrArg (fun s => ("Sheet renamed from " ++ s, none)) (h source)
    | _ => rfl
  rw [ofOp, ofOp, Listed.mapRefs, Op.gridChange?_mapRefs, Op.kindName_mapRefs, Op.traits_mapRefs,
    Report.plainText_mapRefs h]
  cases l.op.gridChange? with
  | none => rfl
  | some c => simp only [Option.map_some, hdescribe]

namespace Item

@[simp] theorem replacedRow?_mapRefs (op : Op) : replacedRow? (op.mapRefs f) = replacedRow? op := by
  match op with
  | .known (.grid _ c) => cases c <;> rfl
  | .known (.object _) | .known (.query _) | .known (.model _) | .unknown _ => rfl

@[simp] theorem changedLine?_mapRefs (line : Line) (side : Side) (op : Op) :
    changedLine? line side (op.mapRefs f) = changedLine? line side op := by
  match op with
  | .known (.grid _ c) => cases c <;> rfl
  | .known (.object _) | .known (.query _) | .known (.model _) | .unknown _ => rfl

theorem plainText?_mapRefs (h : Ref.Respells f r) (op : Op) :
    plainText? r (op.mapRefs f) = plainText? r op := by
  have hplain := Report.plainText_mapRefs h op
  match op with
  | .known (.grid _ c) =>
      cases c with
      | sheetRenamed source target =>
          exact congrArg (fun s => some ("Sheet renamed from " ++ s, "")) (h source)
      | _ => rfl
  | .known (.object _) | .known (.query _) | .known (.model _) | .unknown _ =>
      exact congrArg (fun s => some (s, "")) hplain

theorem ofOp?_mapRefs (h : Ref.Respells f r) (l : Listed) :
    ofOp? r (l.mapRefs f) = ofOp? r l := by
  rw [ofOp?, ofOp?, Listed.mapRefs, plainText?_mapRefs h, Op.kindName_mapRefs, Op.traits_mapRefs]

end Item

@[simp] theorem Request.ofChange_mapRefs (o : Options) (side : Side) (c : GridChange) :
    ofChange o side (c.mapRefs f) = ofChange o side c := by
  cases c <;> rfl

@[simp] theorem Extent.ofOps_mapRefs (o : Options) (sizes : Sizes) (ops : List Listed) :
    ofOps o sizes (ops.map (Listed.mapRefs f)) = ofOps o sizes ops := by
  have hchanges : (ops.map (Listed.mapRefs f)).filterMap (fun l => l.op.gridChange?) =
      (ops.filterMap fun l => l.op.gridChange?).map (GridChange.mapRefs f) := by
    rw [List.filterMap_map, List.map_filterMap]
    exact List.filterMap_congr fun l _ => l.op.gridChange?_mapRefs
  rw [ofOps, ofOps, asked, asked, hchanges, List.flatMap_map]
  simp

def SheetInput.mapRefs (f : Ref → Ref) (i : SheetInput) : SheetInput :=
  { i with ops := i.ops.map (Listed.mapRefs f) }

namespace SheetInput

variable {i : SheetInput} {o : Options}

theorem sheet_mapRefs (h : Ref.Respells f i.report) : (i.mapRefs f).sheet o = i.sheet o := by
  have hplaced (l : Listed) : Edits.ofOp? i.report i.grid o.ignoreBlankToBlank (l.mapRefs f).op =
      Edits.ofOp? i.report i.grid o.ignoreBlankToBlank l.op := Edits.ofOp?_mapRefs h _ l.op
  have hdropped (l : Listed) : Edits.isDropped i.grid (l.mapRefs f).op =
      Edits.isDropped i.grid l.op := Edits.isDropped_mapRefs l.op
  have hedits : Edits.ofOps i.report i.grid o.ignoreBlankToBlank (i.mapRefs f).ops =
      Edits.ofOps i.report i.grid o.ignoreBlankToBlank i.ops := by
    simp only [Edits.ofOps, mapRefs, List.filterMap_map, List.countP_map, Function.comp_def,
      hplaced, hdropped]
  exact congrArg (Sheet.mk i.old i.new i.grid) hedits

@[simp] theorem regions_mapRefs {es : Edits} :
    Region.ofOps o i.grid es (i.mapRefs f).ops = Region.ofOps o i.grid es i.ops := by
  have harea (l : Listed) : Area.ofOp i.grid (l.mapRefs f).op = Area.ofOp i.grid l.op :=
    Area.ofOp_mapRefs l.op
  simp only [Region.ofOps, mapRefs, List.flatMap_map, harea]

theorem items_mapRefs (h : Ref.Respells f i.report) (regions : List Region) :
    (i.mapRefs f).items regions = i.items regions := by
  have hblock (l : Listed) : (l.mapRefs f).op.block? = l.op.block? := l.op.block?_mapRefs
  have hreplaced (l : Listed) : Item.replacedRow? (l.mapRefs f).op = Item.replacedRow? l.op :=
    Item.replacedRow?_mapRefs l.op
  have hchanged (line : Line) (side : Side) (l : Listed) :
      Item.changedLine? line side (l.mapRefs f).op = Item.changedLine? line side l.op :=
    Item.changedLine?_mapRefs line side l.op
  have hlines : Item.ofLines i.grid (i.mapRefs f).ops = Item.ofLines i.grid i.ops := by
    simp only [Item.ofLines, Item.replacedRows, Item.changedLines, mapRefs, List.filterMap_map,
      Function.comp_def, hreplaced, hchanged]
  have hmoves : Item.ofMoves i.moveRecords (i.mapRefs f).ops =
      Item.ofMoves i.moveRecords i.ops := by
    simp only [Item.ofMoves, mapRefs, List.filterMap_map, Function.comp_def, hblock]
  have hothers : (i.mapRefs f).ops.filterMap (Item.ofOp? i.report) =
      i.ops.filterMap (Item.ofOp? i.report) := by
    simp only [mapRefs, List.filterMap_map, Function.comp_def, Item.ofOp?_mapRefs h]
  change Item.ofLines i.grid (i.mapRefs f).ops ++ Item.ofMoves i.moveRecords (i.mapRefs f).ops ++
    regions.filterMap Item.ofRegion? ++ (i.mapRefs f).ops.filterMap (Item.ofOp? i.report) = _
  rw [hlines, hmoves, hothers, items]

@[simp] theorem hunks_mapRefs {status : Status} {regions : List Region} :
    (i.mapRefs f).hunks o status regions = i.hunks o status regions := by
  have hinterests : (i.mapRefs f).shownInterests o = i.shownInterests o := by
    change i.interests.getD (Interest.ofOps o i.sizes (i.ops.map (Listed.mapRefs f))) = _
    rw [Interest.ofOps, Extent.ofOps_mapRefs, shownInterests, Interest.ofOps]
  change (if status.isShown then _ else
    ((i.mapRefs f).shownInterests o).filterMap (Hunk.ofInterest? o i.sizes)) = _
  rw [hinterests, hunks]

theorem entries_mapRefs (h : Ref.Respells f i.report) :
    (i.mapRefs f).ops.map (Entry.ofOp i.report i.grid) =
      i.ops.map (Entry.ofOp i.report i.grid) := by
  simp only [mapRefs, List.map_map, Function.comp_def, Entry.ofOp_mapRefs h]

end SheetInput

theorem SheetView.ofInput_mapRefs (o : Options) {i : SheetInput} (h : Ref.Respells f i.report) :
    ofInput o (i.mapRefs f) = ofInput o i := by
  have hregions : Region.ofOps o (i.mapRefs f).grid (i.sheet o).edits (i.mapRefs f).ops =
      Region.ofOps o i.grid (i.sheet o).edits i.ops := SheetInput.regions_mapRefs (i := i)
  have hentries : (i.mapRefs f).ops.map (Entry.ofOp (i.mapRefs f).report (i.mapRefs f).grid) =
      i.ops.map (Entry.ofOp i.report i.grid) := SheetInput.entries_mapRefs h
  simp only [ofInput, SheetInput.sheet_mapRefs h, hregions, SheetInput.items_mapRefs h,
    SheetInput.hunks_mapRefs, hentries]
  rfl

/-! ### Workbooks -/

theorem Report.changeText_map (h : Ref.Respells f r) (what : String) (old new : Option Ref) :
    r.changeText what (old.map f) (new.map f) = r.changeText what old new := by
  rw [changeText, h.resolve_map, h.resolve_map, ← changeText]

theorem columnText_mapRefs (h : Ref.Respells f r) (table name : Ref) :
    columnText r (f table) (f name) = columnText r table name := by
  unfold columnText
  rw [h.resolve table, h.resolve name]

theorem typeText_map (h : Ref.Respells f r) (type : Option Ref) :
    typeText r (type.map f) = typeText r type := by
  cases type with
  | none => rfl
  | some type => exact congrArg ("Type " ++ ·) (h type)

theorem Ends.text_mapRefs (h : Ref.Respells f r) (e : Ends) : (e.mapRefs f).text r = e.text r := by
  unfold text mapRefs
  rw [h.resolve, h.resolve, h.resolve, h.resolve]

theorem ObjectChange.describe_mapRefs (h : Ref.Respells f r) (c : ObjectChange) :
    (c.mapRefs f).describe r = c.describe r := by
  cases c <;> simp only [describe, mapRefs, h.resolve, Report.changeText_map h]

theorem QueryChange.describe_mapRefs (h : Ref.Respells f r) (c : QueryChange) :
    (c.mapRefs f).describe r = c.describe r := by
  cases c <;> simp only [describe, detail, name, mapRefs, h.resolve, Report.changeText_map h]

theorem ModelChange.describe_mapRefs (h : Ref.Respells f r) (c : ModelChange) :
    (c.mapRefs f).describe r = c.describe r := by
  cases c <;> simp only [describe, mapRefs, h.resolve, columnText_mapRefs h, typeText_map h,
    Ends.text_mapRefs h, Report.changeText_map h]

@[simp] theorem Artifact.ofOp_mapRefs (h : Ref.Respells f r) (l : Listed) :
    ofOp r (l.mapRefs f) = ofOp r l := by
  obtain ⟨index, op⟩ := l
  have hplain := Report.plainText_mapRefs h op
  have hdescribe : describe r (op.mapRefs f) = describe r op := by
    match op with
    | .known (.grid ..) => exact congrArg (·, "") hplain
    | .known (.object c) => exact c.describe_mapRefs h
    | .known (.query c) => exact c.describe_mapRefs h
    | .known (.model c) => exact c.describe_mapRefs h
    | .unknown _ => exact congrArg (·, "") hplain
  have hbucket : Bucket.ofOp (op.mapRefs f) = Bucket.ofOp op := by
    match op with
    | .known (.object c) => cases c <;> rfl
    | .known (.grid ..) | .known (.query _) | .known (.model _) | .unknown _ => rfl
  simp only [ofOp, Listed.mapRefs, hdescribe, hbucket, Op.kindName_mapRefs, Op.traits_mapRefs]

theorem Listed.sheetName?_mapRefs (h : Ref.Respells f r) (l : Listed) :
    (l.mapRefs f).sheetName? r = l.sheetName? r := l.op.sheet?_mapRefs h

@[simp] theorem Listed.kept_mapRefs (filters : Filters) (ls : List Listed) :
    kept filters (ls.map (Listed.mapRefs f)) = (kept filters ls).map (Listed.mapRefs f) := by
  have hfirst (seen : List String) (ls : List Listed) :
      firstMoves seen (ls.map (Listed.mapRefs f)) =
        (firstMoves seen ls).map (Listed.mapRefs f) := by
    induction ls generalizing seen with
    | nil => rfl
    | cons l ls ih =>
        rw [List.map_cons, firstMoves_cons, firstMoves_cons, Op.moveId?, Listed.mapRefs,
          Op.block?_mapRefs, ← Op.moveId?]
        cases l.op.moveId? with
        | none => exact congrArg _ (ih seen)
        | some id =>
            by_cases hid : id ∈ seen
            · simp only [if_pos hid, ih]
            · simp only [if_neg hid, ih, List.map_cons]
              rfl
  have hshown : (ls.map (Listed.mapRefs f)).filter (fun l => !filters.hides l.op) =
      (ls.filter fun l => !filters.hides l.op).map (Listed.mapRefs f) := by
    rw [List.filter_map]
    simp [Function.comp_def, Listed.mapRefs]
  rw [kept, kept, hshown]
  by_cases hmoves : filters.repeatedMoves
  · rw [if_pos hmoves, if_pos hmoves, hfirst]
  · rw [if_neg hmoves, if_neg hmoves]

namespace Payload

variable {p : Payload}

def mapRefs (f : Ref → Ref) (p : Payload) : Payload :=
  { p with report := { p.report with ops := p.report.ops.map (Op.mapRefs f) } }

@[simp] theorem keptOps_mapRefs (filters : Filters) :
    (p.mapRefs f).keptOps filters = (p.keptOps filters).map (Listed.mapRefs f) := by
  have hlisted : Listed.ofReport (p.mapRefs f).report =
      (Listed.ofReport p.report).map (Listed.mapRefs f) := by
    apply List.ext_getElem?
    intro n
    simp only [Listed.ofReport, mapRefs, List.getElem?_map, List.getElem?_mapIdx, Option.map_map]
    rfl
  rw [keptOps, keptOps, hlisted, Listed.kept_mapRefs]

theorem filter_keptOps_mapRefs (h : Ref.Respells f p.report) (filters : Filters)
    (q : Option String → Bool) :
    ((p.mapRefs f).keptOps filters).filter (fun l => q (l.sheetName? p.report)) =
      ((p.keptOps filters).filter fun l => q (l.sheetName? p.report)).map (Listed.mapRefs f) := by
  rw [keptOps_mapRefs, List.filter_map]
  simp only [Function.comp_def, Listed.sheetName?_mapRefs h]

theorem sheetOps_mapRefs (h : Ref.Respells f p.report) (filters : Filters) (name : String) :
    (p.mapRefs f).sheetOps filters name = (p.sheetOps filters name).map (Listed.mapRefs f) :=
  filter_keptOps_mapRefs h filters fun n => n = some name

theorem workbookOps_mapRefs (h : Ref.Respells f p.report) (filters : Filters) :
    (p.mapRefs f).workbookOps filters = (p.workbookOps filters).map (Listed.mapRefs f) :=
  filter_keptOps_mapRefs h filters fun n => n.isNone

theorem sheetNames_mapRefs (h : Ref.Respells f p.report) (filters : Filters) :
    (p.mapRefs f).sheetNames filters = p.sheetNames filters := by
  have hnames : ((p.keptOps filters).map (Listed.mapRefs f)).filterMap
        (Listed.sheetName? p.report) =
      (p.keptOps filters).filterMap (Listed.sheetName? p.report) := by
    simp only [List.filterMap_map, Function.comp_def, Listed.sheetName?_mapRefs h]
  rw [sheetNames, keptOps_mapRefs]
  exact congrArg ascending hnames

theorem oldName?_mapRefs (h : Ref.Respells f p.report) (name : String) :
    (p.mapRefs f).oldName? name = p.oldName? name := by
  have hrename (op : Op) : rename? p.report (op.mapRefs f) = rename? p.report op := by
    match op with
    | .known (.grid sheet c) =>
        cases c with
        | sheetRenamed source target =>
            exact congrArg some (Prod.ext (h sheet) (h source))
        | _ => rfl
    | .known (.object _) | .known (.query _) | .known (.model _) | .unknown _ => rfl
  have hrenames : (p.report.ops.map (Op.mapRefs f)).filterMap (rename? p.report) =
      p.report.ops.filterMap (rename? p.report) := by
    simp only [List.filterMap_map, Function.comp_def, hrename]
  exact congrArg (fun renames => renames.reverse.lookup name) hrenames

theorem sheetInput_mapRefs (h : Ref.Respells f p.report) (filters : Filters) (name : String) :
    (p.mapRefs f).sheetInput filters name =
      { (p.sheetInput filters name).mapRefs f with report := (p.mapRefs f).report } := by
  rw [sheetInput, sheetOps_mapRefs h, oldName?_mapRefs h]
  simp only [underName?, oldName?_mapRefs h]
  rfl

end Payload

theorem SheetView.ofPayload?_mapRefs (o : Options) {p : Payload} (h : Ref.Respells f p.report)
    (name : String) : ofPayload? (p.mapRefs f) o name = ofPayload? p o name := by
  have hempty : ((p.mapRefs f).sheetOps o.filters name).isEmpty =
      (p.sheetOps o.filters name).isEmpty := by
    rw [Payload.sheetOps_mapRefs h, List.isEmpty_map]
  have hview : ofInput o ((p.mapRefs f).sheetInput o.filters name) =
      ofInput o (p.sheetInput o.filters name) := by
    rw [Payload.sheetInput_mapRefs h]
    exact (ofInput_report o ((p.sheetInput o.filters name).mapRefs f) rfl).trans
      (ofInput_mapRefs o h)
  rw [ofPayload?, hempty, hview, ← ofPayload?]

namespace WorkbookView

theorem ofPayload_mapRefs (o : Options) {p : Payload} (h : Ref.Respells f p.report) :
    ofPayload (p.mapRefs f) o = { ofPayload p o with report := (p.mapRefs f).report } := by
  have htraits : ((p.mapRefs f).keptOps o.filters).map (fun l => l.op.traits) =
      (p.keptOps o.filters).map fun l => l.op.traits := by
    simp only [Payload.keptOps_mapRefs, List.map_map, Function.comp_def, Listed.mapRefs,
      Op.traits_mapRefs]
  have hsheets : ((p.mapRefs f).sheetNames o.filters).filterMap
        (SheetView.ofPayload? (p.mapRefs f) o) =
      (p.sheetNames o.filters).filterMap (SheetView.ofPayload? p o) := by
    rw [Payload.sheetNames_mapRefs h]
    exact List.filterMap_congr fun name _ => SheetView.ofPayload?_mapRefs o h name
  have hartifacts : ((p.mapRefs f).workbookOps o.filters).map
        (Artifact.ofOp (p.mapRefs f).report) =
      (p.workbookOps o.filters).map (Artifact.ofOp p.report) := by
    rw [Payload.workbookOps_mapRefs h, List.map_map]
    apply List.map_congr_left
    intro l _
    exact (Artifact.ofOp_report rfl _).trans (Artifact.ofOp_mapRefs h l)
  simp only [ofPayload, htraits, hsheets, hartifacts]

end WorkbookView

/-- The text itself in place of a reference to the table. -/
def Report.spell (r : Report) (x : Ref) : Ref := .text (r.resolve x)

theorem Report.spell_respells (r : Report) : Ref.Respells r.spell r := fun _ => rfl

def Payload.spelledOut (p : Payload) : Payload := p.mapRefs p.report.spell

/-- Operations that refer to the table of strings show as those that have the strings in full: but
for its report, the view of the workbook is the same, and so is the view of each sheet with all of
its edits and cells. -/
theorem spelledOut_same_view (p : Payload) (o : Options) :
    WorkbookView.ofPayload p.spelledOut o =
        { WorkbookView.ofPayload p o with report := p.spelledOut.report } ∧
      (∀ name, SheetView.ofPayload? p.spelledOut o name = SheetView.ofPayload? p o name) ∧
      ∀ key, key ≠ "report" → (WorkbookView.ofPayload p.spelledOut o).toJson.member? key =
        (WorkbookView.ofPayload p o).toJson.member? key := by
  have h : Ref.Respells p.report.spell p.report := p.report.spell_respells
  have hview := WorkbookView.ofPayload_mapRefs o h
  refine ⟨hview, SheetView.ofPayload?_mapRefs o h, ?_⟩
  intro key hkey
  have hreport : (key == "report") = false := beq_eq_false_iff_ne.mpr hkey
  change (WorkbookView.ofPayload (p.mapRefs p.report.spell) o).toJson.member? key = _
  rw [hview]
  simp only [WorkbookView.toJson, Json.Value.member?, List.lookup_cons, hreport]
  rfl

end DiffView
