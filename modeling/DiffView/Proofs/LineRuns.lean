import DiffView.Proofs.Moves
import Mathlib.Data.List.Induction

namespace DiffView

namespace Span

/-- A further index makes the last run longer, if it is the next one. -/
def grow (i : Nat) : List Span → List Span
  | [] => [point i]
  | [s] => if s.last + 1 = i then [⟨s.first, i⟩] else [s, point i]
  | s :: t :: ss => s :: grow i (t :: ss)

theorem runs_concat (is : List Nat) (i : Nat) : runs (is ++ [i]) = grow i (runs is) := by
  induction is with
  | nil => rfl
  | cons j is ih =>
      rw [List.cons_append, runs, ih, runs]
      cases runs is with
      | nil => by_cases hij : i = j + 1 <;> simp [grow, point, hij, eq_comm]
      | cons s ss =>
          cases ss with
          | nil =>
              by_cases hfirst : s.first = j + 1 <;> by_cases hlast : s.last + 1 = i <;>
                simp [grow, hfirst, hlast]
          | cons t ss => by_cases hfirst : s.first = j + 1 <;> simp [grow, hfirst]

theorem runs_eq_foldl (is : List Nat) : runs is = is.foldl (fun ss i => grow i ss) [] := by
  induction is using List.reverseRecOn with
  | nil => rfl
  | append_singleton is i ih =>
      rw [runs_concat, ih, List.foldl_append]
      rfl

end Span

def Side.lineChange : Side → Line → Nat → GridChange
  | .new => .lineAdded
  | .old => .lineRemoved

namespace Item

variable {g : Grid} {ops ops' : List Listed} {line : Line} {side : Side}

theorem changedLine?_eq_some_iff {op : Op} {n : Nat} :
    changedLine? line side op = some n ↔ op.gridChange? = some (side.lineChange line n) := by
  rw [changedLine?]
  split
  · rename_i l i hop
    cases side <;> simp [hop, Side.lineChange]
  · rename_i l i hop
    cases side <;> simp [hop, Side.lineChange]
  · rename_i hadded hremoved
    cases side with
    | old => simpa [Side.lineChange] using hremoved line n
    | new => simpa [Side.lineChange] using hadded line n

def changedPlaces (g : Grid) (ops : List Listed) (line : Line) (side : Side) : Set Nat :=
  {view | ∃ l ∈ ops, ∃ n, l.op.gridChange? = some (side.lineChange line n) ∧
    (g.axis line).viewOrSame side n = view}

theorem mem_changedViews_iff {view : Nat} :
    view ∈ changedViews g ops line side ↔ view ∈ changedPlaces g ops line side := by
  simp only [mem_changedViews, changedLine?_eq_some_iff, changedPlaces, Set.mem_ofPred_eq]

theorem changedViews_pairwise_lt (g : Grid) (ops : List Listed) (line : Line) (side : Side) :
    (changedViews g ops line side).Pairwise (· < ·) := ascending_pairwise_lt _

theorem changedPlaces_congr (h : ∀ op, op ∈ ops'.map (·.op) ↔ op ∈ ops.map (·.op)) :
    changedPlaces g ops' line side = changedPlaces g ops line side := by
  ext view
  have hexists (ms : List Listed) : view ∈ changedPlaces g ms line side ↔
      ∃ op ∈ ms.map (·.op), ∃ n, op.gridChange? = some (side.lineChange line n) ∧
        (g.axis line).viewOrSame side n = view := by
    simp [changedPlaces]
  simp only [hexists, h]

theorem changedViews_congr (h : ∀ op, op ∈ ops'.map (·.op) ↔ op ∈ ops.map (·.op)) :
    changedViews g ops' line side = changedViews g ops line side := by
  apply (ascending_ascends _).eq_of_mem_iff (ascending_ascends _)
  intro view
  change view ∈ changedViews g ops' line side ↔ view ∈ changedViews g ops line side
  rw [mem_changedViews_iff, mem_changedViews_iff, changedPlaces_congr h]

/-- The run of lines of an item that has this type of change. -/
def runOf? (line : Line) (type : ChangeType) (item : Item) : Option Span :=
  match item.locator with
  | some (.lines l run) => if l = line ∧ item.changeType = type then some run else none
  | _ => none

theorem filterMap_runOf?_replacedRows :
    (replacedRows g ops).filterMap (runOf? line side.changeType) = [] := by
  refine List.filterMap_eq_nil_iff.mpr fun item hitem => ?_
  obtain ⟨row, -, rfl⟩ := List.mem_map.mp hitem
  cases side <;> simp [ofReplacedRow, runOf?, Side.changeType]

theorem filterMap_runOf?_changedLines (line' : Line) (side' : Side) :
    (changedLines g line' side' ops).filterMap (runOf? line side.changeType) =
      if line' = line ∧ side' = side then Span.runs (changedViews g ops line' side') else [] := by
  rw [changedLines, List.filterMap_map]
  have hrun (run : Span) : (runOf? line side.changeType ∘ ofRun (g.axis line') line' side') run =
      if line' = line ∧ side' = side then some run else none := by
    cases side <;> cases side' <;> simp [ofRun, runOf?, Side.changeType]
  rw [funext hrun]
  split
  · exact List.filterMap_some
  · exact List.filterMap_eq_nil_iff.mpr fun _ _ => rfl

theorem filterMap_runOf?_ofLines :
    (ofLines g ops).filterMap (runOf? line side.changeType) =
      Span.runs (changedViews g ops line side) := by
  simp only [ofLines, List.filterMap_append, filterMap_runOf?_replacedRows,
    filterMap_runOf?_changedLines]
  cases line <;> cases side <;> simp

theorem filterMap_runOf?_items {i : SheetInput} {regions : List Region} {type : ChangeType} :
    (i.items regions).filterMap (runOf? line type) =
      (ofLines i.grid i.ops).filterMap (runOf? line type) := by
  have hmoves : (ofMoves i.moveRecords i.ops).filterMap (runOf? line type) = [] := by
    refine List.filterMap_eq_nil_iff.mpr fun item hitem => ?_
    have hmove := moveId?_isSome_of_mem_ofMoves hitem
    rw [moveId?] at hmove
    rw [runOf?]
    split at hmove <;> simp_all
  have hregions : (regions.filterMap ofRegion?).filterMap (runOf? line type) = [] := by
    refine List.filterMap_eq_nil_iff.mpr fun item hitem => ?_
    obtain ⟨r, -, h⟩ := List.mem_filterMap.mp hitem
    rw [runOf?, locator_of_ofRegion? h]
  have hothers : (i.ops.filterMap (ofOp? i.report)).filterMap (runOf? line type) = [] := by
    refine List.filterMap_eq_nil_iff.mpr fun item hitem => ?_
    obtain ⟨l, -, h⟩ := List.mem_filterMap.mp hitem
    rw [runOf?, locator_of_ofOp? h]
  rw [SheetInput.items, List.filterMap_append, List.filterMap_append, List.filterMap_append,
    hmoves, hregions, hothers, List.append_nil, List.append_nil, List.append_nil]

end Item

/-- The runs in which the added or the removed lines of an axis are listed ascend, with an index
between any two, and cover the places of these lines and no other. They are the maximal runs of the
places, and grow from these index by index. It does not matter in which order the operations are, or
how often one is there, and no other item of a sheet has such a run. -/
theorem changed_lines_in_runs (g : Grid) (ops : List Listed) (line : Line) (side : Side) :
    let runs := (Item.ofLines g ops).filterMap (Item.runOf? line side.changeType)
    let views := Item.changedPlaces g ops line side
    (∀ r ∈ runs, r.first ≤ r.last) ∧ runs.Pairwise (fun r s => r.last + 2 ≤ s.first) ∧
    (∀ view, (∃ r ∈ runs, r.first ≤ view ∧ view ≤ r.last) ↔ view ∈ views) ∧
    (∀ run, run ∈ runs ↔ run.IsRun views) ∧
    (∃ is : List Nat, is.Pairwise (· < ·) ∧ (∀ view, view ∈ is ↔ view ∈ views) ∧
      runs = is.foldl (fun ss i => Span.grow i ss) []) ∧
    (∀ ops' : List Listed, (∀ op, op ∈ ops'.map (·.op) ↔ op ∈ ops.map (·.op)) →
      (Item.ofLines g ops').filterMap (Item.runOf? line side.changeType) = runs) ∧
    ∀ (o : Options) (i : SheetInput), i.grid = g → i.ops = ops →
      (SheetView.ofInput o i).items.filterMap (Item.runOf? line side.changeType) = runs := by
  intro runs views
  have hruns : runs = Span.runs (Item.changedViews g ops line side) :=
    Item.filterMap_runOf?_ofLines
  have hascend := Item.changedViews_pairwise_lt g ops line side
  have hviews : views = {view | view ∈ Item.changedViews g ops line side} :=
    Set.ext fun _ => Item.mem_changedViews_iff.symm
  rw [hruns, hviews]
  refine ⟨fun r => Span.first_le_last_of_mem_runs, Span.runs_apart hascend,
    fun view => Span.mem_iff_exists_run.symm, fun run => Span.mem_runs_iff_isRun hascend,
    ⟨_, hascend, fun _ => Iff.rfl, Span.runs_eq_foldl _⟩, fun ops' h => ?_, ?_⟩
  · rw [Item.filterMap_runOf?_ofLines, Item.changedViews_congr h]
  · rintro o i rfl rfl
    exact Item.filterMap_runOf?_items.trans hruns

end DiffView
