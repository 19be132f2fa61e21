import DiffView.Proofs.CellRegions
import DiffView.Proofs.RawEdits

namespace DiffView

/-! ### Numbers of places -/

namespace Place

variable {p q : Place}

def key (p : Place) : Nat := p.row * colLimit + p.col

def ofKey (n : Nat) : Place := ⟨n / colLimit, n % colLimit⟩

theorem ofKey_col_lt (n : Nat) : (ofKey n).col < colLimit := Nat.mod_lt _ (by decide)

@[simp] theorem key_ofKey (n : Nat) : (ofKey n).key = n := Nat.div_add_mod' n colLimit

theorem ofKey_key (h : p.col < colLimit) : ofKey p.key = p := by
  have hrow : (p.row * colLimit + p.col) / colLimit = p.row := by
    rw [Nat.add_comm, Nat.add_mul_div_right _ _ (by decide), Nat.div_eq_of_lt h, Nat.zero_add]
  have hcol : (p.row * colLimit + p.col) % colLimit = p.col := by
    rw [Nat.mul_add_mod_self_right, Nat.mod_eq_of_lt h]
  rw [ofKey, key, hrow, hcol]

theorem key_inj (hp : p.col < colLimit) (hq : q.col < colLimit) (h : p.key = q.key) : p = q := by
  rw [← ofKey_key hp, h, ofKey_key hq]

theorem compare_eq_lt_iff :
    compare p q = .lt ↔ p.row < q.row ∨ p.row = q.row ∧ p.col < q.col := by
  rw [compare_eq, Ordering.then_eq_lt, Nat.compare_eq_lt, Nat.compare_eq_eq, Nat.compare_eq_lt]

theorem key_lt_key (hp : p.col < colLimit) (h : compare p q = .lt) : p.key < q.key := by
  rw [key, key]
  rcases compare_eq_lt_iff.mp h with hrow | ⟨hrow, hcol⟩
  · calc p.row * colLimit + p.col < p.row * colLimit + colLimit := by omega
      _ = (p.row + 1) * colLimit := (Nat.succ_mul _ _).symm
      _ ≤ q.row * colLimit := Nat.mul_le_mul_right _ hrow
      _ ≤ q.row * colLimit + q.col := Nat.le_add_right _ _
  · rw [hrow]
    omega

/-- Places before the column limit hold what is under their numbers apart. -/
theorem getElem?_insert_key {α : Type} {held : Std.HashMap Nat α} {a : α} (hp : p.col < colLimit)
    (hq : q.col < colLimit) :
    (held.insert p.key a)[q.key]? = if p = q then some a else held[q.key]? := by
  rw [Std.HashMap.getElem?_insert]
  by_cases hpq : p = q
  · simp [hpq]
  · have hkey : p.key ≠ q.key := fun heq => hpq (key_inj hp hq heq)
    simp [hpq, hkey]

end Place

theorem Edit.isBlank_iff {e : Edit} : e.isBlank ↔
    e.fromValue = "" ∧ e.toValue = "" ∧ e.fromFormula = "" ∧ e.toFormula = "" := by
  simp [isBlank, and_assoc]

namespace Edits

variable {r : Report} {g : Grid} {ignoreBlank : Bool} {op op' : Op} {ops : List Listed}
  {p : Place} {e e' : Edit}

/-! ### What one operation does -/

/-- An operation edits a cell that both axes place, before the column limit. Where blank edits are
ignored, one of the texts of the edit is not empty. -/
def Lands (r : Report) (g : Grid) (ignoreBlank : Bool) (op : Op) (p : Place) (e : Edit) : Prop :=
  ∃ addr before after formula row col,
    op.gridChange? = some (.cellEdited addr before after formula) ∧
      addr.indices? = some (row, col) ∧ g.rows.place? .new row = some p.row ∧
      g.cols.place? .new col = some p.col ∧ p.col < colLimit ∧
      e = r.edit before after formula ∧
      ¬(ignoreBlank ∧ e.fromValue = "" ∧ e.toValue = "" ∧ e.fromFormula = "" ∧ e.toFormula = "")

theorem lands_iff : Lands r g ignoreBlank op p e ↔ ofOp? r g ignoreBlank op = some (p, e) := by
  have hblank : (ignoreBlank && e.isBlank) = false ↔ ¬(ignoreBlank ∧ e.fromValue = "" ∧
      e.toValue = "" ∧ e.fromFormula = "" ∧ e.toFormula = "") := by
    rw [← Edit.isBlank_iff, ← Bool.and_eq_true, Bool.not_eq_true]
  simp only [ofOp?_eq_some_iff, placeOf?_eq_some_iff, hblank]
  constructor
  · rintro ⟨addr, before, after, formula, row, col, hop, haddr, hrow, hcol, hlimit, he, hfull⟩
    exact ⟨addr, before, after, formula, hop, ⟨hlimit, row, col, haddr, hrow, hcol⟩, he, hfull⟩
  · rintro ⟨addr, before, after, formula, hop, ⟨hlimit, row, col, haddr, hrow, hcol⟩, he, hfull⟩
    exact ⟨addr, before, after, formula, row, col, hop, haddr, hrow, hcol, hlimit, he, hfull⟩

theorem Lands.col_lt (h : Lands r g ignoreBlank op p e) : p.col < colLimit := by
  obtain ⟨-, -, -, -, -, -, -, -, -, -, hlimit, -⟩ := h
  exact hlimit

theorem Lands.editedCell?_eq (h : Lands r g ignoreBlank op p e)
    (h' : Lands r g ignoreBlank op' p e') :
    ∃ cell, op.editedCell? = some cell ∧ op'.editedCell? = some cell := by
  obtain ⟨row, col, hcell, hplace⟩ := exists_place_of_ofOp? (lands_iff.mp h)
  obtain ⟨row', col', hcell', hplace'⟩ := exists_place_of_ofOp? (lands_iff.mp h')
  obtain ⟨rfl, rfl⟩ := Grid.place?_inj hplace hplace'
  exact ⟨_, hcell, hcell'⟩

/-- An operation edits a cell that has no place: the address is none, an axis does not place the
cell, or its place is beyond the column limit. -/
def IsLost (g : Grid) (op : Op) : Prop :=
  ∃ addr, op.editAddress? = some addr ∧
    (addr.indices? = none ∨ ∃ row col, addr.indices? = some (row, col) ∧
      (g.rows.place? .new row = none ∨ g.cols.place? .new col = none ∨
        ∃ view, g.cols.place? .new col = some view ∧ colLimit ≤ view))

theorem placeOf?_eq_none_iff {addr : Address} : placeOf? g addr = none ↔
    addr.indices? = none ∨ ∃ row col, addr.indices? = some (row, col) ∧
      (g.rows.place? .new row = none ∨ g.cols.place? .new col = none ∨
        ∃ view, g.cols.place? .new col = some view ∧ colLimit ≤ view) := by
  rw [placeOf?]
  cases haddr : addr.indices? with
  | none => simp
  | some cell =>
      obtain ⟨row, col⟩ := cell
      cases hrow : g.rows.place? .new row with
      | none => simp [Grid.place?, hrow]
      | some viewRow =>
          cases hcol : g.cols.place? .new col with
          | none => simp [Grid.place?, hcol]
          | some viewCol => simp [Grid.place?, hrow, hcol]

theorem isLost_iff : IsLost g op ↔ isDropped g op = true := by
  simp only [IsLost, ← placeOf?_eq_none_iff, isDropped]
  cases op.editAddress? <;> simp

instance : Decidable (IsLost g op) := decidable_of_iff _ isLost_iff.symm

/-! ### What all operations do -/

def ofOpAt? (r : Report) (g : Grid) (ignoreBlank : Bool) (p : Place) (op : Op) : Option Edit :=
  (ofOp? r g ignoreBlank op).bind fun q => if q.1 = p then some q.2 else none

theorem ofOpAt?_eq_some_iff :
    ofOpAt? r g ignoreBlank p op = some e ↔ Lands r g ignoreBlank op p e := by
  rw [lands_iff, ofOpAt?, Option.bind_eq_some_iff]
  constructor
  · rintro ⟨⟨q, e'⟩, hq, h⟩
    obtain ⟨hplace, hedit⟩ := Option.ite_none_right_eq_some.mp h
    cases hplace
    cases hedit
    exact hq
  · intro h
    exact ⟨(p, e), h, if_pos rfl⟩

theorem ofOpAt?_eq_none_iff :
    ofOpAt? r g ignoreBlank p op = none ↔ ∀ e, ¬Lands r g ignoreBlank op p e := by
  simp only [Option.eq_none_iff_forall_ne_some, ne_eq, ofOpAt?_eq_some_iff]

theorem get?_ofOps_append (l : Listed) : (ofOps r g ignoreBlank (ops ++ [l])).get? p =
    (ofOpAt? r g ignoreBlank p l.op).or ((ofOps r g ignoreBlank ops).get? p) := by
  rw [ofOpAt?]
  cases hl : ofOp? r g ignoreBlank l.op with
  | none => simp [get?, ofOps, hl]
  | some q => by_cases hq : q.1 = p <;> simp [get?, ofOps, hl, hq]

theorem get?_ofOps_eq_findSome? : (ofOps r g ignoreBlank ops).get? p =
    ops.reverse.findSome? fun l => ofOpAt? r g ignoreBlank p l.op := by
  induction ops using List.reverseRecOn with
  | nil => rfl
  | append_singleton ops l ih =>
      rw [get?_ofOps_append, ih, List.reverse_append, List.reverse_singleton,
        List.singleton_append, List.findSome?_cons]
      cases ofOpAt? r g ignoreBlank p l.op <;> rfl

theorem get?_ofOps_eq_some_iff : (ofOps r g ignoreBlank ops).get? p = some e ↔
    ∃ before l after, ops = before ++ l :: after ∧ Lands r g ignoreBlank l.op p e ∧
      ∀ m ∈ after, ∀ e', ¬Lands r g ignoreBlank m.op p e' := by
  simp only [get?_ofOps_eq_findSome?, findSome?_reverse_eq_some_iff, ofOpAt?_eq_some_iff,
    ofOpAt?_eq_none_iff]

theorem get?_ofOps_eq_none_iff : (ofOps r g ignoreBlank ops).get? p = none ↔
    ∀ l ∈ ops, ∀ e, ¬Lands r g ignoreBlank l.op p e := by
  simp only [get?_ofOps_eq_findSome?, List.findSome?_eq_none_iff, List.mem_reverse,
    ofOpAt?_eq_none_iff]

theorem get?_ofOps_of_limit (h : colLimit ≤ p.col) : (ofOps r g ignoreBlank ops).get? p = none :=
  get?_ofOps_eq_none_iff.mpr fun _ _ _ hlands => Nat.not_lt.mpr h hlands.col_lt

theorem col_lt_of_mem_places (h : p ∈ (ofOps r g ignoreBlank ops).places) : p.col < colLimit := by
  by_contra hlimit
  rw [← get?_isSome_iff, get?_ofOps_of_limit (Nat.not_lt.mp hlimit)] at h
  cases h

theorem places_pairwise (es : Edits) :
    es.places.Pairwise fun p q => p.row < q.row ∨ p.row = q.row ∧ p.col < q.col :=
  (ascending_ascends _).imp Place.compare_eq_lt_iff.mp

theorem dropped_ofOps :
    (ofOps r g ignoreBlank ops).dropped = ops.countP fun l => IsLost g l.op := by
  apply List.countP_congr
  intro l _
  rw [decide_eq_true_iff, isLost_iff]

theorem keys_ascend : Ascends ((ofOps r g ignoreBlank ops).places.map Place.key) := by
  rw [Ascends, List.pairwise_map]
  apply (ascending_ascends _).imp_of_mem
  intro p q hp _ hlt
  exact Nat.compare_eq_lt.mpr (Place.key_lt_key (col_lt_of_mem_places hp) hlt)

end Edits

/-! ### Edits under numbers -/

/-- Edits under the numbers of their places, and the count of those without a place. -/
structure EditTable where
  held : Std.HashMap Nat Edit
  dropped : Nat

namespace EditTable

variable {r : Report} {g : Grid} {ignoreBlank : Bool} {ops : List Listed} {t : EditTable}
  {es : Edits}

def add (r : Report) (g : Grid) (ignoreBlank : Bool) (t : EditTable) (op : Op) : EditTable :=
  match op.gridChange? with
  | some (.cellEdited addr before after formula) =>
    match Edits.placeOf? g addr with
    | none => { t with dropped := t.dropped + 1 }
    | some p =>
      let edit := r.edit before after formula
      if ignoreBlank && edit.isBlank then t else { t with held := t.held.insert p.key edit }
  | _ => t

def ofOps (r : Report) (g : Grid) (ignoreBlank : Bool) (ops : List Listed) : EditTable :=
  ops.foldl (fun t l => t.add r g ignoreBlank l.op) ⟨∅, 0⟩

def get? (t : EditTable) (p : Place) : Option Edit :=
  if p.col < colLimit then t.held[p.key]? else none

def keys (t : EditTable) : List Nat := ascending t.held.keys

theorem add_eq (op : Op) : add r g ignoreBlank t op =
    ⟨match Edits.ofOp? r g ignoreBlank op with
      | some (p, e) => t.held.insert p.key e
      | none => t.held,
      if Edits.isDropped g op then t.dropped + 1 else t.dropped⟩ := by
  rw [add, Edits.ofOp?, Edits.isDropped, Op.editAddress?]
  cases hop : op.gridChange? with
  | none => rfl
  | some c =>
      cases c with
      | cellEdited addr before after formula =>
          cases hplace : Edits.placeOf? g addr with
          | none => simp [hplace]
          | some p => by_cases hblank : ignoreBlank && (r.edit before after formula).isBlank <;>
              simp [hplace, hblank]
      | _ => rfl

/-- A table holds what the places hold. -/
structure Agrees (t : EditTable) (es : Edits) : Prop where
  get?_eq : ∀ p, t.get? p = es.get? p
  dropped_eq : t.dropped = es.dropped

theorem agrees_add (h : Agrees t (.ofOps r g ignoreBlank ops)) (l : Listed) :
    Agrees (add r g ignoreBlank t l.op) (.ofOps r g ignoreBlank (ops ++ [l])) where
  get?_eq p := by
    have hp := h.get?_eq p
    rw [Edits.get?_ofOps_append, ← hp, add_eq, get?, get?]
    by_cases hlimit : p.col < colLimit
    · rw [if_pos hlimit, if_pos hlimit, Edits.ofOpAt?]
      cases hl : Edits.ofOp? r g ignoreBlank l.op with
      | none => rfl
      | some q =>
          obtain ⟨q, e⟩ := q
          rw [Place.getElem?_insert_key (Edits.lands_iff.mpr hl).col_lt hlimit]
          by_cases hq : q = p <;> simp [hq]
    · have hnone : Edits.ofOpAt? r g ignoreBlank p l.op = none :=
        Edits.ofOpAt?_eq_none_iff.mpr fun e hlands => hlimit hlands.col_lt
      rw [if_neg hlimit, if_neg hlimit, hnone, Option.none_or]
  dropped_eq := by
    rw [add_eq, h.dropped_eq]
    simp only [Edits.ofOps, List.countP_append, List.countP_singleton]
    split <;> rfl

theorem agrees_ofOps : Agrees (ofOps r g ignoreBlank ops) (.ofOps r g ignoreBlank ops) := by
  induction ops using List.reverseRecOn with
  | nil => exact ⟨fun p => by simp [get?, ofOps, Edits.get?, Edits.ofOps], rfl⟩
  | append_singleton ops l ih =>
      rw [ofOps, List.foldl_append]
      exact agrees_add ih l

theorem mem_keys_iff {n : Nat} : n ∈ t.keys ↔ (t.get? (Place.ofKey n)).isSome := by
  rw [keys, mem_ascending, Std.HashMap.mem_keys, Std.HashMap.mem_iff_isSome_getElem?, get?,
    if_pos (Place.ofKey_col_lt n), Place.key_ofKey]

theorem keys_ofOps : (ofOps r g ignoreBlank ops).keys =
    (Edits.ofOps r g ignoreBlank ops).places.map Place.key := by
  apply (ascending_ascends _).eq_of_mem_iff Edits.keys_ascend
  intro n
  change n ∈ (ofOps r g ignoreBlank ops).keys ↔ _
  rw [mem_keys_iff, agrees_ofOps.get?_eq, Edits.get?_isSome_iff, List.mem_map]
  constructor
  · intro h
    exact ⟨Place.ofKey n, h, Place.key_ofKey n⟩
  · rintro ⟨p, hp, rfl⟩
    rwa [Place.ofKey_key (Edits.col_lt_of_mem_places hp)]

end EditTable

/-- At a place there is the last edit that an operation has there, and beyond the column limit there
is none. Edits of different cells never share a place, and an edit is dropped just if it has none.
The edited places are listed in order. A table of edits under the numbers of their places gives the
same, and its numbers stand for the same places. -/
theorem edits_by_place (r : Report) (g : Grid) (ignoreBlank : Bool) (ops : List Listed) :
    let es := Edits.ofOps r g ignoreBlank ops
    let t := EditTable.ofOps r g ignoreBlank ops
    (∀ p e, es.get? p = some e ↔ ∃ before l after, ops = before ++ l :: after ∧
      Edits.Lands r g ignoreBlank l.op p e ∧
        ∀ m ∈ after, ∀ e', ¬Edits.Lands r g ignoreBlank m.op p e') ∧
    (∀ p, es.get? p = none ↔ ∀ l ∈ ops, ∀ e, ¬Edits.Lands r g ignoreBlank l.op p e) ∧
    (∀ p, colLimit ≤ p.col → es.get? p = none) ∧
    (∀ op op' p e e', Edits.Lands r g ignoreBlank op p e →
      Edits.Lands r g ignoreBlank op' p e' →
        ∃ cell, op.editedCell? = some cell ∧ op'.editedCell? = some cell) ∧
    es.dropped = ops.countP (fun l => Edits.IsLost g l.op) ∧
    (∀ p, p ∈ es.places ↔ (es.get? p).isSome) ∧
    es.places.Pairwise (fun p q => p.row < q.row ∨ p.row = q.row ∧ p.col < q.col) ∧
    (∀ p, t.get? p = es.get? p) ∧ t.dropped = es.dropped ∧
    t.keys = es.places.map Place.key ∧ t.keys.map Place.ofKey = es.places := by
  intro es t
  have hkeys : t.keys = es.places.map Place.key := EditTable.keys_ofOps
  refine ⟨fun p e => Edits.get?_ofOps_eq_some_iff, fun p => Edits.get?_ofOps_eq_none_iff,
    fun p => Edits.get?_ofOps_of_limit, fun op op' p e e' h h' => h.editedCell?_eq h',
    Edits.dropped_ofOps, fun p => Edits.get?_isSome_iff.symm, es.places_pairwise,
    EditTable.agrees_ofOps.get?_eq, EditTable.agrees_ofOps.dropped_eq, hkeys, ?_⟩
  calc t.keys.map Place.ofKey = es.places.map (Place.ofKey ∘ Place.key) := by
        rw [hkeys, List.map_map]
    _ = es.places.map id :=
        List.map_congr_left fun p hp => Place.ofKey_key (Edits.col_lt_of_mem_places hp)
    _ = es.places := List.map_id _

end DiffView
