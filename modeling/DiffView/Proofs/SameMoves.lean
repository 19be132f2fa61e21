import DiffView.Proofs.Ids
import DiffView.Proofs.Kinds
import DiffView.Proofs.Survivors

namespace DiffView

namespace Change

variable {c c' : Change} {id : String}

/-- Two operations move blocks of one shape and size from one start to one destination. -/
inductive SameMove : Change → Change → Prop
  | rows (sheet sheet' : Ref) (hash hash' : Option Nat) (src count dst : Nat) :
      SameMove (.grid sheet (.moved (.rows src count dst) hash))
        (.grid sheet' (.moved (.rows src count dst) hash'))
  | cols (sheet sheet' : Ref) (hash hash' : Option Nat) (src count dst : Nat) :
      SameMove (.grid sheet (.moved (.cols src count dst) hash))
        (.grid sheet' (.moved (.cols src count dst) hash'))
  | rect (sheet sheet' : Ref) (hash hash' : Option Nat)
      (srcRow height srcCol width dstRow dstCol : Nat) :
      SameMove (.grid sheet (.moved (.rect srcRow height srcCol width dstRow dstCol) hash))
        (.grid sheet' (.moved (.rect srcRow height srcCol width dstRow dstCol) hash'))

theorem moveId?_eq_some_iff : (Op.known c).moveId? = some id ↔
    ∃ sheet block hash, c = .grid sheet (.moved block hash) ∧ block.id = id := by
  rw [Op.moveId?, Option.map_eq_some_iff]
  constructor
  · rintro ⟨block, hblock, rfl⟩
    obtain ⟨sheet, hash, hop⟩ := Op.block?_eq_some_iff.mp hblock
    cases hop
    exact ⟨sheet, block, hash, rfl, rfl⟩
  · rintro ⟨sheet, block, hash, rfl, rfl⟩
    exact ⟨block, rfl, rfl⟩

theorem moveId?_eq_none_iff : (Op.known c).moveId? = none ↔ c.kind ∉ Op.Kind.ofMoves := by
  rw [Option.eq_none_iff_forall_ne_some]
  constructor
  · intro h hkind
    have hgrid := Op.Kind.mem_ofGrid_of_mem_ofMoves hkind
    obtain ⟨sheet, change, rfl⟩ := exists_grid_of_kind hgrid
    obtain ⟨block, hash, rfl⟩ := GridChange.kind_mem_ofMoves_iff.mp hkind
    exact h block.id rfl
  · intro h id hid
    obtain ⟨sheet, block, hash, rfl, -⟩ := moveId?_eq_some_iff.mp hid
    exact h (GridChange.kind_mem_ofMoves_iff.mpr ⟨block, hash, rfl⟩)

theorem SameMove.exists_moveId (h : SameMove c c') :
    ∃ id, (Op.known c).moveId? = some id ∧ (Op.known c').moveId? = some id := by
  cases h with
  | rows | cols | rect => exact ⟨_, rfl, rfl⟩

theorem sameMove_of_moveId? (h : (Op.known c).moveId? = some id)
    (h' : (Op.known c').moveId? = some id) : SameMove c c' := by
  obtain ⟨sheet, block, hash, rfl, hid⟩ := moveId?_eq_some_iff.mp h
  obtain ⟨sheet', block', hash', rfl, hid'⟩ := moveId?_eq_some_iff.mp h'
  obtain rfl := Block.id_inj (hid.trans hid'.symm)
  cases block with
  | rows => exact .rows ..
  | cols => exact .cols ..
  | rect => exact .rect ..

end Change

/-- Two operations have one move id just if they make the same move, and the operations without a
move id are those of other kinds than moves. -/
theorem move_ids_tell_moves (c c' : Change) :
    ((∃ id, (Op.known c).moveId? = some id ∧ (Op.known c').moveId? = some id) ↔
      Change.SameMove c c') ∧
    ((Op.known c).moveId? = none ↔ c.kind ∉ Op.Kind.ofMoves) := by
  refine ⟨?_, Change.moveId?_eq_none_iff⟩
  constructor
  · rintro ⟨id, h, h'⟩
    exact Change.sameMove_of_moveId? h h'
  · exact Change.SameMove.exists_moveId

end DiffView
