import DiffView.Proofs.Ids
import DiffView.Proofs.Requests
import DiffView.Proofs.Sorting

namespace DiffView

def Side.title : Side → String
  | .old => "Old"
  | .new => "New"

theorem Side.title_injective : Function.Injective title := by
  intro side side' h
  cases side <;> cases side' <;> simp [title] at h ⊢

namespace Extent

variable {o : Options} {s : Sizes} {ops : List Listed} {e e' : Extent}

/-- An extent as one text. Only what stands last in it can have a colon. -/
def key (e : Extent) : String :=
  s!"{e.kind}:{e.side.title}:{e.rows.first}:{e.rows.last}:{e.cols.first}:{e.cols.last}:" ++
    e.moveId.getD ""

/-- A kind has no colon, and the id of a move is not empty. -/
structure Plain (e : Extent) : Prop where
  kind : ':' ∉ e.kind.toList
  moveId : e.moveId ≠ some ""

theorem key_inj (he : e.Plain) (he' : e'.Plain) (h : e.key = e'.key) : e = e' := by
  obtain ⟨kind, side, ⟨top, bottom⟩, ⟨left, right⟩, moveId⟩ := e
  obtain ⟨kind', side', ⟨top', bottom'⟩, ⟨left', right'⟩, moveId'⟩ := e'
  have hside (side : Side) : ':' ∉ side.title.toList := by cases side <;> decide
  have hparts : kind = kind' ∧ side.title = side'.title ∧ top = top' ∧ bottom = bottom' ∧
      left = left' ∧ right = right' ∧ moveId.getD "" = moveId'.getD "" := by
    simpa [key, toString, append_cons_inj he.kind he'.kind,
      append_cons_inj (hside side) (hside side'), String.toList_inj] using congrArg String.toList h
  obtain ⟨rfl, htitle, rfl, rfl, rfl, rfl, hid⟩ := hparts
  obtain rfl := Side.title_injective htitle
  have hmove : moveId = moveId' := eq_of_getD_eq he.moveId he'.moveId hid
  rw [hmove]

theorem plain_of_mem_asked (h : e ∈ asked o s ops) : e.Plain := by
  obtain ⟨-, -, c, -, kind, p, moveId, htouches, he⟩ := mem_asked.mp h
  obtain ⟨-, -, hkind, -, hmove⟩ := ofRequest?_eq_some_iff.mp he
  constructor
  · rw [hkind]
    change ':' ∉ kind.toList
    cases htouches with
    | added line | removed line => cases line <;> decide
    | _ => decide
  · rw [hmove]
    change moveId ≠ some ""
    cases htouches with
    | source b | target b => exact fun hid => b.id_ne_empty (Option.some_inj.mp hid)
    | _ => exact fun hid => nomatch hid

theorem ofOps_eq_distinctBy (o : Options) (s : Sizes) (ops : List Listed) :
    ofOps o s ops = distinctBy key (asked o s ops) :=
  (distinctBy_eq_distinct key fun _ he _ he' =>
    key_inj (plain_of_mem_asked he) (plain_of_mem_asked he')).symm

end Extent

end DiffView
