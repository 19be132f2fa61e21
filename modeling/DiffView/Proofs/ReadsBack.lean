import DiffView.Json.Shape
import Mathlib.Data.List.Basic

namespace DiffView.Json

variable {α β : Type}

/-- What was read once is read again from what is written of it. -/
def ReadsBack (read : β → Option α) (write : α → β) : Prop :=
  ∀ b a, read b = some a → read (write a) = some a

namespace Shape

theorem readsBack_text : ReadsBack text .text := fun _ _ _ => rfl

theorem readsBack_flag : ReadsBack flag .bool := fun _ _ _ => rfl

theorem readsBack_whole : ReadsBack whole .nat := fun _ _ _ => rfl

theorem readsBack_double : ReadsBack double .double := fun _ _ _ => rfl

theorem readsBack_index : ReadsBack index .nat := by
  intro v n h
  rw [index.eq_def] at h
  split at h
  · obtain ⟨hn, h⟩ := Option.ite_none_right_eq_some.mp h
    cases h
    exact if_pos hn
  · cases h

theorem readsBack_list {s : Shape α} {write : α → Value} (h : ReadsBack s write) :
    ReadsBack (list s) fun as => .list (as.map write) := by
  intro v as hread
  rw [list.eq_def] at hread
  split at hread
  · rename_i vs
    change (as.map write).mapM s = some as
    induction vs generalizing as with
    | nil =>
        cases hread
        rfl
    | cons v vs ih =>
        rw [List.mapM_cons] at hread
        obtain ⟨a, ha, hread⟩ := Option.bind_eq_some_iff.mp hread
        obtain ⟨as', has, hread⟩ := Option.bind_eq_some_iff.mp hread
        cases hread
        rw [List.map_cons, List.mapM_cons, h v a ha, ih as' has]
        rfl
  · cases hread

@[simp] theorem list_some (vs : List Value) : list some (.list vs) = some vs := by
  change vs.mapM some = some vs
  exact (List.mapM_pure (m := Option) (f := id)).trans (congrArg some (List.map_id vs))

@[simp] theorem optional_unlessEmpty (s : Shape α) (vs : List Value) :
    optional (list s) [] (Value.unlessEmpty vs) = list s (.list vs) := by
  cases vs with
  | nil => rfl
  | cons v vs => rfl

theorem readsBack_texts : ReadsBack texts .texts := readsBack_list readsBack_text

theorem readsBack_oneOf {isEmpty : Value → Bool} {words : List (String × α)} {word : α → String}
    (h : ∀ a, words.lookup (word a) = some a) :
    ReadsBack (oneOf isEmpty words) fun a => .text (word a) :=
  fun _ a _ => h a

theorem nullable_of_ne_null {s : Shape α} {v : Value} (h : v ≠ .null) :
    nullable s (some v) = (s v).map some := by
  cases v with
  | null => cases h rfl
  | bool | number | text | list | record => rfl

section Fields

variable {s : Shape α} {write : α → Value} (h : ReadsBack s write)

include h

theorem readsBack_required : ReadsBack (required s) fun a => some (write a) := by
  intro v a hread
  obtain ⟨w, -, hw⟩ := Option.bind_eq_some_iff.mp hread
  exact h w a hw

theorem readsBack_optional {absent : α} (habsent : s (write absent) = some absent) :
    ReadsBack (optional s absent) fun a => some (write a) := by
  intro v a hread
  cases v with
  | none =>
      cases hread
      exact habsent
  | some w => exact h w a hread

theorem readsBack_nullable (hnull : ∀ v a, v ≠ .null → s v = some a → write a ≠ .null) :
    ReadsBack (nullable s) fun a => a.map write := by
  intro v a hread
  rw [nullable.eq_def] at hread
  split at hread
  · cases hread
    rfl
  · cases hread
    rfl
  · rename_i w hw
    obtain ⟨a, ha, rfl⟩ := Option.map_eq_some_iff.mp hread
    have hback := nullable_of_ne_null (s := s) (hnull w a hw ha)
    rw [h w a ha] at hback
    exact hback

/-- An empty list is left out, as it is read of nothing. -/
theorem readsBack_unlessEmpty :
    ReadsBack (optional (list s) []) fun as => Value.unlessEmpty (as.map write) := by
  intro v as hread
  rw [optional_unlessEmpty]
  exact readsBack_optional (readsBack_list h) rfl v as hread

theorem readsBack_nullable_null (hnull : ∀ v a, v ≠ .null → s v = some a → write a ≠ .null) :
    ReadsBack (nullable s) fun a => some (.ofOption write a) := by
  intro v a hread
  have hback := readsBack_nullable h hnull v a hread
  cases a with
  | none => rfl
  | some a => exact hback

end Fields

theorem readsBack_nullable_text : ReadsBack (nullable text) fun s => s.map .text :=
  readsBack_nullable readsBack_text fun _ _ _ _ h => Value.noConfusion h

theorem readsBack_nullable_index : ReadsBack (nullable index) fun n => n.map .nat :=
  readsBack_nullable readsBack_index fun _ _ _ _ => nofun

theorem readsBack_optional_index : ReadsBack (optional index 0) fun n => some (.nat n) :=
  readsBack_optional readsBack_index rfl

theorem readsBack_optional_flag (absent : Bool) :
    ReadsBack (optional flag absent) fun b => some (.bool b) :=
  readsBack_optional readsBack_flag rfl

end Shape

namespace Value

open Shape

def fieldMembers (names : List String) (values : List (Option Value)) : List Member :=
  (names.zip values).filterMap fun m => m.2.map fun v => (m.1, v)

theorem fst_mem_of_mem_fieldMembers {names : List String} {values : List (Option Value)}
    {m : Member} (h : m ∈ fieldMembers names values) : m.1 ∈ names := by
  obtain ⟨⟨name, value⟩, hmem, h⟩ := List.mem_filterMap.mp h
  obtain ⟨v, -, rfl⟩ := Option.map_eq_some_iff.mp h
  exact (List.of_mem_zip hmem).1

theorem filter_eq_nil_of_not_mem {names : List String} {name : String} (hname : name ∉ names)
    {members : List Member} (h : ∀ m ∈ members, m.1 ∈ names) :
    members.filter (·.1 = name) = [] := by
  rw [List.filter_eq_nil_iff]
  intro m hm heq
  rw [← of_decide_eq_true heq] at hname
  exact hname (h m hm)

/-- Each field is found under its name, whatever other members come first. -/
theorem recordFields?_append {names : List String} {values : List (Option Value)}
    (others : List Member) (hnames : names.Nodup) (hlength : values.length = names.length)
    (hothers : ∀ m ∈ others, m.1 ∉ names) :
    recordFields? names (others ++ fieldMembers names values) = some values := by
  -- All names look through one list of members, so members join the others once they are read.
  induction names generalizing values others with
  | nil =>
      rw [List.eq_nil_of_length_eq_zero hlength]
      rfl
  | cons name names ih =>
      obtain ⟨hname, hnames⟩ := List.nodup_cons.mp hnames
      obtain ⟨value, values, rfl⟩ := List.exists_cons_of_length_eq_add_one hlength
      have hlength' : values.length = names.length := Nat.succ_inj.mp hlength
      have hfirst : others.filter (·.1 = name) = [] := by
        rw [List.filter_eq_nil_iff]
        intro m hm heq
        exact hothers m hm (List.mem_cons.mpr (.inl (of_decide_eq_true heq)))
      have hrest : (fieldMembers names values).filter (·.1 = name) = [] :=
        filter_eq_nil_of_not_mem hname fun m hm => fst_mem_of_mem_fieldMembers hm
      have hothers' (m : Member) (hm : m ∈ others) : m.1 ∉ names :=
        fun h => hothers m hm (List.mem_cons_of_mem name h)
      rw [recordFields?, List.mapM_cons]
      cases value with
      | none =>
          have hmembers : fieldMembers (name :: names) (none :: values) =
              fieldMembers names values := rfl
          have hread := ih others hnames hlength' hothers'
          rw [recordFields?] at hread
          rw [hmembers, List.filter_append, hfirst, hrest, hread]
          rfl
      | some v =>
          have hmembers : others ++ fieldMembers (name :: names) (some v :: values) =
              (others ++ [(name, v)]) ++ fieldMembers names values := by
            rw [List.append_assoc]
            rfl
          have hread := ih (others ++ [(name, v)]) hnames hlength' (by
            intro m hm
            rcases List.mem_append.mp hm with hm | hm
            · exact hothers' m hm
            · rw [List.mem_singleton.mp hm]
              exact hname)
          rw [recordFields?] at hread
          rw [hmembers, List.filter_append, List.filter_append, hfirst, hrest, hread]
          simp

theorem fields?_ofFields (names : List String) (values : List (Option Value))
    (hnames : names.Nodup) (hlength : values.length = names.length) :
    (ofFields names values).fields? names = some values :=
  recordFields?_append [] hnames hlength fun _ hm => absurd hm List.not_mem_nil

variable {key : String} {members : List (String × Option Value)}

theorem member?_ofMembers_of_notMem (h : key ∉ members.map (·.1)) :
    (ofMembers members).member? key = none := by
  refine List.lookup_eq_none_iff.mpr ?_
  intro field hfield
  obtain ⟨m, hm, hv⟩ := List.mem_filterMap.mp hfield
  obtain ⟨v, -, rfl⟩ := Option.map_eq_some_iff.mp hv
  have hne : key ≠ m.1 := by
    rintro rfl
    exact h (List.mem_map.mpr ⟨m, hm, rfl⟩)
  exact bne_iff_ne.mpr hne

theorem member?_ofMembers {value : Option Value} (h : (members.map (·.1)).Nodup)
    (hmem : (key, value) ∈ members) : (ofMembers members).member? key = value := by
  induction members with
  | nil => cases hmem
  | cons m members ih =>
      obtain ⟨name, v?⟩ := m
      obtain ⟨hname, hrest⟩ := List.nodup_cons.mp h
      rcases List.mem_cons.mp hmem with heq | htail
      · obtain ⟨rfl, rfl⟩ := Prod.mk.inj heq
        cases value with
        | none =>
            have hnone : (ofMembers members).member? key = none := member?_ofMembers_of_notMem hname
            exact hnone
        | some v => exact List.lookup_cons_self
      · have hne : key ≠ name := by
          rintro rfl
          exact hname (List.mem_map.mpr ⟨_, htail, rfl⟩)
        cases v? with
        | none => exact ih hrest htail
        | some v =>
            change List.lookup key ((name, v) :: _) = value
            rw [List.lookup_cons, beq_false_of_ne hne]
            exact ih hrest htail

end Value

end DiffView.Json
