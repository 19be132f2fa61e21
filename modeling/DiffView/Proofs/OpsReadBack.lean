import DiffView.Op.Json
import DiffView.Proofs.ReadsBack

namespace DiffView

open Json Json.Shape

/-! ### Values -/

namespace Ref

theorem readsBack : ReadsBack ofJson? toJson := by
  intro v r h
  rw [ofJson?.eq_def] at h
  split at h
  · cases h
    rfl
  · obtain ⟨n, hn, rfl⟩ := Option.map_eq_some_iff.mp h
    exact congrArg (Option.map Ref.id) (readsBack_index _ n hn)

theorem toJson_ne_null (r : Ref) : r.toJson ≠ .null := by cases r <;> nofun

end Ref

namespace Address

theorem readsBack : ReadsBack ofJson? toJson := by
  intro v a h
  rw [ofJson?.eq_def] at h
  split at h
  · cases h
    rfl
  · split at h
    · rename_i row col _
      obtain ⟨r, hr, h⟩ := Option.bind_eq_some_iff.mp h
      obtain ⟨c, hc, h⟩ := Option.bind_eq_some_iff.mp h
      cases h
      have hfields : (Value.record [("row", .nat r), ("col", .nat c)]).fields? ["row", "col"] =
          some [some (.nat r), some (.nat c)] :=
        Value.fields?_ofFields ["row", "col"] [some (.nat r), some (.nat c)] (by decide) rfl
      rw [toJson, ofJson?, hfields]
      simp only [readsBack_required readsBack_index _ _ hr,
        readsBack_required readsBack_index _ _ hc]
      rfl
    · cases h
  · cases h

theorem toJson_ne_null (a : Address) : a.toJson ≠ .null := by cases a <;> nofun

end Address

namespace CellValue

theorem readsBack : ReadsBack ofJson? toJson := by
  intro v c h
  rw [ofJson?.eq_def] at h
  split at h
  · cases h
    rfl
  · cases h
    rfl
  · obtain ⟨d, hd, rfl⟩ := Option.map_eq_some_iff.mp h
    exact congrArg (Option.map CellValue.number) (readsBack_double _ d hd)
  · obtain ⟨r, hr, rfl⟩ := Option.map_eq_some_iff.mp h
    exact congrArg (Option.map CellValue.text) (Ref.readsBack _ r hr)
  · obtain ⟨b, hb, rfl⟩ := Option.map_eq_some_iff.mp h
    exact congrArg (Option.map CellValue.bool) (readsBack_flag _ b hb)
  · obtain ⟨r, hr, rfl⟩ := Option.map_eq_some_iff.mp h
    exact congrArg (Option.map CellValue.error) (Ref.readsBack _ r hr)
  · cases h

theorem toJson_ne_null (c : CellValue) : c.toJson ≠ .null := by cases c <;> nofun

end CellValue

namespace Content

variable {v : Value} {c : CellValue}

theorem ofJson_of_some (h : CellValue.ofJson? v = some c) : ofJson v = .typed c := by
  rw [ofJson, h]

theorem ofJson_of_none (h : CellValue.ofJson? v = none) : ofJson v = .raw v := by
  rw [ofJson, h]

/-- What is kept raw did not read as a typed value, so it does not do so later either. -/
theorem readsBack : ReadsBack (fun v => some (ofJson v)) toJson := by
  intro v c h
  cases h
  apply congrArg some
  cases hv : CellValue.ofJson? v with
  | some c =>
      rw [ofJson_of_some hv]
      exact ofJson_of_some (CellValue.readsBack v c hv)
  | none =>
      rw [ofJson_of_none hv]
      exact ofJson_of_none hv

theorem toJson_ne_null (h : v ≠ .null) : (ofJson v).toJson ≠ .null := by
  cases hv : CellValue.ofJson? v with
  | some c =>
      rw [ofJson_of_some hv]
      exact c.toJson_ne_null
  | none =>
      rw [ofJson_of_none hv]
      exact h

end Content

theorem CellState.readsBack : ReadsBack ofJson? toJson := by
  intro v s h
  rw [ofJson?] at h
  split at h
  · rename_i addr content formula _
    obtain ⟨a, ha, h⟩ := Option.bind_eq_some_iff.mp h
    obtain ⟨c, hc, h⟩ := Option.bind_eq_some_iff.mp h
    obtain ⟨f, hf, h⟩ := Option.bind_eq_some_iff.mp h
    cases h
    rw [ofJson?, toJson, Value.fields?_ofFields _ _ (by decide) rfl]
    have ha' := readsBack_nullable Address.readsBack (fun _ a _ _ => a.toJson_ne_null) _ _ ha
    have hc' := readsBack_nullable_null Content.readsBack
      (fun v c hv hc => by cases hc; exact Content.toJson_ne_null hv) _ _ hc
    have hf' := readsBack_nullable_null Ref.readsBack (fun _ r _ _ => r.toJson_ne_null) _ _ hf
    simp only [ha', hc', hf']
    rfl
  · cases h

@[simp] theorem FormulaChange.lookup_word (c : FormulaChange) : words.lookup c.word = some c := by
  cases c <;> rfl

@[simp] theorem QueryEdit.lookup_word (e : QueryEdit) : words.lookup e.word = some e := by
  cases e <;> rfl

@[simp] theorem ExpressionEdit.lookup_word (e : ExpressionEdit) : words.lookup e.word = some e := by
  cases e <;> rfl

@[simp] theorem QueryField.lookup_word (f : QueryField) : words.lookup f.word = some f := by
  cases f <;> rfl

@[simp] theorem ColumnField.lookup_word (f : ColumnField) : words.lookup f.word = some f := by
  cases f <;> rfl

@[simp] theorem RelationField.lookup_word (f : RelationField) : words.lookup f.word = some f := by
  cases f <;> rfl

/-! ### Fields of changes -/

namespace Change

variable {v : Option Value}

@[simp] theorem ref_back {r : Ref} (h : ref v = some r) : ref (refJson r) = some r :=
  readsBack_required Ref.readsBack v r h

@[simp] theorem ref?_back {r : Option Ref} (h : ref? v = some r) : ref? (refOrNull r) = some r :=
  readsBack_nullable_null Ref.readsBack (fun _ r _ _ => r.toJson_ne_null) v r h

@[simp] theorem ref?_map_back {r : Option Ref} (h : ref? v = some r) :
    ref? (r.map (·.toJson)) = some r :=
  readsBack_nullable Ref.readsBack (fun _ r _ _ => r.toJson_ne_null) v r h

@[simp] theorem nat_back {n : Nat} (h : nat v = some n) : nat (natJson n) = some n :=
  readsBack_required readsBack_index v n h

@[simp] theorem hash?_back {n : Option Nat} (h : hash? v = some n) : hash? (n.map .nat) = some n :=
  readsBack_nullable readsBack_whole (fun _ _ _ _ => nofun) v n h

@[simp] theorem nats_back {ns : List Nat} (h : nats v = some ns) : nats (natsJson ns) = some ns :=
  readsBack_optional (readsBack_list readsBack_index) rfl v ns h

@[simp] theorem optional_list_some (vs : List Value) :
    optional (list some) [] (some (.list vs)) = some vs :=
  list_some vs

@[simp] theorem required_wordOf {α : Type} (words : List (String × α)) (s : String) :
    required (wordOf words) (wordJson s) = words.lookup s := rfl

@[simp] theorem optional_wordOf {α : Type} (words : List (String × α)) (absent : α)
    (s : String) : optional (wordOf words) absent (wordJson s) = words.lookup s := rfl

@[simp] theorem addr_back {a : Address} (h : required Address.ofJson? v = some a) :
    required Address.ofJson? (some a.toJson) = some a :=
  readsBack_required Address.readsBack v a h

@[simp] theorem state_back {s : CellState} (h : optional CellState.ofJson? .empty v = some s) :
    optional CellState.ofJson? .empty (some s.toJson) = some s :=
  readsBack_optional CellState.readsBack (by decide) v s h

@[simp] theorem steps?_stepsJson (steps : List Value) : steps? (stepsJson steps) = some steps := by
  rw [steps?, stepsJson, Value.fields?_ofFields _ _ (by decide) rfl]
  exact (optional_unlessEmpty some steps).trans (list_some steps)

@[simp] theorem detail_back {steps : Option (List Value)} (h : nullable steps? v = some steps) :
    nullable steps? (steps.map stepsJson) = some steps :=
  readsBack_nullable (fun _ steps _ => steps?_stepsJson steps) (fun _ _ _ _ => nofun) v steps h

@[simp] theorem ends?_back {a b c d : Option Value} {e : Ends} (h : ends? a b c d = some e) :
    ends? (refJson e.fromTable) (refJson e.fromColumn) (refJson e.toTable) (refJson e.toColumn) =
      some e := by
  simp only [ends?, Option.bind_eq_bind, Option.bind_eq_some_iff, Option.pure_def,
    Option.some.injEq] at h
  obtain ⟨fromTable, ha, fromColumn, hb, toTable, hc, toColumn, hd, rfl⟩ := h
  rw [ends?, ref_back ha, ref_back hb, ref_back hc, ref_back hd]
  rfl

/-! ### Changes -/

variable {kind : Op.Kind} {fields : List (Option Value)}

/-- For each kind, the fields that it is written with are read as those that it was read from. -/
theorem gridOfFields?_back {c : GridChange} (h : gridOfFields? kind fields = some c) :
    c.kind = kind ∧ gridOfFields? kind c.toFields = some c := by
  rw [gridOfFields?.eq_def] at h
  split at h
  -- A sheet that is added or removed has no further fields.
  case h_1 | h_2 =>
    cases h
    exact ⟨rfl, rfl⟩
  case h_15 => cases h
  all_goals
    simp only [Option.bind_eq_bind, Option.bind_eq_some_iff, Option.pure_def,
      Option.some.injEq] at h
    -- Each field comes with the reading that gave it. The lemma for its type needs that reading,
    -- whatever value it was of.
    repeat obtain ⟨_, _, h⟩ := h
    refine ⟨rfl, ?_⟩
    simp (disch := assumption) [gridOfFields?, GridChange.toFields, Block.toFields]

theorem objectOfFields?_back {c : ObjectChange} (h : objectOfFields? kind fields = some c) :
    c.kind = kind ∧ objectOfFields? kind c.toFields = some c := by
  rw [objectOfFields?.eq_def] at h
  split at h
  case h_10 => cases h
  all_goals
    simp only [Option.bind_eq_bind, Option.bind_eq_some_iff, Option.pure_def,
      Option.some.injEq] at h
    repeat obtain ⟨_, _, h⟩ := h
    refine ⟨rfl, ?_⟩
    simp (disch := assumption) [objectOfFields?, ObjectChange.toFields]

theorem queryOfFields?_back {c : QueryChange} (h : queryOfFields? kind fields = some c) :
    c.kind = kind ∧ queryOfFields? kind c.toFields = some c := by
  rw [queryOfFields?.eq_def] at h
  split at h
  case h_6 => cases h
  all_goals
    simp only [Option.bind_eq_bind, Option.bind_eq_some_iff, Option.pure_def,
      Option.some.injEq] at h
    repeat obtain ⟨_, _, h⟩ := h
    refine ⟨rfl, ?_⟩
    simp (disch := assumption) [queryOfFields?, QueryChange.toFields, Hashes.toFields]

theorem modelOfFields?_back {c : ModelChange} (h : modelOfFields? kind fields = some c) :
    c.kind = kind ∧ modelOfFields? kind c.toFields = some c := by
  rw [modelOfFields?.eq_def] at h
  split at h
  case h_14 => cases h
  all_goals
    simp only [Option.bind_eq_bind, Option.bind_eq_some_iff, Option.pure_def,
      Option.some.injEq] at h
    repeat obtain ⟨_, _, h⟩ := h
    refine ⟨rfl, ?_⟩
    simp (disch := assumption) [modelOfFields?, ModelChange.toFields, Hashes.toFields,
      Ends.toFields]

theorem ofFields?_back {c : Change} (h : ofFields? kind fields = some c) :
    c.kind = kind ∧ ofFields? kind c.toFields = some c := by
  rw [ofFields?.eq_def] at h
  rw [ofFields?.eq_def]
  cases hscope : scope kind with
  | grid =>
      rw [hscope] at h
      cases fields with
      | nil => cases h
      | cons sheet fields =>
          obtain ⟨s, hs, h⟩ := Option.bind_eq_some_iff.mp h
          obtain ⟨c, hc, h⟩ := Option.bind_eq_some_iff.mp h
          cases h
          obtain ⟨hkind, hback⟩ := gridOfFields?_back hc
          refine ⟨hkind, ?_⟩
          simp only [toFields, ref_back hs, hback]
          rfl
  | object =>
      rw [hscope] at h
      obtain ⟨c, hc, rfl⟩ := Option.map_eq_some_iff.mp h
      obtain ⟨hkind, hback⟩ := objectOfFields?_back hc
      exact ⟨hkind, congrArg (Option.map Change.object) hback⟩
  | query =>
      rw [hscope] at h
      obtain ⟨c, hc, rfl⟩ := Option.map_eq_some_iff.mp h
      obtain ⟨hkind, hback⟩ := queryOfFields?_back hc
      exact ⟨hkind, congrArg (Option.map Change.query) hback⟩
  | model =>
      rw [hscope] at h
      obtain ⟨c, hc, rfl⟩ := Option.map_eq_some_iff.mp h
      obtain ⟨hkind, hback⟩ := modelOfFields?_back hc
      exact ⟨hkind, congrArg (Option.map Change.model) hback⟩

theorem length_toFields (c : Change) : c.toFields.length = c.kind.fieldNames.length := by
  match c with
  | .grid _ c =>
      cases c with
      | lineAdded line | lineRemoved line => cases line <;> rfl
      | moved block => cases block <;> rfl
      | _ => rfl
  | .object c =>
      cases c with
      | vbaModule fate | chart fate => cases fate <;> rfl
      | _ => rfl
  | .query c => cases c <;> rfl
  | .model c => cases c <;> rfl

end Change

theorem Op.Kind.nodup_fieldNames (k : Kind) : ("kind" :: k.fieldNames).Nodup := by
  cases k <;> decide

namespace Change

theorem tagged?_toJson (c : Change) :
    tagged? c.toJson = some (c.kind, .ofFields c.kind.fieldNames c.toFields) := by
  obtain ⟨hkind, -⟩ := List.nodup_cons.mp c.kind.nodup_fieldNames
  have hrest : (Value.fieldMembers c.kind.fieldNames c.toFields).filter (·.1 ≠ "kind") =
      Value.fieldMembers c.kind.fieldNames c.toFields := by
    rw [List.filter_eq_self]
    intro m hm
    refine decide_eq_true ?_
    rintro heq
    rw [← heq] at hkind
    exact hkind (Value.fst_mem_of_mem_fieldMembers hm)
  have hjson : c.toJson = .record (("kind", .text c.kind.name) ::
      Value.fieldMembers c.kind.fieldNames c.toFields) := rfl
  have hname : Op.Kind.ofJson? (.text c.kind.name) = some c.kind := Op.Kind.ofName?_name c.kind
  rw [hjson, tagged?, List.lookup_cons_self, List.filter_cons_of_neg (by simp), hrest]
  simp only [Option.bind_eq_bind, Option.bind_some, hname]
  rfl

theorem readsBack : ReadsBack ofJson? toJson := by
  intro v c h
  obtain ⟨⟨kind, rest⟩, -, h⟩ := Option.bind_eq_some_iff.mp h
  obtain ⟨fields, -, h⟩ := Option.bind_eq_some_iff.mp h
  obtain ⟨rfl, hback⟩ := ofFields?_back h
  obtain ⟨-, hnames⟩ := List.nodup_cons.mp c.kind.nodup_fieldNames
  have hfields : (Value.ofFields c.kind.fieldNames c.toFields).fields? c.kind.fieldNames =
      some c.toFields := Value.fields?_ofFields _ _ hnames c.length_toFields
  rw [ofJson?, tagged?_toJson]
  simp only [Option.bind_eq_bind, Option.bind_some, hfields, hback]

end Change

/-! ### Operations -/

namespace UnknownOp

variable {v : Value} {u : UnknownOp}

theorem ofJson?_eq_some (h : ofJson? v = some u) :
    ∃ members, v = .record members ∧ u.members = members.filter (·.1 ≠ "kind") ∧
      (members.lookup "kind" = some (.text u.kind) ∨
        members.lookup "kind" = none ∧ u.kind = "") := by
  rw [ofJson?.eq_def] at h
  split at h
  · rename_i members
    refine ⟨members, rfl, ?_⟩
    split at h
    · rename_i hnone
      cases h
      refine ⟨?_, .inr ⟨hnone, rfl⟩⟩
      symm
      rw [List.filter_eq_self]
      intro m hm
      have hne := List.lookup_eq_none_iff.mp hnone m hm
      exact decide_eq_true (bne_iff_ne.mp hne).symm
    · rename_i kind hkind
      cases h
      exact ⟨rfl, .inl hkind⟩
    · cases h
  · cases h

theorem filter_members (h : ofJson? v = some u) :
    (("kind", Value.text u.kind) :: u.members).filter (·.1 ≠ "kind") = u.members := by
  obtain ⟨members, -, hmembers, -⟩ := ofJson?_eq_some h
  rw [List.filter_cons_of_neg (by simp), hmembers, List.filter_filter]
  simp only [Bool.and_self]

theorem readsBack : ReadsBack ofJson? toJson := by
  intro v u h
  rw [toJson, ofJson?, List.lookup_cons_self, filter_members h]

/-- A tag that names no kind names none later either, and no kind has an empty name. -/
theorem tagged?_toJson (h : ofJson? v = some u) :
    Change.tagged? u.toJson = Change.tagged? v := by
  obtain ⟨members, rfl, hmembers, hkind | ⟨hnone, hkind⟩⟩ := ofJson?_eq_some h
  · rw [toJson, Change.tagged?, Change.tagged?, List.lookup_cons_self, filter_members h, hkind,
      hmembers]
  · rw [toJson, Change.tagged?, Change.tagged?, List.lookup_cons_self, hkind, hnone]
    rfl

end UnknownOp

theorem Op.readsBack : ReadsBack ofJson? toJson := by
  intro v op h
  rw [ofJson?.eq_def] at h
  split at h
  · rename_i c hc
    cases h
    rw [ofJson?, toJson, Change.readsBack v c hc]
  · rename_i hnone
    obtain ⟨u, hu, rfl⟩ := Option.map_eq_some_iff.mp h
    have hnone' : Change.ofJson? u.toJson = none := by
      rw [Change.ofJson?, UnknownOp.tagged?_toJson hu]
      exact hnone
    rw [ofJson?, toJson, hnone', UnknownOp.readsBack v u hu]
    rfl

end DiffView
