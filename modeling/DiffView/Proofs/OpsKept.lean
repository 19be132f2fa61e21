import DiffView.Payload.Json
import DiffView.Proofs.Lists
import DiffView.Proofs.OpsReadBack
import Mathlib.Data.List.Nodup

namespace DiffView

open Json Json.Shape

/-! ### Values that are open at one place -/

namespace Json

/-- A record of some fields, or a list in place of one, that is open at one of the fields. -/
inductive OpenAt (names : List String) (name : String) : (Value → Value) → Prop
  | member (before after : List Member) :
      OpenAt names name fun v => .record (before ++ (name, v) :: after)
  | item (before after : List Value) (h : before.length = names.idxOf name) :
      OpenAt names name fun v => .list (before ++ v :: after)

namespace Value

def field? (members : List Member) (name : String) : Option (Option Value) :=
  match members.filter (·.1 = name) with
  | [] => some none
  | [m] => some (some m.2)
  | _ => none

theorem recordFields?_eq (names : List String) (members : List Member) :
    recordFields? names members = names.mapM (field? members) := rfl

variable {before after : List Member} {name other : String} {v : Value}

theorem field?_of_ne (h : name ≠ other) :
    field? (before ++ (name, v) :: after) other = field? (before ++ after) other := by
  rw [field?, field?, List.filter_append, List.filter_append, List.filter_cons_of_neg (by simpa)]

/-- Either nothing else has the name, or it does not matter what the member holds. -/
theorem field?_self (before after : List Member) (name : String) :
    (∀ v, field? (before ++ (name, v) :: after) name = some (some v)) ∨
      ∀ v, field? (before ++ (name, v) :: after) name = none := by
  have hfilter (v : Value) : (before ++ (name, v) :: after).filter (·.1 = name) =
      before.filter (·.1 = name) ++ (name, v) :: after.filter (·.1 = name) := by
    rw [List.filter_append, List.filter_cons_of_pos (by simp)]
  simp only [field?, hfilter]
  cases before.filter (·.1 = name) with
  | nil =>
      cases after.filter (·.1 = name) with
      | nil => exact .inl fun v => rfl
      | cons m ms => exact .inr fun v => rfl
  | cons m ms =>
      refine .inr fun v => ?_
      cases ms <;> rfl

theorem mapM_field?_of_not_mem {names : List String} (h : name ∉ names) :
    names.mapM (field? (before ++ (name, v) :: after)) = names.mapM (field? (before ++ after)) := by
  induction names with
  | nil => rfl
  | cons other names ih =>
      obtain ⟨hne, hnames⟩ := not_or.mp (mt List.mem_cons.mpr h)
      rw [List.mapM_cons, List.mapM_cons, field?_of_ne hne, ih hnames]

variable {names : List String} {C : Value → Value}

theorem fields?_open (hnames : names.Nodup) (hname : name ∈ names) (h : OpenAt names name C) :
    (∀ v, (C v).fields? names = none) ∨ ∃ left right, left.length = names.idxOf name ∧
      left.length + (right.length + 1) = names.length ∧
      ∀ v, (C v).fields? names = some (left ++ some v :: right) := by
  obtain ⟨first, rest, rfl⟩ := List.append_of_mem hname
  obtain ⟨hfirst, hrest⟩ : name ∉ first ∧ name ∉ rest := by
    have hmiddle := List.nodup_middle.mp hnames
    simpa using (List.nodup_cons.mp hmiddle).1
  have hindex : (first ++ name :: rest).idxOf name = first.length := by
    rw [List.idxOf_append_of_notMem hfirst, List.idxOf_cons_self, Nat.add_zero]
  rw [hindex]
  cases h with
  | member before after =>
      simp only [fields?, recordFields?_eq, List.mapM_append, List.mapM_cons,
        mapM_field?_of_not_mem hfirst, mapM_field?_of_not_mem hrest]
      cases hleft : first.mapM (field? (before ++ after)) with
      | none => exact .inl fun v => rfl
      | some left =>
          rcases field?_self before after name with hself | hself
          · simp only [hself]
            cases hright : rest.mapM (field? (before ++ after)) with
            | none => exact .inl fun v => rfl
            | some right =>
                refine .inr ⟨left, right, length_of_mapM_eq_some hleft, ?_, fun v => rfl⟩
                rw [List.length_append, List.length_cons, length_of_mapM_eq_some hleft,
                  length_of_mapM_eq_some hright]
          · simp only [hself]
            exact .inl fun v => rfl
  | item before after hlength =>
      rw [hindex] at hlength
      have hlist (v : Value) : (Value.list (before ++ v :: after)).fields? (first ++ name :: rest) =
          listFields? (first ++ name :: rest) (before ++ v :: after) := rfl
      simp only [hlist, listFields?, List.length_append, List.length_cons, hlength]
      by_cases hfits : first.length + (after.length + 1) ≤ first.length + (rest.length + 1)
      · -- A list may end before the last field. What it does not reach is missing.
        simp only [if_pos hfits]
        refine .inr ⟨before.map some, after.map some ++ List.replicate
          (first.length + (rest.length + 1) - (first.length + (after.length + 1))) none, ?_, ?_, ?_⟩
        · rw [List.length_map, hlength]
        · simp only [List.length_map, List.length_append, List.length_replicate, hlength]
          omega
        · simp
      · simp only [if_neg hfits]
        exact .inl fun v => trivial

end Value

end Json

/-! ### Payloads that are open at their operations -/

def Report.insertOp (n : Nat) (op : Op) (r : Report) : Report :=
  { r with ops := r.ops.insertIdx n op }

def Payload.insertOp (n : Nat) (op : Op) (p : Payload) : Payload :=
  { p with report := p.report.insertOp n op }

variable {C : Value → Value} {v : Value} {op : Op}

theorem Report.ofJson?_insertIdx (hC : OpenAt fieldNames "ops" C) (hop : Op.ofJson? v = some op)
    (items : List Value) (n : Nat) :
    ofJson? (C (.list (items.insertIdx n v))) =
      (ofJson? (C (.list items))).map (insertOp n op) := by
  have hnames : fieldNames.Nodup := by decide
  rcases Value.fields?_open hnames (by decide) hC with hnone | ⟨left, right, hleft, hright, hsome⟩
  · rw [ofJson?, ofJson?, hnone, hnone]
    rfl
  · obtain ⟨version, strings, rfl⟩ := List.length_eq_two.mp hleft
    have hfive : 2 + (right.length + 1) = 5 := hright
    obtain ⟨complete, warnings, rfl⟩ := List.length_eq_two.mp (by omega : right.length = 2)
    have hops : optional (list Op.ofJson?) [] (some (.list (items.insertIdx n v))) =
        (optional (list Op.ofJson?) [] (some (.list items))).map fun ops => ops.insertIdx n op :=
      mapM_insertIdx hop items n
    rw [ofJson?, ofJson?, hsome, hsome]
    simp only [List.cons_append, List.nil_append, hops]
    simp only [Option.bind_eq_bind, Option.bind_map, Option.map_bind, Function.comp_def,
      Option.pure_def, Option.map_some]
    rfl

namespace Payload

/-- A payload that is open at its operations: a report alone, or the record of a payload. -/
inductive OpenAtOps : (Value → Value) → Prop
  | bare {C : Value → Value} (h : OpenAt Report.fieldNames "ops" C)
      (hbare : ∀ v, (C v).member? "report" = none ∨ (C v).member? "report" = some .null) :
      OpenAtOps C
  | whole {C : Value → Value} (h : OpenAt Report.fieldNames "ops" C) (before after : List Member)
      (hbefore : ∀ m ∈ before, m.1 ≠ "report") :
      OpenAtOps fun v => .record (before ++ ("report", C v) :: after)

theorem ofJson?_of_bare (h : v.member? "report" = none ∨ v.member? "report" = some .null) :
    ofJson? v = (Report.ofJson? v).map ofReport := by
  rw [ofJson?]
  rcases h with h | h
  · rw [h]
  · rw [h]

theorem ofJson?_of_whole {before after : List Member} (hbefore : ∀ m ∈ before, m.1 ≠ "report")
    {r : Value} (hr : r ≠ .null) :
    ofJson? (.record (before ++ ("report", r) :: after)) =
      wholeOfJson? (.record (before ++ ("report", r) :: after)) := by
  have hmember : (Value.record (before ++ ("report", r) :: after)).member? "report" = some r := by
    rw [Value.member?, List.lookup_append]
    have hnone : before.lookup "report" = none := by
      rw [List.lookup_eq_none_iff]
      intro m hm
      simpa using (hbefore m hm).symm
    rw [hnone]
    simp
  rw [ofJson?, hmember]
  cases r with
  | null => exact absurd rfl hr
  | _ => rfl

theorem wholeOfJson?_insertOp {before after : List Member} {r r' : Value} {n : Nat}
    (h : Report.ofJson? r' = (Report.ofJson? r).map (Report.insertOp n op)) :
    wholeOfJson? (.record (before ++ ("report", r') :: after)) =
      (wholeOfJson? (.record (before ++ ("report", r) :: after))).map (insertOp n op) := by
  have hopen : OpenAt fieldNames "report"
      fun r => (Value.record (before ++ ("report", r) :: after)).respell spellings := by
    simp only [Value.respell, List.map_append, List.map_cons]
    exact .member _ _
  rcases Value.fields?_open (by decide) (by decide) hopen with
    hnone | ⟨left, right, hleft, hright, hsome⟩
  · rw [wholeOfJson?, wholeOfJson?, hnone, hnone]
    rfl
  · obtain rfl := List.length_eq_zero_iff.mp hleft
    have hfour : 0 + (right.length + 1) = 4 := hright
    obtain ⟨sheets, alignments, interests, rfl⟩ :=
      List.length_eq_three.mp (by omega : right.length = 3)
    have hreport : required Report.ofJson? (some r') =
        (required Report.ofJson? (some r)).map (Report.insertOp n op) := h
    rw [wholeOfJson?, wholeOfJson?, hsome, hsome]
    simp only [List.nil_append, hreport, Option.bind_eq_bind, Option.bind_map, Option.map_bind,
      Function.comp_def, Option.pure_def, Option.map_some]
    rfl

theorem ofJson?_insertIdx (hC : OpenAtOps C) (hop : Op.ofJson? v = some op) (items : List Value)
    (n : Nat) : ofJson? (C (.list (items.insertIdx n v))) =
      (ofJson? (C (.list items))).map (insertOp n op) := by
  cases hC with
  | bare h hbare =>
      rw [ofJson?_of_bare (hbare _), ofJson?_of_bare (hbare _), Report.ofJson?_insertIdx h hop]
      simp only [Option.map_map]
      rfl
  | @whole C h before after hbefore =>
      have hnull (v : Value) : C v ≠ .null := by cases h <;> nofun
      rw [ofJson?_of_whole hbefore (hnull _), ofJson?_of_whole hbefore (hnull _)]
      exact wholeOfJson?_insertOp (Report.ofJson?_insertIdx h hop items n)

end Payload

/-! ### Operations -/

/-- The members of an operation tell its kind; without a tag it is the empty one. -/
def Op.TellKind (members : List Member) (kind : String) : Prop :=
  members.lookup "kind" = some (.text kind) ∨ members.lookup "kind" = none ∧ kind = ""

def Op.withKind (members : List Member) : List Member :=
  if (members.lookup "kind").isSome then members else ("kind", .text "") :: members

theorem cons_filter_perm {members : List Member} {key : String} {v : Value}
    (hkeys : (members.map (·.1)).Nodup) (h : members.lookup key = some v) :
    ((key, v) :: members.filter (·.1 ≠ key)).Perm members := by
  induction members with
  | nil => cases h
  | cons m ms ih =>
      obtain ⟨other, w⟩ := m
      obtain ⟨hother, hkeys⟩ := List.nodup_cons.mp hkeys
      by_cases hkey : key = other
      · subst hkey
        rw [List.lookup_cons_self, Option.some_inj] at h
        have hkept : ms.filter (·.1 ≠ key) = ms := by
          rw [List.filter_eq_self]
          intro m hm
          exact decide_eq_true fun heq => hother (List.mem_map.mpr ⟨m, hm, heq⟩)
        rw [List.filter_cons_of_neg (by simp), hkept, h]
      · have hlookup : ms.lookup key = some v := by
          rwa [List.lookup_cons, beq_false_of_ne hkey] at h
        rw [List.filter_cons_of_pos (by simpa using Ne.symm hkey)]
        exact (List.Perm.swap _ _ _).trans ((ih hkeys hlookup).cons _)

theorem Op.Kind.name_of_ofName? {s : String} {k : Kind} (h : ofName? s = some k) : k.name = s := by
  rw [ofName?] at h
  simpa using List.find?_some h

section Members

variable {members : List Member} {kind : String}

theorem Change.kind_name (hkind : Op.TellKind members kind) {c : Change}
    (h : ofJson? (.record members) = some c) : c.kind.name = kind := by
  obtain ⟨⟨k, rest⟩, htag, h⟩ := Option.bind_eq_some_iff.mp h
  obtain ⟨fields, -, h⟩ := Option.bind_eq_some_iff.mp h
  obtain ⟨rfl, -⟩ := ofFields?_back h
  obtain ⟨tag, hlookup, htag⟩ := Option.bind_eq_some_iff.mp htag
  obtain ⟨k, hk, htag⟩ := Option.bind_eq_some_iff.mp htag
  cases htag
  rcases hkind with htext | ⟨hnone, -⟩
  · obtain rfl := Option.some_inj.mp (hlookup.symm.trans htext)
    exact Op.Kind.name_of_ofName? hk
  · cases hlookup.symm.trans hnone

theorem UnknownOp.exists_ofJson? (hkind : Op.TellKind members kind) :
    ∃ u, ofJson? (.record members) = some u ∧ u.kind = kind := by
  rcases hkind with htext | ⟨hnone, rfl⟩
  · exact ⟨⟨kind, members.filter (·.1 ≠ "kind")⟩, by rw [ofJson?, htext], rfl⟩
  · exact ⟨⟨"", members⟩, by rw [ofJson?, hnone], rfl⟩

theorem UnknownOp.members_perm (hkeys : (members.map (·.1)).Nodup) {u : UnknownOp}
    (h : ofJson? (.record members) = some u) :
    (("kind", Value.text u.kind) :: u.members).Perm (Op.withKind members) := by
  rw [Op.withKind]
  cases hlookup : members.lookup "kind" with
  | none =>
      rw [ofJson?, hlookup] at h
      cases h
      exact .refl _
  | some tag =>
      obtain ⟨read, hread, hmembers, htext | ⟨hnone, -⟩⟩ := ofJson?_eq_some h
      · obtain rfl := Value.record.inj hread
        rw [hmembers]
        exact cons_filter_perm hkeys htext
      · obtain rfl := Value.record.inj hread
        cases hlookup.symm.trans hnone

theorem Op.exists_ofJson? (hkind : Op.TellKind members kind) :
    ∃ op, ofJson? (.record members) = some op ∧ op.kindName = kind := by
  cases hc : Change.ofJson? (.record members) with
  | some c => exact ⟨.known c, by rw [ofJson?, hc], Change.kind_name hkind hc⟩
  | none =>
      obtain ⟨u, hu, hkind⟩ := UnknownOp.exists_ofJson? hkind
      exact ⟨.unknown u, by rw [ofJson?, hc, hu]; rfl, hkind⟩

theorem Op.ofJson?_eq_unknown {u : UnknownOp} (h : ofJson? v = some (.unknown u)) :
    UnknownOp.ofJson? v = some u := by
  rw [ofJson?] at h
  split at h
  · cases h
  · obtain ⟨u', hu', h⟩ := Option.map_eq_some_iff.mp h
    cases h
    exact hu'

end Members

/-- A record that tells its kind, or has no tag, is read as an operation of that kind. If it does
not read as one that is known, it is written with all its members again, in whatever order. Wherever
it stands among the operations of a payload, the payload is read as without it, and it is in its
place among the operations. -/
theorem ops_kept {members : List Member} {kind : String} (hkeys : (members.map (·.1)).Nodup)
    (hkind : Op.TellKind members kind) :
    ∃ op, Op.ofJson? (.record members) = some op ∧ op.kindName = kind ∧
      (∀ u, op = .unknown u → ∃ ms, op.toJson = .record ms ∧ ms.Perm (Op.withKind members)) ∧
      ∀ C, Payload.OpenAtOps C → ∀ (items : List Value) (n : Nat),
        Payload.ofJson? (C (.list (items.insertIdx n (.record members)))) =
          (Payload.ofJson? (C (.list items))).map (Payload.insertOp n op) := by
  obtain ⟨op, hop, hname⟩ := Op.exists_ofJson? hkind
  refine ⟨op, hop, hname, ?_, fun C hC items n => Payload.ofJson?_insertIdx hC hop items n⟩
  rintro u rfl
  exact ⟨_, rfl, UnknownOp.members_perm hkeys (Op.ofJson?_eq_unknown hop)⟩

def addedNowhere : List Member := [("kind", .text "RowAdded"), ("sheet", .nat 0)]

theorem ops_kept_of_addedNowhere :
    let u : UnknownOp := ⟨"RowAdded", [("sheet", .nat 0)]⟩
    let report (ops : Value) : Value := .record [("strings", .list [.text "S"]), ("ops", ops)]
    (addedNowhere.map (·.1)).Nodup ∧ Op.TellKind addedNowhere "RowAdded" ∧
      Op.ofJson? (.record addedNowhere) = some (.unknown u) ∧
      u.toJson = .record addedNowhere ∧
      Payload.ofJson? (report (.list [.record addedNowhere])) =
        (Payload.ofJson? (report (.list []))).map (Payload.insertOp 0 (.unknown u)) := by
  intro u report
  have hkeys : (addedNowhere.map (·.1)).Nodup := by decide
  have hkind : Op.TellKind addedNowhere "RowAdded" := .inl rfl
  obtain ⟨op, hop, -, -, hpayload⟩ := ops_kept hkeys hkind
  have hread : Op.ofJson? (.record addedNowhere) = some (.unknown u) := rfl
  obtain rfl := Option.some_inj.mp (hop.symm.trans hread)
  refine ⟨hkeys, hkind, hread, rfl, ?_⟩
  exact hpayload report (.bare (.member [("strings", .list [.text "S"])] []) fun _ => .inl rfl) [] 0

end DiffView
