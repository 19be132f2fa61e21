import DiffView.Box
import DiffView.Sorting
import Mathlib.Data.List.Basic

namespace DiffView

variable {α : Type}

theorem insertBy_perm (cmp : α → α → Ordering) (a : α) (as : List α) :
    (insertBy cmp a as).Perm (a :: as) := by
  induction as with
  | nil => exact .refl _
  | cons b bs ih =>
      rw [insertBy]
      split
      · exact .refl _
      · exact (ih.cons b).trans (.swap a b bs)

theorem sortBy_perm (cmp : α → α → Ordering) (as : List α) : (sortBy cmp as).Perm as := by
  induction as with
  | nil => exact .refl _
  | cons a as ih => exact (insertBy_perm cmp a _).trans (ih.cons a)

theorem forall₂_sortBy {β : Type} {R : α → β → Prop} {cmp : α → α → Ordering}
    {cmp' : β → β → Ordering} (hcmp : ∀ a a' b b', R a b → R a' b' → cmp a a' = cmp' b b')
    {as : List α} {bs : List β} (h : List.Forall₂ R as bs) :
    List.Forall₂ R (sortBy cmp as) (sortBy cmp' bs) := by
  have hinsert {a : α} {b : β} (hab : R a b) {as : List α} {bs : List β}
      (h : List.Forall₂ R as bs) : List.Forall₂ R (insertBy cmp a as) (insertBy cmp' b bs) := by
    induction h with
    | nil => exact .cons hab .nil
    | @cons a' b' as bs hab' h ih =>
        rw [insertBy, insertBy, hcmp a a' b b' hab hab']
        split
        · exact .cons hab (.cons hab' h)
        · exact .cons hab' ih
  induction h with
  | nil => exact .nil
  | cons hab _ ih => exact hinsert hab ih

section Order

variable {cmp : α → α → Ordering} [Std.TransCmp cmp]

theorem insertBy_pairwise (a : α) {as : List α} (h : as.Pairwise fun b c => (cmp b c).isLE) :
    (insertBy cmp a as).Pairwise fun b c => (cmp b c).isLE := by
  induction as with
  | nil => exact List.pairwise_singleton _ _
  | cons b bs ih =>
      obtain ⟨hb, hbs⟩ := List.pairwise_cons.mp h
      rw [insertBy]
      split
      · rename_i hle
        refine List.pairwise_cons.mpr ⟨?_, h⟩
        intro c hc
        rcases List.mem_cons.mp hc with rfl | hc
        · exact hle
        · exact Std.TransCmp.isLE_trans hle (hb c hc)
      · rename_i hgt
        refine List.pairwise_cons.mpr ⟨?_, ih hbs⟩
        intro c hc
        rcases List.mem_cons.mp ((insertBy_perm cmp a bs).mem_iff.mp hc) with rfl | hc
        · have hgt : cmp c b = .gt := Ordering.isLE_eq_false.mp (Bool.eq_false_iff.mpr hgt)
          rw [Std.OrientedCmp.lt_of_gt hgt]
          rfl
        · exact hb c hc

theorem sortBy_pairwise (as : List α) : (sortBy cmp as).Pairwise fun a b => (cmp a b).isLE := by
  induction as with
  | nil => exact .nil
  | cons a as ih => exact insertBy_pairwise a ih

/-- Elements that compare equal have one key, and each key is there once. -/
theorem sortBy_pairwise_lt {κ : Type} {key : α → κ} (hkey : ∀ a b, cmp a b = .eq → key a = key b)
    {as : List α} (h : (as.map key).Nodup) : (sortBy cmp as).Pairwise fun a b => cmp a b = .lt := by
  have hkeys := List.pairwise_map.mp (((sortBy_perm cmp as).map key).nodup_iff.mpr h)
  apply ((sortBy_pairwise as).and hkeys).imp
  rintro a b ⟨hle, hne⟩
  cases hcompare : cmp a b with
  | lt => rfl
  | gt =>
      rw [hcompare] at hle
      cases hle
  | eq => exact absurd (hkey a b hcompare) hne

end Order

def Ascends [Ord α] (as : List α) : Prop := as.Pairwise (fun a b => compare a b = .lt)

@[simp] theorem mem_insertNew [Ord α] [Std.LawfulEqOrd α] {a b : α} {as : List α} :
    b ∈ insertNew a as ↔ b = a ∨ b ∈ as := by
  induction as with
  | nil => simp [insertNew]
  | cons c cs ih =>
      rw [insertNew]
      split
      · simp
      · rename_i heq
        rw [Std.LawfulEqOrd.eq_of_compare heq]
        simp
      · simp only [List.mem_cons, ih]
        tauto

@[simp] theorem mem_ascending [Ord α] [Std.LawfulEqOrd α] {a : α} {as : List α} :
    a ∈ ascending as ↔ a ∈ as := by
  induction as with
  | nil => simp [ascending]
  | cons b bs ih =>
      rw [List.mem_cons, ← ih]
      exact mem_insertNew

theorem insertNew_ascends [Ord α] [Std.TransOrd α] [Std.LawfulEqOrd α] (a : α) {as : List α}
    (h : Ascends as) : Ascends (insertNew a as) := by
  induction as with
  | nil => exact List.pairwise_singleton _ _
  | cons b bs ih =>
      obtain ⟨hb, hbs⟩ := List.pairwise_cons.mp h
      rw [insertNew]
      split
      · rename_i hlt
        refine List.pairwise_cons.mpr ⟨?_, h⟩
        intro c hc
        rcases List.mem_cons.mp hc with rfl | hc
        · exact hlt
        · exact Std.TransCmp.lt_trans hlt (hb c hc)
      · exact h
      · rename_i hgt
        refine List.pairwise_cons.mpr ⟨?_, ih hbs⟩
        intro c hc
        rcases mem_insertNew.mp hc with rfl | hc
        · exact Std.OrientedCmp.lt_of_gt hgt
        · exact hb c hc

theorem ascending_ascends [Ord α] [Std.TransOrd α] [Std.LawfulEqOrd α] (as : List α) :
    Ascends (ascending as) := by
  induction as with
  | nil => exact .nil
  | cons a as ih => exact insertNew_ascends a ih

theorem Ascends.nodup [Ord α] [Std.TransOrd α] {as : List α} (h : Ascends as) : as.Nodup := by
  apply h.imp
  rintro a b hab rfl
  have heq : compare a a = .eq := Std.ReflCmp.compare_self
  rw [heq] at hab
  cases hab

theorem ascending_nodup [Ord α] [Std.TransOrd α] [Std.LawfulEqOrd α] (as : List α) :
    (ascending as).Nodup := (ascending_ascends as).nodup

theorem ascending_pairwise_lt (is : List Nat) : (ascending is).Pairwise (· < ·) :=
  (ascending_ascends is).imp fun h => Nat.compare_eq_lt.mp h

theorem ascending_perm [Ord α] [Std.TransOrd α] [Std.LawfulEqOrd α] {as : List α}
    (h : as.Nodup) : (ascending as).Perm as :=
  (List.perm_ext_iff_of_nodup (ascending_nodup as) h).mpr fun _ => mem_ascending

theorem Ascends.eq_of_mem_iff [Ord α] [Std.TransOrd α] {as bs : List α} (has : Ascends as)
    (hbs : Ascends bs) (h : ∀ a, a ∈ as ↔ a ∈ bs) : as = bs := by
  have hperm : as.Perm bs := (List.perm_ext_iff_of_nodup has.nodup hbs.nodup).mpr h
  apply hperm.eq_of_pairwise _ has hbs
  intro a b _ _ hab hba
  cases (Std.OrientedCmp.gt_of_lt hab).symm.trans hba

theorem ascending_congr [Ord α] [Std.TransOrd α] [Std.LawfulEqOrd α] {as bs : List α}
    (h : ∀ a, a ∈ as ↔ a ∈ bs) : ascending as = ascending bs := by
  apply (ascending_ascends as).eq_of_mem_iff (ascending_ascends bs)
  intro a
  rw [mem_ascending, mem_ascending, h]

section Distinct

variable {κ : Type} [DecidableEq κ]

theorem distinctBy_sublist (key : α → κ) (as : List α) : (distinctBy key as).Sublist as := by
  induction as with
  | nil => exact .slnil
  | cons a as ih => exact (List.filter_sublist.trans ih).cons_cons a

theorem exists_mem_distinctBy (key : α → κ) {a : α} {as : List α} (h : a ∈ as) :
    ∃ b ∈ distinctBy key as, key b = key a := by
  induction as with
  | nil => cases h
  | cons c as ih =>
      by_cases hkey : key a = key c
      · exact ⟨c, List.mem_cons_self, hkey.symm⟩
      · rcases List.mem_cons.mp h with rfl | h
        · exact absurd rfl hkey
        · obtain ⟨b, hb, hba⟩ := ih h
          refine ⟨b, List.mem_cons_of_mem c (List.mem_filter.mpr ⟨hb, ?_⟩), hba⟩
          rw [hba]
          exact decide_eq_true hkey

theorem distinctBy_keys_nodup (key : α → κ) (as : List α) :
    ((distinctBy key as).map key).Nodup := by
  induction as with
  | nil => exact List.nodup_nil
  | cons a as ih =>
      rw [distinctBy, List.map_cons, List.nodup_cons]
      constructor
      · intro h
        obtain ⟨b, hb, hkey⟩ := List.mem_map.mp h
        exact of_decide_eq_true (List.mem_filter.mp hb).2 hkey
      · exact ih.sublist (List.filter_sublist.map key)

theorem distinct_nodup (ks : List κ) : (distinct ks).Nodup := by
  have h := distinctBy_keys_nodup id ks
  rwa [List.map_id] at h

@[simp] theorem mem_distinct {k : κ} {ks : List κ} : k ∈ distinct ks ↔ k ∈ ks := by
  constructor
  · exact fun h => (distinctBy_sublist id ks).mem h
  · intro h
    obtain ⟨k', hk', rfl⟩ := exists_mem_distinctBy id h
    exact hk'

/-- Nothing is lost under a key that tells the elements apart. -/
theorem distinctBy_eq_distinct [DecidableEq α] (key : α → κ) {as : List α}
    (h : ∀ a ∈ as, ∀ b ∈ as, key a = key b → a = b) : distinctBy key as = distinct as := by
  induction as with
  | nil => rfl
  | cons a as ih =>
      have hrest := ih fun b hb c hc =>
        h b (List.mem_cons_of_mem a hb) c (List.mem_cons_of_mem a hc)
      have hfilter : (distinct as).filter (fun b => key b ≠ key a) =
          (distinct as).filter fun b => id b ≠ id a := by
        apply List.filter_congr
        intro b hb
        have hkey : key b = key a ↔ b = a :=
          ⟨h b (List.mem_cons_of_mem a (mem_distinct.mp hb)) a List.mem_cons_self, congrArg key⟩
        simp only [ne_eq, hkey, id_eq]
      rw [distinctBy, hrest, hfilter]
      rfl

end Distinct

theorem Place.compare_eq (p q : Place) :
    compare p q = (compare p.row q.row).then (compare p.col q.col) := rfl

instance : Std.LawfulEqOrd Place where
  compare_self := by simp [Place.compare_eq]
  eq_of_compare {p q} h := by
    rw [Place.compare_eq, Ordering.then_eq_eq] at h
    cases p
    cases q
    simp_all

instance : Std.TransOrd Place :=
  inferInstanceAs (Std.TransCmp (compareLex (compareOn Place.row) (compareOn Place.col)))

end DiffView
