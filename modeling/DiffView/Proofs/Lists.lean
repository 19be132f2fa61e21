import Mathlib.Data.List.Forall2
import Mathlib.Data.List.Perm.Basic

namespace DiffView

variable {α β γ : Type} {R : α → β → Prop} {as : List α} {bs : List β}

theorem forall₂_mapIdx {S : γ → β → Prop} (h : List.Forall₂ R as bs) (f : Nat → α → γ)
    (hf : ∀ n a b, b ∈ bs → R a b → S (f n a) b) : List.Forall₂ S (as.mapIdx f) bs := by
  induction h generalizing f with
  | nil => exact .nil
  | @cons a b as bs hab _ ih =>
      rw [List.mapIdx_cons]
      exact .cons (hf 0 a b List.mem_cons_self hab)
        (ih _ fun n a b hb => hf (n + 1) a b (List.mem_cons_of_mem _ hb))

theorem exists_of_forall₂_of_mem (h : List.Forall₂ R as bs) {b : β} (hb : b ∈ bs) :
    ∃ a ∈ as, R a b := by
  induction h with
  | nil => cases hb
  | @cons a c as bs hac _ ih =>
      rcases List.mem_cons.mp hb with rfl | hb
      · exact ⟨a, List.mem_cons_self, hac⟩
      · obtain ⟨a, ha, hab⟩ := ih hb
        exact ⟨a, List.mem_cons_of_mem _ ha, hab⟩

theorem forall₂_filterMap {f : α → Option β} (h : ∀ a ∈ as, ∃ b, f a = some b ∧ R a b) :
    List.Forall₂ R as (as.filterMap f) := by
  induction as with
  | nil => exact .nil
  | cons a as ih =>
      obtain ⟨b, hb, hab⟩ := h a List.mem_cons_self
      rw [List.filterMap_cons_some hb]
      exact .cons hab (ih fun c hc => h c (List.mem_cons_of_mem a hc))

theorem countP_add_countP {p q : α → Bool} (h : ∀ a ∈ as, p a → ¬q a) :
    as.countP p + as.countP q = as.countP fun a => p a || q a := by
  induction as with
  | nil => rfl
  | cons a as ih =>
      have hrest := ih fun b hb => h b (List.mem_cons_of_mem a hb)
      have ha := h a List.mem_cons_self
      rw [List.countP_cons, List.countP_cons, List.countP_cons, ← hrest]
      cases hp : p a <;> cases hq : q a
      · simp
      · simp [Nat.add_assoc]
      · simp [Nat.add_right_comm]
      · exact absurd hq (ha hp)

theorem eq_of_getD_eq {x y : Option α} {a : α} (hx : x ≠ some a) (hy : y ≠ some a)
    (h : x.getD a = y.getD a) : x = y := by
  cases x with
  | none =>
      cases y with
      | none => rfl
      | some b => exact absurd (congrArg some h.symm) hy
  | some b =>
      cases y with
      | none => exact absurd (congrArg some h) hx
      | some c => exact congrArg some h

/-- What comes first ends before a mark that is not in it. -/
theorem append_cons_inj [DecidableEq α] {a : α} {ls ls' rs rs' : List α} (h : a ∉ ls)
    (h' : a ∉ ls') : ls ++ a :: rs = ls' ++ a :: rs' ↔ ls = ls' ∧ rs = rs' := by
  have htake (ls rs : List α) (h : a ∉ ls) : (ls ++ a :: rs).takeWhile (· != a) = ls := by
    have hne : ∀ b ∈ ls, (b != a) = true := by
      simpa using fun b hb => ne_of_mem_of_not_mem hb h
    rw [List.takeWhile_append_of_pos hne]
    simp
  constructor
  · intro heq
    have hfirst : ls = ls' := by rw [← htake ls rs h, heq, htake ls' rs' h']
    rw [hfirst, List.append_right_inj, List.cons.injEq] at heq
    exact ⟨hfirst, heq.2⟩
  · rintro ⟨rfl, rfl⟩
    rfl

theorem length_of_mapM_eq_some {f : α → Option β} (h : as.mapM f = some bs) :
    bs.length = as.length := by
  induction as generalizing bs with
  | nil =>
      cases h
      rfl
  | cons a as ih =>
      rw [List.mapM_cons] at h
      obtain ⟨b, -, h⟩ := Option.bind_eq_some_iff.mp h
      obtain ⟨bs', hbs, h⟩ := Option.bind_eq_some_iff.mp h
      cases h
      rw [List.length_cons, List.length_cons, ih hbs]

theorem mapM_insertIdx {f : α → Option β} {a : α} {b : β} (h : f a = some b) (as : List α)
    (n : Nat) : (as.insertIdx n a).mapM f = (as.mapM f).map fun bs => bs.insertIdx n b := by
  induction as generalizing n with
  | nil =>
      cases n with
      | zero => simp [h]
      | succ n => simp
  | cons c as ih =>
      cases n with
      | zero =>
          rw [List.insertIdx_zero, List.mapM_cons, h]
          cases (c :: as).mapM f <;> rfl
      | succ n =>
          rw [List.insertIdx_succ_cons, List.mapM_cons, List.mapM_cons, ih]
          cases f c with
          | none => rfl
          | some d => cases as.mapM f <;> rfl

theorem findSome?_reverse_eq_some_iff {f : α → Option β} {as : List α} {b : β} :
    as.reverse.findSome? f = some b ↔ ∃ before a after, as = before ++ a :: after ∧ f a = some b ∧
      ∀ c ∈ after, f c = none := by
  rw [List.findSome?_eq_some_iff]
  constructor
  · rintro ⟨after, a, before, has, ha, hafter⟩
    refine ⟨before.reverse, a, after.reverse, ?_, ha, ?_⟩
    · rw [← List.reverse_inj, has]
      simp
    · simpa using hafter
  · rintro ⟨before, a, after, rfl, ha, hafter⟩
    exact ⟨after.reverse, a, before.reverse, by simp, ha, by simpa using hafter⟩

theorem find?_reverse_eq_some_iff {p : α → Bool} {as : List α} {a : α} :
    as.reverse.find? p = some a ↔ ∃ before after, as = before ++ a :: after ∧ p a ∧
      ∀ c ∈ after, ¬p c := by
  rw [List.find?_eq_findSome?_guard, findSome?_reverse_eq_some_iff]
  simp

variable {κ : Type} [DecidableEq κ]

/-- The parts of a list for several keys hold what has one of these keys. -/
theorem flatMap_filter_perm (key : α → κ) {keys : List κ} (h : keys.Nodup) {p : α → Bool}
    (hp : ∀ a ∈ as, p a ↔ key a ∈ keys) :
    (keys.flatMap fun k => as.filter fun a => key a = k).Perm (as.filter p) := by
  induction keys generalizing p with
  | nil =>
      rw [List.filter_eq_nil_iff.mpr fun a ha hpa => List.not_mem_nil ((hp a ha).mp hpa)]
      exact .refl _
  | cons k keys ih =>
      obtain ⟨hk, hkeys⟩ := List.nodup_cons.mp h
      have hfirst : (as.filter p).filter (fun a => key a = k) =
          as.filter fun a => key a = k := by
        rw [List.filter_filter]
        apply List.filter_congr
        intro a ha
        by_cases hak : key a = k
        · have hpa : p a := (hp a ha).mpr (hak ▸ List.mem_cons_self)
          simp [hak, hpa]
        · simp [hak]
      have hrest (a : α) (ha : a ∈ as) : (!decide (key a = k) && p a) ↔ key a ∈ keys := by
        rw [Bool.and_eq_true, hp a ha, Bool.not_eq_true', decide_eq_false_iff_not, List.mem_cons]
        constructor
        · rintro ⟨hne, heq | hmem⟩
          · exact absurd heq hne
          · exact hmem
        · intro hmem
          exact ⟨fun heq => hk (heq ▸ hmem), .inr hmem⟩
      have hsplit := List.filter_append_perm (fun a => decide (key a = k)) (as.filter p)
      rw [hfirst, List.filter_filter] at hsplit
      exact ((ih hkeys hrest).append_left _).trans hsplit

end DiffView
