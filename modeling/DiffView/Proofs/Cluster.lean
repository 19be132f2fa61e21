import DiffView.Cluster
import DiffView.Proofs.Box
import DiffView.Proofs.Runs
import DiffView.Proofs.Sorting
import Mathlib.Data.List.Forall2
import Mathlib.Data.List.Perm.Basic

namespace DiffView.Cluster

abbrev Piece := Nat × Span

def Piece.places (q : Piece) : List Place := q.2.members.map (Place.mk q.1)

/-- How a cluster is made of pieces, of which the last one comes first. -/
inductive Made (budget gap : Nat) : Cluster → List Piece → Prop
  | start (row : Nat) (run : Span) : Made budget gap (start row run) [(row, run)]
  | grow {c : Cluster} {pieces : List Piece} (row : Nat) (run : Span)
      (made : Made budget gap c pieces) (near : touches gap row run c)
      (fits : budget = 0 ∨ c.cells + run.size ≤ budget) :
      Made budget gap (c.grow row run) ((row, run) :: pieces)

/-- Each of the pieces is part of exactly one of the clusters. -/
def Divide (budget gap : Nat) (clusters : List Cluster) (pieces : List Piece) : Prop :=
  ∃ parts, List.Forall₂ (Made budget gap) clusters parts ∧ parts.flatten.Perm pieces

variable {budget gap : Nat}

namespace Divide

variable {clusters : List Cluster} {pieces : List Piece}

theorem perm {clusters' : List Cluster} {pieces' : List Piece}
    (h : Divide budget gap clusters pieces) (hc : clusters'.Perm clusters)
    (hp : pieces.Perm pieces') : Divide budget gap clusters' pieces' := by
  obtain ⟨parts, hmade, hparts⟩ := h
  obtain ⟨parts', hmade', hperm⟩ := List.perm_comp_forall₂ hc hmade
  exact ⟨parts', hmade', (hperm.flatten.trans hparts).trans hp⟩

theorem start (h : Divide budget gap clusters pieces) (row : Nat) (run : Span) :
    Divide budget gap (Cluster.start row run :: clusters) ((row, run) :: pieces) := by
  obtain ⟨parts, hmade, hparts⟩ := h
  exact ⟨[(row, run)] :: parts, .cons (.start row run) hmade, hparts.cons _⟩

theorem grow {c : Cluster} (h : Divide budget gap (c :: clusters) pieces) {row : Nat} {run : Span}
    (near : touches gap row run c) (fits : budget = 0 ∨ c.cells + run.size ≤ budget) :
    Divide budget gap (c.grow row run :: clusters) ((row, run) :: pieces) := by
  obtain ⟨_, hmade, hparts⟩ := h
  cases hmade with
  | cons hc hrest => exact ⟨_, .cons (hc.grow row run near fits) hrest, hparts.cons _⟩

end Divide

def State.all (s : State) : List Cluster := s.closed ++ s.above ++ s.grown

theorem State.all_grown (closed above grown : List Cluster) (c : Cluster) :
    (State.mk closed above (grown ++ [c])).all.Perm (c :: (State.mk closed above grown).all) := by
  rw [State.all, ← List.append_assoc]
  exact List.perm_append_singleton _ _

theorem State.all_closed (closed above grown : List Cluster) (c : Cluster) :
    (State.mk (closed ++ [c]) above grown).all.Perm (c :: (State.mk closed above grown).all) := by
  simp only [State.all, List.append_assoc, List.singleton_append]
  exact List.perm_middle

theorem State.all_above (closed before after grown : List Cluster) (c : Cluster) :
    (State.mk closed (before ++ c :: after) grown).all.Perm
      (c :: (State.mk closed (before ++ after) grown).all) := by
  have h : (closed ++ before ++ c :: (after ++ grown)).Perm
      (c :: (closed ++ before ++ (after ++ grown))) := List.perm_middle
  simpa only [State.all, List.append_assoc, List.cons_append] using h

theorem all_addRun (budget gap row : Nat) (s : State) (run : Span) :
    (addRun budget gap row s run).all.Perm (start row run :: s.all) ∨
      ∃ c rest, touches gap row run c ∧ (budget = 0 ∨ c.cells + run.size ≤ budget) ∧
        s.all.Perm (c :: rest) ∧
        (addRun budget gap row s run).all.Perm (c.grow row run :: rest) := by
  obtain ⟨closed, above, grown⟩ := s
  rw [addRun]
  split
  · exact .inl (State.all_grown closed above grown _)
  · rename_i c hfind
    obtain ⟨hc, before, after, habove, hbefore⟩ := List.find?_eq_some_iff_append.mp hfind
    change above = _ at habove
    subst habove
    have herase : (before ++ c :: after).eraseP (touches gap row run) = before ++ after := by
      rw [List.eraseP_append_right _ (by simpa using hbefore), List.eraseP_cons_of_pos hc]
    have hall := State.all_above closed before after grown c
    simp only [herase]
    -- The cluster found leaves those above in either case: it is closed, or it grows.
    split
    · left
      exact (State.all_grown _ _ grown _).trans
        (((State.all_closed closed _ grown c).trans hall.symm).cons _)
    · rename_i hbudget
      right
      exact ⟨c, _, hc, by omega, hall, State.all_grown closed _ grown _⟩

@[simp] theorem all_endRow (s : State) : s.endRow.all = s.all := by simp [State.all, State.endRow]

theorem divide_addRun {row : Nat} {s : State} {pieces : List Piece} (run : Span)
    (h : Divide budget gap s.all pieces) :
    Divide budget gap (addRun budget gap row s run).all ((row, run) :: pieces) := by
  rcases all_addRun budget gap row s run with hperm | ⟨c, rest, near, fits, hall, hperm⟩
  · exact (h.start row run).perm hperm (.refl _)
  · exact ((h.perm hall.symm (.refl _)).grow near fits).perm hperm (.refl _)

def stripPieces (strip : Nat × List Span) : List Piece := strip.2.map (Prod.mk strip.1)

theorem divide_foldl_addRun {row : Nat} {s : State} {pieces : List Piece} (runs : List Span)
    (h : Divide budget gap s.all pieces) :
    Divide budget gap (runs.foldl (addRun budget gap row) s).all
      (pieces ++ runs.map (Prod.mk row)) := by
  induction runs generalizing s pieces with
  | nil => simpa using h
  | cons run runs ih =>
      rw [List.foldl_cons]
      apply (ih (divide_addRun run h)).perm (.refl _)
      rw [List.map_cons, List.cons_append]
      exact List.perm_middle.symm

theorem divide_addRow {s : State} {pieces : List Piece} (strip : Nat × List Span)
    (h : Divide budget gap s.all pieces) :
    Divide budget gap (addRow budget gap s strip).all (pieces ++ stripPieces strip) := by
  rw [addRow, all_endRow]
  exact divide_foldl_addRun strip.2 h

theorem divide_foldl_addRow {s : State} {pieces : List Piece} (strips : List (Nat × List Span))
    (h : Divide budget gap s.all pieces) :
    Divide budget gap (strips.foldl (addRow budget gap) s).all
      (pieces ++ strips.flatMap stripPieces) := by
  induction strips generalizing s pieces with
  | nil => simpa using h
  | cons strip strips ih =>
      rw [List.foldl_cons, List.flatMap_cons, ← List.append_assoc]
      exact ih (divide_addRow strip h)

theorem grown_foldl_addRow (budget gap : Nat) (strips : List (Nat × List Span)) :
    (strips.foldl (addRow budget gap) ⟨[], [], []⟩).grown = [] := by
  rcases List.eq_nil_or_concat strips with rfl | ⟨strips, strip, rfl⟩
  · rfl
  · rw [List.concat_eq_append, List.foldl_append]
    rfl

def allPieces (budget : Nat) (places : List Place) : List Piece :=
  (strips budget places).flatMap stripPieces

/-- The clusters of some places divide the pieces of their rows up among them. -/
theorem divide_ofPlaces (budget gap : Nat) (places : List Place) :
    Divide budget gap (ofPlaces budget gap places) (allPieces budget places) := by
  have h : Divide budget gap (State.mk [] [] []).all [] := ⟨[], .nil, .refl _⟩
  have hall := divide_foldl_addRow (strips budget places) h
  have hgrown := grown_foldl_addRow budget gap (strips budget places)
  rw [State.all, hgrown, List.append_nil, List.nil_append] at hall
  exact hall

end DiffView.Cluster
