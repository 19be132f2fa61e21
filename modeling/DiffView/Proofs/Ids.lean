import DiffView.Anchor
import DiffView.Proofs.Lists
import Mathlib

namespace DiffView

namespace Anchor

theorem regionId_inj {id id' : String} (h : regionId id = regionId id') : id = id' :=
  (String.append_right_inj _).mp h

theorem otherId_ne_regionId (item id : String) : otherId item ≠ regionId id := by
  intro h
  have hchars := congrArg String.toList h
  simp [otherId, regionId] at hchars

theorem otherId_ne_lineId (item : String) (line : Line) (type : ChangeType) (run : Span) :
    otherId item ≠ lineId line type run := by
  intro h
  have hchars := congrArg String.toList h
  cases line <;> simp [otherId, lineId, Line.word, toString] at hchars

theorem lineId_ne_regionId (line : Line) (type : ChangeType) (run : Span) (id : String) :
    lineId line type run ≠ regionId id := by
  intro h
  have hchars := congrArg String.toList h
  cases line <;> simp [lineId, regionId, Line.word, toString] at hchars

theorem moveId_ne_regionId (move : String) (side : Side) (id : String) :
    moveId move side ≠ regionId id := by
  intro h
  have hchars := congrArg String.toList h
  cases side <;> simp [moveId, regionId, toString] at hchars

theorem otherId_ne_moveId (item move : String) (side : Side) : otherId item ≠ moveId move side := by
  intro h
  have hchars := congrArg String.toList h
  cases side <;> simp [otherId, moveId, toString] at hchars

theorem lineId_ne_moveId (line : Line) (type : ChangeType) (run : Span) (move : String)
    (side : Side) : lineId line type run ≠ moveId move side := by
  intro h
  have hchars := congrArg String.toList h
  cases line <;> cases side <;> simp [lineId, moveId, Line.word, toString] at hchars

theorem moveId_inj {id id' : String} {side side' : Side} (h : moveId id side = moveId id' side') :
    id = id' ∧ side = side' := by
  -- The sides differ at the end.
  have hchars := congrArg (fun s => s.toList.reverse) h
  cases side <;> cases side' <;> simp [moveId, toString, String.toList_inj] at hchars ⊢
  · exact hchars
  · exact hchars

end Anchor

namespace Area

variable {g : Grid} {op : Op} {o : Options} {es : Edits} {a b : Area}

theorem head?_id_of_mem_clusters (ha : a ∈ clusters o es) : a.id.toList.head? = some 'c' := by
  obtain ⟨n, hn, rfl⟩ := List.mem_mapIdx.mp ha
  simp [ofCluster, toString]

theorem head?_id_of_mem_ofOp (ha : a ∈ ofOp g op) : a.id.toList.head? ≠ some 'c' := by
  rw [ofOp] at ha
  split at ha
  · obtain ⟨box, -, rfl⟩ := Option.map_eq_some_iff.mp (Option.mem_toList.mp ha)
    simp [toString]
  · rcases List.mem_append.mp ha with ha | ha
    · obtain ⟨box, -, rfl⟩ := Option.map_eq_some_iff.mp (Option.mem_toList.mp ha)
      simp [sourceId]
    · obtain ⟨box, -, rfl⟩ := Option.map_eq_some_iff.mp (Option.mem_toList.mp ha)
      simp [targetId]
  · cases ha

theorem eq_of_mem_clusters (ha : a ∈ clusters o es) (hb : b ∈ clusters o es) (h : a.id = b.id) :
    a = b := by
  obtain ⟨m, hm, rfl⟩ := List.mem_mapIdx.mp ha
  obtain ⟨n, hn, rfl⟩ := List.mem_mapIdx.mp hb
  have hrepr : (m + 1).repr = (n + 1).repr := by simpa [ofCluster, toString] using h
  obtain rfl := Nat.succ.inj (Nat.repr_injective hrepr)
  rfl

end Area

@[simp] theorem digits_inj {m n : Nat} : Nat.toDigits 10 m = Nat.toDigits 10 n ↔ m = n := by
  rw [← Nat.toList_repr, ← Nat.toList_repr, String.toList_inj]
  exact ⟨fun h => Nat.repr_injective h, congrArg Nat.repr⟩

theorem isDigit_of_mem_digits {n : Nat} {d : Char} (hd : d ∈ Nat.toDigits 10 n) : d.isDigit :=
  Nat.isDigit_of_mem_toDigits (by decide) (by decide) hd

section Separator

variable {c : Char} (hc : c.isDigit = false) {m n : Nat} {s t : List Char}

include hc

theorem not_mem_digits (n : Nat) : c ∉ Nat.toDigits 10 n := by
  intro hd
  rw [isDigit_of_mem_digits hd] at hc
  cases hc

@[simp] theorem digits_append_inj :
    Nat.toDigits 10 m ++ c :: s = Nat.toDigits 10 n ++ c :: t ↔ m = n ∧ s = t := by
  rw [append_cons_inj (not_mem_digits hc m) (not_mem_digits hc n), digits_inj]

@[simp] theorem append_digits_inj :
    s ++ c :: Nat.toDigits 10 m = t ++ c :: Nat.toDigits 10 n ↔ s = t ∧ m = n := by
  have hdigits (n : Nat) : c ∉ (Nat.toDigits 10 n).reverse := by
    rw [List.mem_reverse]
    exact not_mem_digits hc n
  rw [← List.reverse_inj, List.reverse_append, List.reverse_append, List.reverse_cons,
    List.reverse_cons, List.append_assoc, List.append_assoc, List.singleton_append,
    List.singleton_append, append_cons_inj (hdigits m) (hdigits n), List.reverse_inj,
    List.reverse_inj, digits_inj, and_comm]

end Separator

namespace Block

@[simp] theorem id_rows (src count dst : Nat) :
    (rows src count dst).id = s!"r:{src}+{count}->{dst}" := rfl

@[simp] theorem id_cols (src count dst : Nat) :
    (cols src count dst).id = s!"c:{src}+{count}->{dst}" := rfl

@[simp] theorem id_rect (srcRow height srcCol width dstRow dstCol : Nat) :
    (rect srcRow height srcCol width dstRow dstCol).id =
      s!"rect:{srcRow},{srcCol}+{height}x{width}->{dstRow},{dstCol}" := rfl

theorem id_ne_empty (b : Block) : b.id ≠ "" := by
  intro h
  have hchars := congrArg String.toList h
  cases b <;> simp [toString] at hchars

theorem id_inj {b b' : Block} (h : b.id = b'.id) : b = b' := by
  have hchars := congrArg String.toList h
  cases b <;> cases b' <;>
    simp [toString] at hchars
  · obtain ⟨rfl, rfl, rfl⟩ := hchars
    rfl
  · obtain ⟨rfl, rfl, rfl⟩ := hchars
    rfl
  · obtain ⟨rfl, rfl, rfl, rfl, rfl, rfl⟩ := hchars
    rfl

end Block

end DiffView
