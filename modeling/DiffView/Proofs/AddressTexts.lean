import DiffView.Proofs.Addresses

namespace DiffView

/-! ### Texts between blanks -/

namespace Text

variable {before core after : List Char}

theorem trimLeft_between (hbefore : ∀ c ∈ before, isBlank c) (hcore : ∀ c ∈ core, ¬isBlank c)
    (hne : core ≠ []) : trimLeft (before ++ (core ++ after)) = core ++ after := by
  rw [trimLeft, List.dropWhile_append_of_pos hbefore]
  obtain ⟨c, cs, rfl⟩ := List.exists_cons_of_ne_nil hne
  exact List.dropWhile_cons_of_neg (hcore c List.mem_cons_self)

theorem trim_between (hbefore : ∀ c ∈ before, isBlank c) (hafter : ∀ c ∈ after, isBlank c)
    (hcore : ∀ c ∈ core, ¬isBlank c) (hne : core ≠ []) :
    trim (before ++ (core ++ after)) = core := by
  have hback : trimLeft (after.reverse ++ (core.reverse ++ [])) = core.reverse ++ [] :=
    trimLeft_between (by simpa using hafter) (by simpa using hcore) (by simpa using hne)
  rw [List.append_nil] at hback
  rw [trim, trimLeft_between hbefore hcore hne, List.reverse_append, hback, List.reverse_reverse]

theorem exists_trimLeft (cs : List Char) :
    ∃ before, cs = before ++ trimLeft cs ∧ ∀ c ∈ before, isBlank c :=
  ⟨cs.takeWhile isBlank, List.takeWhile_append_dropWhile.symm, fun _ => List.mem_takeWhile_imp⟩

theorem exists_trim (cs : List Char) : ∃ before after, cs = before ++ (trim cs ++ after) ∧
    (∀ c ∈ before, isBlank c) ∧ ∀ c ∈ after, isBlank c := by
  obtain ⟨before, hcs, hbefore⟩ := exists_trimLeft cs
  obtain ⟨after, hrest, hafter⟩ := exists_trimLeft (trimLeft cs).reverse
  refine ⟨before, after.reverse, ?_, hbefore, by simpa using hafter⟩
  rw [trim, ← List.reverse_append, ← hrest, List.reverse_reverse, ← hcs]

end Text

namespace A1

/-! ### Letters and digits as numbers -/

def letterRank (c : Char) : Nat := if c.isUpper then c.toNat - 64 else c.toNat - 96

def lettersValue (letters : List Char) : Nat := number 26 letterRank letters

def digitsValue (digits : List Char) : Nat := number 10 digitValue digits

theorem toNat_lt_of_isAlphanum {c : Char} (hc : c.isAlphanum) : c.toNat < 128 := by
  simp only [Char.isAlphanum, Char.isAlpha, Char.isUpper, Char.isLower, Char.isDigit,
    Bool.or_eq_true, Bool.and_eq_true, decide_eq_true_eq, UInt32.le_iff_toNat_le] at hc
  change c.val.toNat < 128
  have hupper : 'Z'.val.toNat = 90 := rfl
  have hlower : 'z'.val.toNat = 122 := rfl
  have hdigit : '9'.val.toNat = 57 := rfl
  omega

/-- What holds of each letter and each digit, one by one, holds of all of them. -/
theorem of_isAlphanum (P : Char → Prop) {c : Char} (hc : c.isAlphanum)
    (h : ∀ n < 128, (Char.ofNat n).isAlphanum → P (Char.ofNat n)) : P c := by
  have hP := h c.toNat (toNat_lt_of_isAlphanum hc)
  rw [Char.ofNat_toNat] at hP
  exact hP hc

theorem isAlphanum_of_isAlpha {c : Char} (hc : c.isAlpha) : c.isAlphanum := by
  rw [Char.isAlphanum, hc, Bool.true_or]

theorem isAlphanum_of_isDigit {c : Char} (hc : c.isDigit) : c.isAlphanum := by
  rw [Char.isAlphanum, hc, Bool.or_true]

theorem not_isBlank_of_isAlphanum {c : Char} (hc : c.isAlphanum) : ¬Text.isBlank c :=
  of_isAlphanum (fun c => ¬Text.isBlank c) hc (by decide)

theorem not_isAlpha_of_isDigit {c : Char} (hc : c.isDigit) : ¬c.isAlpha :=
  of_isAlphanum (fun c => c.isDigit → ¬c.isAlpha) (isAlphanum_of_isDigit hc) (by decide) hc

theorem exists_letter_of_isAlpha {c : Char} (hc : c.isAlpha) :
    ∃ n < 26, letterValue c = n + 1 ∧ letterRank c = n + 1 ∧ c.toUpper = letter n :=
  of_isAlphanum (fun c => c.isAlpha →
    ∃ n < 26, letterValue c = n + 1 ∧ letterRank c = n + 1 ∧ c.toUpper = letter n)
    (isAlphanum_of_isAlpha hc) (by decide +kernel) hc

theorem digitValue_digitChar {n : Nat} (h : n < 10) : digitValue n.digitChar = n := by
  revert n
  decide

theorem toDigits_of_isDigit {d : Char} (hd : d.isDigit) :
    digitValue d < 10 ∧ Nat.toDigits 10 (digitValue d) = [d] ∧ (digitValue d = 0 ↔ d = '0') :=
  of_isAlphanum (fun d => d.isDigit →
    digitValue d < 10 ∧ Nat.toDigits 10 (digitValue d) = [d] ∧ (digitValue d = 0 ↔ d = '0'))
    (isAlphanum_of_isDigit hd) (by decide +kernel) hd

section Letters

theorem lettersValue_append (letters : List Char) (c : Char) :
    lettersValue (letters ++ [c]) = lettersValue letters * 26 + letterRank c :=
  number_append 26 letterRank letters c

variable {letters : List Char} (h : ∀ c ∈ letters, c.isAlpha)
include h

theorem number_letterValue : number 26 letterValue letters = lettersValue letters := by
  rw [lettersValue, number, number]
  congr 2
  apply List.map_congr_left
  intro c hc
  obtain ⟨n, -, hvalue, hrank, -⟩ := exists_letter_of_isAlpha (h c hc)
  rw [hvalue, hrank]

theorem exists_column (hne : letters ≠ []) :
    ∃ col, lettersValue letters = col + 1 ∧ columnLetters col = letters.map Char.toUpper := by
  induction letters using List.reverseRecOn with
  | nil => exact absurd rfl hne
  | append_singleton letters c ih =>
      obtain ⟨n, hn, -, hrank, hupper⟩ := exists_letter_of_isAlpha (h c (by simp))
      rw [lettersValue_append, hrank, List.map_append, List.map_singleton, hupper]
      by_cases hletters : letters = []
      · subst hletters
        refine ⟨n, by simp [lettersValue, number], ?_⟩
        rw [columnLetters_eq, if_pos hn]
        rfl
      · -- the letters before the last one are those of the column that the division leaves
        obtain ⟨col, hcol, hupper⟩ := ih (fun c hc => h c (by simp [hc])) hletters
        refine ⟨(col + 1) * 26 + n, by rw [hcol, Nat.add_assoc], ?_⟩
        rw [columnLetters_eq, if_neg (by omega), ← hupper]
        have hdiv : ((col + 1) * 26 + n) / 26 - 1 = col := by omega
        have hmod : ((col + 1) * 26 + n) % 26 = n := by omega
        rw [hdiv, hmod]

end Letters

section Digits

variable {digits : List Char}

theorem digitsValue_append (digits : List Char) (d : Char) :
    digitsValue (digits ++ [d]) = digitsValue digits * 10 + digitValue d :=
  number_append 10 digitValue digits d

variable (h : ∀ d ∈ digits, d.isDigit)
include h

theorem dropWhile_zeros : digits.dropWhile (· = '0') =
    if digitsValue digits = 0 then [] else Nat.toDigits 10 (digitsValue digits) := by
  induction digits using List.reverseRecOn with
  | nil => rfl
  | append_singleton digits d ih =>
      obtain ⟨hlt, hd, hzero⟩ := toDigits_of_isDigit (h d (by simp))
      rw [List.dropWhile_append, ih fun d hd => h d (by simp [hd]), digitsValue_append]
      by_cases hn : digitsValue digits = 0
      · by_cases hd0 : digitValue d = 0 <;> simp [hn, hd, ← hzero, hd0]
      · have hnext := Nat.toDigits_append_toDigits (b := 10) (by decide) (Nat.pos_of_ne_zero hn) hlt
        rw [hd, Nat.mul_comm] at hnext
        simp [hn, hnext, Nat.toDigits_ne_nil]

omit h

theorem digitsValue_toDigits (n : Nat) : digitsValue (Nat.toDigits 10 n) = n := by
  induction n using Nat.strongRecOn with
  | ind n ih =>
      by_cases hn : n < 10
      · rw [Nat.toDigits_of_lt_base hn]
        exact digitValue_digitChar hn
      · rw [Nat.toDigits_of_base_le (by decide) (Nat.not_lt.mp hn), digitsValue_append,
          ih _ (by omega), digitValue_digitChar (Nat.mod_lt n (by decide))]
        omega

end Digits

/-! ### Numbers of 32 bits -/

theorem index?_eq_some_iff {n m : Nat} : index? n = some m ↔ n = m ∧ m ≤ maxIndex := by
  rw [index?, Option.ite_none_right_eq_some, Option.some_inj]
  constructor
  · rintro ⟨hle, rfl⟩
    exact ⟨rfl, hle⟩
  · rintro ⟨rfl, hle⟩
    exact ⟨hle, rfl⟩

theorem push?_eq_some_iff {base n digit m : Nat} :
    push? base n digit = some m ↔ n * base + digit = m ∧ m ≤ maxIndex := by
  rw [push?, Option.bind_eq_bind, Option.bind_eq_some_iff]
  simp only [index?_eq_some_iff]
  constructor
  · rintro ⟨k, ⟨rfl, -⟩, hm⟩
    exact hm
  · rintro ⟨rfl, hle⟩
    exact ⟨_, ⟨rfl, Nat.le_of_add_right_le hle⟩, rfl, hle⟩

theorem number?_append (base : Nat) (value : Char → Nat) (cs : List Char) (c : Char) :
    number? base value (cs ++ [c]) =
      (number? base value cs).bind fun n => push? base n (value c) := by
  simp [number?]

theorem number?_eq_some_iff {base : Nat} {value : Char → Nat} {cs : List Char} {n : Nat}
    (hbase : 0 < base) :
    number? base value cs = some n ↔ number base value cs = n ∧ n ≤ maxIndex := by
  induction cs using List.reverseRecOn generalizing n with
  | nil =>
      change some 0 = some n ↔ 0 = n ∧ n ≤ maxIndex
      rw [Option.some_inj, iff_self_and]
      rintro rfl
      exact Nat.zero_le _
  | append_singleton cs c ih =>
      rw [number?_append, number_append, Option.bind_eq_some_iff]
      simp only [ih, push?_eq_some_iff]
      constructor
      · rintro ⟨k, ⟨rfl, -⟩, hn⟩
        exact hn
      · rintro ⟨rfl, hle⟩
        -- digits only make a number larger, so no step before the last one has failed
        have hbefore : number base value cs ≤ number base value cs * base :=
          Nat.le_mul_of_pos_right _ hbase
        exact ⟨_, ⟨rfl, by omega⟩, rfl, hle⟩

/-! ### Spellings -/

/-- A text is some letters and then some digits, between blanks. -/
structure Spells (text : String) (letters digits : List Char) : Prop where
  between : ∃ before after, text.toList = before ++ (letters ++ digits ++ after) ∧
    (∀ c ∈ before, Text.isBlank c) ∧ ∀ c ∈ after, Text.isBlank c
  letters_ne_nil : letters ≠ []
  digits_ne_nil : digits ≠ []
  isAlpha : ∀ c ∈ letters, c.isAlpha
  isDigit : ∀ d ∈ digits, d.isDigit

variable {text : String} {letters digits : List Char} {row col : Nat}

namespace Spells

variable (h : Spells text letters digits)
include h

theorem trim_eq : Text.trim text.toList = letters ++ digits := by
  obtain ⟨before, after, htext, hbefore, hafter⟩ := h.between
  rw [htext]
  refine Text.trim_between hbefore hafter ?_ (by simp [h.letters_ne_nil])
  intro c hc
  rcases List.mem_append.mp hc with hc | hc
  · exact not_isBlank_of_isAlphanum (isAlphanum_of_isAlpha (h.isAlpha c hc))
  · exact not_isBlank_of_isAlphanum (isAlphanum_of_isDigit (h.isDigit c hc))

theorem takeWhile_isAlpha : (letters ++ digits).takeWhile Char.isAlpha = letters := by
  obtain ⟨d, ds, rfl⟩ := List.exists_cons_of_ne_nil h.digits_ne_nil
  have hd := not_isAlpha_of_isDigit (h.isDigit d List.mem_cons_self)
  rw [List.takeWhile_append_of_pos h.isAlpha, List.takeWhile_cons_of_neg hd, List.append_nil]

theorem dropWhile_isAlpha : (letters ++ digits).dropWhile Char.isAlpha = digits := by
  obtain ⟨d, ds, rfl⟩ := List.exists_cons_of_ne_nil h.digits_ne_nil
  have hd := not_isAlpha_of_isDigit (h.isDigit d List.mem_cons_self)
  rw [List.dropWhile_append_of_pos h.isAlpha, List.dropWhile_cons_of_neg hd]

end Spells

/-- The row of some digits is not zero, and the numbers of an address fit 32 bits. -/
structure Fits (letters digits : List Char) : Prop where
  col_le : lettersValue letters ≤ 2 ^ 32 - 1
  row_pos : 1 ≤ digitsValue digits
  row_le : digitsValue digits ≤ 2 ^ 32 - 1

theorem parse?_of_spells (h : Spells text letters digits) : parse? text = some (row, col) ↔
    Fits letters digits ∧ (row, col) = (digitsValue digits - 1, lettersValue letters - 1) := by
  have hform : (letters.isEmpty || digits.isEmpty || !digits.all Char.isDigit) = false := by
    simpa [h.letters_ne_nil, h.digits_ne_nil] using h.isDigit
  simp only [parse?, h.trim_eq, h.takeWhile_isAlpha, h.dropWhile_isAlpha, hform, Bool.false_eq_true,
    if_false, Option.bind_eq_bind, Option.bind_eq_some_iff, Option.ite_none_left_eq_some,
    number?_eq_some_iff (Nat.succ_pos _), number_letterValue h.isAlpha, Option.some_inj]
  constructor
  · rintro ⟨col', ⟨hcol', hcolLe⟩, row', ⟨hrow', hrowLe⟩, hzero, hcell⟩
    subst hcol' hrow'
    exact ⟨⟨hcolLe, Nat.pos_of_ne_zero hzero, hrowLe⟩, hcell.symm⟩
  · rintro ⟨hfits, hcell⟩
    exact ⟨_, ⟨rfl, hfits.col_le⟩, _, ⟨rfl, hfits.row_le⟩, Nat.ne_of_gt hfits.row_pos, hcell.symm⟩

theorem exists_spells_of_parse? (h : parse? text = some (row, col)) :
    ∃ letters digits, Spells text letters digits := by
  simp only [parse?] at h
  obtain ⟨hform, -⟩ := Option.ite_none_left_eq_some.mp h
  simp only [Bool.or_eq_true, not_or, List.isEmpty_iff, Bool.not_eq_true', Bool.not_eq_false,
    List.all_eq_true] at hform
  obtain ⟨⟨hletters, hdigits⟩, hall⟩ := hform
  obtain ⟨before, after, htext, hbefore, hafter⟩ := Text.exists_trim text.toList
  refine ⟨_, _, ⟨before, after, ?_, hbefore, hafter⟩, hletters, hdigits,
    fun c => List.mem_takeWhile_imp, hall⟩
  rw [List.takeWhile_append_dropWhile, ← htext]

theorem parse?_eq_some_iff : parse? text = some (row, col) ↔
    ∃ letters digits, Spells text letters digits ∧ Fits letters digits ∧
      (row, col) = (digitsValue digits - 1, lettersValue letters - 1) := by
  constructor
  · intro h
    obtain ⟨letters, digits, hspells⟩ := exists_spells_of_parse? h
    exact ⟨letters, digits, hspells, (parse?_of_spells hspells).mp h⟩
  · rintro ⟨letters, digits, hspells, hcell⟩
    exact (parse?_of_spells hspells).mpr hcell

theorem spells_cell (row col : Nat) :
    Spells (cell row col) (columnLetters col) (Nat.toDigits 10 (row + 1)) where
  between := ⟨[], [], by simp [toList_cell], by simp, by simp⟩
  letters_ne_nil h := by
    have hnumber := number_columnLetters col
    rw [h] at hnumber
    cases hnumber
  digits_ne_nil := Nat.toDigits_ne_nil
  isAlpha c hc := by
    rw [Char.isAlpha, isUpper_of_mem_columnLetters hc, Bool.true_or]
  isDigit d hd := isDigit_of_mem_digits hd

theorem parse?_cell (hrow : row < maxIndex) (hcol : col < maxIndex) :
    parse? (cell row col) = some (row, col) := by
  have hspells := spells_cell row col
  have hletters : lettersValue (columnLetters col) = col + 1 := by
    rw [← number_letterValue hspells.isAlpha, number_columnLetters]
  have hdigits := digitsValue_toDigits (row + 1)
  rw [parse?_of_spells hspells]
  refine ⟨⟨hletters.trans_le hcol, hdigits.symm ▸ Nat.succ_pos row, hdigits.trans_le hrow⟩, ?_⟩
  rw [hletters, hdigits, Nat.add_sub_cancel, Nat.add_sub_cancel]

theorem toList_cell_of_parse? (hspells : Spells text letters digits)
    (h : parse? text = some (row, col)) :
    (cell row col).toList = letters.map Char.toUpper ++ digits.dropWhile (· = '0') := by
  obtain ⟨hfits, hcell⟩ := (parse?_of_spells hspells).mp h
  obtain ⟨rfl, rfl⟩ := Prod.mk.inj hcell
  obtain ⟨col', hnumber, hupper⟩ := exists_column hspells.isAlpha hspells.letters_ne_nil
  rw [toList_cell, hnumber, Nat.add_sub_cancel, hupper, dropWhile_zeros hspells.isDigit,
    if_neg (Nat.ne_of_gt hfits.row_pos), Nat.sub_add_cancel hfits.row_pos]

end A1

/-- A text is read as an address just if it is letters and then digits, between blanks, whose
numbers fit 32 bits and whose row is not zero. The numbers, counted from zero, tell the cell. -/
theorem addresses_read (text : String) :
    ((A1.parse? text).isSome ↔
      ∃ letters digits, A1.Spells text letters digits ∧ A1.Fits letters digits) ∧
    ∀ row col, A1.parse? text = some (row, col) ↔
      ∃ letters digits, A1.Spells text letters digits ∧ A1.Fits letters digits ∧
        (row, col) = (A1.digitsValue digits - 1, A1.lettersValue letters - 1) := by
  refine ⟨?_, fun row col => A1.parse?_eq_some_iff⟩
  constructor
  · intro h
    obtain ⟨⟨row, col⟩, hcell⟩ := Option.isSome_iff_exists.mp h
    obtain ⟨letters, digits, hspells, hfits, -⟩ := A1.parse?_eq_some_iff.mp hcell
    exact ⟨letters, digits, hspells, hfits⟩
  · rintro ⟨letters, digits, hspells, hfits⟩
    rw [A1.parse?_eq_some_iff.mpr ⟨letters, digits, hspells, hfits, rfl⟩]
    rfl

/-- Addresses are read as the cells that they name, and a text that is read as an address differs
from the address of its cell only by blanks around it, small letters and zeros in front of its
digits. -/
theorem addresses_round_trip :
    (∀ row col, row < 2 ^ 32 - 1 → col < 2 ^ 32 - 1 →
      A1.parse? (A1.cell row col) = some (row, col)) ∧
    ∀ text row col, A1.parse? text = some (row, col) →
      ∃ letters digits, A1.Spells text letters digits ∧
        (A1.cell row col).toList = letters.map Char.toUpper ++ digits.dropWhile (· = '0') := by
  refine ⟨fun row col hrow hcol => A1.parse?_cell hrow hcol, ?_⟩
  intro text row col h
  obtain ⟨letters, digits, hspells⟩ := A1.exists_spells_of_parse? h
  exact ⟨letters, digits, hspells, A1.toList_cell_of_parse? hspells h⟩

theorem addresses_round_trip_of_padded :
    (4 < 2 ^ 32 - 1 ∧ 27 < 2 ^ 32 - 1 ∧ A1.parse? (A1.cell 4 27) = some (4, 27)) ∧
    A1.parse? " aB007 " = some (6, 27) ∧
      ∃ letters digits, A1.Spells " aB007 " letters digits ∧
        (A1.cell 6 27).toList = letters.map Char.toUpper ++ digits.dropWhile (· = '0') := by
  have hread : A1.parse? " aB007 " = some (6, 27) := by decide
  obtain ⟨hcell, hspelt⟩ := addresses_round_trip
  exact ⟨⟨by decide, by decide, hcell 4 27 (by decide) (by decide)⟩, hread, hspelt _ _ _ hread⟩

end DiffView
