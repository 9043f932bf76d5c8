import QCamx.Lib.CString

/-!
# The integer conversions of `printf`

What the conversions for an `int` print, and that it can be read back from a longer text.

* `printInt`, `printPadded`, `printZeros`: `%d`, and `%d` with a width;
* **`readInteger_printInt`**: a printed number is read back, unless a digit follows it;
* `length_printInt_le`: an `int` takes at most eleven characters;
* `printInt_append_inj`, `append_sep_inj`: what is printed first is told apart from what follows.
-/

namespace CString

/-! ## The conversions -/

/-- The sign that is printed. -/
def printSign (z : ℤ) : CString := if z < 0 then ['-'] else []

/-- `%d`. -/
def printInt (z : ℤ) : CString := printSign z ++ Nat.toDigits 10 z.natAbs

/-- `%nd`: filled with spaces to `n` characters. -/
def printPadded (n : ℕ) (z : ℤ) : CString := (printInt z).leftpad n ' '

/-- `%0nd`: filled with zeros, after the sign, to `n` characters. -/
def printZeros (n : ℕ) (z : ℤ) : CString :=
  printSign z ++ (Nat.toDigits 10 z.natAbs).leftpad (n - (printSign z).length) '0'

/-! ## Reading a number back -/

theorem digitsValue_toDigits (n : ℕ) : digitsValue (Nat.toDigits 10 n) = n :=
  Nat.ofDigitChars_ten_toDigits

theorem isDigit_toDigits (n : ℕ) : ∀ c ∈ Nat.toDigits 10 n, c.isDigit = true := fun _ hc =>
  Nat.isDigit_of_mem_toDigits (by decide) (by decide) hc

theorem ne_of_isDigit {c : Char} (h : c.isDigit = true) :
    isSpace c = false ∧ c ≠ '-' ∧ c ≠ '+' := by
  refine ⟨?_, ?_, ?_⟩
  · simp only [Char.isDigit, Bool.and_eq_true, decide_eq_true_eq] at h
    have hle : '0'.val ≤ c.val := h.1
    simp only [isSpace, Bool.or_eq_false_iff, Bool.and_eq_false_iff, decide_eq_false_iff_not]
    refine ⟨?_, Or.inr fun hc => ?_⟩
    · rintro rfl
      exact absurd hle (by decide)
    · exact absurd (UInt32.le_trans hle hc) (by decide)
  · rintro rfl
    exact absurd h (by decide)
  · rintro rfl
    exact absurd h (by decide)

theorem span_toDigits (n : ℕ) {rest : CString} (h : ∀ c ∈ rest.head?, c.isDigit = false) :
    (Nat.toDigits 10 n ++ rest).takeWhile Char.isDigit = Nat.toDigits 10 n ∧
      (Nat.toDigits 10 n ++ rest).dropWhile Char.isDigit = rest := by
  have hrest : rest.takeWhile Char.isDigit = [] ∧ rest.dropWhile Char.isDigit = rest := by
    cases rest with
    | nil => exact ⟨rfl, rfl⟩
    | cons c cs =>
        have hc : ¬ c.isDigit = true := by simp [h c rfl]
        exact ⟨List.takeWhile_cons_of_neg hc, List.dropWhile_cons_of_neg hc⟩
  constructor
  · rw [List.takeWhile_append_of_pos (isDigit_toDigits n), hrest.1, List.append_nil]
  · rw [List.dropWhile_append_of_pos (isDigit_toDigits n), hrest.2]

/-- **A printed number is read back**, unless a digit follows it. -/
theorem readInteger_printInt (z : ℤ) {rest : CString} (h : ∀ c ∈ rest.head?, c.isDigit = false) :
    readInteger (printInt z ++ rest) = some (z, rest) := by
  obtain ⟨htake, hdrop⟩ := span_toDigits z.natAbs h
  obtain ⟨d, ds, hcons⟩ : ∃ d ds, Nat.toDigits 10 z.natAbs = d :: ds :=
    List.exists_cons_of_ne_nil Nat.toDigits_ne_nil
  have hd : d.isDigit = true :=
    isDigit_toDigits z.natAbs d (by rw [hcons]; exact List.mem_cons_self)
  obtain ⟨hspace, hminus, hplus⟩ := ne_of_isDigit hd
  by_cases hneg : z < 0
  · -- the sign is taken off
    have hminus : isSpace '-' = false := by decide
    have hz : -((z.natAbs : ℕ) : ℤ) = z := by omega
    simp only [readInteger, printInt, printSign, if_pos hneg, List.cons_append, List.nil_append,
      List.dropWhile_cons, hminus, Bool.false_eq_true, if_false, List.head?_cons, true_or, if_true,
      List.tail_cons, htake, hdrop, digitsValue_toDigits, Nat.toDigits_ne_nil, hz]
  · have hz : ((z.natAbs : ℕ) : ℤ) = z := by omega
    have hskip : (Nat.toDigits 10 z.natAbs ++ rest).dropWhile isSpace =
        Nat.toDigits 10 z.natAbs ++ rest := by
      rw [hcons, List.cons_append, List.dropWhile_cons_of_neg (by simp [hspace])]
    have hhead : (Nat.toDigits 10 z.natAbs ++ rest).head? = some d := by
      rw [hcons]
      rfl
    simp only [readInteger, printInt, printSign, if_neg hneg, List.nil_append, hskip, hhead,
      Option.some.injEq, hminus, hplus, or_self, if_false, htake, hdrop, digitsValue_toDigits,
      Nat.toDigits_ne_nil, hz]

/-! ## Texts with numbers in them -/

theorem printInt_append_inj {z z' : ℤ} {c : Char} (hc : c.isDigit = false) {rest rest' : CString} :
    printInt z ++ c :: rest = printInt z' ++ c :: rest' ↔ z = z' ∧ rest = rest' := by
  constructor
  · intro h
    have hhead : ∀ r : CString, ∀ d ∈ (c :: r).head?, d.isDigit = false := by
      rintro r d hd
      obtain rfl := Option.some.inj hd
      exact hc
    have hread := congrArg readInteger h
    rw [readInteger_printInt z (hhead rest), readInteger_printInt z' (hhead rest')] at hread
    simpa using hread
  · rintro ⟨rfl, rfl⟩
    rfl

/-- A text is told apart from what follows the first `c`. -/
theorem append_sep_inj {c : Char} {s s' rest rest' : CString} (hs : c ∉ s) (hs' : c ∉ s') :
    s ++ c :: rest = s' ++ c :: rest' ↔ s = s' ∧ rest = rest' := by
  have htake : ∀ {t : CString} (r : CString), c ∉ t →
      (t ++ c :: r).takeWhile (fun d => decide (d ≠ c)) = t := by
    intro t r ht
    have hall : ∀ d ∈ t, decide (d ≠ c) = true := fun d hd =>
      decide_eq_true fun he => ht (he ▸ hd)
    rw [List.takeWhile_append_of_pos hall]
    simp
  constructor
  · intro h
    have heq := congrArg (List.takeWhile fun d => decide (d ≠ c)) h
    rw [htake rest hs, htake rest' hs'] at heq
    subst heq
    exact ⟨rfl, (List.cons.inj (List.append_cancel_left h)).2⟩
  · rintro ⟨rfl, rfl⟩
    rfl

/-! ## Lengths -/

theorem length_printSign_le (z : ℤ) : (printSign z).length ≤ 1 := by
  unfold printSign
  split_ifs <;> simp

theorem length_toDigits_le {z : ℤ} (h : z.natAbs < 10 ^ 10) :
    (Nat.toDigits 10 z.natAbs).length ≤ 10 :=
  (Nat.length_toDigits_le_iff (by decide) (by decide)).mpr h

theorem length_printInt_le {z : ℤ} (h : z.natAbs < 10 ^ 10) : (printInt z).length ≤ 11 := by
  have hsign := length_printSign_le z
  have hdigits := length_toDigits_le h
  rw [printInt, List.length_append]
  omega

theorem length_printPadded_le {n : ℕ} {z : ℤ} (hn : n ≤ 11) (h : z.natAbs < 10 ^ 10) :
    (printPadded n z).length ≤ 11 := by
  rw [printPadded, List.length_leftpad]
  exact max_le hn (length_printInt_le h)

theorem length_printZeros_le {n : ℕ} {z : ℤ} (hn : n ≤ 11) (h : z.natAbs < 10 ^ 10) :
    (printZeros n z).length ≤ 11 := by
  have hsign := length_printSign_le z
  have hdigits := length_toDigits_le h
  rw [printZeros, List.length_append, List.length_leftpad]
  omega

end CString
