import Mathlib

/-!
# C strings and the library functions that read them

A string up to its terminating NUL is a list of characters. The functions follow the C library
on a machine with a 32-bit `int` and a 64-bit `long`.

* `scanInt`, `scanUInt`: the conversions `%d` and `%u` of `sscanf`;
* `scanPair`: a format of two `%d` with one character between them;
* `scanMany`: a format of several conversions with one character between them;
* `scanChar`, `scanLong`, `scanWord`: the conversions `%c`, `%ld` and `%s`;
* `atoi`;
* `suboptions`, `getsubopt`: a comma-separated list of `name=value`;
* `scanPair_eq`: what a format of two numbers leaves in its variables;
* **`suboptions_intercalate`**: a list of suboptions is read back from its text.
-/

abbrev CString := List Char

namespace CString

/-! ## Numbers -/

/-- `isspace`. -/
def isSpace (c : Char) : Bool := c = ' ' || ('\t' ≤ c && c ≤ '\r')

/-- The value of a list of decimal digits. -/
def digitsValue (ds : CString) : ℕ := ds.foldl (fun n c => 10 * n + (c.toNat - '0'.toNat)) 0

/-- White space, a sign and decimal digits: the integer and what follows it, unless there is no
digit. -/
def readInteger (s : CString) : Option (ℤ × CString) :=
  let s := s.dropWhile isSpace
  let negative := s.head? = some '-'
  let s := if negative ∨ s.head? = some '+' then s.tail else s
  let ds := s.takeWhile Char.isDigit
  if ds = [] then none
  else some (if negative then -digitsValue ds else digitsValue ds, s.dropWhile Char.isDigit)

/-- `strtol`, truncated to an `int`. -/
def toInt32 (z : ℤ) : Int32 := Int32.ofInt (max (-2 ^ 63) (min (2 ^ 63 - 1) z))

/-- `strtoul`, truncated to an `unsigned int`. -/
def toUInt32 (z : ℤ) : UInt32 := if z.natAbs < 2 ^ 64 then UInt32.ofInt z else UInt32.ofInt (-1)

/-- `%d`. -/
def scanInt (s : CString) : Option (Int32 × CString) :=
  (readInteger s).map fun p => (toInt32 p.1, p.2)

/-- `%u`. -/
def scanUInt (s : CString) : Option UInt32 := (readInteger s).map fun p => toUInt32 p.1

/-- `atoi`. -/
def atoi (s : CString) : Int32 := ((scanInt s).map Prod.fst).getD 0

/-- The format `%d`, `sep`, `%d`, on two variables: one that is not converted stays as it is. -/
def scanPair (sep : Char) (s : CString) (v : Option Int32 × Option Int32) :
    Option Int32 × Option Int32 :=
  match scanInt s with
  | none => v
  | some (a, rest) =>
      match rest with
      | c :: rest =>
          if c = sep then
            match scanInt rest with
            | none => (some a, v.2)
            | some (b, _) => (some a, some b)
          else (some a, v.2)
      | [] => (some a, v.2)

/-- A format of `n` conversions with the character `sep` between them: the items converted. -/
def scanMany {α : Type*} (scan : CString → Option (α × CString)) (sep : Char) :
    ℕ → CString → List α
  | 0, _ => []
  | n + 1, s =>
      match scan s with
      | none => []
      | some (a, rest) =>
          match rest with
          | c :: rest => if c = sep then a :: scanMany scan sep n rest else [a]
          | [] => [a]

/-- `%c`: the next character, a space too; nothing is converted at the end of the string. -/
def scanChar (s : CString) : Option UInt8 := s.head?.map fun c => UInt8.ofNat c.toNat

/-- `%ld`. -/
def scanLong (s : CString) : Option ℤ :=
  (readInteger s).map fun p => max (-2 ^ 63) (min (2 ^ 63 - 1) p.1)

/-- `%s`: the next word, unless the string ends before one. -/
def scanWord (s : CString) : Option CString :=
  let word := (s.dropWhile isSpace).takeWhile fun c => !isSpace c
  if word = [] then none else some word

/-! ## Suboptions -/

/-- The successive suboptions that `getsubopt` takes off a string until it is empty. -/
def suboptions : CString → List CString
  | [] => []
  | c :: cs =>
      if c = ',' then [] :: suboptions cs
      else match suboptions cs with
        | [] => [[c]]
        | s :: ss => (c :: s) :: ss

/-- `getsubopt` on one suboption: the token, and the text after `=` if there is one; an unknown
suboption is its own value. -/
def getsubopt {α : Type*} (tokens : List (CString × α)) (s : CString) :
    Option α × Option CString :=
  match tokens.find? fun t => t.1 = s.takeWhile (· ≠ '=') with
  | some t => (some t.2, (s.dropWhile (· ≠ '=')).tail?)
  | none => (none, some s)

/-! ## Two numbers -/

/-- The conversions of a format of two `%d`, whatever the variables hold. -/
def convertPair (sep : Char) (s : CString) : Option Int32 × Option Int32 :=
  scanPair sep s (none, none)

theorem scanPair_eq (sep : Char) (s : CString) (v : Option Int32 × Option Int32) :
    scanPair sep s v = ((convertPair sep s).1.or v.1, (convertPair sep s).2.or v.2) := by
  simp only [convertPair, scanPair]
  split
  · rfl
  · split
    · split_ifs
      · split <;> rfl
      · rfl
    · rfl

/-! ## Reading a list back -/

theorem suboptions_append {s : CString} (h : ',' ∉ s) (rest : CString) :
    suboptions (s ++ ',' :: rest) = s :: suboptions rest := by
  induction s with
  | nil => simp [suboptions]
  | cons c s ih =>
      have hc : c ≠ ',' := fun hc => h (hc ▸ List.mem_cons_self)
      rw [List.cons_append, suboptions, if_neg hc, ih fun hs => h (List.mem_cons_of_mem _ hs)]

theorem suboptions_of_notMem {s : CString} (h : ',' ∉ s) (hne : s ≠ []) : suboptions s = [s] := by
  induction s with
  | nil => exact absurd rfl hne
  | cons c s ih =>
      have hc : c ≠ ',' := fun hc => h (hc ▸ List.mem_cons_self)
      rw [suboptions, if_neg hc]
      by_cases hs : s = []
      · rw [hs]
        rfl
      · rw [ih (fun hmem => h (List.mem_cons_of_mem _ hmem)) hs]

/-- **A list of suboptions is read back from its text.** -/
theorem suboptions_intercalate {ss : List CString} (h : ∀ s ∈ ss, ',' ∉ s ∧ s ≠ []) :
    suboptions (List.intercalate [','] ss) = ss := by
  induction ss with
  | nil => rfl
  | cons s ss ih =>
      obtain ⟨hs, hne⟩ := h s List.mem_cons_self
      have hss := ih fun t ht => h t (List.mem_cons_of_mem _ ht)
      cases ss with
      | nil =>
          rw [List.intercalate_singleton]
          exact suboptions_of_notMem hs hne
      | cons t ss =>
          rw [List.intercalate_cons_cons, List.append_assoc]
          exact (suboptions_append hs _).trans (congrArg _ hss)

theorem getsubopt_append {α : Type*} {tokens : List (CString × α)} {name : CString} {a : α}
    (hname : '=' ∉ name) (hfind : tokens.find? (fun t => t.1 = name) = some (name, a))
    (value : CString) : getsubopt tokens (name ++ '=' :: value) = (some a, some value) := by
  have hall : ∀ c ∈ name, decide (c ≠ '=') = true := fun c hc =>
    decide_eq_true fun heq => hname (heq ▸ hc)
  have htake : (name ++ '=' :: value).takeWhile (fun c => decide (c ≠ '=')) = name := by
    rw [List.takeWhile_append_of_pos hall]
    simp
  have hdrop : (name ++ '=' :: value).dropWhile (fun c => decide (c ≠ '=')) = '=' :: value := by
    rw [List.dropWhile_append_of_pos hall]
    simp
  rw [getsubopt, htake, hfind, hdrop]
  rfl

end CString
