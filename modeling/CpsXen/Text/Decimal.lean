import Mathlib

/-!
Decimal text as the C library writes and reads it: `printf`'s `%i` of an `int`,
and `atoi`, which is `strtol` in base 10 (blanks, an optional sign, then digits).
The text lives in a fixed character array, so a scan that runs off its end reads
memory the program does not own; that scan gives `none` here.  The cast of
`strtol`'s `long` to `int` is left to the caller.
-/

namespace Decimal

def isSpace (c : Char) : Bool :=
  c = ' ' || c = '\t' || c = '\n' || c = '\x0b' || c = '\x0c' || c = '\r'

def scanDigits : List Char → Nat → Option Nat
  | [], _ => none
  | c :: rest, acc => if c.isDigit then scanDigits rest (10 * acc + (c.toNat - 48)) else some acc

def scanSigned : List Char → Option Int
  | [] => none
  | c :: rest =>
      if c = '-' then (scanDigits rest 0).map fun n => -(n : Int)
      else if c = '+' then (scanDigits rest 0).map Int.ofNat
      else (scanDigits (c :: rest) 0).map Int.ofNat

def atoi : List Char → Option Int
  | [] => none
  | c :: rest => if isSpace c then atoi rest else scanSigned (c :: rest)

def formatInt : Int → List Char
  | .ofNat m => Nat.toDigits 10 m
  | .negSucc m => '-' :: Nat.toDigits 10 (m + 1)

def digitsValue (ds : List Char) (acc : Nat) : Nat :=
  ds.foldl (fun a c => 10 * a + (c.toNat - 48)) acc

theorem isSpace_of_isDigit {c : Char} (digit : c.isDigit) : isSpace c = false := by
  cases blank : isSpace c
  · rfl
  · simp only [isSpace, Bool.or_eq_true, decide_eq_true_eq] at blank
    rcases blank with (((((rfl | rfl) | rfl) | rfl) | rfl) | rfl) <;> exact absurd digit (by decide)

theorem ne_of_isDigit {c d : Char} (digit : c.isDigit) (other : d.isDigit = false) : c ≠ d := by
  rintro rfl
  rw [digit] at other
  contradiction

theorem isDigit_of_mem_toDigits {c : Char} {n : Nat} (member : c ∈ Nat.toDigits 10 n) :
    c.isDigit :=
  Nat.isDigit_of_mem_toDigits (by decide) (by decide) member

theorem scanDigits_append : ∀ (ds : List Char), (∀ c ∈ ds, c.isDigit) →
    ∀ (rest : List Char) (acc : Nat), scanDigits (ds ++ rest) acc = scanDigits rest (digitsValue ds acc)
  | [], _, rest, acc => rfl
  | c :: ds, digits, rest, acc => by
    rw [List.cons_append, scanDigits, if_pos (digits c List.mem_cons_self),
      scanDigits_append ds (fun x member => digits x (List.mem_cons_of_mem c member))]
    rfl

theorem scanDigits_stop {c : Char} (stop : c.isDigit = false) (rest : List Char) (acc : Nat) :
    scanDigits (c :: rest) acc = some acc := by
  rw [scanDigits, if_neg (by rw [stop]; decide)]

theorem digitsValue_concat (ds : List Char) (c : Char) (acc : Nat) :
    digitsValue (ds ++ [c]) acc = 10 * digitsValue ds acc + (c.toNat - 48) := by
  simp only [digitsValue, List.foldl_append, List.foldl_cons, List.foldl_nil]

theorem digitsValue_toDigits (n : Nat) : digitsValue (Nat.toDigits 10 n) 0 = n := by
  induction n using Nat.strongRecOn with
  | ind n ih =>
    rw [Nat.toDigits_eq_if (by decide)]
    split
    · rename_i small
      simp [digitsValue, Nat.toNat_digitChar_sub_48_of_lt_ten small]
    · -- the last digit is split off, and the rest is the number of tens
      rw [digitsValue_concat, ih (n / 10) (by omega),
        Nat.toNat_digitChar_sub_48_of_lt_ten (Nat.mod_lt n (by decide))]
      omega

theorem scanDigits_toDigits_append (n : Nat) {c : Char} (stop : c.isDigit = false)
    (rest : List Char) : scanDigits (Nat.toDigits 10 n ++ c :: rest) 0 = some n := by
  rw [scanDigits_append _ (fun _ => isDigit_of_mem_toDigits), digitsValue_toDigits,
    scanDigits_stop stop]

theorem atoi_toDigits_append (n : Nat) {c : Char} (stop : c.isDigit = false) (rest : List Char) :
    atoi (Nat.toDigits 10 n ++ c :: rest) = some n := by
  obtain ⟨d, ds, digits⟩ := List.exists_cons_of_ne_nil (Nat.toDigits_ne_nil (b := 10) (n := n))
  have leading : d.isDigit := isDigit_of_mem_toDigits (digits ▸ List.mem_cons_self)
  rw [digits, List.cons_append, atoi, if_neg (by rw [isSpace_of_isDigit leading]; decide),
    scanSigned, if_neg (ne_of_isDigit leading (by decide)),
    if_neg (ne_of_isDigit leading (by decide)), ← List.cons_append, ← digits,
    scanDigits_toDigits_append n stop]
  rfl

theorem atoi_formatInt_append (n : Int) {c : Char} (stop : c.isDigit = false)
    (rest : List Char) : atoi (formatInt n ++ c :: rest) = some n := by
  cases n with
  | ofNat m => exact atoi_toDigits_append m stop rest
  | negSucc m =>
      rw [formatInt, List.cons_append, atoi, if_neg (by decide), scanSigned, if_pos rfl,
        scanDigits_toDigits_append (m + 1) stop]
      rfl

theorem mem_formatInt {n : Int} {c : Char} (member : c ∈ formatInt n) : c.isDigit ∨ c = '-' := by
  cases n with
  | ofNat m => exact .inl (isDigit_of_mem_toDigits member)
  | negSucc m =>
      rcases List.mem_cons.mp member with minus | digit
      · exact .inr minus
      · exact .inl (isDigit_of_mem_toDigits digit)

theorem length_formatInt_le_iff (n : Nat) {k : Nat} (positive : 0 < k) :
    (formatInt n).length ≤ k ↔ n < 10 ^ k :=
  Nat.length_toDigits_le_iff (by decide) positive

end Decimal
