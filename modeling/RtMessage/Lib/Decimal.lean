import Mathlib.Data.List.Basic

/- Decimal numerals as bytes.

   `digits` writes a number and `readNat` and `readInt` read a numeral, all of it or nothing.
   What is written is read back (`readNat_digits`), and the byte of a digit is never the
   number it stands for (`readInt_singleton`). -/
namespace Lib

/-- A blank, in the C locale. -/
def isSpace (b : UInt8) : Bool := b == 32 || (9 ≤ b && b ≤ 13)

def isDigit (b : UInt8) : Bool := decide (48 ≤ b.toNat) && decide (b.toNat ≤ 57)

/-- The number that digits stand for. -/
def digitsValue (ds : List UInt8) : Nat := ds.foldl (fun n b => 10 * n + (b.toNat - 48)) 0

/-- One digit or more. -/
def Numeral (s : List UInt8) : Prop := s ≠ [] ∧ ∀ b ∈ s, isDigit b = true

instance (s : List UInt8) : Decidable (Numeral s) :=
  inferInstanceAs (Decidable (s ≠ [] ∧ ∀ b ∈ s, isDigit b = true))

def readNat (s : List UInt8) : Option Nat := if Numeral s then some (digitsValue s) else none

/-- A numeral, or one behind a minus sign. -/
def readInt (s : List UInt8) : Option Int :=
  if s.head? = some 45 then (readNat s.tail).map fun n => -(n : Int)
  else (readNat s).map fun n => (n : Int)

def digits (n : Nat) : List UInt8 := (Nat.toDigits 10 n).map fun c => UInt8.ofNat c.toNat

/-! Digits. -/

theorem toNat_of_isDigit {b : UInt8} (h : isDigit b = true) : 48 ≤ b.toNat ∧ b.toNat ≤ 57 := by
  simpa only [isDigit, Bool.and_eq_true, decide_eq_true_eq] using h

theorem isSpace_of_isDigit {b : UInt8} (h : isDigit b = true) : isSpace b = false := by
  obtain ⟨hlow, hhigh⟩ := toNat_of_isDigit h
  rw [isSpace, Bool.or_eq_false_iff]
  constructor
  · rw [beq_eq_false_iff_ne]
    rintro rfl
    exact absurd hlow (by decide)
  · rw [Bool.and_eq_false_iff]
    right
    rw [decide_eq_false_iff_not, UInt8.le_iff_toNat_le]
    change ¬ b.toNat ≤ 13
    omega

/-- A numeral begins with a digit, so neither with a blank nor with a sign. -/
theorem Numeral.exists_cons {s : List UInt8} (h : Numeral s) :
    ∃ d ds, s = d :: ds ∧ isSpace d = false ∧ d ≠ 45 ∧ d ≠ 43 := by
  obtain ⟨d, ds, rfl⟩ := List.exists_cons_of_ne_nil h.1
  have hdigit := h.2 d List.mem_cons_self
  refine ⟨d, ds, rfl, isSpace_of_isDigit hdigit, ?_, ?_⟩
  · rintro rfl
    exact absurd hdigit (by decide)
  · rintro rfl
    exact absurd hdigit (by decide)

theorem digit_toNat {c : Char} (h : c.isDigit = true) :
    48 ≤ c.toNat ∧ c.toNat ≤ 57 ∧ (UInt8.ofNat c.toNat).toNat = c.toNat := by
  obtain ⟨hlow, hhigh⟩ := Char.isDigit_iff_toNat.mp h
  change 48 ≤ c.toNat at hlow
  change c.toNat ≤ 57 at hhigh
  exact ⟨hlow, hhigh, UInt8.toNat_ofNat_of_lt' (show _ < 2^8 by omega)⟩

theorem isDigit_ofNat {c : Char} (h : c.isDigit = true) : isDigit (UInt8.ofNat c.toNat) = true := by
  obtain ⟨hlow, hhigh, hbyte⟩ := digit_toNat h
  rw [isDigit, hbyte, decide_eq_true hlow, decide_eq_true hhigh]
  rfl

theorem digitsValue_map (cs : List Char) (h : ∀ c ∈ cs, c.isDigit = true) :
    digitsValue (cs.map fun c => UInt8.ofNat c.toNat) = Nat.ofDigitChars 10 cs 0 := by
  rw [digitsValue, Nat.ofDigitChars_eq_foldl, List.foldl_map]
  refine List.foldl_ext _ _ 0 fun n c hc => ?_
  rw [(digit_toNat (h c hc)).2.2]
  rfl

theorem numeral_digits (n : Nat) : Numeral (digits n) := by
  constructor
  · intro h
    exact Nat.toDigits_ne_nil (List.map_eq_nil_iff.mp h)
  · intro b hb
    obtain ⟨c, hc, rfl⟩ := List.mem_map.mp hb
    exact isDigit_ofNat (Nat.isDigit_of_mem_toDigits (by decide) (by decide) hc)

theorem digitsValue_digits (n : Nat) : digitsValue (digits n) = n := by
  rw [digits, digitsValue_map _ fun c hc =>
    Nat.isDigit_of_mem_toDigits (by decide) (by decide) hc]
  exact Nat.ofDigitChars_ten_toDigits

/-! Reading. -/

/-- **What is written is read back.** -/
theorem readNat_digits (n : Nat) : readNat (digits n) = some n := by
  rw [readNat, if_pos (numeral_digits n), digitsValue_digits]

theorem readInt_digits (n : Nat) : readInt (digits n) = some (n : Int) := by
  have hhead : (digits n).head? ≠ some 45 := by
    obtain ⟨d, ds, hcons, -, hminus, -⟩ := (numeral_digits n).exists_cons
    rw [hcons, List.head?_cons]
    exact fun heq => hminus (Option.some.inj heq)
  rw [readInt, if_neg hhead, readNat_digits]
  rfl

theorem readInt_minus (n : Nat) : readInt (45 :: digits n) = some (-(n : Int)) := by
  rw [readInt, List.head?_cons, if_pos rfl, List.tail_cons, readNat_digits]
  rfl

theorem readInt_singleton {b : UInt8} {n : Int} (h : readInt [b] = some n) : n = b.toNat - 48 ∧ 0 ≤ n := by
  rw [readInt] at h
  by_cases hminus : b = 45
  · subst hminus
    cases h
  · rw [if_neg (by simpa using hminus)] at h
    obtain ⟨k, hk, rfl⟩ := Option.map_eq_some_iff.mp h
    rw [readNat] at hk
    by_cases hnum : Numeral [b]
    · rw [if_pos hnum] at hk
      cases hk
      have hdigit := toNat_of_isDigit (hnum.2 b List.mem_cons_self)
      simp only [digitsValue, List.foldl_cons, List.foldl_nil]
      omega
    · rw [if_neg hnum] at hk
      cases hk

end Lib
