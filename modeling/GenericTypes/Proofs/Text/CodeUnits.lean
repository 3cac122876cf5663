import GenericTypes.Text.CodeUnits
import Mathlib.Algebra.BigOperators.Fin
import Mathlib.Tactic.Ring

namespace GenericTypes

namespace CodeUnits

/-- A character of the basic plane is its own unit. Any other is a high surrogate with its upper ten
    bits and a low surrogate with its lower ten bits, counted from the end of the basic plane. -/
inductive Encodes : List Char → List UInt16 → Prop
  | nil : Encodes [] []
  | basic {c : Char} {chars : List Char} {unit : UInt16} {units : List UInt16}
      (own : unit.toNat = c.toNat) (rest : Encodes chars units) :
      Encodes (c :: chars) (unit :: units)
  | surrogates {c : Char} {chars : List Char} {high low : UInt16} {units : List UInt16}
      (high_ge : 0xD800 ≤ high.toNat) (high_lt : high.toNat < 0xDC00)
      (low_ge : 0xDC00 ≤ low.toNat) (low_lt : low.toNat < 0xE000)
      (pair : c.toNat = 0x10000 + 0x400 * (high.toNat - 0xD800) + (low.toNat - 0xDC00))
      (rest : Encodes chars units) :
      Encodes (c :: chars) (high :: low :: units)

theorem ofChar_of_basic {c : Char} {unit : UInt16} (own : unit.toNat = c.toNat) :
    ofChar c = [unit] := by
  have bound := unit.toNat_lt
  rw [ofChar, if_pos (by omega), ← own, UInt16.ofNat_toNat]

theorem ofChar_of_pair {c : Char} {high low : UInt16}
    (high_ge : 0xD800 ≤ high.toNat) (low_ge : 0xDC00 ≤ low.toNat) (low_lt : low.toNat < 0xE000)
    (pair : c.toNat = 0x10000 + 0x400 * (high.toNat - 0xD800) + (low.toNat - 0xDC00)) :
    ofChar c = [high, low] := by
  have upper : 0xD800 + (c.toNat - 0x10000) / 0x400 = high.toNat := by omega
  have lower : 0xDC00 + (c.toNat - 0x10000) % 0x400 = low.toNat := by omega
  simp only [ofChar]
  rw [if_neg (by omega), upper, lower, UInt16.ofNat_toNat, UInt16.ofNat_toNat]

theorem ofChar_cases (c : Char) :
    (∃ unit : UInt16, unit.toNat = c.toNat ∧ ofChar c = [unit]) ∨
    ∃ high low : UInt16, 0xD800 ≤ high.toNat ∧ high.toNat < 0xDC00 ∧
      0xDC00 ≤ low.toNat ∧ low.toNat < 0xE000 ∧
      c.toNat = 0x10000 + 0x400 * (high.toNat - 0xD800) + (low.toNat - 0xDC00) ∧
      ofChar c = [high, low] := by
  have scalar : c.toNat < 0x110000 := by
    have valid := c.valid
    simp only [UInt32.isValidChar, Nat.isValidChar] at valid
    have same : c.toNat = c.val.toNat := rfl
    omega
  by_cases basic : c.toNat < 0x10000
  · refine .inl ⟨.ofNat c.toNat, UInt16.toNat_ofNat_of_lt' basic, ?_⟩
    rw [ofChar, if_pos basic]
  · let offset := c.toNat - 0x10000
    have high : (UInt16.ofNat (0xD800 + offset / 0x400)).toNat = 0xD800 + offset / 0x400 :=
      UInt16.toNat_ofNat_of_lt' (by simp only [UInt16.size]; omega)
    have low : (UInt16.ofNat (0xDC00 + offset % 0x400)).toNat = 0xDC00 + offset % 0x400 :=
      UInt16.toNat_ofNat_of_lt' (by simp only [UInt16.size]; omega)
    refine .inr ⟨.ofNat (0xD800 + offset / 0x400), .ofNat (0xDC00 + offset % 0x400), ?_⟩
    rw [high, low, ofChar, if_neg basic]
    refine ⟨?_, ?_, ?_, ?_, ?_, rfl⟩ <;> omega

theorem encodes_iff {chars : List Char} {units : List UInt16} :
    Encodes chars units ↔ units = chars.flatMap ofChar := by
  constructor
  · intro encodes
    induction encodes with
    | nil => rfl
    | basic own _ ih => rw [List.flatMap_cons, ofChar_of_basic own, ← ih]; rfl
    | surrogates high_ge _ low_ge low_lt pair _ ih =>
      rw [List.flatMap_cons, ofChar_of_pair high_ge low_ge low_lt pair, ← ih]; rfl
  · rintro rfl
    induction chars with
    | nil => exact .nil
    | cons c chars ih =>
      rw [List.flatMap_cons]
      obtain ⟨unit, own, written⟩ |
        ⟨high, low, high_ge, high_lt, low_ge, low_lt, pair, written⟩ := ofChar_cases c
      · rw [written]; exact .basic own ih
      · rw [written]; exact .surrogates high_ge high_lt low_ge low_lt pair ih

theorem ofString_append (s t : String) : ofString (s ++ t) = ofString s ++ ofString t := by
  simp [ofString]

end CodeUnits

/-- The value at 31 of the polynomial with these coefficients, that of the highest power first. -/
def hashPolynomial (coefficients : List Int) : Int :=
  ∑ i : Fin coefficients.length, coefficients[i] * 31 ^ (coefficients.length - 1 - i)

theorem hashPolynomial_cons (c : Int) (rest : List Int) :
    hashPolynomial (c :: rest) = c * 31 ^ rest.length + hashPolynomial rest := by
  simp [hashPolynomial, Fin.sum_univ_succ, Nat.sub_sub, Nat.add_comm]

/-- Horner's scheme in wrapping arithmetic gives the residue of the polynomial. -/
theorem foldl_eq_hashPolynomial (coefficients : List Int) (start : Int) :
    coefficients.foldl (fun hash c => 31 * hash + .ofInt c) (.ofInt start) =
      Int32.ofInt (31 ^ coefficients.length * start + hashPolynomial coefficients) := by
  induction coefficients generalizing start with
  | nil => simp [hashPolynomial]
  | cons c rest ih =>
    have step : 31 * Int32.ofInt start + .ofInt c = .ofInt (31 * start + c) := by
      rw [Int32.ofInt_add, Int32.ofInt_mul]; rfl
    rw [List.foldl_cons, step, ih, hashPolynomial_cons, List.length_cons]
    congr 1
    ring

namespace CodeUnits

theorem hashFrom_append (hash : Int32) (units more : List UInt16) :
    hashFrom hash (units ++ more) = hashFrom (hashFrom hash units) more :=
  List.foldl_append

theorem hashFrom_zero (units : List UInt16) :
    hashFrom 0 units = .ofInt (hashPolynomial (units.map fun unit => (unit.toNat : Int))) := by
  have step : hashStep = fun hash unit => 31 * hash + .ofInt (unit.toNat : Int) := by
    funext hash unit
    rw [hashStep, Int32.mul_comm, Int32.ofInt_eq_ofNat]
  have folded := foldl_eq_hashPolynomial (units.map fun unit => (unit.toNat : Int)) 0
  rw [List.foldl_map, Int.mul_zero, Int.zero_add] at folded
  rw [hashFrom, step]
  exact folded

end CodeUnits

end GenericTypes
