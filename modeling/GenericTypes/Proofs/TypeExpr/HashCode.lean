import GenericTypes.TypeName
import GenericTypes.TypeExpr.HashCode
import GenericTypes.Proofs.Text.CodeUnits
import GenericTypes.Proofs.TypeExpr.Nodes

namespace GenericTypes

namespace TypeName

theorem hashBrackets_eq (hash : Int32) (dims : Nat) :
    hashBrackets hash dims =
      CodeUnits.hashFrom hash (CodeUnits.ofString (String.join (List.replicate dims "[]"))) := by
  induction dims generalizing hash with
  | zero => rfl
  | succ dims ih =>
    rw [hashBrackets, ih, ← CodeUnits.hashFrom_append, ← CodeUnits.ofString_append,
      List.replicate_succ, String.join_cons]

theorem hashCode_eq (name : TypeName) :
    name.hashCode = CodeUnits.hashFrom 0 (CodeUnits.ofString name.text) := by
  rw [hashCode, hashBrackets_eq, ← CodeUnits.hashFrom_append, ← CodeUnits.ofString_append, text]

theorem toInt_hashCode {name : TypeName} {units : List UInt16}
    (encodes : CodeUnits.Encodes name.text.toList units) :
    name.hashCode.toInt =
      (hashPolynomial (units.map fun unit => (unit.toNat : Int))).bmod (2 ^ 32) := by
  have written : units = CodeUnits.ofString name.text := CodeUnits.encodes_iff.mp encodes
  rw [hashCode_eq, ← written, CodeUnits.hashFrom_zero, Int32.toInt_ofInt]
  rfl

end TypeName

namespace TypeExpr

variable {H : Type} [Handle H]

def sequencePolynomial (hashes : List Int32) : Int :=
  31 ^ hashes.length + hashPolynomial (hashes.map Int32.toInt)

theorem sequenceHash_eq (hashes : List Int32) :
    sequenceHash hashes = .ofInt (sequencePolynomial hashes) := by
  have folded := foldl_eq_hashPolynomial (hashes.map Int32.toInt) 1
  simp only [List.foldl_map, Int32.ofInt_toInt, List.length_map, Int.mul_one] at folded
  exact folded

/-- What a hash of type expressions gives each shape, from the hashes of its parts: a list of parts
    has the residue of its exact polynomial, and the residues are combined bit by bit. -/
structure HashesByPolynomials (hash : TypeExpr H → Int32) : Prop where
  nominal (h : H) : hash (.nominal h) = Handle.hashCode h
  parameterized (owner : Option (TypeExpr H)) (raw : H) (args : List (TypeExpr H)) :
    hash (.parameterized owner raw args) =
      .ofInt (sequencePolynomial (args.map hash)) ^^^ owner.elim 0 hash ^^^ Handle.hashCode raw
  wildcard (upper lower : List (TypeExpr H)) :
    hash (.wildcard upper lower) =
      .ofInt (sequencePolynomial (lower.map hash)) ^^^ .ofInt (sequencePolynomial (upper.map hash))
  array (component : TypeExpr H) : hash (.array component) = hash component
  intersection (members : List (TypeExpr H)) :
    hash (.intersection members) = .ofInt (sequencePolynomial (members.map hash))

theorem ownerHash_eq (owner : Option (TypeExpr H)) : ownerHash owner = owner.elim 0 hashCode := by
  cases owner <;> rfl

theorem hashCode_byPolynomials : HashesByPolynomials (hashCode : TypeExpr H → Int32) where
  nominal _ := rfl
  parameterized owner raw args := by
    rw [hashCode, sequenceHash_eq, hashCodes_eq_map, ownerHash_eq]
  wildcard upper lower := by
    rw [hashCode, sequenceHash_eq, sequenceHash_eq, hashCodes_eq_map, hashCodes_eq_map]
  array _ := rfl
  intersection members := by
    rw [hashCode, sequenceHash_eq, hashCodes_eq_map]

theorem HashesByPolynomials.eq_of_children {hash other : TypeExpr H → Int32}
    (hashes : HashesByPolynomials hash) (others : HashesByPolynomials other) {t : TypeExpr H}
    (agree : ∀ child ∈ t.children, hash child = other child) : hash t = other t := by
  cases t with
  | nominal h => rw [hashes.nominal, others.nominal]
  | parameterized owner raw args =>
    have ofArgs : args.map hash = args.map other :=
      List.map_congr_left fun arg member => agree arg (List.mem_append_right _ member)
    have ofOwner : owner.elim 0 hash = owner.elim 0 other := by
      cases owner with
      | none => rfl
      | some outer => exact agree outer (List.mem_append_left _ (by simp))
    rw [hashes.parameterized, others.parameterized, ofArgs, ofOwner]
  | wildcard upper lower =>
    have ofUpper : upper.map hash = upper.map other :=
      List.map_congr_left fun bound member => agree bound (List.mem_append_left _ member)
    have ofLower : lower.map hash = lower.map other :=
      List.map_congr_left fun bound member => agree bound (List.mem_append_right _ member)
    rw [hashes.wildcard, others.wildcard, ofUpper, ofLower]
  | array component =>
    rw [hashes.array, others.array, agree component (List.mem_singleton_self _)]
  | intersection members =>
    have ofMembers : members.map hash = members.map other := List.map_congr_left agree
    rw [hashes.intersection, others.intersection, ofMembers]

theorem hashesByPolynomials_iff {hash : TypeExpr H → Int32} :
    HashesByPolynomials hash ↔ hash = hashCode := by
  constructor
  · intro hashes
    funext t
    induction t using children_induction with
    | step t agree => exact hashes.eq_of_children hashCode_byPolynomials agree
  · rintro rfl
    exact hashCode_byPolynomials

/-- The code of a name is the signed 32-bit residue of the integer polynomial of the UTF-16 units of
    its text, so names that read alike have one code. The codes of type expressions are exactly
    those that the polynomials of their lists of parts determine. -/
theorem hashCodes_are_polynomials :
    (∀ name : TypeName, ∃ units,
      (∀ others, CodeUnits.Encodes name.text.toList others ↔ others = units) ∧
      name.hashCode.toInt =
        (hashPolynomial (units.map fun unit => (unit.toNat : Int))).bmod (2 ^ 32)) ∧
    (∀ name other : TypeName, name.text = other.text → name.hashCode = other.hashCode) ∧
    ∀ hash : TypeExpr H → Int32, HashesByPolynomials hash ↔ hash = hashCode := by
  refine ⟨fun name => ?_, fun name other alike => ?_, fun hash => hashesByPolynomials_iff⟩
  · refine ⟨CodeUnits.ofString name.text, fun others => CodeUnits.encodes_iff, ?_⟩
    exact TypeName.toInt_hashCode (CodeUnits.encodes_iff.mpr rfl)
  · rw [TypeName.hashCode_eq, TypeName.hashCode_eq, alike]

/-- An array of arrays of a type with a name beyond the basic plane reads like an array of the type
    whose name ends in brackets. -/
theorem hashCodes_are_polynomials_script :
    let grid : TypeName := ⟨"𝔸", 2, by decide⟩
    let row : TypeName := ⟨"𝔸[]", 1, by decide⟩
    grid ≠ row ∧ grid.text = row.text ∧ grid.hashCode = row.hashCode ∧
      grid.hashCode.toInt = (hashPolynomial [0xD835, 0xDD38, 91, 93, 91, 93]).bmod (2 ^ 32) := by
  intro grid row
  obtain ⟨codes, alike, -⟩ := hashCodes_are_polynomials (H := TypeName)
  obtain ⟨units, encodes, code⟩ := codes grid
  have written : [0xD835, 0xDD38, 91, 93, 91, 93] = units :=
    (encodes _).mp (CodeUnits.encodes_iff.mpr (by decide))
  have same : grid.text = row.text := by decide
  refine ⟨by decide, same, alike grid row same, ?_⟩
  rw [code, ← written]
  rfl

end TypeExpr

end GenericTypes
