/-!
# Double-precision numbers

A double is its 64 bits, from the top one bit of sign, eleven of exponent and
fifty-two of fraction, so two doubles are equal when they agree bit for bit.
Comparison as numbers is `sameNumber`, for which the two zeros are equal.
`ofNat` rounds a natural number to the nearest double.
-/

namespace FacetedSearch

/-- A double-precision number, as its 64 bits. -/
structure Binary64 where
  /-- Sign, exponent and fraction, from the most significant bit. -/
  bits : UInt64
  deriving DecidableEq, Repr

namespace Binary64

/-- The bits below the sign; they grow with the absolute value. -/
def magnitude (x : Binary64) : Nat := x.bits.toNat % 0x8000000000000000

/-- The magnitude of infinity: all bits of the exponent are set and none of the fraction. -/
def infinity : Nat := 0x7FF0000000000000

/-- Neither infinite nor a NaN. -/
def IsFinite (x : Binary64) : Prop := x.magnitude < infinity

instance (x : Binary64) : Decidable x.IsFinite := inferInstanceAs (Decidable (_ < _))

/-- Whether two finite doubles are the same number: the two zeros are. -/
def sameNumber (x y : Binary64) : Bool :=
  decide (x = y) || (x.magnitude == 0 && y.magnitude == 0)

/-- A quotient rounded to the nearest natural number, a half to the even neighbour. -/
def roundedQuotient (n d : Nat) : Nat :=
  let q := n / d
  let r := n % d
  if 2 * r < d ∨ 2 * r = d ∧ q % 2 = 0 then q else q + 1

/--
The double nearest to a natural number, a half going to the even neighbour.
The significand has its top bit at place 52; when rounding carries it to place
53, the sum carries into the exponent, which is the right double again.
-/
def ofNat (n : Nat) : Binary64 :=
  if n = 0 then ⟨0⟩
  else
    let top := n.log2
    let significand :=
      if top ≤ 52 then n <<< (52 - top) else roundedQuotient n (1 <<< (top - 52))
    ⟨UInt64.ofNat (min infinity ((top + 1022) <<< 52 + significand))⟩

/-- The double nearest to an integer, a half going to the even neighbour. -/
def ofInt (n : Int) : Binary64 :=
  let absolute := ofNat n.natAbs
  if n < 0 then ⟨absolute.bits ||| 0x8000000000000000⟩ else absolute

/-- Rounding a quotient moves it by at most half a unit. -/
theorem roundedQuotient_bounds (n : Nat) {d : Nat} (hd : 0 < d) :
    2 * n ≤ 2 * d * roundedQuotient n d + d ∧ 2 * d * roundedQuotient n d ≤ 2 * n + d := by
  have hsplit : d * (n / d) + n % d = n := Nat.div_add_mod n d
  have hlt : n % d < d := Nat.mod_lt n hd
  have hassoc : 2 * d * (n / d) = 2 * (d * (n / d)) := Nat.mul_assoc ..
  simp only [roundedQuotient]
  split
  · omega
  · rw [Nat.mul_add]
    omega

/-! ### Words have finite doubles -/

theorem significand_le {n : Nat} (h : n.log2 ≤ 52) :
    n <<< (52 - n.log2) ≤ 9007199254740992 := by
  have hlt : n < 2 ^ (n.log2 + 1) := Nat.lt_log2_self
  rw [Nat.shiftLeft_eq]
  calc n * 2 ^ (52 - n.log2) ≤ 2 ^ (n.log2 + 1) * 2 ^ (52 - n.log2) :=
        Nat.mul_le_mul_right _ (Nat.le_of_lt hlt)
    _ = 2 ^ 53 := by
        rw [← Nat.pow_add]
        congr 1
        omega

/-- Rounding carries a significand at most to the next place. -/
theorem roundedSignificand_le {n : Nat} (h : 52 < n.log2) :
    roundedQuotient n (1 <<< (n.log2 - 52)) ≤ 9007199254740992 := by
  have hlt : n < 2 ^ (n.log2 + 1) := Nat.lt_log2_self
  have hsplit : 2 ^ (n.log2 + 1) = 2 ^ (n.log2 - 52) * 9007199254740992 := by
    have hplaces : (9007199254740992 : Nat) = 2 ^ 53 := rfl
    rw [hplaces, ← Nat.pow_add]
    congr 1
    omega
  have hpos : 0 < 2 ^ (n.log2 - 52) := Nat.two_pow_pos _
  have hbound := (roundedQuotient_bounds n hpos).2
  rw [Nat.shiftLeft_eq, Nat.one_mul]
  generalize 2 ^ (n.log2 - 52) = d at *
  have hassoc : 2 * d * roundedQuotient n d = 2 * (d * roundedQuotient n d) := Nat.mul_assoc ..
  have hlt' : d * roundedQuotient n d < d * (9007199254740992 + 1) := by
    rw [Nat.mul_add]
    omega
  exact Nat.le_of_lt_succ (Nat.lt_of_mul_lt_mul_left hlt')

/-- The double nearest to an unsigned word is finite. -/
theorem isFinite_ofNat {n : Nat} (h : n ≤ 18446744073709551615) : (ofNat n).IsFinite := by
  unfold ofNat
  split
  · decide
  · next hn =>
    have htop : n.log2 < 64 := (Nat.log2_lt hn).mpr (Nat.lt_succ_of_le h)
    have hsum : ∀ significand ≤ 9007199254740992,
        IsFinite ⟨UInt64.ofNat (min infinity ((n.log2 + 1022) <<< 52 + significand))⟩ := by
      intro significand hle
      rw [Nat.shiftLeft_eq, IsFinite, magnitude, UInt64.toNat_ofNat']
      simp only [infinity]
      omega
    apply hsum
    split
    · next hsmall => exact significand_le hsmall
    · next hlarge => exact roundedSignificand_le (Nat.lt_of_not_le hlarge)

/-- The double nearest to a natural number among the integers is that of the natural number. -/
theorem ofInt_of_nonneg {n : Int} (h : 0 ≤ n) : ofInt n = ofNat n.toNat := by
  have habs : n.natAbs = n.toNat := by omega
  rw [ofInt, if_neg (Int.not_lt.mpr h), habs]

end Binary64

end FacetedSearch
