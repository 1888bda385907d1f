import Mathlib.Algebra.Group.Nat.Defs
import RecordSchema.Number.Binary64

/-!
# Integers as doubles

A double that is an integer is the double nearest to it, but for the sign of zero
(`ofInt_eq_unsigned`). The double nearest to an integer of 64 bits is finite (`isFinite_ofInt`).
-/

namespace RecordSchema

namespace Binary64

/-- The number, with the positive zero in place of the negative one. -/
def unsigned (x : Binary64) : Binary64 :=
  if x.isZero then zero false else x

@[simp] theorem unsigned_unsigned (x : Binary64) : x.unsigned.unsigned = x.unsigned := by
  by_cases h : x.isZero
  · have hx : x.unsigned = zero false := if_pos h
    rw [hx]
    rfl
  · have hx : x.unsigned = x := if_neg h
    rw [hx, hx]

/-- The order of an integer is its binary logarithm. -/
theorem binaryOrder_one {n : Nat} (hn : n ≠ 0) : binaryOrder n 1 = n.log2 := by
  have hle : 2 ^ n.log2 ≤ n := Nat.log2_self_le hn
  have hone : Nat.log2 1 = 0 := by decide
  have hguess : (n.log2 : Int) - (0 : Nat) = n.log2 := by omega
  rw [binaryOrder, hone, hguess, unscale, if_pos (Int.natCast_nonneg _), Int.toNat_natCast,
    Nat.one_mul]
  exact if_neg (Nat.not_lt.mpr hle)

/-- A multiple is nearest to its own quotient. -/
theorem nearest_mul (n : Nat) {d : Nat} (hd : 0 < d) : nearest (n * d) d = n := by
  rw [nearest, Nat.mul_div_cancel _ hd, Nat.mul_mod_left]
  exact if_pos (.inl (by omega))

/-- The double nearest to an integer has the integer as its mantissa, shifted to its full width. -/
theorem ofRatio_of_shifted (negative : Bool) {n k : Nat} (hlow : 0x10000000000000 ≤ n * 2 ^ k)
    (hhigh : n * 2 ^ k < 0x20000000000000) :
    ofRatio negative n 1 = make negative (n * 2 ^ k) (-k) := by
  have hn : n ≠ 0 := by
    rintro rfl
    omega
  have hk : k ≤ 52 := by
    refine Nat.le_of_not_lt fun hk => ?_
    have hpow : 2 ^ 53 ≤ 2 ^ k := Nat.pow_le_pow_right (by decide) (by omega)
    have hmul : 2 ^ k ≤ n * 2 ^ k := Nat.le_mul_of_pos_left _ (Nat.pos_of_ne_zero hn)
    omega
  -- The leading bit of the shifted number is bit 52, so that of the integer is `k` bits lower.
  have hlog : n.log2 = 52 - k := by
    have hpos : 0 < 2 ^ k := Nat.pow_pos (by decide)
    have hsplit : ∀ w, k ≤ w → 2 ^ w = 2 ^ (w - k) * 2 ^ k := fun w hw => by
      rw [← Nat.pow_add, Nat.sub_add_cancel hw]
    refine (Nat.log2_eq_iff hn).mpr ⟨?_, ?_⟩
    · refine Nat.le_of_mul_le_mul_right ?_ hpos
      rw [← hsplit 52 hk]
      exact hlow
    · refine Nat.lt_of_mul_lt_mul_right (a := 2 ^ k) ?_
      rw [show 52 - k + 1 = 53 - k by omega, ← hsplit 53 (by omega)]
      exact hhigh
  have hexponent : max (binaryOrder n 1 - 52) (-1074) = -(k : Int) := by
    rw [binaryOrder_one hn, hlog]
    omega
  have hscaled : unscale n 1 (-(k : Int)) = (n * 2 ^ k, 1) := by
    rw [unscale]
    split
    next hnonneg =>
        obtain rfl : k = 0 := by omega
        simp [powerOfTwo]
    next => rw [Int.neg_neg, Int.toNat_natCast, powerOfTwo, Nat.pow_eq]
  have hnearest : nearest (n * 2 ^ k) 1 = n * 2 ^ k := by
    simpa using nearest_mul (n * 2 ^ k) Nat.one_pos
  rw [ofRatio, if_neg (by simp [hn])]
  simp only [hexponent, hscaled, hnearest]
  exact if_neg (by omega)

/-- An integer that is a full mantissa times a power of two has them as its nearest double. -/
theorem ofRatio_of_scaled (negative : Bool) {m k : Nat} (hlow : 0x10000000000000 ≤ m)
    (hhigh : m < 0x20000000000000) :
    ofRatio negative (m * 2 ^ k) 1 = make negative m k := by
  have hpos : 0 < 2 ^ k := Nat.pow_pos (by decide)
  have hn : m * 2 ^ k ≠ 0 := Nat.mul_ne_zero (by omega) (by omega)
  have hlog : (m * 2 ^ k).log2 = 52 + k := by
    refine (Nat.log2_eq_iff hn).mpr ⟨?_, ?_⟩
    · rw [Nat.pow_add]
      exact Nat.mul_le_mul_right _ hlow
    · rw [show 52 + k + 1 = 53 + k by omega, Nat.pow_add]
      exact Nat.mul_lt_mul_of_pos_right hhigh hpos
  have hexponent : max (binaryOrder (m * 2 ^ k) 1 - 52) (-1074) = (k : Int) := by
    rw [binaryOrder_one hn, hlog]
    omega
  have hscaled : unscale (m * 2 ^ k) 1 k = (m * 2 ^ k, 2 ^ k) := by
    rw [unscale, if_pos (Int.natCast_nonneg _), Int.toNat_natCast, Nat.one_mul]
    rfl
  rw [ofRatio, if_neg (by simp [hn])]
  simp only [hexponent, hscaled, nearest_mul m hpos]
  exact if_neg (by omega)

/-- The size of an integer that a pair of the format is. -/
def IsMagnitude (mantissa : Nat) (exponent : Int) (n : Nat) : Prop :=
  if 0 ≤ exponent then n = mantissa * 2 ^ exponent.toNat else n * 2 ^ (-exponent).toNat = mantissa

/-- A pair of the format that is an integer other than zero is the double nearest to it. -/
theorem ofRatio_of_canonical (negative : Bool) {mantissa : Nat} {exponent : Int} {n : Nat}
    (hcanonical : Canonical mantissa exponent) (hmantissa : mantissa ≠ 0)
    (hn : IsMagnitude mantissa exponent n) :
    ofRatio negative n 1 = .finite negative mantissa exponent hcanonical := by
  have hmake : make negative mantissa exponent = .finite negative mantissa exponent hcanonical :=
    dif_pos hcanonical
  have hbounds := hcanonical
  obtain ⟨hhigh, -, -, hfull⟩ := hbounds
  rw [IsMagnitude] at hn
  split at hn
  next hnonneg =>
      have hexponent : (exponent.toNat : Int) = exponent := Int.toNat_of_nonneg hnonneg
      rw [hn, ofRatio_of_scaled negative (by omega) hhigh, hexponent, hmake]
  next hneg =>
      have hexponent : -((-exponent).toNat : Int) = exponent := by omega
      have hlow : 0x10000000000000 ≤ mantissa := by
        rcases hfull with rfl | hfull
        · -- The unit is so small that an integer cannot have a mantissa that is not full.
          have hpositive : 0 < n := by
            refine Nat.pos_of_ne_zero fun heq => hmantissa ?_
            rw [← hn, heq, Nat.zero_mul]
          rw [← hn]
          exact Nat.le_trans (by decide +kernel) (Nat.le_mul_of_pos_left _ hpositive)
        · exact hfull
      rw [← hn] at hlow hhigh
      rw [ofRatio_of_shifted negative hlow hhigh, hexponent, hn, hmake]

/-- A pair is zero exactly when its magnitude is. -/
theorem IsMagnitude.eq_zero_iff {mantissa n : Nat} {exponent : Int}
    (h : IsMagnitude mantissa exponent n) : n = 0 ↔ mantissa = 0 := by
  have hshift : ∀ m k : Nat, m * 2 ^ k = 0 ↔ m = 0 := fun m k =>
    Nat.mul_eq_zero.trans (or_iff_left (Nat.ne_of_gt (Nat.pow_pos (by decide))))
  rw [IsMagnitude] at h
  split at h
  · rw [h, hshift]
  · rw [← h, hshift]

/-- An integer that a double is has the sign and the magnitude of the double. -/
theorem exists_magnitude_of_toInt? {negative : Bool} {mantissa : Nat} {exponent n : Int}
    {hcanonical : Canonical mantissa exponent}
    (h : (finite negative mantissa exponent hcanonical).toInt? = some n) :
    ∃ magnitude, IsMagnitude mantissa exponent magnitude ∧
      n = if negative then -(magnitude : Int) else magnitude := by
  rw [toInt?, Option.map_eq_some_iff] at h
  obtain ⟨_, hcast, rfl⟩ := h
  obtain ⟨magnitude, hmagnitude, hcast⟩ := Option.bind_eq_some_iff.mp hcast
  cases hcast
  refine ⟨magnitude, ?_, rfl⟩
  rw [IsMagnitude]
  by_cases hexponent : 0 ≤ exponent
  · rw [if_pos hexponent] at hmagnitude ⊢
    exact (Option.some.inj hmagnitude).symm
  · rw [if_neg hexponent] at hmagnitude ⊢
    by_cases hdvd : mantissa % powerOfTwo (-exponent).toNat = 0
    · rw [← Option.some.inj ((if_pos hdvd).symm.trans hmagnitude)]
      exact Nat.div_mul_cancel (Nat.dvd_of_mod_eq_zero hdvd)
    · cases (if_neg hdvd).symm.trans hmagnitude

/-- A double that is an integer is the double nearest to it, but for the sign of zero. -/
theorem ofInt_eq_unsigned {x : Binary64} {n : Int} (h : x.toInt? = some n) :
    ofInt n = x.unsigned := by
  cases x with
  | nan => cases h
  | infinity => cases h
  | finite negative mantissa exponent hcanonical =>
      obtain ⟨magnitude, hmagnitude, rfl⟩ := exists_magnitude_of_toInt? h
      -- A zero is rounded to the positive one whatever its sign and exponent are.
      by_cases hmantissa : mantissa = 0
      · obtain rfl : magnitude = 0 := hmagnitude.eq_zero_iff.mpr hmantissa
        subst hmantissa
        cases negative <;> rfl
      · have hpositive : 0 < magnitude :=
          Nat.pos_of_ne_zero fun hzero => hmantissa (hmagnitude.eq_zero_iff.mp hzero)
        have hunsigned : unsigned (.finite negative mantissa exponent hcanonical) =
            .finite negative mantissa exponent hcanonical := by
          simp [unsigned, isZero, hmantissa]
        rw [hunsigned, ofInt, ← ofRatio_of_canonical negative hcanonical hmantissa hmagnitude]
        cases negative with
        | true => simp [hpositive]
        | false => simp [Int.not_lt.mpr (Int.natCast_nonneg magnitude)]

/-- The integer nearest to a fraction is the quotient or the integer after it. -/
theorem nearest_eq_or (n d : Nat) : nearest n d = n / d ∨ nearest n d = n / d + 1 := by
  rw [nearest]
  split
  · exact .inl rfl
  · exact .inr rfl

theorem isFinite_make {negative : Bool} {mantissa : Nat} {exponent : Int}
    (h : Canonical mantissa exponent) : (make negative mantissa exponent).isFinite := by
  rw [make, dif_pos h]
  rfl

/-- An integer whose digits fit the mantissa is a finite double. -/
theorem isFinite_ofRatio_of_small (negative : Bool) {m : Nat} (hm : m ≠ 0) (horder : m.log2 ≤ 52) :
    (ofRatio negative m 1).isFinite := by
  have hpos : 0 < 2 ^ (52 - m.log2) := Nat.pow_pos (by decide)
  have hlow : 2 ^ m.log2 * 2 ^ (52 - m.log2) ≤ m * 2 ^ (52 - m.log2) :=
    Nat.mul_le_mul_right _ (Nat.log2_self_le hm)
  have hhigh : m * 2 ^ (52 - m.log2) < 2 ^ (m.log2 + 1) * 2 ^ (52 - m.log2) :=
    Nat.mul_lt_mul_of_pos_right Nat.lt_log2_self hpos
  rw [← Nat.pow_add, Nat.add_sub_cancel' horder] at hlow
  rw [← Nat.pow_add, show m.log2 + 1 + (52 - m.log2) = 53 by omega] at hhigh
  rw [ofRatio_of_shifted negative hlow hhigh]
  exact isFinite_make ⟨hhigh, by omega, by omega, .inr hlow⟩

/-- A larger integer is rounded to a finite double, up to the largest exponent. -/
theorem isFinite_ofRatio_of_large (negative : Bool) {m : Nat} (hlarge : 52 < m.log2)
    (horder : m.log2 < 1000) : (ofRatio negative m 1).isFinite := by
  have hm : m ≠ 0 := by
    rintro rfl
    simp at hlarge
  have hpos : 0 < 2 ^ (m.log2 - 52) := Nat.pow_pos (by decide)
  have hlow : 2 ^ 52 ≤ m / 2 ^ (m.log2 - 52) := by
    rw [Nat.le_div_iff_mul_le hpos, ← Nat.pow_add, Nat.add_sub_cancel' (Nat.le_of_lt hlarge)]
    exact Nat.log2_self_le hm
  have hhigh : m / 2 ^ (m.log2 - 52) < 2 ^ 53 := by
    rw [Nat.div_lt_iff_lt_mul hpos, ← Nat.pow_add,
      show 53 + (m.log2 - 52) = m.log2 + 1 by omega]
    exact Nat.lt_log2_self
  have hexponent : max (binaryOrder m 1 - 52) (-1074) = ((m.log2 - 52 : Nat) : Int) := by
    rw [binaryOrder_one hm]
    omega
  have hscaled : unscale m 1 ((m.log2 - 52 : Nat) : Int) = (m, 2 ^ (m.log2 - 52)) := by
    rw [unscale, if_pos (Int.natCast_nonneg _), Int.toNat_natCast, Nat.one_mul]
    rfl
  rw [ofRatio, if_neg (by simp [hm])]
  simp only [hexponent, hscaled]
  -- Rounding up may reach `2 ^ 53`, which is written with the next exponent.
  have hnearest := nearest_eq_or m (2 ^ (m.log2 - 52))
  split
  · exact isFinite_make ⟨by decide, by omega, by omega, .inr (by decide)⟩
  · exact isFinite_make ⟨by omega, by omega, by omega, .inr (by omega)⟩

/-- The double nearest to an integer of 64 bits is finite. -/
theorem isFinite_ofInt {n : Int} (hlow : -0x8000000000000000 ≤ n)
    (hhigh : n < 0x10000000000000000) : (ofInt n).isFinite := by
  by_cases hzero : n.natAbs = 0
  · rw [ofInt, ofRatio, if_pos (.inl hzero)]
    rfl
  have horder : n.natAbs.log2 < 64 := (Nat.log2_lt hzero).mpr (by omega)
  rcases Nat.lt_or_ge 52 n.natAbs.log2 with hlarge | hsmall
  · exact isFinite_ofRatio_of_large _ hlarge (by omega)
  · exact isFinite_ofRatio_of_small _ hzero hsmall

/-- A zero is written as an integer. -/
theorem toInt?_of_isZero {x : Binary64} (h : x.isZero) : x.toInt? = some 0 := by
  cases x with
  | nan => cases h
  | infinity => cases h
  | finite negative mantissa exponent hcanonical =>
      obtain rfl : mantissa = 0 := beq_iff_eq.mp h
      cases negative <;> by_cases hexponent : 0 ≤ exponent <;> simp [toInt?, hexponent]

end Binary64

end RecordSchema
