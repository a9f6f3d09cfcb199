import Mathlib.Tactic.Ring
import Mathlib.Tactic.Positivity
import Mathlib.Data.Nat.Log
import OutboundWatch.Time.Span

/-!
# How large numbers get

A number is `Within n` if it is finite, not negative and at most `2 ^ n`. A power of two is itself a number, so that
no result that is rounded to the nearest number can get past one, and bounds add up like exponents.
-/

namespace OutboundWatch

namespace Binary64

/-- One is this power of two of units. -/
def oneExponent : Nat := 1074

lemma unitsPerOne_eq : unitsPerOne = 2 ^ oneExponent := by
  have hshift : unitsPerOne = 1 <<< oneExponent := rfl
  rw [hshift, Nat.one_shiftLeft]

lemma unitsPerOne_pos : 0 < unitsPerOne := by
  rw [unitsPerOne_eq]
  positivity

/-- A bound that is a whole number bounds the nearest whole number. -/
lemma roundDiv_le {num den bound : Nat} (hden : 0 < den) (h : num ≤ bound * den) : roundDiv num den ≤ bound := by
  have hsplit := Nat.div_add_mod num den
  have hless := Nat.mod_lt num hden
  have hquotient : num / den ≤ bound := Nat.div_le_of_le_mul (by rwa [Nat.mul_comm])
  unfold roundDiv
  simp only
  split
  · rename_i hup
    have hrest : 0 < num % den := by omega
    refine (Nat.div_lt_iff_lt_mul hden).mpr (lt_of_le_of_ne h fun heq => ?_)
    rw [heq, Nat.mul_mod_left] at hrest
    omega
  · exact hquotient

/-- The pattern of `2 ^ e` units bounds the patterns of all numbers up to it. -/
lemma nearestMagnitude_le {num den e : Nat} (hden : 0 < den) (he : 53 ≤ e) (h : num ≤ 2 ^ e * den) :
    nearestMagnitude num den ≤ (e - 51) * patternsPerExponent := by
  have hpatterns : patternsPerExponent = 2 ^ 52 := by decide
  have hquotient : num / den ≤ 2 ^ e := Nat.div_le_of_le_mul (by rwa [Nat.mul_comm])
  refine (Nat.min_le_left _ _).trans ?_
  rcases hquotient.lt_or_eq with hless | heq
  · -- Below the power of two, the exponent is smaller, and the fraction at most carries into the next one.
    set l := Nat.log2 (num / den) with hl
    have hlog : l ≤ e - 1 := by
      by_cases hzero : num / den = 0
      · simp [hl, hzero]
      · have hlt := (Nat.log2_lt hzero).mpr hless
        omega
    have hbelow : num < 2 ^ (l + 1) * den := (Nat.div_lt_iff_lt_mul hden).mp Nat.lt_log2_self
    have hfraction : roundDiv num (den <<< (l - 52)) ≤ 2 ^ 53 := by
      rw [Nat.shiftLeft_eq]
      refine roundDiv_le (by positivity) (hbelow.le.trans ?_)
      calc 2 ^ (l + 1) * den ≤ 2 ^ (53 + (l - 52)) * den :=
            Nat.mul_le_mul_right _ (Nat.pow_le_pow_right (by decide) (by omega))
        _ = 2 ^ 53 * (den * 2 ^ (l - 52)) := by ring
    have hexponent : l - 52 + 2 ≤ e - 51 := by omega
    calc (l - 52) * patternsPerExponent + roundDiv num (den <<< (l - 52))
        ≤ (l - 52) * patternsPerExponent + 2 * patternsPerExponent := by omega
      _ = (l - 52 + 2) * patternsPerExponent := by ring
      _ ≤ (e - 51) * patternsPerExponent := Nat.mul_le_mul_right _ hexponent
  · have hlog : Nat.log2 (num / den) = e := by rw [heq, Nat.log2_two_pow]
    have hfraction : roundDiv num (den <<< (e - 52)) ≤ 2 ^ 52 := by
      rw [Nat.shiftLeft_eq]
      refine roundDiv_le (by positivity) (h.trans_eq ?_)
      calc 2 ^ e * den = 2 ^ (52 + (e - 52)) * den := by rw [Nat.add_sub_cancel' (by omega)]
        _ = 2 ^ 52 * (den * 2 ^ (e - 52)) := by ring
    rw [hlog]
    have hexponent : e - 51 = e - 52 + 1 := by omega
    rw [hexponent, Nat.add_mul]
    omega

lemma units_le {x : Binary64} {e : Nat} (he : 53 ≤ e) (h : x.magnitude ≤ (e - 51) * patternsPerExponent) :
    x.units ≤ 2 ^ e := by
  have hpatterns : patternsPerExponent = 2 ^ 52 := by decide
  have hsplit := Nat.div_add_mod x.magnitude patternsPerExponent
  have hfraction : x.magnitude % patternsPerExponent < 2 ^ 52 := by
    rw [hpatterns]
    exact Nat.mod_lt _ (by positivity)
  have hexponent : x.magnitude / patternsPerExponent ≤ e - 51 :=
    Nat.div_le_of_le_mul (by rwa [Nat.mul_comm])
  unfold units
  simp only
  split
  · exact hfraction.le.trans (Nat.pow_le_pow_right (by decide) (by omega))
  · rw [Nat.shiftLeft_eq]
    rcases hexponent.lt_or_eq with hless | heq
    · calc (patternsPerExponent + x.magnitude % patternsPerExponent) * 2 ^ (x.magnitude / patternsPerExponent - 1)
          ≤ 2 ^ 53 * 2 ^ (x.magnitude / patternsPerExponent - 1) := Nat.mul_le_mul_right _ (by omega)
        _ = 2 ^ (53 + (x.magnitude / patternsPerExponent - 1)) := (Nat.pow_add ..).symm
        _ ≤ 2 ^ e := Nat.pow_le_pow_right (by decide) (by omega)
    · have hzero : x.magnitude % patternsPerExponent = 0 := by
        rw [heq, Nat.mul_comm] at hsplit
        omega
      rw [hzero, heq, hpatterns, Nat.add_zero, ← Nat.pow_add]
      exact Nat.pow_le_pow_right (by decide) (by omega)

variable {sign : Bool} {m : Nat}

lemma toNat_ofMagnitude (hm : m ≤ infinityMagnitude) :
    (ofMagnitude sign m).bits.toNat = if sign then signMask + m else m := by
  have hmask : signMask = 9223372036854775808 := rfl
  have hinfinity : infinityMagnitude = 9218868437227405312 := rfl
  simp only [ofMagnitude]
  rw [UInt64.toNat_ofNat_of_lt']
  change (if sign = true then signMask + m else m) < 18446744073709551616
  split <;> omega

lemma magnitude_ofMagnitude (hm : m ≤ infinityMagnitude) : (ofMagnitude sign m).magnitude = m := by
  have hmask : signMask = 9223372036854775808 := rfl
  have hinfinity : infinityMagnitude = 9218868437227405312 := rfl
  rw [magnitude, toNat_ofMagnitude hm, hmask]
  split <;> omega

lemma negative_ofMagnitude (hm : m ≤ infinityMagnitude) : (ofMagnitude sign m).negative = sign := by
  have hmask : signMask = 9223372036854775808 := rfl
  have hinfinity : infinityMagnitude = 9218868437227405312 := rfl
  rw [negative, toNat_ofMagnitude hm]
  cases sign
  · simp
    omega
  · simp

/-- A finite number that is not negative and at most `2 ^ n`. -/
structure Within (x : Binary64) (n : Nat) : Prop where
  finite : x.magnitude < infinityMagnitude
  nonneg : x.negative = true → x.magnitude = 0
  units_le : x.units ≤ unitsPerOne * 2 ^ n

/-- The largest exponent for which bounds are kept. -/
def maxBound : Nat := 1000

variable {x y : Binary64} {n k num den : Nat}

lemma within_ofRatio (hden : 0 < den) (hn : n ≤ maxBound) (h : num ≤ 2 ^ n * den)
    (hsign : sign = true → num = 0) : (ofRatio sign num den).Within n := by
  have hmax : maxBound = 1000 := rfl
  have hone : oneExponent = 1074 := rfl
  have hbound : num * unitsPerOne ≤ 2 ^ (oneExponent + n) * den := by
    rw [unitsPerOne_eq, Nat.pow_add]
    calc num * 2 ^ oneExponent ≤ 2 ^ n * den * 2 ^ oneExponent := Nat.mul_le_mul_right _ h
      _ = 2 ^ oneExponent * 2 ^ n * den := by ring
  have hnearest := nearestMagnitude_le hden (by omega) hbound
  have hinfinity : nearestMagnitude (num * unitsPerOne) den ≤ infinityMagnitude := Nat.min_le_right _ _
  have hmagnitude : (ofRatio sign num den).magnitude = nearestMagnitude (num * unitsPerOne) den :=
    magnitude_ofMagnitude hinfinity
  refine ⟨?_, ?_, ?_⟩
  · rw [hmagnitude]
    refine hnearest.trans_lt ?_
    have hpatterns : patternsPerExponent = 4503599627370496 := rfl
    have hvalue : infinityMagnitude = 9218868437227405312 := rfl
    rw [hpatterns, hvalue]
    omega
  · intro hnegative
    rw [ofRatio, negative_ofMagnitude hinfinity] at hnegative
    rw [hmagnitude, hsign hnegative]
    simp [nearestMagnitude, roundDiv, Nat.log2_zero]
  · rw [unitsPerOne_eq, ← Nat.pow_add]
    exact Binary64.units_le (by omega) (hmagnitude ▸ hnearest)

lemma units_of_magnitude_zero (h : x.magnitude = 0) : x.units = 0 := by
  simp [units, h]

lemma within_ofNat (hn : n ≤ maxBound) (h : k ≤ 2 ^ n) : (ofNat k).Within n :=
  within_ofRatio one_pos hn (by rwa [Nat.mul_one]) (by simp)

lemma Within.add (hx : x.Within n) (hy : y.Within n) (hn : n < maxBound) : (x.addMagnitudes y).Within (n + 1) := by
  refine within_ofRatio unitsPerOne_pos hn ?_ (by simp)
  calc x.units + y.units ≤ unitsPerOne * 2 ^ n + unitsPerOne * 2 ^ n := Nat.add_le_add hx.units_le hy.units_le
    _ = 2 ^ (n + 1) * unitsPerOne := by ring

lemma Within.divNat (hx : x.Within n) (hn : n ≤ maxBound) (hk : 0 < k) : (x.divNat k).Within n := by
  refine within_ofRatio (Nat.mul_pos unitsPerOne_pos hk) hn ?_ fun hnegative => ?_
  · calc x.units ≤ unitsPerOne * 2 ^ n := hx.units_le
      _ ≤ unitsPerOne * 2 ^ n * k := Nat.le_mul_of_pos_right _ hk
      _ = 2 ^ n * (unitsPerOne * k) := by ring
  · exact units_of_magnitude_zero (hx.nonneg hnegative)

lemma Within.mul (hx : x.Within n) (hy : y.Within k) (hn : n + k ≤ maxBound) : (x.mul y).Within (n + k) := by
  have hfinite : ∀ z : Binary64, z.magnitude < infinityMagnitude → z.isNaN = false ∧ z.isInfinite = false := by
    intro z hz
    simp only [isNaN, isInfinite, decide_eq_false_iff_not]
    omega
  obtain ⟨hxn, hxi⟩ := hfinite x hx.finite
  obtain ⟨hyn, hyi⟩ := hfinite y hy.finite
  simp only [Binary64.mul, hxn, hyn, hxi, hyi, Bool.or_self, Bool.false_eq_true, if_false]
  refine within_ofRatio (Nat.mul_pos unitsPerOne_pos unitsPerOne_pos) hn ?_ fun hsign => ?_
  · calc x.units * y.units ≤ unitsPerOne * 2 ^ n * (unitsPerOne * 2 ^ k) := Nat.mul_le_mul hx.units_le hy.units_le
      _ = 2 ^ (n + k) * (unitsPerOne * unitsPerOne) := by ring
  · -- A product has a sign only if one of its factors has, which then is zero.
    cases hnegative : x.negative with
    | true => rw [units_of_magnitude_zero (hx.nonneg hnegative), Nat.zero_mul]
    | false =>
      have hother : y.negative = true := by simpa [hnegative] using hsign
      rw [units_of_magnitude_zero (hy.nonneg hother), Nat.mul_zero]

end Binary64

end OutboundWatch
