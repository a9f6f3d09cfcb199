import OutboundWatch.Proofs.Evolution
import OutboundWatch.Proofs.Magnitudes
import OutboundWatch.Schedule.Jitter

/-!
# Pauses

A pause is computed from an interval of at most `2 ^ 64` milliseconds by two multiplications with numbers below one.
Seconds of a span can have 64 bits, so that there is room for what the roundings may add.
-/

namespace OutboundWatch

namespace Binary64

variable {x : Binary64}

/-- The numbers of `[0, 1)` are not changed by a cut to the unit interval. -/
lemma clampUnit_of_inUnitInterval (h : x.inUnitInterval = true) : x.clampUnit = x := by
  simp only [inUnitInterval, le, lt, Bool.and_eq_true, decide_eq_true_eq] at h
  obtain ⟨⟨⟨-, -⟩, hlower⟩, -, hupper⟩ := h
  have hbelow : x.lt zero = false := by simp [lt, hlower]
  have habove : one.lt x = false := by simp [lt, hupper.le]
  simp [clampUnit, hbelow, habove]

lemma within_of_inUnitInterval (h : x.inUnitInterval = true) : x.Within 0 := by
  simp only [inUnitInterval, le, lt, Bool.and_eq_true, decide_eq_true_eq] at h
  obtain ⟨⟨⟨-, -⟩, hlower⟩, -, hupper⟩ := h
  have hzero : zero.orderKey = 0 := by decide
  have hone : one.orderKey = 1023 * patternsPerExponent := by decide +kernel
  have hpatterns : patternsPerExponent = 4503599627370496 := rfl
  have hinfinity : infinityMagnitude = 9218868437227405312 := rfl
  rw [hzero] at hlower
  rw [hone, hpatterns] at hupper
  have hnonneg : x.negative = true → x.magnitude = 0 := by
    intro hnegative
    simp only [orderKey, hnegative, if_true] at hlower
    omega
  have hmagnitude : x.magnitude < 1023 * patternsPerExponent := by
    rw [hpatterns]
    cases hnegative : x.negative with
    | true => rw [hnonneg hnegative]; decide
    | false =>
      simp only [orderKey, hnegative, Bool.false_eq_true, if_false] at hupper
      omega
  refine ⟨?_, hnonneg, ?_⟩
  · rw [hpatterns] at hmagnitude
    omega
  · rw [unitsPerOne_eq, Nat.pow_zero, Nat.mul_one]
    exact units_le (by decide) hmagnitude.le

end Binary64

namespace Span

variable {s : Span} {x factor : Binary64} {n : Nat}

lemma within_inSeconds (hs : s.nanos ≤ 2 ^ n * nanosPerSecond) (hn : 30 ≤ n) (hmax : n < Binary64.maxBound) :
    s.inSeconds.Within (n + 1) := by
  have hseconds : s.seconds ≤ 2 ^ n := Nat.div_le_of_le_mul (by rwa [Nat.mul_comm])
  have hsubsecond : s.subsecond ≤ 2 ^ n := by
    have hless : s.subsecond < nanosPerSecond := Nat.mod_lt _ (by decide)
    have hpower : nanosPerSecond ≤ 2 ^ 30 := by decide
    exact hless.le.trans (hpower.trans (Nat.pow_le_pow_right (by decide) hn))
  have hpart := (Binary64.within_ofNat hmax.le hsubsecond).divNat hmax.le (k := nanosPerSecond) (by decide)
  exact (Binary64.within_ofNat hmax.le hseconds).add hpart hmax

lemma ofSecondsNearest?_of_within (hx : x.Within n) (hn : n < 64) :
    ∃ t, ofSecondsNearest? x = some t ∧ t.nanos ≤ 2 ^ n * nanosPerSecond := by
  have hnonneg : x.lt Binary64.zero = false := by
    have hzero : Binary64.zero.orderKey = 0 := by decide
    simp only [Binary64.lt, hzero, Bool.and_eq_false_iff, decide_eq_false_iff_not]
    right
    cases hnegative : x.negative with
    | true => simp [Binary64.orderKey, hnegative, hx.nonneg hnegative]
    | false => simp [Binary64.orderKey, hnegative]
  have hfinite : x.isFinite = true := decide_eq_true hx.finite
  have hnanos : Binary64.roundDiv (x.units * nanosPerSecond) Binary64.unitsPerOne ≤ 2 ^ n * nanosPerSecond := by
    refine Binary64.roundDiv_le Binary64.unitsPerOne_pos ?_
    calc x.units * nanosPerSecond ≤ Binary64.unitsPerOne * 2 ^ n * nanosPerSecond :=
          Nat.mul_le_mul_right _ hx.units_le
      _ = 2 ^ n * nanosPerSecond * Binary64.unitsPerOne := by ring
  have hlimit : Binary64.roundDiv (x.units * nanosPerSecond) Binary64.unitsPerOne < limit := by
    refine hnanos.trans_lt ?_
    have hpower : 2 ^ n ≤ 2 ^ 63 := Nat.pow_le_pow_right (by decide) (by omega)
    exact (Nat.mul_le_mul_right _ hpower).trans_lt (by decide)
  refine ⟨⟨_, hlimit⟩, ?_, hnanos⟩
  simp [ofSecondsNearest?, hnonneg, hfinite, ofNanos?, hlimit]

/-- A span that is not too long can be multiplied with any number up to one. -/
lemma scale?_of_within (hs : s.nanos ≤ 2 ^ n * nanosPerSecond) (hn : 30 ≤ n) (hmax : n < 63)
    (hfactor : factor.Within 0) : ∃ t, s.scale? factor = some t ∧ t.nanos ≤ 2 ^ (n + 1) * nanosPerSecond := by
  have hbound : Binary64.maxBound = 1000 := rfl
  have hseconds := within_inSeconds hs hn (by omega)
  have hproduct := hfactor.mul hseconds (by omega)
  rw [Nat.zero_add] at hproduct
  exact ofSecondsNearest?_of_within hproduct (by omega)

lemma nanos_ofMillis_le (ms : UInt64) : (ofMillis ms).nanos ≤ 2 ^ 55 * nanosPerSecond := by
  have hms := ms.toNat_lt
  simp only [ofMillis, nanosPerMilli, nanosPerSecond]
  omega

end Span

variable {interval window : Span} {ratio draw : Binary64}

lemma initialDelay?_of_window (h : jitterWindow? interval ratio = some window) :
    initialDelay? interval ratio draw = if window.isZero then some Span.zero else window.scale? draw := by
  unfold initialDelay?
  generalize jitterWindow? interval ratio = found at *
  subst h
  rfl

lemma jitteredInterval?_of_window (h : jitterWindow? interval ratio = some window) :
    jitteredInterval? interval ratio draw =
      if window.isZero then some interval
      else (window.scale? draw).bind fun offset => (interval.minus window.half).add? offset := by
  unfold jitteredInterval?
  generalize jitterWindow? interval ratio = found at *
  subst h
  rfl

/-- Every draw gives a cycle its first pause and each of its later ones. -/
def CycleSettings.CanPause (s : CycleSettings) : Prop :=
  ∀ draw : Binary64, draw.inUnitInterval = true →
    (∃ pause, initialDelay? s.interval s.jitterRatio draw = some pause) ∧
      ∃ pause, jitteredInterval? s.interval s.jitterRatio draw = some pause

/-- An interval in milliseconds and a ratio below one always give a pause. -/
theorem CycleSettings.canPause {s : CycleSettings} {ms : UInt64} (hinterval : s.interval = Span.ofMillis ms)
    (hratio : s.jitterRatio.inUnitInterval = true) : s.CanPause := by
  intro draw hdraw
  have hbound : s.interval.nanos ≤ 2 ^ 55 * nanosPerSecond := hinterval ▸ Span.nanos_ofMillis_le ms
  obtain ⟨window, hwindow, hlength⟩ :=
    Span.scale?_of_within hbound (by decide) (by decide) (Binary64.within_of_inUnitInterval hratio)
  obtain ⟨offset, hoffset, hshort⟩ :=
    Span.scale?_of_within hlength (by decide) (by decide) (Binary64.within_of_inUnitInterval hdraw)
  have hjitter : jitterWindow? s.interval s.jitterRatio = some window := by
    rw [jitterWindow?, Binary64.clampUnit_of_inUnitInterval hratio, hwindow]
  have hless : (s.interval.minus window.half).nanos ≤ s.interval.nanos := Nat.sub_le _ _
  have hroom : 2 ^ 55 * nanosPerSecond + 2 ^ 57 * nanosPerSecond < Span.limit := by decide
  have hsum : (s.interval.minus window.half).nanos + offset.nanos < Span.limit :=
    (Nat.add_le_add (hless.trans hbound) hshort).trans_lt hroom
  have hadd : (s.interval.minus window.half).add? offset = some ⟨_, hsum⟩ := by
    simp only [Span.add?, Span.ofNanos?, hsum, dif_pos]
  rw [initialDelay?_of_window hjitter, jitteredInterval?_of_window hjitter]
  constructor
  · split
    · exact ⟨_, rfl⟩
    · exact ⟨offset, hoffset⟩
  · split
    · exact ⟨_, rfl⟩
    · exact ⟨_, by rw [hoffset, Option.bind_some, hadd]⟩

end OutboundWatch
