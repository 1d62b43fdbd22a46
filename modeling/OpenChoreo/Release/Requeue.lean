import OpenChoreo.Release.Types

/-!
# Requeue intervals

`getStableRequeueInterval` and `getProgressingRequeueInterval` pick a base interval, compute the
jitter bound `time.Duration(float64(base) * 0.2)` and pass both to `addJitter`. The two functions
differ only in the spec field and the default they read, so both are `requeueInterval` applied to
their own values.

The jitter bound goes through binary64 arithmetic. `float64(base)` and the product with the double
nearest to `0.2` are rounded to nearest, ties to even; the conversion back to a duration truncates
toward zero. All values here are normal doubles, so a value is a significand and a power of two.
The sum `base + jitter` is int64 arithmetic and wraps around.
-/

namespace OpenChoreo
namespace ReleaseController

/-! ## int64 durations -/

/-- Two's-complement wrap-around of an integer into int64. -/
def wrap64 (x : Int) : Int := (x + 2 ^ 63) % 2 ^ 64 - 2 ^ 63

theorem wrap64_of_lt {x : Int} (h₁ : -2 ^ 63 ≤ x) (h₂ : x < 2 ^ 63) : wrap64 x = x := by
  unfold wrap64; omega

namespace Duration

/-- `time.Duration(x)` of an int64 value held as an integer. -/
def ofInt (x : Int) : Duration := ⟨wrap64 x, by unfold wrap64; omega, by unfold wrap64; omega⟩

/-- Duration addition, which wraps around like int64 addition. -/
def add (a b : Duration) : Duration := ofInt (a.ns + b.ns)

/-- The zero duration. -/
def zero : Duration := ofInt 0

/-- `n` nanoseconds. -/
def nanos (n : Nat) : Duration := ofInt n

end Duration

/-! ## Binary64 arithmetic of the jitter bound -/

/-- How many low bits of `n` to drop to keep 53 significant bits. A 64-bit integer times the
53-bit significand of `0.2` has fewer than 128 bits, so 128 halvings always suffice. -/
def dropBits : Nat → Nat → Nat
  | 0, _ => 0
  | fuel + 1, n => if n < 2 ^ 53 then 0 else dropBits fuel (n / 2) + 1

/-- Round `n` to 53 significant bits, to nearest with ties to even: `(m, k)` stands for
`m * 2 ^ k`. -/
def roundSignificand (n : Nat) : Nat × Nat :=
  let k := dropBits 128 n
  let q := n / 2 ^ k
  let r := n % 2 ^ k
  if k = 0 then (n, 0)
  else if 2 ^ (k - 1) < r ∨ (r = 2 ^ (k - 1) ∧ q % 2 = 1) then (q + 1, k) else (q, k)

/-- A finite binary64 value `±mant * 2 ^ exp`. -/
structure Float64 where
  neg : Bool
  mant : Nat
  exp : Int

/-- `float64(x)` of an int64 value. -/
def Float64.ofInt (x : Int) : Float64 :=
  let (m, k) := roundSignificand x.natAbs
  ⟨x < 0, m, k⟩

/-- The double nearest to `0.2`, `3602879701896397 * 2 ^ -54`. -/
def Float64.pointTwo : Float64 := ⟨false, 3602879701896397, -54⟩

/-- Binary64 multiplication of normal values. -/
def Float64.mul (a b : Float64) : Float64 :=
  let (m, k) := roundSignificand (a.mant * b.mant)
  ⟨a.neg != b.neg, m, a.exp + b.exp + k⟩

/-- Conversion of a double to an integer, truncating toward zero. -/
def Float64.trunc (f : Float64) : Int :=
  let mag : Nat := if 0 ≤ f.exp then f.mant * 2 ^ f.exp.toNat else f.mant / 2 ^ (-f.exp).toNat
  if f.neg then -(mag : Int) else mag

/-- `time.Duration(float64(base) * 0.2)`, the jitter bound of both requeue functions. -/
def jitterMax (base : Duration) : Duration :=
  Duration.ofInt ((Float64.ofInt base.ns).mul Float64.pointTwo).trunc

example : (jitterMax (Duration.nanos 300000000000)).ns = 60000000000 := by decide

/-! ## Requeue intervals -/

/-- `addJitter`: a non-positive bound adds nothing; otherwise add `rand.Intn(maxJitter)`. -/
def addJitter (intn : Int → Int) (base maxJitter : Duration) : Duration :=
  if maxJitter.ns ≤ 0 then base else base.add (Duration.ofInt (intn maxJitter.ns))

/-- The body shared by both requeue functions: a configured zero disables requeueing; otherwise
the configured value, or the default, gets up to 20% jitter. -/
def requeueInterval (intn : Int → Int) (configured : Option Duration) (default : Duration) :
    Duration :=
  match configured with
  | some d => if d.ns = 0 then Duration.zero else addJitter intn d (jitterMax d)
  | none => addJitter intn default (jitterMax default)

/-- `getStableRequeueInterval`: `Spec.Interval`, five minutes by default. -/
def getStableRequeueInterval (intn : Int → Int) (release : Release) : Duration :=
  requeueInterval intn release.spec.interval (Duration.nanos 300000000000)

/-- `getProgressingRequeueInterval`: `Spec.ProgressingInterval`, ten seconds by default. -/
def getProgressingRequeueInterval (intn : Int → Int) (release : Release) : Duration :=
  requeueInterval intn release.spec.progressingInterval (Duration.nanos 10000000000)

/-! ## The jitter band -/

/-- The contract of `rand.Intn`: for a positive bound it draws from `[0, n)`. -/
def IntnContract (intn : Int → Int) : Prop :=
  ∀ n, 0 < n → 0 ≤ intn n ∧ intn n < n

theorem addJitter_of_pos {intn : Int → Int} (hintn : IntnContract intn) {base : Duration}
    (h : 0 < (jitterMax base).ns) :
    (addJitter intn base (jitterMax base)).ns = wrap64 (base.ns + intn (jitterMax base).ns) := by
  obtain ⟨h0, h1⟩ := hintn _ h
  have hm := (jitterMax base).hi
  simp only [addJitter, Duration.add, Duration.ofInt, if_neg (not_le.2 h)]
  rw [wrap64_of_lt (x := intn _) (by omega) (by omega)]

theorem addJitter_band {intn : Int → Int} (hintn : IntnContract intn) (base : Duration) :
    ((jitterMax base).ns ≤ 0 → addJitter intn base (jitterMax base) = base) ∧
    (0 < (jitterMax base).ns → 0 ≤ intn (jitterMax base).ns ∧
      intn (jitterMax base).ns < (jitterMax base).ns ∧
      (addJitter intn base (jitterMax base)).ns = wrap64 (base.ns + intn (jitterMax base).ns)) ∧
    (base.ns + (jitterMax base).ns ≤ 2 ^ 63 → base.ns ≤ (addJitter intn base (jitterMax base)).ns ∧
      (addJitter intn base (jitterMax base)).ns < base.ns + max (jitterMax base).ns 1) := by
  refine ⟨fun h => if_pos h, fun h => ⟨(hintn _ h).1, (hintn _ h).2, addJitter_of_pos hintn h⟩,
    fun hfit => ?_⟩
  by_cases h : (jitterMax base).ns ≤ 0
  · simp only [addJitter, if_pos h]; omega
  · obtain ⟨h0, h1⟩ := hintn _ (not_le.1 h)
    have hb := base.lo
    rw [addJitter_of_pos hintn (not_le.1 h), wrap64_of_lt (by omega) (by omega)]
    omega

/-- What a requeue delay is, given the draws of `rand.Intn`, the configured value and the default:
zero when the configured value is zero; otherwise the base gets the draw `j = rand.Intn(m)`, which
lies in `[0, m)`, added in int64 arithmetic when the bound `m = Duration(float64(base) * 0.2)` is
positive, and nothing when it is not; when `base + m` fits in int64 the delay lies in
`[base, base + max m 1)`. -/
def JitterBand (intn : Int → Int) (configured : Option Duration) (default delay : Duration) : Prop :=
  let base := configured.getD default
  let m := (jitterMax base).ns
  (configured.map Duration.ns = some 0 → delay.ns = 0) ∧
  (configured.map Duration.ns ≠ some 0 →
    (m ≤ 0 → delay = base) ∧
    (0 < m → 0 ≤ intn m ∧ intn m < m ∧ delay.ns = wrap64 (base.ns + intn m)) ∧
    (base.ns + m ≤ 2 ^ 63 → base.ns ≤ delay.ns ∧ delay.ns < base.ns + max m 1))

theorem requeueInterval_band {intn : Int → Int} (hintn : IntnContract intn)
    (configured : Option Duration) (default : Duration) :
    JitterBand intn configured default (requeueInterval intn configured default) := by
  unfold JitterBand
  generalize hdelay : requeueInterval intn configured default = delay
  cases configured with
  | none => exact ⟨by simp, fun _ => hdelay ▸ addJitter_band hintn default⟩
  | some d =>
    by_cases hd : d.ns = 0
    · refine ⟨fun _ => ?_, fun h => absurd (by simp [hd]) h⟩
      simp [← hdelay, requeueInterval, hd, Duration.zero, Duration.ofInt, wrap64]
    · have : delay = addJitter intn d (jitterMax d) := by simp [← hdelay, requeueInterval, hd]
      exact ⟨fun h => absurd (by simpa using h) hd, fun _ => this ▸ addJitter_band hintn d⟩

/-- The requeue delays stay within the jitter band, for both requeue functions and every Release. -/
theorem requeue_delays_in_jitter_band {intn : Int → Int} (hintn : IntnContract intn)
    (release : Release) :
    JitterBand intn release.spec.interval (Duration.nanos 300000000000)
        (getStableRequeueInterval intn release) ∧
      JitterBand intn release.spec.progressingInterval (Duration.nanos 10000000000)
        (getProgressingRequeueInterval intn release) :=
  ⟨requeueInterval_band hintn _ _, requeueInterval_band hintn _ _⟩

theorem requeue_delays_in_jitter_band_zero_draw :
    IntnContract (fun _ => 0) ∧
      JitterBand (fun _ => 0) sampleRelease.spec.interval (Duration.nanos 300000000000)
        (getStableRequeueInterval (fun _ => 0) sampleRelease) :=
  have h : IntnContract (fun _ => 0) := fun _ hn => ⟨le_refl 0, hn⟩
  ⟨h, (requeue_delays_in_jitter_band h sampleRelease).1⟩

/-- The jitter bound of a one-nanosecond base truncates to zero. -/
theorem jitterMax_one_nanosecond : (jitterMax (Duration.nanos 1)).ns = 0 := by rfl

/-- A one-nanosecond interval: the jitter bound truncates to zero, so no `j` with `0 ≤ j < m`
exists, yet the delay is the base. -/
theorem stable_requeue_one_nanosecond :
    ¬ ∃ j : Int, 0 ≤ j ∧ j < (jitterMax (Duration.nanos 1)).ns ∧
      (getStableRequeueInterval (fun _ => 0)
        { sampleRelease with spec := { sampleRelease.spec with interval := some (Duration.nanos 1) } }).ns
        = (Duration.nanos 1).ns + j := by
  rintro ⟨j, h0, h1, -⟩
  rw [jitterMax_one_nanosecond] at h1
  omega

end ReleaseController
end OpenChoreo
