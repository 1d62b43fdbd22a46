import Mathlib.Data.List.Basic

/-!
# The civil calendar and `Format("2006.01.02")`

The calendar arithmetic of Go's `time` package that the log query builder relies on: the day
number of a civil date and back, by the civil-calendar algorithms `daysFromCivil` and
`civilFromDays` of the proleptic Gregorian calendar; the day of an instant on the wall clock of a
zone offset (`localDay`); and the `2006.01.02` text of a day, as `Format` writes it with
`appendInt`.

The file provides

* `daysFromCivil_civilFromDays`, the calendar round trip;
* `dateText_inj`: between years 0 and 9999 the `2006.01.02` text of a day names that day.
-/

namespace OpenChoreo
namespace Observer

/-! ## The civil calendar -/

/-- Go's `isLeap`. -/
def isLeap (year : Int) : Bool :=
  year % 4 = 0 ∧ (year % 100 ≠ 0 ∨ year % 400 = 0)

/-- Go's `daysIn`: the number of days of a month. -/
def daysIn (month : Nat) (year : Int) : Nat :=
  if month = 2 then (if isLeap year then 29 else 28)
  else if month = 4 ∨ month = 6 ∨ month = 9 ∨ month = 11 then 30
  else 31

/-- The day number, counted from 1970-01-01, of a civil date. -/
def daysFromCivil (year month day : Int) : Int :=
  let y := if month ≤ 2 then year - 1 else year
  let era := y / 400
  let yoe := y - era * 400
  let mp := if 2 < month then month - 3 else month + 9
  let doy := (153 * mp + 2) / 5 + day - 1
  let doe := yoe * 365 + yoe / 4 - yoe / 100 + doy
  era * 146097 + doe - 719468

/-- The year of a 400-year era and the day of that year, counted from 1 March, of a day of the era
(0 is 1 March of the era's first year). -/
def yearOfEra (doe : Int) : Int × Int :=
  let c := min (doe / 36524) 3
  let doc := doe - c * 36524
  let q := doc / 1461
  let doq := doc % 1461
  let n := min (doq / 365) 3
  (c * 100 + q * 4 + n, doq - n * 365)

/-- The month and the day of the month of a day of the year counted from 1 March. -/
def monthDay (doy : Int) : Int × Int :=
  let mp := (5 * doy + 2) / 153
  (if mp < 10 then mp + 3 else mp - 9, doy - (153 * mp + 2) / 5 + 1)

/-- The civil date (year, month, day) of a day number counted from 1970-01-01. -/
def civilFromDays (z : Int) : Int × Int × Int :=
  let z := z + 719468
  let era := z / 146097
  let (yoe, doy) := yearOfEra (z % 146097)
  let (month, day) := monthDay doy
  (yoe + era * 400 + (if month ≤ 2 then 1 else 0), month, day)

/-- The first day of year 0. -/
def firstDay : Int := -719528

/-- The last day of year 9999. -/
def lastDay : Int := 2932896

theorem yearOfEra_spec {doe : Int} (h₀ : 0 ≤ doe) (h₁ : doe < 146097) :
    0 ≤ (yearOfEra doe).1 ∧ (yearOfEra doe).1 ≤ 399 ∧ 0 ≤ (yearOfEra doe).2 ∧
      (yearOfEra doe).2 ≤ 365 ∧
      (yearOfEra doe).1 * 365 + (yearOfEra doe).1 / 4 - (yearOfEra doe).1 / 100 +
        (yearOfEra doe).2 = doe := by
  simp only [yearOfEra]
  generalize hc : min (doe / 36524) 3 = c
  generalize hd : doe - c * 36524 = doc
  generalize hn : min (doc % 1461 / 365) 3 = n
  have hdoc : 0 ≤ c ∧ c ≤ 3 ∧ 0 ≤ doc ∧ doc ≤ 36524 := by omega
  have h4 : (c * 100 + doc / 1461 * 4 + n) / 4 = 25 * c + doc / 1461 := by omega
  have h100 : (c * 100 + doc / 1461 * 4 + n) / 100 = c := by omega
  omega

theorem monthDay_spec {doy : Int} (h₀ : 0 ≤ doy) (h₁ : doy ≤ 365) :
    1 ≤ (monthDay doy).1 ∧ (monthDay doy).1 ≤ 12 ∧ 1 ≤ (monthDay doy).2 ∧ (monthDay doy).2 ≤ 31 ∧
      (153 * (if 2 < (monthDay doy).1 then (monthDay doy).1 - 3 else (monthDay doy).1 + 9) + 2) / 5 +
        (monthDay doy).2 - 1 = doy ∧ ((monthDay doy).1 ≤ 2 ↔ 306 ≤ doy) := by
  simp only [monthDay]
  split_ifs <;> omega

/-- `civilFromDays` in terms of its two steps, with what `yearOfEra_spec` and `monthDay_spec` say
about them. -/
theorem civilFromDays_cases (z : Int) : ∃ era yoe doy month day,
    z + 719468 = 146097 * era + (yoe * 365 + yoe / 4 - yoe / 100 + doy) ∧
    0 ≤ yoe ∧ yoe ≤ 399 ∧ 0 ≤ doy ∧ doy ≤ 365 ∧ 1 ≤ month ∧ month ≤ 12 ∧ 1 ≤ day ∧ day ≤ 31 ∧
    (153 * (if 2 < month then month - 3 else month + 9) + 2) / 5 + day - 1 = doy ∧
    (month ≤ 2 ↔ 306 ≤ doy) ∧
    civilFromDays z = (yoe + era * 400 + (if month ≤ 2 then 1 else 0), month, day) := by
  have hz := Int.ediv_add_emod (z + 719468) 146097
  obtain ⟨h₁, h₂, h₃, h₄, h₅⟩ := yearOfEra_spec (Int.emod_nonneg (z + 719468) (by decide))
    (Int.emod_lt_of_pos (z + 719468) (by decide))
  obtain ⟨m₁, m₂, d₁, d₂, h₆, h₇⟩ := monthDay_spec h₃ h₄
  exact ⟨(z + 719468) / 146097, _, _, _, _, by rw [h₅]; omega, h₁, h₂, h₃, h₄, m₁, m₂, d₁, d₂,
    h₆, h₇, rfl⟩

theorem civilFromDays_month_day (z : Int) :
    1 ≤ (civilFromDays z).2.1 ∧ (civilFromDays z).2.1 ≤ 12 ∧
      1 ≤ (civilFromDays z).2.2 ∧ (civilFromDays z).2.2 ≤ 31 := by
  obtain ⟨_, _, _, _, _, -, -, -, -, -, hm₁, hm₂, hd₁, hd₂, -, -, h⟩ := civilFromDays_cases z
  rw [h]
  exact ⟨hm₁, hm₂, hd₁, hd₂⟩

/-- `civilFromDays` is a left inverse of `daysFromCivil`: a day number comes back from its date. -/
theorem daysFromCivil_civilFromDays (z : Int) :
    daysFromCivil (civilFromDays z).1 (civilFromDays z).2.1 (civilFromDays z).2.2 = z := by
  obtain ⟨era, yoe, doy, month, day, hz, hy₁, hy₂, -, -, -, -, -, -, hdoy, -, h⟩ :=
    civilFromDays_cases z
  have hera : (yoe + era * 400) / 400 = era := by omega
  rw [h]
  simp only [daysFromCivil]
  split_ifs at hdoy ⊢ <;> simp only [Int.add_sub_cancel, Int.add_zero, hera] <;> omega

theorem civilFromDays_year {z : Int} (h₁ : firstDay ≤ z) (h₂ : z ≤ lastDay) :
    0 ≤ (civilFromDays z).1 ∧ (civilFromDays z).1 ≤ 9999 := by
  obtain ⟨era, yoe, doy, month, day, hz, hy₁, hy₂, hd₁, hd₂, -, -, -, -, -, hmonth, h⟩ :=
    civilFromDays_cases z
  simp only [firstDay, lastDay] at h₁ h₂
  rw [h]
  rcases (by omega : era ≤ -2 ∨ era = -1 ∨ 0 ≤ era) with he | rfl | he
  all_goals split_ifs <;> omega

theorem daysFromCivil_mem {year month day : Int} (hy : 0 ≤ year ∧ year ≤ 9999)
    (hm : 1 ≤ month ∧ month ≤ 12) (hd : 1 ≤ day ∧ day ≤ 31) :
    firstDay ≤ daysFromCivil year month day ∧ daysFromCivil year month day ≤ lastDay := by
  simp only [daysFromCivil, firstDay, lastDay]
  split_ifs <;> omega

theorem daysIn_le (month : Nat) (year : Int) : daysIn month year ≤ 31 := by
  unfold daysIn
  split_ifs <;> decide

example : civilFromDays 19723 = (2024, 1, 1) := by decide

/-! ## Days of instants -/

/-- Nanoseconds in a second. -/
def nsPerSecond : Int := 1000000000

/-- Nanoseconds in a day. -/
def nsPerDay : Int := 86400000000000

/-- The day number of the wall-clock date of an instant, in nanoseconds since the Unix epoch, in a
zone of the given offset east of UTC in seconds. -/
def localDay (offset ns : Int) : Int :=
  (ns + offset * nsPerSecond) / nsPerDay

theorem localDay_add_days (offset ns days : Int) :
    localDay offset (ns + days * nsPerDay) = localDay offset ns + days := by
  simp only [localDay, nsPerDay]
  omega

/-! ## `Format("2006.01.02")` -/

/-- Go's `'0' + byte(u)`. -/
def utod (u : Nat) : Char := Char.ofNat (48 + u)

theorem utod_inj : ∀ a, a < 10 → ∀ b, b < 10 → utod a = utod b → a = b := by
  decide

/-- Go's `appendInt(b, x, width)`: `x` in decimal, after a minus sign when negative, padded with
zeros to `width` digits. -/
def appendInt (b : List Char) (x : Int) (width : Nat) : List Char :=
  let b := if x < 0 then b ++ ['-'] else b
  let u := x.natAbs
  if width = 2 ∧ u < 100 then b ++ [utod (u / 10), utod (u % 10)]
  else if width = 4 ∧ u < 10000 then
    b ++ [utod (u / 1000), utod (u / 100 % 10), utod (u / 10 % 10), utod (u % 10)]
  else
    let digits := Nat.toDigits 10 u
    b ++ List.replicate (width - digits.length) '0' ++ digits

theorem appendInt_two (b : List Char) {x : Int} (h₀ : 0 ≤ x) (h₁ : x < 100) :
    appendInt b x 2 = b ++ [utod (x.toNat / 10), utod (x.toNat % 10)] := by
  have hn : x.natAbs = x.toNat := by omega
  simp [appendInt, Int.not_lt.2 h₀, hn, show x.toNat < 100 by omega]

theorem appendInt_four (b : List Char) {x : Int} (h₀ : 0 ≤ x) (h₁ : x < 10000) :
    appendInt b x 4 = b ++ [utod (x.toNat / 1000), utod (x.toNat / 100 % 10),
      utod (x.toNat / 10 % 10), utod (x.toNat % 10)] := by
  have hn : x.natAbs = x.toNat := by omega
  simp [appendInt, Int.not_lt.2 h₀, hn, show x.toNat < 10000 by omega]

/-- The `2006.01.02` text of a day: `Format` appends the year, the month and the day with
`appendInt`, separated by the layout's dots. -/
def dateText (d : Int) : String :=
  let (year, month, day) := civilFromDays d
  String.mk (appendInt (appendInt (appendInt [] year 4 ++ ['.']) month 2 ++ ['.']) day 2)

/-- The ten characters `appendInt` writes for a date whose year, month and day have at most four,
two and two digits. -/
def dateChars (y m e : Nat) : List Char :=
  [utod (y / 1000), utod (y / 100 % 10), utod (y / 10 % 10), utod (y % 10), '.',
    utod (m / 10), utod (m % 10), '.', utod (e / 10), utod (e % 10)]

/-- Between years 0 and 9999 the text of a day is the ten characters of its date. -/
theorem dateText_data {d : Int} (h₁ : firstDay ≤ d) (h₂ : d ≤ lastDay) :
    (dateText d).data = dateChars (civilFromDays d).1.toNat (civilFromDays d).2.1.toNat
      (civilFromDays d).2.2.toNat := by
  obtain ⟨hm₁, hm₂, hd₁, hd₂⟩ := civilFromDays_month_day d
  obtain ⟨hy₁, hy₂⟩ := civilFromDays_year h₁ h₂
  simp only [dateText]
  generalize civilFromDays d = c at *
  obtain ⟨year, month, day⟩ := c
  dsimp only at hm₁ hm₂ hd₁ hd₂ hy₁ hy₂
  rw [appendInt_two _ (by omega : 0 ≤ day) (by omega),
    appendInt_two _ (by omega : 0 ≤ month) (by omega), appendInt_four _ hy₁ (by omega)]
  rfl

example : dateText 19723 = "2024.01.01" := by decide

/-- A number is given by its thousands and its last three decimal digits. -/
theorem eq_of_digits4 {y y' : Nat} (h₁ : y / 1000 = y' / 1000)
    (h₂ : y / 100 % 10 = y' / 100 % 10) (h₃ : y / 10 % 10 = y' / 10 % 10) (h₄ : y % 10 = y' % 10) :
    y = y' := by
  omega

/-- A number is given by its tens and its last decimal digit. -/
theorem eq_of_digits2 {m m' : Nat} (h₁ : m / 10 = m' / 10)
    (h₂ : m % 10 = m' % 10) : m = m' := by
  omega

/-- The ten characters of a date name its year, month and day. -/
theorem dateChars_inj {y m e y' m' e' : Nat} (hy : y < 10000) (hm : m < 100) (he : e < 100)
    (hy' : y' < 10000) (hm' : m' < 100) (he' : e' < 100)
    (h : dateChars y m e = dateChars y' m' e') : y = y' ∧ m = m' ∧ e = e' := by
  simp only [dateChars, List.cons.injEq, and_true, true_and] at h
  obtain ⟨y₁, y₂, y₃, y₄, m₁, m₂, e₁, e₂⟩ := h
  have hd {a b : Nat} (ha : a < 10) (hb : b < 10) : utod a = utod b → a = b := utod_inj a ha b hb
  exact ⟨eq_of_digits4 (hd (by omega) (by omega) y₁) (hd (by omega) (by omega) y₂)
      (hd (by omega) (by omega) y₃) (hd (by omega) (by omega) y₄),
    eq_of_digits2 (hd (by omega) (by omega) m₁) (hd (by omega) (by omega) m₂),
    eq_of_digits2 (hd (by omega) (by omega) e₁) (hd (by omega) (by omega) e₂)⟩

/-- Between years 0 and 9999 a date text names one day. -/
theorem dateText_inj {d d' : Int} (h₁ : firstDay ≤ d ∧ d ≤ lastDay)
    (h₂ : firstDay ≤ d' ∧ d' ≤ lastDay) (h : dateText d = dateText d') : d = d' := by
  obtain ⟨hm₁, hm₂, hd₁, hd₂⟩ := civilFromDays_month_day d
  obtain ⟨hm₁', hm₂', hd₁', hd₂'⟩ := civilFromDays_month_day d'
  obtain ⟨hy₁, hy₂⟩ := civilFromDays_year h₁.1 h₁.2
  obtain ⟨hy₁', hy₂'⟩ := civilFromDays_year h₂.1 h₂.2
  have h := congrArg String.data h
  rw [dateText_data h₁.1 h₁.2, dateText_data h₂.1 h₂.2] at h
  obtain ⟨hy, hm, hd⟩ := dateChars_inj (by omega) (by omega) (by omega) (by omega) (by omega)
    (by omega) h
  have hc : civilFromDays d = civilFromDays d' := by
    ext <;> omega
  rw [← daysFromCivil_civilFromDays d, ← daysFromCivil_civilFromDays d', hc]

end Observer
end OpenChoreo
