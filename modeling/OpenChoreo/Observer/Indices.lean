import Mathlib.Data.List.Sort
import OpenChoreo.Observer.Parse

/-!
# The log indices of a time range

`QueryBuilder.GenerateIndices` of the observer service turns the start and the end of a log query
into the daily OpenSearch indices to search: `prefix + current.Format("2006.01.02")` for the start
and for every day after it up to the end, and then the end's own index when the loop has not
listed it. An empty start or end searches every index.

The dates are wall-clock dates, each in the location of the time it is formatted from: the loop
keeps the start's location, the last index uses the end's. In a location whose offset changes, a
day on the wall clock is not 86400 seconds, and the loop can step over a day of the range. The
file provides

* `dailyIndices_eq`, the day loop in closed form in a location of one offset;
* `generateIndices_same_offset`, the result when both times share an offset that their locations
  keep: the indices of the local days from the start's to the end's;
* `generateIndices_covers_days`: when `Local` keeps one offset, those are, in increasing order
  and once each, exactly the local days that hold an instant of the range.
-/

namespace OpenChoreo
namespace Observer

/-- The `QueryBuilder` of the observer service: the prefix of its index names. -/
structure QueryBuilder where
  indexPrefix : String

/-- Go's `contains`: whether the slice holds the item, scanning from the front. -/
def contains : List String → String → Bool
  | [], _ => false
  | s :: slice, item => if s = item then true else contains slice item

theorem contains_iff (slice : List String) (item : String) :
    contains slice item = true ↔ item ∈ slice := by
  induction slice with
  | nil => simp [contains]
  | cons s slice ih =>
    by_cases h : s = item
    · simp [contains, h]
    · simp [contains, h, ih, Ne.symm h]

/-- The loop of `GenerateIndices`: while `current` is before or equal to `endAt`, the index of
`current`'s date, then `current.AddDate(0, 0, 1)`. -/
def dailyIndices (localLoc : Location) (qb : QueryBuilder) (endAt current : Time) : List String :=
  if current.before endAt || current.equal endAt then
    (qb.indexPrefix ++ current.formatDate localLoc) ::
      dailyIndices localLoc qb endAt (current.addDays localLoc 1)
  else []
termination_by (endAt.ns - current.ns + nsPerDay).toNat
decreasing_by
  have := current.addDays_one_later localLoc
  simp only [Time.before, Time.equal, Bool.or_eq_true, decide_eq_true_eq] at *
  simp only [nsPerDay]
  omega

theorem dailyIndices_of_le (localLoc : Location) (qb : QueryBuilder) (endAt current : Time)
    (h : current.ns ≤ endAt.ns) :
    dailyIndices localLoc qb endAt current = (qb.indexPrefix ++ current.formatDate localLoc) ::
      dailyIndices localLoc qb endAt (current.addDays localLoc 1) := by
  rw [dailyIndices, if_pos]
  simp only [Time.before, Time.equal, Bool.or_eq_true, decide_eq_true_eq]
  omega

theorem dailyIndices_of_lt (localLoc : Location) (qb : QueryBuilder) (endAt current : Time)
    (h : endAt.ns < current.ns) : dailyIndices localLoc qb endAt current = [] := by
  rw [dailyIndices, if_neg]
  simp only [Time.before, Time.equal, Bool.or_eq_true, decide_eq_true_eq, not_or]
  omega

/-- `QueryBuilder.GenerateIndices(startTime, endTime)`, `Local` being `localLoc`. -/
def generateIndices (localLoc : Location) (qb : QueryBuilder) (startTime endTime : String) :
    Except String (List String) :=
  if startTime = "" ∨ endTime = "" then .ok [qb.indexPrefix ++ "*"]
  else
    match timeParse localLoc startTime with
    | .error err => .error ("invalid start time format: " ++ err.error)
    | .ok start =>
      match timeParse localLoc endTime with
      | .error err => .error ("invalid end time format: " ++ err.error)
      | .ok endAt =>
        let indices := dailyIndices localLoc qb endAt start
        let endIndexName := qb.indexPrefix ++ endAt.formatDate localLoc
        if !contains indices endIndexName then .ok (indices ++ [endIndexName]) else .ok indices

/-! ## Runs of days -/

/-- The `n` days from day `a` on. -/
def dayRange (a : Int) : Nat → List Int
  | 0 => []
  | n + 1 => a :: dayRange (a + 1) n

theorem mem_dayRange {a d : Int} {n : Nat} : d ∈ dayRange a n ↔ a ≤ d ∧ d < a + n := by
  induction n generalizing a with
  | zero => simp [dayRange]
  | succ n ih =>
    simp only [dayRange, List.mem_cons, ih]
    omega

theorem dayRange_succ_right (a : Int) (n : Nat) : dayRange a (n + 1) = dayRange a n ++ [a + n] := by
  induction n generalizing a with
  | zero => simp [dayRange]
  | succ n ih =>
    rw [dayRange, ih, dayRange, List.cons_append,
      show a + 1 + (n : Int) = a + ((n + 1 : Nat) : Int) by omega]

theorem dayRange_sorted (a : Int) (n : Nat) : (dayRange a n).Sorted (· < ·) := by
  induction n generalizing a with
  | zero => exact List.sorted_nil
  | succ n ih =>
    refine List.sorted_cons.2 ⟨fun b hb => ?_, ih (a + 1)⟩
    have := mem_dayRange.1 hb
    omega

/-- The number of turns of the day loop from `s` to `e`. -/
def dayCount (s e : Int) : Nat := ((e - s) / nsPerDay + 1).toNat

/-- In a location of one offset, the day loop indexes the `dayCount` local days from the
start's. -/
theorem dailyIndices_eq (localLoc : Location) (qb : QueryBuilder) (endAt current : Time)
    {offset : Int} (h : (current.zone.location localLoc).OneOffset offset) :
    dailyIndices localLoc qb endAt current =
      (dayRange (localDay offset current.ns) (dayCount current.ns endAt.ns)).map
        fun d => qb.indexPrefix ++ dateText d := by
  induction current using dailyIndices.induct localLoc qb endAt with
  | case1 current hle ih =>
    simp only [Time.before, Time.equal, Bool.or_eq_true, decide_eq_true_eq] at hle
    have hc : dayCount current.ns endAt.ns = dayCount (current.ns + 1 * nsPerDay) endAt.ns + 1 := by
      simp only [dayCount, nsPerDay]
      omega
    have hnext := ih h
    rw [Time.addDays_of_oneOffset h] at hnext
    rw [dailyIndices_of_le _ _ _ _ (by omega), Time.addDays_of_oneOffset h, hnext, hc, dayRange,
      List.map_cons, localDay_add_days, Time.formatDate, Time.offset_of_oneOffset h]
  | case2 current hgt =>
    simp only [Time.before, Time.equal, Bool.or_eq_true, decide_eq_true_eq, not_or] at hgt
    have hc : dayCount current.ns endAt.ns = 0 := by
      simp only [dayCount, nsPerDay]
      omega
    rw [dailyIndices_of_lt _ _ _ _ (by omega), hc]
    rfl

/-! ## Times that share an offset -/

theorem indexName_inj {qb : QueryBuilder} {x y : String}
    (h : qb.indexPrefix ++ x = qb.indexPrefix ++ y) : x = y :=
  String.ext <| List.append_cancel_left <| by
    simpa only [String.data_append] using congrArg String.data h

theorem timeParse_empty (localLoc : Location) :
    timeParse localLoc "" = .error ⟨"", "2006", "", ""⟩ :=
  rfl

/-- For two times of one offset that the start's location keeps, `GenerateIndices` lists the
indices of the local days from the start's to the end's. -/
theorem generateIndices_same_offset (localLoc : Location) (qb : QueryBuilder)
    {startTime endTime : String} {startAt endAt : Time}
    (hs : timeParse localLoc startTime = .ok startAt) (he : timeParse localLoc endTime = .ok endAt)
    (hle : startAt.ns ≤ endAt.ns) (hoff : startAt.offset localLoc = endAt.offset localLoc)
    (hkeep : (startAt.zone.location localLoc).OneOffset (startAt.offset localLoc)) :
    generateIndices localLoc qb startTime endTime =
      .ok ((dayRange (localDay (startAt.offset localLoc) startAt.ns)
        (localDay (startAt.offset localLoc) endAt.ns -
          localDay (startAt.offset localLoc) startAt.ns + 1).toNat).map
          fun d => qb.indexPrefix ++ dateText d) := by
  have hne : ¬(startTime = "" ∨ endTime = "") := by
    rintro (rfl | rfl) <;> simp only [timeParse_empty, reduceCtorEq] at hs he
  obtain ⟨ha₁, -⟩ := (timeParse_ok hs).localDay_mem
  obtain ⟨hb₁, hb₂⟩ := (timeParse_ok he).localDay_mem
  have hn : 1 ≤ dayCount startAt.ns endAt.ns ∧
      localDay (startAt.offset localLoc) startAt.ns + dayCount startAt.ns endAt.ns - 1 ≤
        localDay (startAt.offset localLoc) endAt.ns ∧
      localDay (startAt.offset localLoc) endAt.ns ≤
        localDay (startAt.offset localLoc) startAt.ns + dayCount startAt.ns endAt.ns := by
    simp only [localDay, dayCount, nsPerDay, nsPerSecond]
    omega
  simp only [generateIndices, if_neg hne, hs, he, dailyIndices_eq _ _ _ _ hkeep, Time.formatDate,
    ← hoff]
  rw [← hoff] at hb₁ hb₂
  generalize localDay (startAt.offset localLoc) startAt.ns = a at *
  generalize localDay (startAt.offset localLoc) endAt.ns = b at *
  generalize dayCount startAt.ns endAt.ns = n at *
  have hmem : contains ((dayRange a n).map fun d => qb.indexPrefix ++ dateText d)
      (qb.indexPrefix ++ dateText b) = true ↔ b < a + n := by
    rw [contains_iff, List.mem_map]
    constructor
    · rintro ⟨d, hd, h⟩
      have hd := mem_dayRange.1 hd
      have := dateText_inj ⟨by omega, by omega⟩ ⟨hb₁, hb₂⟩ (indexName_inj h)
      omega
    · exact fun h => ⟨b, mem_dayRange.2 ⟨by omega, h⟩, rfl⟩
  by_cases hb : b < a + n
  · simp only [hmem.2 hb, Bool.not_true, Bool.false_eq_true, if_false]
    rw [show (b - a + 1).toNat = n by omega]
  · simp only [Bool.eq_false_iff.2 (mt hmem.1 hb), Bool.not_false, if_true]
    rw [show (b - a + 1).toNat = n + 1 by omega, dayRange_succ_right, List.map_append,
      List.map_singleton, show a + n = b by omega]

/-- The local days that hold an instant of `[s, e]` are those from `s`'s to `e`'s. -/
theorem exists_localDay_iff {s e : Int} (offset d : Int) (hle : s ≤ e) :
    (∃ x, s ≤ x ∧ x ≤ e ∧ localDay offset x = d) ↔ localDay offset s ≤ d ∧ d ≤ localDay offset e := by
  constructor
  · rintro ⟨x, h₁, h₂, rfl⟩
    simp only [localDay, nsPerDay, nsPerSecond]
    omega
  · rintro ⟨h₁, h₂⟩
    simp only [localDay, nsPerDay, nsPerSecond] at *
    by_cases hd : d * 86400000000000 - offset * 1000000000 ≤ s
    · exact ⟨s, Int.le_refl s, by omega, by omega⟩
    · exact ⟨d * 86400000000000 - offset * 1000000000, by omega, by omega, by omega⟩

/-- For RFC 3339 times `start ≤ end` of one offset, while `Local` keeps one offset,
`GenerateIndices` lists, in increasing date order and once each, the index of every day of that
offset's calendar that holds an instant of `[start, end]`, and no other. -/
theorem generateIndices_covers_days (localLoc : Location) {c : Int} (hlocal : localLoc.OneOffset c)
    (qb : QueryBuilder) {startTime endTime : String} {startAt endAt : Time}
    (hs : timeParse localLoc startTime = .ok startAt) (he : timeParse localLoc endTime = .ok endAt)
    (hle : startAt.ns ≤ endAt.ns) (hoff : startAt.offset localLoc = endAt.offset localLoc) :
    ∃ days : List Int,
      generateIndices localLoc qb startTime endTime =
        .ok (days.map fun d => qb.indexPrefix ++ dateText d) ∧
      days.Sorted (· < ·) ∧ (days.map fun d => qb.indexPrefix ++ dateText d).Nodup ∧
      ∀ d, d ∈ days ↔
        ∃ x, startAt.ns ≤ x ∧ x ≤ endAt.ns ∧ localDay (startAt.offset localLoc) x = d := by
  obtain ⟨ha₁, -⟩ := (timeParse_ok hs).localDay_mem
  obtain ⟨-, hb₂⟩ := (timeParse_ok he).localDay_mem
  rw [← hoff] at hb₂
  have hmem (d : Int) : d ∈ dayRange (localDay (startAt.offset localLoc) startAt.ns)
      (localDay (startAt.offset localLoc) endAt.ns -
        localDay (startAt.offset localLoc) startAt.ns + 1).toNat ↔
      localDay (startAt.offset localLoc) startAt.ns ≤ d ∧
        d ≤ localDay (startAt.offset localLoc) endAt.ns := by
    rw [mem_dayRange]
    omega
  refine ⟨_, generateIndices_same_offset localLoc qb hs he hle hoff (hlocal.zone startAt),
    dayRange_sorted _ _, List.Nodup.map_on (fun d hd d' hd' h => ?_) (dayRange_sorted _ _).nodup,
    fun d => (hmem d).trans (exists_localDay_iff _ _ hle).symm⟩
  have hd := (hmem d).1 hd
  have hd' := (hmem d').1 hd'
  exact dateText_inj ⟨by omega, by omega⟩ ⟨by omega, by omega⟩ (indexName_inj h)

/-- Two times of one offset, at the end of January in `+05:30`, with `Local` in UTC: the days
from 30 January to 2 February. -/
theorem generateIndices_covers_days_month_end :
    utcLoc.OneOffset 0 ∧
    timeParse utcLoc "2024-01-30T22:00:00+05:30" = .ok ⟨1706632200000000000, .fixed 19800⟩ ∧
    timeParse utcLoc "2024-02-02T01:00:00+05:30" = .ok ⟨1706815800000000000, .fixed 19800⟩ ∧
    ∃ days : List Int,
      generateIndices utcLoc ⟨"logs-"⟩ "2024-01-30T22:00:00+05:30" "2024-02-02T01:00:00+05:30" =
        .ok (days.map fun d => "logs-" ++ dateText d) ∧
      days.Sorted (· < ·) ∧ (days.map fun d => "logs-" ++ dateText d).Nodup ∧
      ∀ d, d ∈ days ↔
        ∃ x, 1706632200000000000 ≤ x ∧ x ≤ 1706815800000000000 ∧ localDay 19800 x = d := by
  have hs : timeParse utcLoc "2024-01-30T22:00:00+05:30" =
      .ok ⟨1706632200000000000, .fixed 19800⟩ :=
    rfl
  have he : timeParse utcLoc "2024-02-02T01:00:00+05:30" =
      .ok ⟨1706815800000000000, .fixed 19800⟩ :=
    rfl
  exact ⟨fixedZone_oneOffset 0, hs, he,
    generateIndices_covers_days utcLoc (fixedZone_oneOffset 0) ⟨"logs-"⟩ hs he (by decide) rfl⟩

/-- A `Local` that keeps Eastern Standard Time, `-05:00`, but for the summer time of 2024,
`-04:00`, from 10 March 07:00 UTC to 3 November 06:00 UTC, as `America/New_York` had it. -/
def easternTime2024 : Location :=
  .ofOffsets
    (fun sec =>
      if sec < 1710054000 then ⟨-18000, alpha, 1710054000⟩
      else if sec < 1730613600 then ⟨-14400, 1710054000, 1730613600⟩
      else ⟨-18000, 1730613600, omega⟩)
    (-18000) (-14400) (fun sec => by dsimp only; split_ifs <;> decide) (by decide)

/-- `GenerateIndices` lists other days than the range's. With `Local` in UTC and times of
different offsets, an instant of 1 January 10:30 UTC written in `+14:00` and one of 12:00 UTC
that day written in `-12:00`: the loop indexes the start's date in its zone, 2 January, and the
end's index, 1 January in its zone, comes after it. With `Local` in Eastern time and both times
written in `-04:00`, from 2 November 23:30 to 4 November 00:15: the start is in `Local`, whose
day from 2 to 3 November lasts 25 hours, so the loop passes the end after one turn; the end,
whose `-04:00` is no longer `Local`'s, is in a `FixedZone`, and 3 November is never listed. -/
theorem generateIndices_lists_other_days :
    timeParse utcLoc "2024-01-02T00:30:00+14:00" = .ok ⟨1704105000000000000, .fixed 50400⟩ ∧
    timeParse utcLoc "2024-01-01T00:00:00-12:00" = .ok ⟨1704110400000000000, .fixed (-43200)⟩ ∧
    dateText (localDay 0 1704105000000000000) = "2024.01.01" ∧
    dateText (localDay 0 1704110400000000000) = "2024.01.01" ∧
    generateIndices utcLoc ⟨"logs-"⟩ "2024-01-02T00:30:00+14:00" "2024-01-01T00:00:00-12:00" =
      .ok ["logs-2024.01.02", "logs-2024.01.01"] ∧
    timeParse easternTime2024 "2024-11-02T23:30:00-04:00" = .ok ⟨1730604600000000000, .local⟩ ∧
    timeParse easternTime2024 "2024-11-04T00:15:00-04:00" =
      .ok ⟨1730693700000000000, .fixed (-14400)⟩ ∧
    1730604600000000000 ≤ 1730649600000000000 ∧ 1730649600000000000 ≤ 1730693700000000000 ∧
    dateText (localDay (-14400) 1730649600000000000) = "2024.11.03" ∧
    dateText (localDay 0 1730649600000000000) = "2024.11.03" ∧
    generateIndices easternTime2024 ⟨"logs-"⟩ "2024-11-02T23:30:00-04:00"
      "2024-11-04T00:15:00-04:00" = .ok ["logs-2024.11.02", "logs-2024.11.04"] := by
  have hs : timeParse utcLoc "2024-01-02T00:30:00+14:00" =
      .ok ⟨1704105000000000000, .fixed 50400⟩ :=
    rfl
  have he : timeParse utcLoc "2024-01-01T00:00:00-12:00" =
      .ok ⟨1704110400000000000, .fixed (-43200)⟩ :=
    rfl
  have hs' : timeParse easternTime2024 "2024-11-02T23:30:00-04:00" =
      .ok ⟨1730604600000000000, .local⟩ :=
    rfl
  have he' : timeParse easternTime2024 "2024-11-04T00:15:00-04:00" =
      .ok ⟨1730693700000000000, .fixed (-14400)⟩ :=
    rfl
  refine ⟨hs, he, by decide, by decide, ?_, hs', he', by decide, by decide, by decide, by decide,
    ?_⟩
  all_goals
    rw [generateIndices, if_neg (by decide)]
    simp only [hs, he, hs', he']
    rw [dailyIndices_of_le, dailyIndices_of_lt]
    · rfl
    · decide
    · decide

end Observer
end OpenChoreo
