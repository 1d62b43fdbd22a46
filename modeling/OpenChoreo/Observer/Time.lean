import OpenChoreo.Observer.Calendar

/-!
# Times and locations

The part of Go's `time` package that `GenerateIndices` steps through: a `time.Time` is an instant
and a location, `Before` and `Equal` compare instants, `AddDate(0, 0, 1)` moves the wall clock a
day on, and `Format("2006.01.02")` prints the date of the wall clock.

A location is known by its zone lookups: `lookup` tells, for a second, the offset of the zone in
effect and the seconds over which that zone holds. `UTC` and a `FixedZone` have one zone for all
time; `Local`, the process's zone, is a parameter of everything here, and may change its offset,
as a zone with daylight-saving time does. `AddDate` rebuilds the time with `Date`, which finds the
offset for a wall-clock time with two lookups; across a change of offset a day on the wall clock
is then not 86400 seconds.

The file provides

* `Time.addDays_one_later`: adding a day moves a time forward, so the day loop ends;
* `Time.addDays_of_oneOffset`: in a location of one offset, adding days adds whole days of
  nanoseconds and keeps the wall-clock day in step.
-/

namespace OpenChoreo
namespace Observer

/-! ## Locations -/

/-- What `Location.lookup` reports of the zone in effect at a second: its offset east of UTC in
seconds, and the seconds `[zoneStart, zoneEnd)` over which that zone holds. -/
structure ZoneSpan where
  offset : Int
  zoneStart : Int
  zoneEnd : Int
  deriving DecidableEq, Repr

/-- Go's `alpha`, the earliest second a zone can start at. -/
def alpha : Int := -9223372036854775808

/-- Go's `omega`, the latest second a zone can end at. -/
def omega : Int := 9223372036854775807

/-- What `lookup` reports in a location with one zone for all time. -/
def fixedSpan (offset : Int) : ZoneSpan := ⟨offset, alpha, omega⟩

/-- The Unix seconds of a wall-clock time in a location, as the end of Go's `Date` finds them;
`wall` is the wall-clock time counted as if it were UTC. `Date` looks up the zone in effect at
`wall`, hoping it is not too close to a zone transition, and when the instant that zone's offset
gives falls outside the zone, it takes the offset in effect at that instant instead. -/
def dateSec (lookup : Int → ZoneSpan) (wall : Int) : Int :=
  let z := lookup wall
  if z.offset ≠ 0 then
    let utc := wall - z.offset
    if utc < z.zoneStart ∨ z.zoneEnd ≤ utc then wall - (lookup utc).offset else utc
  else wall

/-- In a zone that keeps one offset, `Date` subtracts that offset. -/
theorem dateSec_of_offset_eq {lookup : Int → ZoneSpan} {offset : Int}
    (h : ∀ sec, (lookup sec).offset = offset) (wall : Int) :
    dateSec lookup wall = wall - offset := by
  simp only [dateSec, h]
  split_ifs <;> omega

/-- A `time.Location`, known by its zone lookups. `GenerateIndices` steps a time with
`AddDate(0, 0, 1)` until it passes the end, which ends only if each step moves the time forward;
in a location whose clocks skip a whole day, `Date` can send a time back to its own instant. A
location here carries the proof that a day added to the wall clock of any second lands later. -/
structure Location where
  lookup : Int → ZoneSpan
  addDay_later : ∀ sec, sec < dateSec lookup (sec + (lookup sec).offset + 86400)

/-- A location whose zone keeps one offset at all times. -/
def Location.OneOffset (loc : Location) (offset : Int) : Prop :=
  ∀ sec, (loc.lookup sec).offset = offset

/-- `Date` moves a wall-clock time back by at most the largest offset of the location. -/
theorem wall_sub_le_dateSec {lookup : Int → ZoneSpan} {hi : Int}
    (h : ∀ sec, (lookup sec).offset ≤ hi) (wall : Int) : wall - hi ≤ dateSec lookup wall := by
  have h₁ := h wall
  have h₂ := h (wall - (lookup wall).offset)
  simp only [dateSec]
  split_ifs <;> omega

/-- The location of zone lookups whose offsets all lie within less than a day of each other:
every day added on the wall clock then lands later. -/
def Location.ofOffsets (lookup : Int → ZoneSpan) (lo hi : Int)
    (h : ∀ sec, lo ≤ (lookup sec).offset ∧ (lookup sec).offset ≤ hi) (hspread : hi - lo < 86400) :
    Location where
  lookup := lookup
  addDay_later sec := by
    have := wall_sub_le_dateSec (fun s => (h s).2) (sec + (lookup sec).offset + 86400)
    have := (h sec).1
    omega

/-- `FixedZone("", offset)`: one zone of the given offset for all time. -/
def fixedZone (offset : Int) : Location :=
  .ofOffsets (fun _ => fixedSpan offset) offset offset (fun _ => ⟨Int.le_refl _, Int.le_refl _⟩)
    (by omega)

/-- `UTC`: Go's `lookup` reports offset 0 for all time. -/
def utcLoc : Location := fixedZone 0

theorem fixedZone_oneOffset (offset : Int) : (fixedZone offset).OneOffset offset :=
  fun _ => rfl

/-! ## Times -/

/-- The location of a `time.Time`: `UTC`, `Local`, or a `FixedZone` of an offset. -/
inductive Zone
  | utc
  | «local»
  | fixed (offset : Int)
  deriving DecidableEq, Repr

/-- The location a zone stands for, `Local` being `localLoc`. -/
def Zone.location (localLoc : Location) : Zone → Location
  | .utc => utcLoc
  | .local => localLoc
  | .fixed offset => fixedZone offset

/-- A `time.Time`: the instant in nanoseconds since the Unix epoch, and its location. -/
structure Time where
  ns : Int
  zone : Zone
  deriving DecidableEq, Repr

/-- `t.unixSec()`: the whole seconds of the instant. -/
def Time.sec (t : Time) : Int := t.ns / nsPerSecond

/-- The offset of the zone in effect at the time's instant in its location, which `Date`,
`Clock` and `Format` read the wall clock with. -/
def Time.offset (localLoc : Location) (t : Time) : Int :=
  ((t.zone.location localLoc).lookup t.sec).offset

/-- `t.Before(u)`. -/
def Time.before (t u : Time) : Bool := t.ns < u.ns

/-- `t.Equal(u)`. -/
def Time.equal (t u : Time) : Bool := t.ns = u.ns

/-- `t.AddDate(0, 0, days)`: the date and the clock of `t` in its location, with `days` added to
the day of the month, built again with `Date` in the same location, nanoseconds kept. `Date`
carries a day past the month's last into the next month, so the wall clock moves by exactly
`days` days. -/
def Time.addDays (localLoc : Location) (t : Time) (days : Int) : Time :=
  ⟨dateSec (t.zone.location localLoc).lookup (t.sec + t.offset localLoc + days * 86400) *
    nsPerSecond + t.ns % nsPerSecond, t.zone⟩

/-- `t.Format("2006.01.02")`: the wall-clock date of the time in its location. -/
def Time.formatDate (localLoc : Location) (t : Time) : String :=
  dateText (localDay (t.offset localLoc) t.ns)

@[simp] theorem Time.offset_utc (localLoc : Location) (ns : Int) :
    (⟨ns, .utc⟩ : Time).offset localLoc = 0 :=
  rfl

@[simp] theorem Time.addDays_zone (localLoc : Location) (t : Time) (days : Int) :
    (t.addDays localLoc days).zone = t.zone :=
  rfl

/-- Adding a day moves a time forward: the day loop of `GenerateIndices` ends. -/
theorem Time.addDays_one_later (localLoc : Location) (t : Time) :
    t.ns < (t.addDays localLoc 1).ns := by
  have h := (t.zone.location localLoc).addDay_later t.sec
  have hns := Int.ediv_add_emod t.ns nsPerSecond
  simp only [Time.addDays, Time.offset, Time.sec, nsPerSecond, Int.one_mul] at h hns ⊢
  omega

/-- In a location of one offset, adding days adds whole days of nanoseconds. -/
theorem Time.addDays_of_oneOffset {localLoc : Location} {t : Time} {offset : Int}
    (h : (t.zone.location localLoc).OneOffset offset) (days : Int) :
    t.addDays localLoc days = ⟨t.ns + days * nsPerDay, t.zone⟩ := by
  have h' : ∀ sec, ((t.zone.location localLoc).lookup sec).offset = offset := h
  have hns := Int.ediv_add_emod t.ns nsPerSecond
  simp only [Time.addDays, Time.offset, dateSec_of_offset_eq h', h', Time.sec, nsPerSecond,
    nsPerDay] at hns ⊢
  congr 1
  omega

theorem Time.offset_of_oneOffset {localLoc : Location} {t : Time} {offset : Int}
    (h : (t.zone.location localLoc).OneOffset offset) : t.offset localLoc = offset :=
  h t.sec

/-- When `Local` keeps one offset, so does the location of every time. -/
theorem Location.OneOffset.zone {localLoc : Location} {c : Int} (h : localLoc.OneOffset c)
    (t : Time) : (t.zone.location localLoc).OneOffset (t.offset localLoc) := by
  unfold Time.offset
  cases t.zone with
  | utc => exact fixedZone_oneOffset 0
  | «local» => exact fun sec => (h sec).trans (h t.sec).symm
  | fixed offset => exact fixedZone_oneOffset offset

end Observer
end OpenChoreo
