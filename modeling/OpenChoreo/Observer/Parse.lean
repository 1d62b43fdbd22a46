import OpenChoreo.GoMap
import OpenChoreo.Observer.Time

/-!
# `time.Parse(time.RFC3339, value)`

`time.Parse` with the `RFC3339` layout first tries `parseRFC3339`, a strict parser of that
layout. When it fails, Go runs its general layout parser `parse` on `2006-01-02T15:04:05Z07:00`,
which accepts a few more spellings (an hour of one digit, a comma before the fraction of a second,
a zone offset of hour 24 or minute 60) and writes the error for what neither accepts: which
element of the value could not be read as which element of the layout, or which field is out of
range. Both parsers put a time written with `Z` in `UTC`, and one written with a numeric offset in
`Local` when `Local`'s zone has that offset at that instant, and in a `FixedZone` of the offset
otherwise.

The file provides

* `parseChunks_valid`: every element that `parse` reads keeps its fields in range, and so does
  the whole run over the layout;
* `timeParse_ok`: a parsed time, by either parser, is the instant that a wall-clock time of years
  0 to 9999 names in the time's own location, and `WallClockTime.localDay_mem`: it lies on that
  day.
-/

namespace OpenChoreo
namespace Observer

/-! ## Digits -/

/-- A `'0'`–`'9'` byte stands for its digit. -/
theorem digit_lt {c : Char} (h : c.isDigit) : c.toNat - 48 < 10 := by
  simp only [Char.isDigit, Bool.and_eq_true, decide_eq_true_eq] at h
  have h₂ : c.val.toNat ≤ 57 := h.2
  show c.val.toNat - 48 < 10
  omega

/-- The value of decimal digits, read most significant first: Go's `x = x*10 + int(c) - '0'`. -/
def digitsValue (s : List Char) : Nat :=
  s.foldl (fun x c => x * 10 + (c.toNat - 48)) 0

theorem foldl_digits_lt (s : List Char) (hs : s.all Char.isDigit) (acc : Nat) :
    s.foldl (fun x c => x * 10 + (c.toNat - 48)) acc < (acc + 1) * Nat.pow 10 s.length := by
  induction s generalizing acc with
  | nil => simp
  | cons c s ih =>
    simp only [List.all_cons, Bool.and_eq_true] at hs
    have hd := digit_lt hs.1
    calc _ < (acc * 10 + (c.toNat - 48) + 1) * Nat.pow 10 s.length := ih hs.2 _
      _ ≤ (acc + 1) * (10 * Nat.pow 10 s.length) := by
        rw [← Nat.mul_assoc]
        exact Nat.mul_le_mul_right _ (by omega)
      _ = (acc + 1) * Nat.pow 10 (c :: s).length := by rw [Nat.mul_comm 10]; rfl

/-- The `parseUint` closure of `parseRFC3339`: the value of the digits when every byte is a digit
and the value lies in `[min, max]`, and `none` where Go clears `ok`. -/
def parseUint (s : List Char) (min max : Nat) : Option Nat :=
  if s.all Char.isDigit ∧ min ≤ digitsValue s ∧ digitsValue s ≤ max then some (digitsValue s)
  else none

theorem parseUint_eq_some {s : List Char} {min max x : Nat} (h : parseUint s min max = some x) :
    min ≤ x ∧ x ≤ max := by
  unfold parseUint at h
  split_ifs at h with hs
  cases h
  exact hs.2

/-- Go's `parseNanoseconds` on the digits after a `.`: at most nine of them are read (`nbytes` is
cut to 10, the `.` included), and `ns *= 10` scales the value to nanoseconds. -/
def parseNanoseconds (digits : List Char) : Nat :=
  let digits := digits.take 9
  Nat.repeat (· * 10) (9 - digits.length) (digitsValue digits)

theorem repeat_times_ten_lt {x m : Nat} (h : x < Nat.pow 10 m) :
    ∀ k, Nat.repeat (· * 10) k x < Nat.pow 10 (m + k)
  | 0 => h
  | k + 1 => by
    have := repeat_times_ten_lt h k
    show Nat.repeat (· * 10) k x * 10 < Nat.pow 10 (m + k) * 10
    omega

theorem parseNanoseconds_lt {digits : List Char} (h : digits.all Char.isDigit) :
    parseNanoseconds digits < 1000000000 := by
  have hs : (digits.take 9).all Char.isDigit := by
    simp only [List.all_eq_true] at h ⊢
    exact fun c hc => h c (List.mem_of_mem_take hc)
  have hv := foldl_digits_lt _ hs 0
  rw [Nat.zero_add, Nat.one_mul] at hv
  have hl : (digits.take 9).length + (9 - (digits.take 9).length) = 9 := by
    simp only [List.length_take]
    omega
  have := repeat_times_ten_lt hv (9 - (digits.take 9).length)
  rw [hl] at this
  exact this

theorem digitsValue_lt {s : List Char} (hs : s.all Char.isDigit) :
    digitsValue s < Nat.pow 10 s.length := by
  simpa using foldl_digits_lt s hs 0

/-- The fraction of a second after the seconds: when a separator and a digit follow, the run of
digits is read as nanoseconds. `parseRFC3339` takes only a `.` as the separator, and `parse` a `.`
or a `,` (`commaOrPeriod`). Returns the nanoseconds and the text after them. -/
def parseFraction (commaOk : Bool) : List Char → Nat × List Char
  | c :: d :: rest =>
    if (c = '.' ∨ commaOk ∧ c = ',') ∧ d.isDigit then
      (parseNanoseconds ((d :: rest).takeWhile Char.isDigit), (d :: rest).dropWhile Char.isDigit)
    else (0, c :: d :: rest)
  | s => (0, s)

theorem parseFraction_lt (commaOk : Bool) (s : List Char) :
    (parseFraction commaOk s).1 < 1000000000 := by
  unfold parseFraction
  split
  · split
    · exact parseNanoseconds_lt List.all_takeWhile
    · exact Nat.zero_lt_succ _
  · exact Nat.zero_lt_succ _

/-! ## The instant of a wall-clock time -/

/-- The instant `Date(year, month, day, hour, min, sec, nsec, UTC)` names, in nanoseconds. -/
def wallNanos (year month day hour min sec nsec : Int) : Int :=
  (daysFromCivil year month day * 86400 + hour * 3600 + min * 60 + sec) * nsPerSecond + nsec

/-- Where both parsers put a time read with a numeric offset: in `Local` when `Local`'s zone at
that instant has the offset, and in a `FixedZone` of the offset otherwise. -/
def inZone (localLoc : Location) (ns offset : Int) : Time :=
  if (localLoc.lookup (ns / nsPerSecond)).offset = offset then ⟨ns, .local⟩ else ⟨ns, .fixed offset⟩

@[simp] theorem inZone_ns (localLoc : Location) (ns offset : Int) :
    (inZone localLoc ns offset).ns = ns := by
  unfold inZone
  split_ifs <;> rfl

@[simp] theorem inZone_offset (localLoc : Location) (ns offset : Int) :
    (inZone localLoc ns offset).offset localLoc = offset := by
  unfold inZone
  split_ifs with h
  · exact h
  · rfl

/-- A time that is the instant a wall-clock time of years 0 to 9999 names in the time's own
location: what either parser returns. -/
def WallClockTime (localLoc : Location) (t : Time) : Prop :=
  ∃ year month day hour minute sec nsec : Int,
    0 ≤ year ∧ year ≤ 9999 ∧ 1 ≤ month ∧ month ≤ 12 ∧ 1 ≤ day ∧ day ≤ daysIn month.toNat year ∧
    0 ≤ hour ∧ hour ≤ 23 ∧ 0 ≤ minute ∧ minute ≤ 59 ∧ 0 ≤ sec ∧ sec ≤ 59 ∧ 0 ≤ nsec ∧
    nsec < 1000000000 ∧
    t.ns = wallNanos year month day hour minute sec nsec - t.offset localLoc * nsPerSecond

/-- The wall-clock day of such a time in its location is the day it was written with, a day of
years 0 to 9999. -/
theorem WallClockTime.localDay_mem {localLoc : Location} {t : Time} (h : WallClockTime localLoc t) :
    firstDay ≤ localDay (t.offset localLoc) t.ns ∧ localDay (t.offset localLoc) t.ns ≤ lastDay := by
  obtain ⟨year, month, day, hour, minute, sec, nsec, hy₀, hy, hm₁, hm₂, hd₁, hd₂, hh₀, hh, hmi₀,
    hmi, hs₀, hs, hn₀, hn, ht⟩ := h
  have hday := @daysFromCivil_mem year month day ⟨hy₀, hy⟩ ⟨hm₁, hm₂⟩
    ⟨hd₁, by have := daysIn_le month.toNat year; omega⟩
  have : localDay (t.offset localLoc) t.ns = daysFromCivil year month day := by
    simp only [localDay, ht, wallNanos, nsPerSecond, nsPerDay]
    omega
  rw [this]
  exact hday

/-! ## `parseRFC3339` -/

/-- The zone of an RFC 3339 time: `Z` (`none`), or `±hh:mm` with the hour at most 23 and the
minute at most 59, as the offset east of UTC in seconds. -/
def parseZone : List Char → Option (Option Int)
  | ['Z'] => some none
  | [sign, h₁, h₂, ':', m₁, m₂] => do
    let hr ← parseUint [h₁, h₂] 0 23
    let mm ← parseUint [m₁, m₂] 0 59
    if sign = '-' then some (some (-(((hr * 60 + mm) * 60 : Nat) : Int)))
    else if sign = '+' then some (some ((hr * 60 + mm) * 60 : Nat))
    else none
  | _ => none

/-- Go's `parseRFC3339`: the date and the time of day at fixed positions, each field checked
against its range, then an optional fraction of a second and the zone. -/
def parseRFC3339 (localLoc : Location) (value : String) : Option Time :=
  let s := value.toList
  if s.length < 19 then none else do
    let year ← parseUint (s.take 4) 0 9999
    let month ← parseUint ((s.drop 5).take 2) 1 12
    let day ← parseUint ((s.drop 8).take 2) 1 (daysIn month year)
    let hour ← parseUint ((s.drop 11).take 2) 0 23
    let min ← parseUint ((s.drop 14).take 2) 0 59
    let sec ← parseUint ((s.drop 17).take 2) 0 59
    if (s.get? 4 == some '-' && s.get? 7 == some '-' && s.get? 10 == some 'T' &&
        s.get? 13 == some ':' && s.get? 16 == some ':') = true then
      let (nsec, rest) := parseFraction false (s.drop 19)
      let t := wallNanos year month day hour min sec nsec
      match parseZone rest with
      | some none => some ⟨t, .utc⟩
      | some (some offset) => some (inZone localLoc (t - offset * nsPerSecond) offset)
      | none => none
    else none

theorem parseRFC3339_ok {localLoc : Location} {value : String} {t : Time}
    (h : parseRFC3339 localLoc value = some t) : WallClockTime localLoc t := by
  unfold parseRFC3339 at h
  dsimp only at h
  split_ifs at h
  · simp only [Option.bind_eq_bind, Option.bind_eq_some] at h
    obtain ⟨year, hy, month, hm, day, hd, hour, hh, minute, hmi, sec, hs, h⟩ := h
    obtain ⟨-, hy⟩ := parseUint_eq_some hy
    obtain ⟨hm₁, hm₂⟩ := parseUint_eq_some hm
    obtain ⟨hd₁, hd₂⟩ := parseUint_eq_some hd
    obtain ⟨-, hh⟩ := parseUint_eq_some hh
    obtain ⟨-, hmi⟩ := parseUint_eq_some hmi
    obtain ⟨-, hs⟩ := parseUint_eq_some hs
    have hn := parseFraction_lt false (value.toList.drop 19)
    generalize parseFraction false _ = p at h hn
    obtain ⟨nsec, rest⟩ := p
    refine ⟨year, month, day, hour, minute, sec, nsec, by omega, by omega, by omega, by omega,
      by omega, by simpa using hd₂, by omega, by omega, by omega, by omega, by omega, by omega,
      by omega, by omega, ?_⟩
    dsimp only at h
    split at h
    · cases h
      simp
    · cases h
      simp
    · cases h
  · simp [Option.bind_eq_some] at h

/-! ## Error texts -/

/-- `\x` and the two lower-case hex digits of a byte. -/
def hexEscape (b : UInt8) : String :=
  String.mk ('\\' :: 'x' :: hexDigits 2 b.toNat)

/-- One character of `time.quote`: every byte of a character below a space or beyond ASCII as a
`\x` escape, a backslash before `"` and `\`, and any other character kept. -/
def quoteRune (c : Char) : String :=
  if 0x80 ≤ c.toNat ∨ c.toNat < 0x20 then String.join ((String.utf8EncodeChar c).map hexEscape)
  else if c = '"' ∨ c = '\\' then String.mk ['\\', c]
  else c.toString

/-- Go's `time.quote`: the text in double quotes, with `quoteRune`'s escapes. -/
def quote (s : String) : String :=
  "\"" ++ String.join (s.toList.map quoteRune) ++ "\""

/-- The layout `time.RFC3339`. -/
def rfc3339 : String := "2006-01-02T15:04:05Z07:00"

/-- Go's `ParseError` of the `RFC3339` layout: the value, the elements of the layout and of the
value where parsing stopped, and a message. -/
structure ParseError where
  value : String
  layoutElem : String
  valueElem : String
  message : String
  deriving DecidableEq, Repr

/-- `(*ParseError).Error()`: with no message, which element of the value could not be read as
which element of the layout; with one, the message after the value. -/
def ParseError.error (e : ParseError) : String :=
  if e.message = "" then
    "parsing time " ++ quote e.value ++ " as " ++ quote rfc3339 ++ ": cannot parse " ++
      quote e.valueElem ++ " as " ++ quote e.layoutElem
  else "parsing time " ++ quote e.value ++ e.message

/-! ## `parse` -/

/-- Go's `isDigit(s, i)`: whether the text has a digit at position `i`. -/
def isDigitAt (s : List Char) (i : Nat) : Bool :=
  match s.get? i with
  | some c => c.isDigit
  | none => false

/-- Go's `getnum`: the one or two leading digits of the text as a number, and the text after
them; `fixed` asks for two. -/
def getnum (s : List Char) (fixed : Bool) : Option (Nat × List Char) :=
  if !isDigitAt s 0 then none
  else if !isDigitAt s 1 then (if fixed then none else some (digitsValue (s.take 1), s.drop 1))
  else some (digitsValue (s.take 2), s.drop 2)

theorem getnum_lt {s : List Char} {fixed : Bool} {x : Nat} {r : List Char}
    (h : getnum s fixed = some (x, r)) : x < 100 := by
  rcases s with _ | ⟨c₁, _ | ⟨c₂, rest⟩⟩ <;>
    simp only [getnum, isDigitAt, List.get?, List.take, List.drop] at h <;>
    split_ifs at h <;> cases h <;>
    exact lt_of_lt_of_le (digitsValue_lt (by simp_all)) (by simp)

/-- Go's `skip`: the value after the layout's literal text, or, where they differ, the rest of
the value from there. (The layout `RFC3339` has no spaces, which `skip` treats apart.) -/
def skip : List Char → List Char → Except (List Char) (List Char)
  | value, [] => .ok value
  | [], _ :: _ => .error []
  | v :: value, c :: pre => if v = c then skip value pre else .error (v :: value)

/-- The elements of the layout `2006-01-02T15:04:05Z07:00`, by the names `nextStdChunk` gives
them. -/
inductive StdElem
  | longYear
  | zeroMonth
  | zeroDay
  | hour
  | zeroMinute
  | zeroSecond
  | iso8601ColonTZ
  deriving DecidableEq, Repr

/-- `time.RFC3339` as `nextStdChunk` cuts it: the literal text before each element, the element,
and the element's text in the layout. -/
def rfc3339Chunks : List (String × StdElem × String) :=
  [("", .longYear, "2006"), ("-", .zeroMonth, "01"), ("-", .zeroDay, "02"), ("T", .hour, "15"),
    (":", .zeroMinute, "04"), (":", .zeroSecond, "05"), ("", .iso8601ColonTZ, "Z07:00")]

/-- The values `parse` has read so far, Go's locals of the same names: `utc` is whether `z` has
been set to `UTC`, and `zoneOffset` stays `-1` until an offset is read. -/
structure ParsedFields where
  year : Int
  month : Int
  day : Int
  hour : Int
  min : Int
  sec : Int
  nsec : Nat
  utc : Bool
  zoneOffset : Int
  deriving DecidableEq, Repr

/-- The locals before the first element. -/
def ParsedFields.initial : ParsedFields := ⟨0, -1, -1, 0, 0, 0, 0, false, -1⟩

/-- Why an element could not be read: Go's `errBad` (or `errAtoi`), or a value out of range,
with `rangeErrString` and the text after the element. -/
inductive ElemError
  | bad
  | outOfRange (what : String) (rest : List Char)
  deriving DecidableEq, Repr

/-- The offset element `Z07:00` past its `Z` case: the sign and `hh:mm` (the seconds are `00`),
read by `getnum` and then checked against the hours and the minutes that some people write, 24
and 60; the offset in seconds east of UTC. -/
def parseOffset (value : List Char) : Except ElemError Int :=
  if value.length < 6 ∨ value.get? 3 ≠ some ':' then .error .bad
  else
    let hr := getnum ((value.drop 1).take 2) true
    -- `mm` is only read when `hr` was, so it is `none` whenever either failed
    let mm := if hr.isSome then getnum ((value.drop 4).take 2) true else none
    let h := (hr.map Prod.fst).getD 0
    let m := (mm.map Prod.fst).getD 0
    if 60 < m then .error (.outOfRange "time zone offset minute" (value.drop 6))
    else if 24 < h then .error (.outOfRange "time zone offset hour" (value.drop 6))
    else if mm.isNone then .error .bad
    else match value.head? with
      | some '+' => .ok ((h * 60 + m) * 60 : Nat)
      | some '-' => .ok (-((h * 60 + m) * 60 : Nat))
      | _ => .error .bad

/-- One case of the switch in `parse`: the element read from the front of the value, the locals
with its value, and the text after it. -/
def parseElem (f : ParsedFields) (value : List Char) :
    StdElem → Except ElemError (ParsedFields × List Char)
  | .longYear =>
    -- `atoi` of four bytes that start with a digit succeeds when all four are digits
    if value.length < 4 ∨ !isDigitAt value 0 then .error .bad
    else if (value.take 4).all Char.isDigit then
      .ok ({ f with year := digitsValue (value.take 4) }, value.drop 4)
    else .error .bad
  | .zeroMonth =>
    match getnum value true with
    | some (month, rest) =>
      if month = 0 ∨ 12 < month then .error (.outOfRange "month" rest)
      else .ok ({ f with month := month }, rest)
    | none => .error .bad
  | .zeroDay =>
    match getnum value true with
    | some (day, rest) => .ok ({ f with day := day }, rest)
    | none => .error .bad
  | .hour =>
    match getnum value false with
    | some (hour, rest) =>
      if 24 ≤ hour then .error (.outOfRange "hour" rest) else .ok ({ f with hour := hour }, rest)
    | none => .error .bad
  | .zeroMinute =>
    match getnum value true with
    | some (min, rest) =>
      if 60 ≤ min then .error (.outOfRange "minute" rest) else .ok ({ f with min := min }, rest)
    | none => .error .bad
  | .zeroSecond =>
    match getnum value true with
    | some (sec, rest) =>
      if 60 ≤ sec then .error (.outOfRange "second" rest)
      else
        -- a fraction of a second that the layout does not name
        let (nsec, rest) := parseFraction true rest
        .ok ({ f with sec := sec, nsec := nsec }, rest)
    | none => .error .bad
  | .iso8601ColonTZ =>
    match value with
    | 'Z' :: rest => .ok ({ f with utc := true }, rest)
    | _ =>
      (parseOffset value).map fun zoneOffset => ({ f with zoneOffset := zoneOffset }, value.drop 6)

/-- The loop of `parse` over the chunks of the layout: the literal text before each element is
skipped, then the element is read; after the last element no text may be left. -/
def parseChunks (value : String) :
    List (String × StdElem × String) → ParsedFields → List Char → Except ParseError ParsedFields
  | [], f, rest =>
    if rest = [] then .ok f
    else .error ⟨value, "", String.mk rest, ": extra text: " ++ quote (String.mk rest)⟩
  | (pre, std, stdstr) :: chunks, f, rest =>
    match skip rest pre.toList with
    | .error left => .error ⟨value, pre, String.mk left, ""⟩
    | .ok hold =>
      match parseElem f hold std with
      | .ok (f, rest) => parseChunks value chunks f rest
      | .error (.outOfRange what rest) =>
        .error ⟨value, stdstr, String.mk rest, ": " ++ what ++ " out of range"⟩
      | .error .bad => .error ⟨value, stdstr, String.mk hold, ""⟩

/-- Go's `parse(RFC3339, value, UTC, Local)`: the elements of the layout, then the day checked
against its month, and the time in `UTC`, or at the offset read. -/
def parse (localLoc : Location) (value : String) : Except ParseError Time :=
  match parseChunks value rfc3339Chunks ParsedFields.initial value.toList with
  | .error e => .error e
  | .ok f =>
    let month := if f.month < 0 then 1 else f.month
    let day := if f.day < 0 then 1 else f.day
    if day < 1 ∨ (daysIn month.toNat f.year : Int) < day then
      .error ⟨value, "", "", ": day out of range"⟩
    else
      let t := wallNanos f.year month day f.hour f.min f.sec f.nsec
      if f.utc then .ok ⟨t, .utc⟩
      else if f.zoneOffset ≠ -1 then
        .ok (inZone localLoc (t - f.zoneOffset * nsPerSecond) f.zoneOffset)
      else .ok ⟨t, .utc⟩

/-! ## What `parse` accepts -/

/-- The ranges the elements keep the locals of `parse` in: a year of four digits, no month yet or
a month, no day yet or two digits, a time of day, and less than a second of nanoseconds. -/
structure ParsedFields.Valid (f : ParsedFields) : Prop where
  year : 0 ≤ f.year ∧ f.year ≤ 9999
  month : f.month = -1 ∨ 1 ≤ f.month ∧ f.month ≤ 12
  day : -1 ≤ f.day
  hour : 0 ≤ f.hour ∧ f.hour ≤ 23
  min : 0 ≤ f.min ∧ f.min ≤ 59
  sec : 0 ≤ f.sec ∧ f.sec ≤ 59
  nsec : f.nsec < 1000000000

theorem ParsedFields.initial_valid : ParsedFields.initial.Valid :=
  ⟨by decide, .inl rfl, by decide, by decide, by decide, by decide, by decide⟩

/-- One element keeps the locals in range: the step of `parse`'s loop. -/
theorem parseElem_valid {f f' : ParsedFields} {value rest : List Char} {std : StdElem}
    (h : parseElem f value std = .ok (f', rest)) (hf : f.Valid) : f'.Valid := by
  cases std with
  | longYear =>
    simp only [parseElem] at h
    split_ifs at h with hlen hs
    cases h
    have hl : (value.take 4).length = 4 := by simp only [List.length_take]; omega
    have hy := digitsValue_lt hs
    rw [hl] at hy
    exact { hf with year := by dsimp only; change _ < 10000 at hy; omega }
  | zeroMonth =>
    simp only [parseElem] at h
    split at h
    · split_ifs at h with hm
      cases h
      exact { hf with month := .inr (by dsimp only; omega) }
    · cases h
  | zeroDay =>
    simp only [parseElem] at h
    split at h
    · cases h
      exact { hf with day := by dsimp only; omega }
    · cases h
  | hour =>
    simp only [parseElem] at h
    split at h
    · split_ifs at h with hh
      cases h
      exact { hf with hour := by dsimp only; omega }
    · cases h
  | zeroMinute =>
    simp only [parseElem] at h
    split at h
    · split_ifs at h with hm
      cases h
      exact { hf with min := by dsimp only; omega }
    · cases h
  | zeroSecond =>
    simp only [parseElem] at h
    split at h
    · split_ifs at h with hs
      cases h
      exact { hf with sec := by dsimp only; omega, nsec := parseFraction_lt _ _ }
    · cases h
  | iso8601ColonTZ =>
    simp only [parseElem] at h
    split at h
    · cases h
      exact { hf with }
    · cases hoff : parseOffset value <;> rw [hoff] at h <;> cases h
      exact { hf with }

/-- The whole loop keeps the locals in range: the run of `parse`'s loop. -/
theorem parseChunks_valid {value : String} :
    ∀ {chunks : List (String × StdElem × String)} {f f' : ParsedFields} {rest : List Char},
      parseChunks value chunks f rest = .ok f' → f.Valid → f'.Valid
  | [], f, f', rest, h, hf => by
    simp only [parseChunks] at h
    split_ifs at h
    cases h
    exact hf
  | (pre, std, stdstr) :: chunks, f, f', rest, h, hf => by
    simp only [parseChunks] at h
    split at h
    · cases h
    · split at h
      · exact parseChunks_valid h (parseElem_valid ‹_› hf)
      · cases h
      · cases h

theorem parse_ok {localLoc : Location} {value : String} {t : Time}
    (h : parse localLoc value = .ok t) : WallClockTime localLoc t := by
  unfold parse at h
  split at h
  · cases h
  · rename_i f hchunks
    have hv := parseChunks_valid hchunks ParsedFields.initial_valid
    dsimp only at h
    generalize hm : (if f.month < 0 then 1 else f.month) = month at h
    generalize hd : (if f.day < 0 then 1 else f.day) = day at h
    have hmonth : 1 ≤ month ∧ month ≤ 12 := by
      rw [← hm]
      split_ifs <;> rcases hv.month with h' | h' <;> omega
    have hwall (t : Time) (ht : t.ns = wallNanos f.year month day f.hour f.min f.sec f.nsec -
        t.offset localLoc * nsPerSecond)
        (hday : ¬(day < 1 ∨ (daysIn month.toNat f.year : Int) < day)) :
        WallClockTime localLoc t :=
      ⟨f.year, month, day, f.hour, f.min, f.sec, f.nsec, hv.year.1, hv.year.2, hmonth.1, hmonth.2,
        by omega, by omega, hv.hour.1, hv.hour.2, hv.min.1, hv.min.2, hv.sec.1, hv.sec.2,
        by omega, by exact_mod_cast hv.nsec, ht⟩
    split_ifs at h with hday <;> cases h <;> exact hwall _ (by simp) hday

/-- `time.Parse(time.RFC3339, value)`: `parseRFC3339`, and `parse` when it fails. -/
def timeParse (localLoc : Location) (value : String) : Except ParseError Time :=
  match parseRFC3339 localLoc value with
  | some t => .ok t
  | none => parse localLoc value

/-- What a successful parse guarantees, by either parser: the instant that a wall-clock time of
years 0 to 9999 names in the time's own location. -/
theorem timeParse_ok {localLoc : Location} {value : String} {t : Time}
    (h : timeParse localLoc value = .ok t) : WallClockTime localLoc t := by
  unfold timeParse at h
  split at h
  · cases h
    exact parseRFC3339_ok ‹_›
  · exact parse_ok h

end Observer
end OpenChoreo
