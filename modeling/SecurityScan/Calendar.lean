import SecurityScan.Text.CharClass

/-!
# Dates and times

Days of the proleptic Gregorian calendar and times of day to the microsecond, with an optional
offset from UTC in minutes.
-/

namespace SecurityScan

structure Date where
  year : Nat
  month : Nat
  day : Nat
deriving DecidableEq

structure DateTime where
  date : Date
  hour : Nat
  minute : Nat
  second : Nat
  micro : Nat
  /-- Minutes east of UTC. -/
  offset : Option Int
deriving DecidableEq

namespace Date

def isLeap (year : Nat) : Bool := year % 4 == 0 && (year % 100 != 0 || year % 400 == 0)

def daysInMonth (year month : Nat) : Nat :=
  if month = 2 then (if isLeap year then 29 else 28)
  else if month = 4 ∨ month = 6 ∨ month = 9 ∨ month = 11 then 30
  else 31

/-- What is wrong with a day, the year first. -/
def fault? (d : Date) : Option String :=
  if d.year = 0 ∨ 9999 < d.year then some ("year " ++ toString d.year ++ " is out of range")
  else if d.month = 0 ∨ 12 < d.month then some "month must be in 1..12"
  else if d.day = 0 ∨ daysInMonth d.year d.month < d.day then
    some "day is out of range for month"
  else none

/-- `n` in decimal with at least `width` digits. -/
def padded (width n : Nat) : String :=
  let ds := Nat.toDigits 10 n
  String.ofList (List.replicate (width - ds.length) '0' ++ ds)

def isoText (d : Date) : String :=
  padded 4 d.year ++ "-" ++ padded 2 d.month ++ "-" ++ padded 2 d.day

/-- Days since the first day of year one. -/
def ordinal (d : Date) : Nat :=
  let y := d.year - 1
  let before := (List.range (d.month - 1)).foldl (fun n m => n + daysInMonth d.year (m + 1)) 0
  365 * y + y / 4 - y / 100 + y / 400 + before + d.day

end Date

namespace DateTime

/-- What is wrong with a moment: its day, then its time of day. -/
def fault? (t : DateTime) : Option String :=
  match t.date.fault? with
  | some e => some e
  | none =>
    if 23 < t.hour then some "hour must be in 0..23"
    else if 59 < t.minute then some "minute must be in 0..59"
    else if 59 < t.second then some "second must be in 0..59"
    else none

def offsetText (minutes : Int) : String :=
  (if minutes < 0 then "-" else "+") ++ Date.padded 2 (minutes.natAbs / 60) ++ ":" ++
    Date.padded 2 (minutes.natAbs % 60)

/-- The day and the time with `between` between them. -/
def isoText (t : DateTime) (between : String) : String :=
  t.date.isoText ++ between ++ Date.padded 2 t.hour ++ ":" ++ Date.padded 2 t.minute ++ ":" ++
    Date.padded 2 t.second ++ (if t.micro = 0 then "" else "." ++ Date.padded 6 t.micro) ++
    (t.offset.map offsetText).getD ""

/-- Microseconds on a line on which equal moments with offsets meet. -/
def instant (t : DateTime) : Int :=
  ((((t.date.ordinal : Int) * 24 + t.hour) * 60 + t.minute - t.offset.getD 0) * 60 + t.second) *
    1000000 + t.micro

/-- Two moments are the same when both or neither have an offset and they fall together. -/
def same (s t : DateTime) : Bool := s.offset.isSome == t.offset.isSome && s.instant == t.instant

end DateTime

end SecurityScan
