/-!
# Days and points in time

A day of the calendar, and a point in time on such a day, read off a clock. The
calendar is the one that is in use today, carried on into the past without a
change. A clock may state how far it is from universal time; two such clocks
show the same moment in different ways, and `instant` is what they have in
common.
-/

namespace IdMint

/-- A day of the calendar. -/
structure Date where
  year : Nat
  month : Nat
  day : Nat
deriving DecidableEq, Repr

/-- A point in time: a day, a time of day in microseconds, and the distance of
the clock from universal time in seconds, where one is given. -/
structure Timestamp where
  date : Date
  hour : Nat
  minute : Nat
  second : Nat
  microsecond : Nat
  offset : Option Int
deriving DecidableEq, Repr

namespace Date

/-- Every fourth year is a leap year, except for the centuries that 400 does not
divide. -/
def isLeap (year : Nat) : Bool := year % 4 == 0 && (year % 100 != 0 || year % 400 == 0)

/-- The number of days of a month. -/
def daysIn (year month : Nat) : Nat :=
  if month = 2 then (if isLeap year then 29 else 28)
  else if month = 4 || month = 6 || month = 9 || month = 11 then 30
  else 31

/-- The number of days before the first one of a year, from the first one of the
year 0 on. -/
def daysBefore (year : Nat) : Nat := 365 * year + (year + 3) / 4 - (year + 99) / 100 + (year + 399) / 400

/-- The number of days before a day, from the first one of the year 0 on. -/
def dayNumber (d : Date) : Nat :=
  (List.range' 1 (d.month - 1)).foldl (fun days month => days + daysIn d.year month)
    (daysBefore d.year) + (d.day - 1)

/-- A year lasts 365 days, and one more if it is a leap year. -/
theorem daysBefore_succ (year : Nat) :
    daysBefore (year + 1) = daysBefore year + if isLeap year then 366 else 365 := by
  have fourth : (year + 1 + 3) / 4 = (year + 3) / 4 + if year % 4 = 0 then 1 else 0 := by
    split <;> omega
  have century : (year + 1 + 99) / 100 = (year + 99) / 100 + if year % 100 = 0 then 1 else 0 := by
    split <;> omega
  have cycle : (year + 1 + 399) / 400 = (year + 399) / 400 + if year % 400 = 0 then 1 else 0 := by
    split <;> omega
  have few : (year + 99) / 100 ≤ 365 * year + (year + 3) / 4 := by omega
  have four_of_century : year % 100 = 0 → year % 4 = 0 := by omega
  have century_of_cycle : year % 400 = 0 → year % 100 = 0 := by omega
  simp only [daysBefore, isLeap, fourth, century, cycle, Bool.and_eq_true, Bool.or_eq_true,
    beq_iff_eq, bne_iff_ne]
  generalize (year + 3) / 4 = a at *
  generalize (year + 99) / 100 = b at *
  generalize (year + 399) / 400 = c at *
  by_cases h4 : year % 4 = 0 <;> by_cases h100 : year % 100 = 0 <;>
    by_cases h400 : year % 400 = 0 <;> simp_all <;> omega

end Date

namespace Timestamp

/-- The microseconds that a clock without a stated distance has counted from the
first day of the year 0 on. -/
def reading (t : Timestamp) : Nat :=
  (((t.date.dayNumber * 24 + t.hour) * 60 + t.minute) * 60 + t.second) * 1000000 + t.microsecond

/-- The microseconds of universal time at a distance of the clock from it. -/
def instantAt (t : Timestamp) (offset : Int) : Int := t.reading - offset * 1000000

/-- Two clocks show the same moment. Clocks that state their distance from
universal time are compared by it; a clock that does not is comparable to its
like only. -/
def isSame (s t : Timestamp) : Bool :=
  match s.offset, t.offset with
  | some m, some n => s.instantAt m == t.instantAt n
  | none, none => s == t
  | _, _ => false

/-- A clock shows the same moment as itself. -/
theorem isSame_self (t : Timestamp) : t.isSame t = true := by
  unfold isSame
  cases t.offset <;> simp

end Timestamp

end IdMint
