import IdMint.Value.Basic

/-!
# Points in time

How days and points in time are written: `2001-12-14`, or the same with a time
of day and possibly the distance of the clock from universal time. What is
written may name a day that no calendar has, so that reading and giving a value
are two steps.
-/

namespace IdMint.Yaml

/-- A time of day as written: the digits of the fraction of a second, and the
distance from universal time in seconds, may be missing. -/
structure Clocktime where
  hour : Nat
  minute : Nat
  second : Nat
  fraction : List Char
  zone : Option Int

/-- What is written of a point in time. -/
structure Stamp where
  year : Nat
  month : Nat
  day : Nat
  time : Option Clocktime

namespace Stamp

/-! ## Reading -/

/-- The number that digits denote. -/
def natOf (cs : List Char) : Nat := cs.foldl (fun n c => 10 * n + (c.toNat - 0x30)) 0

/-- Splits at least `least` and at most `most` digits off. -/
def takeDigits? (least most : Nat) (cs : List Char) : Option (Nat × List Char) :=
  let digits := (cs.take most).takeWhile Char.isDigit
  if digits.length < least then none else some (natOf digits, cs.drop digits.length)

/-- Splits a given character off. -/
def takeChar? (c : Char) : List Char → Option (List Char)
  | d :: rest => if c = d then some rest else none
  | [] => none

/-- The text without the blanks at its head. -/
def dropBlanks (cs : List Char) : List Char := cs.dropWhile fun c => c == ' ' || c == '\t'

/-- The distance from universal time that a whole text gives. -/
def readZone? (cs : List Char) : Option (Option Int) :=
  match dropBlanks cs with
  | [] => if cs.isEmpty then some none else none
  | ['Z'] => some (some 0)
  | sign :: rest =>
    if sign == '+' || sign == '-' then do
      let (hours, rest) ← takeDigits? 1 2 rest
      let minutes ← if rest.isEmpty then some 0 else do
        let rest ← takeChar? ':' rest
        let (minutes, rest) ← takeDigits? 2 2 rest
        if rest.isEmpty then some minutes else none
      let seconds : Int := (hours * 60 + minutes) * 60
      some (some (if sign == '-' then -seconds else seconds))
    else none

/-- The time of day that a whole text gives. -/
def readClocktime? (cs : List Char) : Option Clocktime := do
  let (hour, rest) ← takeDigits? 1 2 cs
  let rest ← takeChar? ':' rest
  let (minute, rest) ← takeDigits? 2 2 rest
  let rest ← takeChar? ':' rest
  let (second, rest) ← takeDigits? 2 2 rest
  let (fraction, rest) := match rest with
    | '.' :: more => more.span Char.isDigit
    | _ => ([], rest)
  return ⟨hour, minute, second, fraction, ← readZone? rest⟩

/-- The text after what parts a day from a time of day. -/
def dropTimeMark? : List Char → Option (List Char)
  | 'T' :: rest | 't' :: rest => some rest
  | ' ' :: rest | '\t' :: rest => some (dropBlanks rest)
  | _ => none

/-- What a whole text says of a point in time, if it is one. -/
def read? (cs : List Char) : Option Stamp := do
  let (year, rest) ← takeDigits? 4 4 cs
  let rest ← takeChar? '-' rest
  let (month, rest) ← takeDigits? 1 2 rest
  let rest ← takeChar? '-' rest
  let (day, rest) ← takeDigits? 1 2 rest
  if rest.isEmpty then return ⟨year, month, day, none⟩
  return ⟨year, month, day, some (← readClocktime? (← dropTimeMark? rest))⟩

/-! ## Values -/

/-- The clocks of the world are less than a day apart. -/
def isTooFar (zone : Option Int) : Bool := 86400 ≤ (zone.getD 0).natAbs

/-- The first defect of a day: in the year, the month or the day, in this order. -/
def dayDefect? (s : Stamp) : Option CalendarDefect :=
  if s.year = 0 then some .year
  else if s.month = 0 || 12 < s.month then some .month
  else if s.day = 0 || Date.daysIn s.year s.month < s.day then some .day
  else none

/-- The first defect of a time of day: in the hour, the minute or the second. -/
def timeDefect? (t : Clocktime) : Option CalendarDefect :=
  if 23 < t.hour then some .hour
  else if 59 < t.minute then some .minute
  else if 59 < t.second then some .second
  else none

/-- The millionths of a second that the digits of a fraction denote; digits
beyond the sixth count for nothing. -/
def microseconds (fraction : List Char) : Nat :=
  natOf (fraction.take 6) * Nat.pow 10 (6 - (fraction.take 6).length)

/-- The first defect of a point in time. The distance from universal time is
looked at before anything else. -/
def defect? (s : Stamp) : Option CalendarDefect :=
  match s.time with
  | none => s.dayDefect?
  | some t =>
    if isTooFar t.zone then some (.offset (t.zone.getD 0))
    else s.dayDefect?.orElse fun _ => timeDefect? t

/-- The value of what is written: a day, or a point in time. -/
def value (s : Stamp) : Except Fault Value :=
  match s.defect? with
  | some defect => .error (.calendar defect)
  | none =>
    let date : Date := ⟨s.year, s.month, s.day⟩
    .ok (match s.time with
      | none => .date date
      | some t =>
        .timestamp ⟨date, t.hour, t.minute, t.second, microseconds t.fraction, t.zone⟩)

end Stamp

end IdMint.Yaml
