import ClusterGateway.Text.Blank
import ClusterGateway.Time.Instant

/-!
# Timestamps (RFC 3339)

`Rfc3339.render` writes an instant in UTC with no, three, six or nine digits of fraction, as few
as hold it exactly.  `Rfc3339.parse?` reads the strict form.  `Rfc3339.parseRelaxed?` is for
texts written by hand: numbers may be shorter, years may have a sign and then more digits, and
blanks may stand around the separators.
-/

namespace ClusterGateway

namespace Time

namespace Rfc3339

/-! ### Writing -/

/-- A number with zeros in front up to a width. -/
def padded (width n : Nat) : List Char :=
  let digits := Nat.toDigits 10 n
  List.replicate (width - digits.length) '0' ++ digits

/-- The year: four digits, with a sign where that is not enough. -/
def yearChars (year : Int) : List Char :=
  if 0 ≤ year ∧ year ≤ 9999 then padded 4 year.toNat
  else (if year < 0 then '-' else '+') :: padded 4 year.natAbs

/-- The fraction of a second. -/
def fractionChars (nanos : Nat) : List Char :=
  if nanos = 0 then []
  else if nanos % 1000000 = 0 then '.' :: padded 3 (nanos / 1000000)
  else if nanos % 1000 = 0 then '.' :: padded 6 (nanos / 1000)
  else '.' :: padded 9 nanos

/-- The date, the time of day and the fraction of an instant shifted by an offset of minutes. -/
def localChars (t : Instant) (offsetMinutes : Int) : List Char :=
  let seconds := t.seconds + 60 * offsetMinutes
  let date := Date.ofDays (seconds / 86400)
  let ofDay := (seconds % 86400).toNat
  let leap := if Instant.nanosPerSecond ≤ t.nanos then 1 else 0
  yearChars date.year ++ '-' :: padded 2 date.month ++ '-' :: padded 2 date.day ++
    'T' :: padded 2 (ofDay / 3600) ++ ':' :: padded 2 (ofDay / 60 % 60) ++
    ':' :: padded 2 (ofDay % 60 + leap) ++ fractionChars (t.nanos - leap * Instant.nanosPerSecond)

/-- An instant in UTC. -/
def render (t : Instant) : String := String.ofList (localChars t 0 ++ ['Z'])

/-! ### Reading -/

/-- The digits at the start of a text, at most `limit`, as characters, and what follows. -/
def takeDigits : Nat → List Char → List Char × List Char
  | 0, cs => ([], cs)
  | _, [] => ([], [])
  | limit + 1, c :: cs =>
    if c.isDigit then
      let (ds, rest) := takeDigits limit cs
      (c :: ds, rest)
    else ([], c :: cs)

/-- The number that decimal digits write. -/
def digitsValue (ds : List Char) : Nat := ds.foldl (fun n c => 10 * n + (c.toNat - 48)) 0

/-- A number of at least `low` and at most `high` digits. -/
def number? (low high : Nat) (cs : List Char) : Option (Nat × List Char) :=
  let (ds, rest) := takeDigits high cs
  if low ≤ ds.length then some (digitsValue ds, rest) else none

/-- What follows a character that has to come next. -/
def expect (c : Char) : List Char → Option (List Char)
  | d :: rest => if d = c then some rest else none
  | [] => none

/-- The fraction of a second as nanoseconds, if there is one.  Digits after the ninth are cut. -/
def fraction? : List Char → Option (Nat × List Char)
  | '.' :: cs =>
    let (ds, rest) := takeDigits 9 cs
    if ds = [] then none
    else some (digitsValue ds * Nat.pow 10 (9 - ds.length), rest.dropWhile Char.isDigit)
  | cs => some (0, cs)

/-- An offset from UTC in minutes.  The argument says what may stand between hours and minutes. -/
def offset? (separator : List Char → Option (List Char)) :
    List Char → Option (Int × List Char)
  | 'Z' :: rest => some (0, rest)
  | 'z' :: rest => some (0, rest)
  | sign :: rest => do
    let negative ←
      if sign = '+' then some false
      else if sign = '-' ∨ sign = '−' then some true
      else none
    let (hours, rest) ← number? 2 2 rest
    let rest ← separator rest
    let (minutes, rest) ← number? 2 2 rest
    if minutes < 60 ∧ hours < 24 then
      let total : Int := hours * 60 + minutes
      return (if negative then -total else total, rest)
    else none
  | [] => none

/-- The parts of a timestamp: date, hour, minute, second, nanoseconds, offset. -/
structure Parts where
  /-- The calendar day. -/
  date : Date
  /-- The hour of the day. -/
  hour : Nat
  /-- The minute of the hour. -/
  minute : Nat
  /-- The second of the minute; 60 is a leap second. -/
  second : Nat
  /-- The nanoseconds of the second. -/
  nanos : Nat
  /-- The offset from UTC in minutes. -/
  offset : Int

/-- The years that timestamps may have. -/
def yearIsInRange (year : Int) : Bool := -262143 ≤ year && year ≤ 262142

/-- Whether the date of an instant in UTC has a year that timestamps may have. -/
def instantIsInRange (t : Instant) : Bool := yearIsInRange (Date.ofDays (t.seconds / 86400)).year

/-- The instant of a timestamp, if all its parts are in range and so is the date in UTC. -/
def Parts.instant? (p : Parts) : Option Instant :=
  if p.date.isValid ∧ yearIsInRange p.date.year ∧ p.hour < 24 ∧ p.minute < 60 ∧
      p.second ≤ 60 then
    let second := min p.second 59
    let leap := p.second - second
    let t : Instant :=
      ⟨p.date.toDays * 86400 + p.hour * 3600 + p.minute * 60 + second - 60 * p.offset,
        p.nanos + leap * Instant.nanosPerSecond⟩
    if instantIsInRange t then some t else none
  else none

/-- Whether a character divides date and time. -/
def isDivider (c : Char) : Bool := c = 'T' || c = 't' || c = ' '

/-- The instant that a timestamp in the strict form writes. -/
def parseChars? (cs : List Char) : Option Instant := do
  let (year, cs) ← number? 4 4 cs
  let cs ← expect '-' cs
  let (month, cs) ← number? 2 2 cs
  let cs ← expect '-' cs
  let (day, cs) ← number? 2 2 cs
  let cs ← match cs with
    | c :: cs => if isDivider c then some cs else none
    | [] => none
  let (hour, cs) ← number? 2 2 cs
  let cs ← expect ':' cs
  let (minute, cs) ← number? 2 2 cs
  let cs ← expect ':' cs
  let (second, cs) ← number? 2 2 cs
  let (nanos, cs) ← fraction? cs
  let (offset, cs) ← offset? (expect ':') cs
  if cs = [] then
    (Parts.mk ⟨year, month, day⟩ hour minute second nanos offset).instant?
  else none

/-- The instant that a timestamp in the strict form writes. -/
def parse? (s : String) : Option Instant := parseChars? s.toList

/-! ### Reading texts written by hand -/

/-- The text without the blanks at its start. -/
def skipBlank (cs : List Char) : List Char := Text.trimStartChars cs

/-- A year: up to four digits, or a sign and any number of digits. -/
def relaxedYear? (cs : List Char) : Option (Int × List Char) :=
  match skipBlank cs with
  | '-' :: cs => (number? 1 cs.length cs).map fun (n, rest) => (-(n : Int), rest)
  | '+' :: cs => (number? 1 cs.length cs).map fun (n, rest) => ((n : Int), rest)
  | cs => (number? 1 4 cs).map fun (n, rest) => ((n : Int), rest)

/-- A number of one or two digits after blanks. -/
def relaxedTwo? (cs : List Char) : Option (Nat × List Char) := number? 1 2 (skipBlank cs)

/-- An offset that may be spelt `UTC`, and in which blanks and colons divide hours and minutes. -/
def relaxedOffset? (cs : List Char) : Option (Int × List Char) :=
  match cs with
  | a :: b :: c :: rest =>
    if a.toUpper = 'U' ∧ b.toUpper = 'T' ∧ c.toUpper = 'C' then some (0, rest)
    else offset? skipSeparators cs
  | _ => offset? skipSeparators cs
where
  skipSeparators (cs : List Char) : Option (List Char) :=
    some (cs.dropWhile fun c => c = ':' || Text.isBlank c)

/-- The instant that a timestamp in the relaxed form writes. -/
def parseRelaxed? (s : String) : Option Instant := do
  let (year, cs) ← relaxedYear? s.toList
  let cs ← expect '-' (skipBlank cs)
  let (month, cs) ← relaxedTwo? cs
  let cs ← expect '-' (skipBlank cs)
  let (day, cs) ← relaxedTwo? cs
  let cs ← match cs with
    | c :: cs => if isDivider c then some cs else none
    | [] => none
  let (hour, cs) ← relaxedTwo? cs
  let cs ← expect ':' (skipBlank cs)
  let (minute, cs) ← relaxedTwo? cs
  let cs ← expect ':' (skipBlank cs)
  let (second, cs) ← relaxedTwo? cs
  let (nanos, cs) ← fraction? cs
  let (offset, cs) ← relaxedOffset? (skipBlank cs)
  if skipBlank cs = [] then
    (Parts.mk ⟨year, month, day⟩ hour minute second nanos offset).instant?
  else none

end Rfc3339

end Time

end ClusterGateway
