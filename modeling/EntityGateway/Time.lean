import EntityGateway.Json.Decode
import EntityGateway.Text.CharClass

/-!
# Timestamps

A `Timestamp` is an instant in UTC: seconds since 1970-01-01T00:00:00Z and nanoseconds, the
nanoseconds reaching past one second only for a leap second.

`Timestamp.parse` reads the date-time form of RFC 3339, leniently: `T`, `t` or a space between
date and time, blanks allowed between fields, a fraction of any length (digits past the ninth are
read and dropped), and an offset `Z`, `UTC`, `+hh:mm`, `+hhmm` or `-hh mm`. Each fault has its own
wording, such as `input contains invalid characters` or `premature end of input`.

`Timestamp.render` writes the instant in UTC as `YYYY-MM-DDThh:mm:ss[.fff]Z`, with 3, 6 or 9
fraction digits, the fewest that are exact, and none for a whole second.
-/

namespace EntityGateway

/-- An instant, in UTC. -/
structure Timestamp where
  /-- Whole seconds since 1970-01-01T00:00:00Z. -/
  seconds : Int
  /-- Nanoseconds past the second; at least `10 ^ 9` only in a leap second. -/
  nanos : Nat
  deriving DecidableEq, Repr

namespace Timestamp

/-- Order of instants: by seconds, then nanoseconds. -/
def le (a b : Timestamp) : Bool :=
  a.seconds < b.seconds || (a.seconds == b.seconds && a.nanos ≤ b.nanos)

/-- The later of two instants. -/
def later (a b : Timestamp) : Timestamp := if le a b then b else a

/-- The later of two optional instants; an absent one is earlier than any. -/
def laterOpt : Option Timestamp → Option Timestamp → Option Timestamp
  | none, b => b
  | a, none => a
  | some a, some b => some (later a b)

/-- Days since 1970-01-01 of a civil date in the proleptic Gregorian calendar; the divisions
round down, as `Int` division by a positive number does. -/
def daysOfCivil (y : Int) (m d : Nat) : Int :=
  let y := if m ≤ 2 then y - 1 else y
  let era := y / 400
  let yoe := y - era * 400
  let mp : Int := if m > 2 then m - 3 else m + 9
  let doy := (153 * mp + 2) / 5 + d - 1
  let doe := yoe * 365 + yoe / 4 - yoe / 100 + doy
  era * 146097 + doe - 719468

/-- The civil date of a count of days since 1970-01-01. -/
def civilOfDays (z : Int) : Int × Nat × Nat :=
  let z := z + 719468
  let era := z / 146097
  let doe := z - era * 146097
  let yoe := (doe - doe / 1460 + doe / 36524 - doe / 146096) / 365
  let y := yoe + era * 400
  let doy := doe - (365 * yoe + yoe / 4 - yoe / 100)
  let mp := (5 * doy + 2) / 153
  let d := doy - (153 * mp + 2) / 5 + 1
  let m := if mp < 10 then mp + 3 else mp - 9
  ((if m ≤ 2 then y + 1 else y), m.toNat, d.toNat)

/-- The number of days of a month. -/
def monthDays (y : Int) (m : Nat) : Nat :=
  if m = 2 then (if (y % 4 = 0 ∧ y % 100 ≠ 0) ∨ y % 400 = 0 then 29 else 28)
  else if m = 4 ∨ m = 6 ∨ m = 9 ∨ m = 11 then 30 else 31

/-- What can be wrong with a date-time text. -/
inductive Fault where
  | outOfRange
  | impossible
  | invalid
  | tooShort
  | tooLong
  deriving DecidableEq, Repr

/-- The wording of a fault. -/
def Fault.text : Fault → String
  | .outOfRange => "input is out of range"
  | .impossible => "no possible date and time matching input"
  | .invalid => "input contains invalid characters"
  | .tooShort => "premature end of input"
  | .tooLong => "trailing input"

/-- Read between `lo` and `hi` ASCII digits. -/
def scanNumber (cs : List Char) (lo hi : Nat) : Except Fault (Nat × List Char) :=
  if cs.length < lo then .error .tooShort
  else
    let ds := (cs.take hi).takeWhile Char.isDigit
    if ds.length < lo then .error .invalid
    else .ok (ds.foldl (fun n c => 10 * n + (c.toNat - 48)) 0, cs.drop ds.length)

/-- Skip leading blanks. -/
def skipBlank (cs : List Char) : List Char := cs.dropWhile Char.isBlank

/-- Read a literal character. -/
def scanLiteral (c : Char) (cs : List Char) : Except Fault (List Char) :=
  match cs with
  | [] => .error .tooShort
  | d :: rest => if d = c then .ok rest else .error .invalid

/-- Read all the digits at the front, refusing a value past 64 signed bits. -/
def scanLong (cs : List Char) : Except Fault (Nat × List Char) :=
  match cs with
  | [] => .error .tooShort
  | c :: _ =>
    if !c.isDigit then .error .invalid
    else
      let ds := cs.takeWhile Char.isDigit
      let v := ds.foldl (fun n c => 10 * n + (c.toNat - 48)) 0
      if Nat.pow 2 63 ≤ v then .error .outOfRange else .ok (v, cs.drop ds.length)

/-- Read the year: with a sign any number of digits, else at most four; a year past 32 signed
bits is out of range. -/
def scanYear (cs : List Char) : Except Fault (Int × List Char) := do
  let (year, rest) ← match skipBlank cs with
    | '-' :: rest => (scanLong rest).map fun (n, r) => (-(n : Int), r)
    | '+' :: rest => (scanLong rest).map fun (n, r) => ((n : Int), r)
    | rest => (scanNumber rest 1 4).map fun (n, r) => ((n : Int), r)
  if year < -(Nat.pow 2 31 : Int) ∨ (Nat.pow 2 31 : Int) ≤ year then .error .outOfRange
  else .ok (year, rest)

/-- A field's value, refused as out of range outside `[lo, hi]`. -/
def within (lo hi : Nat) (v : Nat) : Except Fault Nat :=
  if lo ≤ v ∧ v ≤ hi then .ok v else .error .outOfRange

/-- Read a two-digit field after optional blanks. -/
def scanField (cs : List Char) : Except Fault (Nat × List Char) := scanNumber (skipBlank cs) 1 2

/-- Read an optional fraction of a second, as nanoseconds. -/
def scanFraction (cs : List Char) : Except Fault (Nat × List Char) :=
  match cs with
  | '.' :: rest => do
    let (v, r) ← scanNumber rest 1 9
    let used := rest.length - r.length
    let scaled := v * Nat.pow 10 (9 - used)
    return (scaled, r.dropWhile Char.isDigit)
  | _ => .ok (0, cs)

/-- Read the offset from UTC in seconds. -/
def scanOffset (cs : List Char) : Except Fault (Int × List Char) :=
  let upper := (cs.take 3).map Char.toUpper
  if cs.length ≥ 3 ∧ upper = ['U', 'T', 'C'] then .ok (0, cs.drop 3)
  else
    match cs with
    | 'Z' :: rest | 'z' :: rest => .ok (0, rest)
    | s :: rest =>
      if s = '+' ∨ s = '-' ∨ s.toNat = 0x2212 then do
        let negative := s ≠ '+'
        let hours ← match rest with
          | h1 :: h2 :: _ =>
            if h1.isDigit ∧ h2.isDigit then .ok ((h1.toNat - 48) * 10 + (h2.toNat - 48))
            else .error .invalid
          | [h1] => if h1.utf8Size ≥ 2 then .error .invalid else .error .tooShort
          | [] => .error .tooShort
        let rest := (rest.drop 2).dropWhile fun c => c = ':' ∨ c.isBlank
        let minutes ← match rest with
          | m1 :: m2 :: _ =>
            if '0' ≤ m1 ∧ m1 ≤ '5' ∧ m2.isDigit then .ok ((m1.toNat - 48) * 10 + (m2.toNat - 48))
            else if '6' ≤ m1 ∧ m1 ≤ '9' ∧ m2.isDigit then .error .outOfRange
            else .error .invalid
          | [m1] => if m1.utf8Size ≥ 2 then .error .invalid else .error .tooShort
          | [] => .error .tooShort
        let secs : Int := hours * 3600 + minutes * 60
        return ((if negative then -secs else secs), rest.drop 2)
      else .error .invalid
    | [] => .error .tooShort

/-- The first second of the range of instants, `-262143-01-01T00:00:00Z`. -/
def firstSecond : Int := daysOfCivil (-262143) 1 1 * 86400

/-- The last second of the range of instants, `262142-12-31T23:59:59Z`. -/
def lastSecond : Int := daysOfCivil 262142 12 31 * 86400 + 86399

/-- Read a date-time text. A field outside its range is refused as soon as it is read; after
the whole text is read, so is a day past the end of its month, a year outside
`[-262143, 262142]` or an offset of a whole day or more, and an instant that the offset moves
out of the range of instants is impossible. -/
def parse (text : String) : Except Fault Timestamp := do
  let cs := text.toList
  let (year, cs) ← scanYear cs
  let cs ← scanLiteral '-' (skipBlank cs)
  let (month, cs) ← scanField cs
  let month ← within 1 12 month
  let cs ← scanLiteral '-' (skipBlank cs)
  let (day, cs) ← scanField cs
  let day ← within 1 31 day
  let cs ← match cs with
    | c :: rest => if c = 'T' ∨ c = 't' ∨ c = ' ' then .ok rest else .error .invalid
    | [] => .error .tooShort
  let (hour, cs) ← scanField cs
  let hour ← within 0 23 hour
  let cs ← scanLiteral ':' (skipBlank cs)
  let (minute, cs) ← scanField cs
  let minute ← within 0 59 minute
  let cs ← scanLiteral ':' (skipBlank cs)
  let (second, cs) ← scanField cs
  let second ← within 0 60 second
  let (nanos, cs) ← scanFraction cs
  let cs := skipBlank cs
  let (offset, cs) ← scanOffset cs
  if !(skipBlank cs).isEmpty then throw .tooLong
  if year < -262143 ∨ 262142 < year ∨ monthDays year month < day then throw .outOfRange
  if 86400 ≤ offset.natAbs then throw .outOfRange
  let (second, nanos) := if second = 60 then (59, nanos + 1000000000) else (second, nanos)
  let localSeconds := daysOfCivil year month day * 86400 + hour * 3600 + minute * 60 + second
  let seconds := localSeconds - offset
  if seconds < firstSecond ∨ lastSecond < seconds then throw .impossible
  return ⟨seconds, nanos⟩

/-- A number with at least `w` digits, padded with zeros. -/
def padded (w n : Nat) : String :=
  let s := toString n
  String.ofList (List.replicate (w - s.length) '0') ++ s

/-- The instant in UTC in RFC 3339 form, with the fewest of 0, 3, 6 or 9 fraction digits that
are exact. -/
def render (t : Timestamp) : String :=
  let days := t.seconds / 86400
  let secs := (t.seconds % 86400).toNat
  let (y, m, d) := civilOfDays days
  let leap := t.nanos ≥ 1000000000
  let nanos := t.nanos % 1000000000
  let second := secs % 60 + (if leap then 1 else 0)
  let year :=
    if 0 ≤ y ∧ y ≤ 9999 then padded 4 y.toNat
    else (if y < 0 then "-" else "+") ++ padded 4 y.natAbs
  let fraction :=
    if nanos = 0 then ""
    else if nanos % 1000000 = 0 then "." ++ padded 3 (nanos / 1000000)
    else if nanos % 1000 = 0 then "." ++ padded 6 (nanos / 1000)
    else "." ++ padded 9 nanos
  year ++ "-" ++ padded 2 m ++ "-" ++ padded 2 d ++ "T" ++ padded 2 (secs / 3600) ++ ":" ++
    padded 2 (secs / 60 % 60) ++ ":" ++ padded 2 second ++ fraction ++ "Z"

/-- A timestamp as a JSON text. -/
def toJson (t : Timestamp) : Json := .string t.render

/-- Read a timestamp from a JSON text. -/
def decode : Decoder Timestamp
  | .string s =>
    match parse s with
    | .ok t => .ok t
    | .error f => .error f.text
  | j => .error (Decoder.invalidType j "an RFC 3339 formatted date and time string")

end Timestamp

end EntityGateway
