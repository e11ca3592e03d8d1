import EventBroker.Text.Integer

/-!
Moments in UTC, to the nanosecond, with leap seconds. Times are read in the internet format, with
any offset of less than a day, and written with the offset `+00:00`.
-/

namespace EventBroker

def daysInMonth (year : Int) (month : Nat) : Nat :=
  if month = 2 then
    if year % 4 = 0 ∧ (year % 100 ≠ 0 ∨ year % 400 = 0) then 29 else 28
  else if month = 4 ∨ month = 6 ∨ month = 9 ∨ month = 11 then 30
  else 31

structure Date where
  year : Int
  month : Nat
  day : Nat
deriving DecidableEq, Repr

namespace Date

def isValid (d : Date) : Bool :=
  1 ≤ d.month && d.month ≤ 12 && 1 ≤ d.day && d.day ≤ daysInMonth d.year d.month

def next (d : Date) : Date :=
  if d.day < daysInMonth d.year d.month then { d with day := d.day + 1 }
  else if d.month < 12 then ⟨d.year, d.month + 1, 1⟩
  else ⟨d.year + 1, 1, 1⟩

def previous (d : Date) : Date :=
  if 1 < d.day then { d with day := d.day - 1 }
  else if 1 < d.month then ⟨d.year, d.month - 1, daysInMonth d.year (d.month - 1)⟩
  else ⟨d.year - 1, 12, 31⟩

end Date

/-- A moment. The second 60 is a leap second. -/
structure Timestamp where
  date : Date
  hour : Nat
  minute : Nat
  second : Nat
  nano : Nat
  valid : (date.isValid && hour < 24 && minute < 60 && second ≤ 60 && nano < 1000000000) = true
deriving DecidableEq, Repr

namespace Timestamp

/-! ### Writing -/

def padded (width n : Nat) : List Char :=
  let ds := Nat.toDigits 10 n
  List.replicate (width - ds.length) '0' ++ ds

/-- Four digits, with a sign outside 0 to 9999. -/
def yearChars (year : Int) : List Char :=
  if 0 ≤ year ∧ year ≤ 9999 then padded 4 year.natAbs
  else (if year < 0 then '-' else '+') :: padded 4 year.natAbs

/-- No fraction, or the fewest of 3, 6 and 9 digits that hold it. -/
def fractionChars (nano : Nat) : List Char :=
  if nano = 0 then []
  else if nano % 1000000 = 0 then '.' :: padded 3 (nano / 1000000)
  else if nano % 1000 = 0 then '.' :: padded 6 (nano / 1000)
  else '.' :: padded 9 nano

def toChars (t : Timestamp) : List Char :=
  yearChars t.date.year ++ '-' :: padded 2 t.date.month ++ '-' :: padded 2 t.date.day
    ++ 'T' :: padded 2 t.hour ++ ':' :: padded 2 t.minute ++ ':' :: padded 2 t.second
    ++ fractionChars t.nano ++ ['+', '0', '0', ':', '0', '0']

def toText (t : Timestamp) : String := String.ofList t.toChars

/-! ### Reading -/

def fixed? (width : Nat) (cs : List Char) : Option (Nat × List Char) :=
  if width ≤ cs.length then (Text.natural? (cs.take width)).map fun n => (n, cs.drop width)
  else none

def expect? (c : Char) : List Char → Option (List Char)
  | d :: rest => if d = c then some rest else none
  | [] => none

/-- A fraction of a second in nanoseconds; digits after the ninth are dropped. -/
def fraction? : List Char → Option (Nat × List Char)
  | '.' :: rest =>
    let ds := rest.takeWhile (fun c => '0' ≤ c && c ≤ '9')
    (Text.natural? ((ds ++ List.replicate 9 '0').take 9)).bind fun n =>
      if ds.isEmpty then none else some (n, rest.dropWhile fun c => '0' ≤ c && c ≤ '9')
  | cs => some (0, cs)

/-- An offset from UTC in minutes, less than a day. The minus sign may be U+2212. -/
def offset? : List Char → Option (Int × List Char)
  | 'Z' :: rest | 'z' :: rest => some (0, rest)
  | sign :: rest => do
    let negative ← if sign = '+' then some false
      else if sign = '-' ∨ sign = '\u2212' then some true else none
    let (hours, rest) ← fixed? 2 rest
    let rest ← expect? ':' rest
    let (minutes, rest) ← fixed? 2 rest
    if hours < 24 ∧ minutes < 60 then
      let n : Int := hours * 60 + minutes
      some (if negative then -n else n, rest)
    else none
  | [] => none

/-- The moment that a local time with an offset in minutes stands for. -/
def ofLocal? (date : Date) (hour minute second nano : Nat) (offset : Int) : Option Timestamp :=
  if date.isValid ∧ hour < 24 ∧ minute < 60 then
    let total : Int := hour * 60 + minute - offset
    let date := if total < 0 then date.previous else if 1440 ≤ total then date.next else date
    let total := (total % 1440).toNat
    if h : (date.isValid && total / 60 < 24 && total % 60 < 60 && second ≤ 60 &&
        nano < 1000000000) = true then
      some ⟨date, total / 60, total % 60, second, nano, h⟩
    else none
  else none

/-- Reads a date, `T`, `t` or a blank, a time and an offset. -/
def ofChars? (cs : List Char) : Option Timestamp := do
  let (year, cs) ← fixed? 4 cs
  let (month, cs) ← fixed? 2 (← expect? '-' cs)
  let (day, cs) ← fixed? 2 (← expect? '-' cs)
  let cs ← match cs with
    | 'T' :: rest | 't' :: rest | ' ' :: rest => some rest
    | _ => none
  let (hour, cs) ← fixed? 2 cs
  let (minute, cs) ← fixed? 2 (← expect? ':' cs)
  let (second, cs) ← fixed? 2 (← expect? ':' cs)
  let (nano, cs) ← fraction? cs
  let (offset, cs) ← offset? cs
  if cs.isEmpty then ofLocal? ⟨year, month, day⟩ hour minute second nano offset else none

def ofText? (s : String) : Option Timestamp := ofChars? s.toList

end Timestamp

end EventBroker
