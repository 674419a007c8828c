import Rowsmith.Text.Basic

/-!
# Dates and times

A moment is a date, a time, or both, and then perhaps an offset from universal time. It is read
from several spellings and has one of its own: seconds are always written, and the fraction of a
second only as far as it goes.
-/

namespace Rowsmith
namespace Toml

open Text

structure Date where
  year : Nat
  month : Nat
  day : Nat
  deriving DecidableEq, Repr

structure Time where
  hour : Nat
  minute : Nat
  second : Nat
  nanosecond : Nat
  deriving DecidableEq, Repr

/-- An offset of no minutes may be written as a letter. -/
inductive Offset where
  | letter
  | minutes (behind : Bool) (count : Nat)
  deriving DecidableEq, Repr

structure Moment where
  date : Option Date
  time : Option Time
  offset : Option Offset
  deriving DecidableEq, Repr

/-!
# Reading
-/

/-- A number of exactly the given count of digits, and what follows it. -/
def digits? (count : Nat) (cs : List Char) : Option (Nat × List Char) :=
  let digits := cs.takeWhile isDigit
  if digits.length = count then
    (natural? 10 digits).map fun n => (n, cs.dropWhile isDigit)
  else
    none

/-- The same after a mark. -/
def markedDigits? (mark : Char) (count : Nat) (cs : List Char) : Option (Nat × List Char) :=
  match cs with
  | c :: rest => if c = mark then digits? count rest else none
  | [] => none

def isLeapYear (year : Nat) : Bool :=
  year % 4 = 0 && (year % 100 != 0 || year % 400 = 0)

def daysIn (year month : Nat) : Nat :=
  if month = 2 then (if isLeapYear year then 29 else 28)
  else if [4, 6, 9, 11].contains month then 30
  else 31

def Date.isValid (date : Date) : Bool :=
  1 ≤ date.month && date.month ≤ 12 && 1 ≤ date.day && date.day ≤ daysIn date.year date.month

/-- A minute may have a leap second. -/
def Time.isValid (time : Time) : Bool :=
  time.hour ≤ 23 && time.minute ≤ 59 && time.second ≤ 60

def Date.read? (cs : List Char) : Option (Date × List Char) := do
  let (year, rest) ← digits? 4 cs
  let (month, rest) ← markedDigits? '-' 2 rest
  let (day, rest) ← markedDigits? '-' 2 rest
  let date : Date := ⟨year, month, day⟩
  if date.isValid then return (date, rest) else none

/-- The nanoseconds that the digits after a point stand for; those after the ninth do not
count. -/
def nanoseconds? (digits : List Char) : Option Nat :=
  if digits.isEmpty then none
  else natural? 10 ((digits ++ List.replicate 9 '0').take 9)

/-- Seconds may be left out, and so may their fraction. -/
def seconds? (cs : List Char) : Option ((Nat × Nat) × List Char) :=
  match cs with
  | ':' :: rest => do
      let (second, rest) ← digits? 2 rest
      match rest with
      | '.' :: rest =>
          let nanosecond ← nanoseconds? (rest.takeWhile isDigit)
          return ((second, nanosecond), rest.dropWhile isDigit)
      | _ => return ((second, 0), rest)
  | _ => some ((0, 0), cs)

def Time.read? (cs : List Char) : Option (Time × List Char) := do
  let (hour, rest) ← digits? 2 cs
  let (minute, rest) ← markedDigits? ':' 2 rest
  let ((second, nanosecond), rest) ← seconds? rest
  let time : Time := ⟨hour, minute, second, nanosecond⟩
  if time.isValid then return (time, rest) else none

/-- All that is left must be an offset, or nothing. -/
def Offset.read? (cs : List Char) : Option (Option Offset) :=
  match cs with
  | [] => some none
  | ['Z'] | ['z'] => some (some .letter)
  | sign :: rest => do
      let (hour, rest) ← digits? 2 rest
      let (minute, rest) ← markedDigits? ':' 2 rest
      if (sign = '+' ∨ sign = '-') ∧ hour ≤ 23 ∧ minute ≤ 59 ∧ rest.isEmpty then
        return some (.minutes (sign = '-') (60 * hour + minute))
      else
        none

def isTimeMark (c : Char) : Bool :=
  c = 'T' || c = 't' || c = ' '

def Moment.read? (cs : List Char) : Option Moment :=
  match Date.read? cs with
  | some (date, []) => some ⟨some date, none, none⟩
  | some (date, mark :: rest) => do
      if isTimeMark mark then
        let (time, rest) ← Time.read? rest
        let offset ← Offset.read? rest
        return ⟨some date, some time, offset⟩
      else
        none
  | none => do
      let (time, rest) ← Time.read? cs
      if rest.isEmpty then return ⟨none, some time, none⟩ else none

/-!
# Writing
-/

def padded (width n : Nat) : String :=
  let digits := Nat.toDigits 10 n
  String.ofList (List.replicate (width - digits.length) '0' ++ digits)

def Date.text (date : Date) : String :=
  padded 4 date.year ++ "-" ++ padded 2 date.month ++ "-" ++ padded 2 date.day

/-- The fraction of a second goes without the zeros at its end. -/
def fractionText (nanosecond : Nat) : String :=
  if nanosecond = 0 then ""
  else
    let digits := (padded 9 nanosecond).toList.reverse.dropWhile (· = '0')
    "." ++ String.ofList digits.reverse

def Time.text (time : Time) : String :=
  padded 2 time.hour ++ ":" ++ padded 2 time.minute ++ ":" ++ padded 2 time.second ++
    fractionText time.nanosecond

/-- No minutes are never behind. -/
def Offset.text : Offset → String
  | .letter => "Z"
  | .minutes behind count =>
      (if behind && count != 0 then "-" else "+") ++ padded 2 (count / 60) ++ ":" ++
        padded 2 (count % 60)

def Moment.text (moment : Moment) : String :=
  let date := (moment.date.map Date.text).getD ""
  let time := (moment.time.map Time.text).getD ""
  let mark := if moment.date.isSome && moment.time.isSome then "T" else ""
  date ++ mark ++ time ++ (moment.offset.map Offset.text).getD ""

end Toml
end Rowsmith
