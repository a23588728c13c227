import BoundSql.Number.Digits

/-!
Dates with a time of day, in the Gregorian calendar and without a time zone. A second may go on
for two thousand million nanoseconds. From half of them on, texts show the second that follows: a
leap second, shown as 60, is the second half of second 59.
-/

namespace BoundSql

namespace Calendar

def isLeapYear (year : Int) : Bool :=
  year % 4 = 0 && (year % 100 ≠ 0 || year % 400 = 0)

def daysIn (year : Int) (month : Nat) : Nat :=
  if month = 2 then (if isLeapYear year then 29 else 28)
  else if month = 4 || month = 6 || month = 9 || month = 11 then 30
  else 31

/-- What a date with a time of day says, whether or not the date exists. -/
structure Fields where
  year : Int := 0
  month : Nat := 0
  day : Nat := 0
  hour : Nat := 0
  minute : Nat := 0
  second : Nat := 0
  nanosecond : Nat := 0
  deriving DecidableEq

def Fields.IsDate (fields : Fields) : Prop :=
  -262143 ≤ fields.year ∧ fields.year ≤ 262142 ∧
  1 ≤ fields.month ∧ fields.month ≤ 12 ∧
  1 ≤ fields.day ∧ fields.day ≤ daysIn fields.year fields.month

def Fields.IsTime (fields : Fields) : Prop :=
  fields.hour < 24 ∧ fields.minute < 60 ∧ fields.second < 60 ∧
  fields.nanosecond < 2000000000

/-- What a text shows of the fields. -/
def Fields.shown (fields : Fields) : Fields :=
  if fields.nanosecond < 1000000000 then fields
  else { fields with
    second := fields.second + 1
    nanosecond := fields.nanosecond - 1000000000 }

/-- What is meant by the fields of a text. -/
def Fields.meant (fields : Fields) : Fields :=
  if fields.second = 60 then
    { fields with second := 59, nanosecond := fields.nanosecond + 1000000000 }
  else fields

instance (fields : Fields) : Decidable fields.IsDate := by
  unfold Fields.IsDate; infer_instance

instance (fields : Fields) : Decidable fields.IsTime := by
  unfold Fields.IsTime; infer_instance

end Calendar

open Calendar Number

structure DateTime where
  fields : Fields
  isDate : fields.IsDate
  isTime : fields.IsTime
  deriving DecidableEq

namespace DateTime

def ofFields? (fields : Fields) : Option DateTime :=
  if isDate : fields.IsDate then
    if isTime : fields.IsTime then some ⟨fields, isDate, isTime⟩ else none
  else none

def compare (x y : DateTime) : Ordering :=
  let a := x.fields
  let b := y.fields
  (Ord.compare a.year b.year).then <| (Ord.compare a.month b.month).then <|
  (Ord.compare a.day b.day).then <| (Ord.compare a.hour b.hour).then <|
  (Ord.compare a.minute b.minute).then <| (Ord.compare a.second b.second).then <|
  Ord.compare a.nanosecond b.nanosecond

/-! ## Texts

Years outside 0 to 9999 carry a sign. The plain form leaves the fraction of the
second out; the full form writes it with three, six or nine digits. -/

def yearText (year : Int) : List Char :=
  if 0 ≤ year && year ≤ 9999 then padded 4 year.natAbs
  else (if year < 0 then '-' else '+') :: padded 4 year.natAbs

def dateText (fields : Fields) : List Char :=
  yearText fields.year ++ '-' :: padded 2 fields.month ++ '-' :: padded 2 fields.day

def timeText (fields : Fields) : List Char :=
  padded 2 fields.hour ++ ':' :: padded 2 fields.minute ++ ':' :: padded 2 fields.second

def fractionText (nanosecond : Nat) : List Char :=
  if nanosecond = 0 then []
  else if nanosecond % 1000000 = 0 then '.' :: padded 3 (nanosecond / 1000000)
  else if nanosecond % 1000 = 0 then '.' :: padded 6 (nanosecond / 1000)
  else '.' :: padded 9 nanosecond

def plainText (moment : DateTime) : List Char :=
  dateText moment.fields.shown ++ ' ' :: timeText moment.fields.shown

def fullText (moment : DateTime) : List Char :=
  dateText moment.fields.shown ++ 'T' :: timeText moment.fields.shown ++
    fractionText moment.fields.shown.nanosecond

end DateTime

end BoundSql
