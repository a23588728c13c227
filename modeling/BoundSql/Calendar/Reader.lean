import BoundSql.Calendar
import BoundSql.Text.Blank

/-!
Reading dates. A form is a row of items; each item takes what it needs from the text
and records what it read. Blanks in front of a number are passed over, and a blank
in a form stands for any number of blanks, also for none.
-/

namespace BoundSql

namespace Calendar

open Number Text

inductive FormItem where
  | year
  | month
  | day
  | hour
  | minute
  | second
  | fraction
  | blanks
  | mark (c : Char)
  deriving DecidableEq

/-! ## Taking numbers -/

/-- Takes one digit or more, at most `width` of them. -/
def takeNumber? (width : Nat) (text : List Char) : Option (Nat × List Char) :=
  let row := (text.takeWhile Char.isDigit).take width
  if row.isEmpty then none else some (valueOf row, text.drop row.length)

def takeYear? (text : List Char) : Option (Int × List Char) :=
  match text with
  | '-' :: rest => (takeNumber? rest.length rest).map fun (n, rest) => (-(n : Int), rest)
  | '+' :: rest => (takeNumber? rest.length rest).map fun (n, rest) => ((n : Int), rest)
  | _ => (takeNumber? 4 text).map fun (n, rest) => ((n : Int), rest)

/-- Takes a point and digits, or nothing. Digits after the ninth do not count. -/
def takeFraction? (text : List Char) : Option (Nat × List Char) :=
  match text with
  | '.' :: rest =>
      let row := rest.takeWhile Char.isDigit
      let counted := row.take 9
      if row.isEmpty then none
      else some (valueOf counted * Nat.pow 10 (9 - counted.length), rest.drop row.length)
  | _ => some (0, text)

/-! ## Forms -/

def takeItem? (fields : Fields) (text : List Char) : FormItem → Option (Fields × List Char)
  | .year => (takeYear? (trimStart text)).map fun (n, rest) => ({ fields with year := n }, rest)
  | .month => two fun n => { fields with month := n }
  | .day => two fun n => { fields with day := n }
  | .hour => two fun n => { fields with hour := n }
  | .minute => two fun n => { fields with minute := n }
  | .second => two fun n => { fields with second := n }
  | .fraction => (takeFraction? text).map fun (n, rest) => ({ fields with nanosecond := n }, rest)
  | .blanks => some (fields, trimStart text)
  | .mark c =>
      match text with
      | [] => none
      | first :: rest => if first = c then some (fields, rest) else none
where
  two (record : Nat → Fields) : Option (Fields × List Char) :=
    (takeNumber? 2 (trimStart text)).map fun (n, rest) => (record n, rest)

def readForm? (fields : Fields) (text : List Char) : List FormItem → Option Fields
  | [] => if text.isEmpty then some fields else none
  | item :: items =>
      match takeItem? fields text item with
      | none => none
      | some (fields, rest) => readForm? fields rest items

def dateForm : List FormItem := [.year, .mark '-', .month, .mark '-', .day]

def timeForm : List FormItem := [.hour, .mark ':', .minute, .mark ':', .second]

/-- The forms in which a date is read, the first that fits being the one that counts. -/
def forms : List (List FormItem) :=
  [dateForm ++ .blanks :: timeForm,
   dateForm ++ .mark 'T' :: timeForm ++ [.fraction],
   dateForm ++ .blanks :: timeForm ++ [.fraction],
   dateForm]

end Calendar

namespace DateTime

open Calendar

def ofForm? (text : List Char) (form : List FormItem) : Option DateTime :=
  (readForm? {} text form).bind fun fields => ofFields? fields.meant

/-- The date that a text gives, blanks around it aside. A date without a time of day
is its midnight. -/
def ofText? (text : List Char) : Option DateTime :=
  forms.findSome? (ofForm? (Text.trim text))

example : (ofText? " 2024-3-1".toList).map plainText = some "2024-03-01 00:00:00".toList := by
  decide

example : (ofText? "2024-02-30".toList).isNone := by decide

end DateTime

end BoundSql
