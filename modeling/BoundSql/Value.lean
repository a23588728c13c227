import BoundSql.Number.Shortest
import BoundSql.Calendar
import BoundSql.Uuid

/-!
Values: what a column holds, what a placeholder stands for, what an expression
captures. Lists occur in expressions only.
-/

namespace BoundSql

inductive Kind where
  | bool
  | int
  | float
  | text
  | dateTime
  | uuid
  deriving DecidableEq

inductive Value where
  | null
  | bool (b : Bool)
  | int (n : Int64)
  | float (x : Binary64)
  | text (s : String)
  | list (items : List Value)
  | dateTime (moment : DateTime)
  | uuid (id : Uuid)
  deriving Inhabited

namespace Kind

def name : Kind → String
  | .bool => "bool"
  | .int => "int"
  | .float => "float"
  | .text => "text"
  | .dateTime => "datetime"
  | .uuid => "uuid"

/-- The name of a kind in declarations. -/
def tag : Kind → String
  | .dateTime => "date_time"
  | kind => kind.name

def all : List Kind := [.bool, .int, .float, .text, .dateTime, .uuid]

end Kind

namespace Value

def isNull : Value → Bool
  | .null => true
  | _ => false

def text? : Value → Option String
  | .text s => some s
  | _ => none

def typeName : Value → String
  | .null => "null"
  | .bool _ => "bool"
  | .int _ => "int"
  | .float _ => "float"
  | .text _ => "text"
  | .list _ => "list"
  | .dateTime _ => "datetime"
  | .uuid _ => "uuid"

/-- The kind of column that stores a value as it is. Null and lists have none. -/
def kind? : Value → Option Kind
  | .null => none
  | .bool _ => some .bool
  | .int _ => some .int
  | .float _ => some .float
  | .text _ => some .text
  | .list _ => none
  | .dateTime _ => some .dateTime
  | .uuid _ => some .uuid

/-! ## Text

How a value reads in a message and inside a literal: floats without an exponent, dates
without the fraction of the second, texts without quotes. -/

def floatLayout : Number.Layout :=
  { tie := .away, plainWindow := none, wholePoint := false, plusMark := false }

def boolText (b : Bool) : String := if b then "true" else "false"

def floatText (x : Binary64) : String :=
  if x.isNaN then "NaN"
  else if x.isFinite then String.ofList (floatLayout.write x)
  else if x.negative then "-inf"
  else "inf"

def intText (n : Int64) : String := String.ofList (Number.signedDigits n.toInt)

mutual
def display : Value → String
  | .null => "NULL"
  | .bool b => boolText b
  | .int n => intText n
  | .float x => floatText x
  | .text s => s
  | .list items => "[" ++ displayItems items ++ "]"
  | .dateTime moment => String.ofList moment.plainText
  | .uuid id => String.ofList id.toText

def displayItems : List Value → String
  | [] => ""
  | [item] => display item
  | item :: next :: rest => display item ++ ", " ++ displayItems (next :: rest)
end

example : display (.list [.int 1, .null, .text "a"]) = "[1, NULL, a]" := by decide +kernel

end Value

end BoundSql
