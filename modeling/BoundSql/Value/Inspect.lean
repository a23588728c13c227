import BoundSql.Value
import BoundSql.Text.PrintableTable

/-!
How values read in notices: the type of a value, then its content in parentheses. Texts
stand between quotes, and what cannot be seen in them is written as an escape.
-/

namespace BoundSql

namespace Text

/-- Whether a character shows on its own. Marks that attach to the character before
them do not. -/
def isVisible (c : Char) : Bool :=
  c = ' ' || !unprintableRanges.holds c && !attachingMarkRanges.holds c

def inspectChar (c : Char) : List Char :=
  if c = '"' then ['\\', '"']
  else if c = '\\' then ['\\', '\\']
  else if c = '\n' then ['\\', 'n']
  else if c = '\r' then ['\\', 'r']
  else if c = '\t' then ['\\', 't']
  else if c.toNat = 0 then ['\\', '0']
  else if isVisible c then [c]
  else "\\u\x7b".toList ++ Nat.toDigits 16 c.toNat ++ ['\x7d']

def inspect (text : String) : String :=
  String.ofList ('"' :: text.toList.flatMap inspectChar ++ ['"'])

example : inspect "a\t\"é\"" = "\"a\\t\\\"é\\\"\"" := by decide +kernel

end Text

namespace Value

/-- Digits around a point from `0.0001` up to sixteen of them, an exponent outside;
whole numbers keep a zero after the point. -/
def inspectLayout : Number.Layout :=
  { tie := .away, plainWindow := some (-4, 15), wholePoint := true, plusMark := false }

def inspectFloat (x : Binary64) : String :=
  if x.isFinite then String.ofList (inspectLayout.write x) else floatText x

mutual
def inspect : Value → String
  | .null => "Null"
  | .bool b => "Bool(" ++ boolText b ++ ")"
  | .int n => "Int(" ++ intText n ++ ")"
  | .float x => "Float(" ++ inspectFloat x ++ ")"
  | .text s => "Text(" ++ Text.inspect s ++ ")"
  | .list items => "List([" ++ inspectItems items ++ "])"
  | .dateTime moment => "DateTime(" ++ String.ofList moment.fullText ++ ")"
  | .uuid id => "Uuid(" ++ String.ofList id.toText ++ ")"

def inspectItems : List Value → String
  | [] => ""
  | [item] => inspect item
  | item :: next :: rest => inspect item ++ ", " ++ inspectItems (next :: rest)
end

def inspectOption : Option Value → String
  | none => "None"
  | some value => "Some(" ++ inspect value ++ ")"

example : inspectOption (some (.list [.int 1, .null])) = "Some(List([Int(1), Null]))" := by
  decide +kernel

end Value

end BoundSql
