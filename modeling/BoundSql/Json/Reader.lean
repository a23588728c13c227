import BoundSql.Json.Text
import BoundSql.Number.Digits

/-!
Reading JSON texts. Each reader takes what it needs from the front of a text and
returns the rest; `Json.read?` wants nothing left but blanks.
-/

namespace BoundSql.Json

/-! ## Tokens -/

def isBlank (c : Char) : Bool := c = ' ' || c = '\t' || c = '\n' || c = '\r'

def skipBlanks (text : List Char) : List Char := text.dropWhile isBlank

/-- The inside of a string, up to its closing quote. Escapes have to be well formed,
and controls have to be escaped. -/
def takeInside? : List Char → Option (List Char × List Char)
  | [] => none
  | '"' :: rest => some ([], rest)
  | '\\' :: 'u' :: a :: b :: c :: d :: rest =>
      match unitOf? a b c d, takeInside? rest with
      | some _, some (inside, rest) =>
          some ('\\' :: 'u' :: a :: b :: c :: d :: inside, rest)
      | _, _ => none
  | '\\' :: c :: rest =>
      match simpleEscape? c, takeInside? rest with
      | some _, some (inside, rest) => some ('\\' :: c :: inside, rest)
      | _, _ => none
  | c :: rest =>
      if c.toNat < 0x20 || c = '\\' then none
      else (takeInside? rest).map fun (inside, rest) => (c :: inside, rest)

/-- A whole part: a single zero, or digits that do not start with one. -/
def takeWhole? (text : List Char) : Option (List Char × List Char) :=
  match text with
  | '0' :: rest => some (['0'], rest)
  | _ =>
      let row := text.takeWhile Char.isDigit
      if row.isEmpty then none else some (row, text.drop row.length)

def takeDigits? (text : List Char) : Option (List Char × List Char) :=
  let row := text.takeWhile Char.isDigit
  if row.isEmpty then none else some (row, text.drop row.length)

def takeFraction? (text : List Char) : Option (List Char × List Char) :=
  match text with
  | '.' :: rest => (takeDigits? rest).map fun (row, rest) => ('.' :: row, rest)
  | _ => some ([], text)

def takeExponent? (text : List Char) : Option (List Char × List Char) :=
  match text with
  | c :: rest =>
      if c = 'e' || c = 'E' then
        match rest with
        | '-' :: rest => (takeDigits? rest).map fun (row, rest) => (c :: '-' :: row, rest)
        | '+' :: rest => (takeDigits? rest).map fun (row, rest) => (c :: '+' :: row, rest)
        | _ => (takeDigits? rest).map fun (row, rest) => (c :: row, rest)
      else some ([], text)
  | [] => some ([], text)

def takeNumeral? (text : List Char) : Option (List Char × List Char) := do
  let (sign, unsigned) :=
    match text with
    | '-' :: rest => (['-'], rest)
    | _ => ([], text)
  let (whole, rest) ← takeWhole? unsigned
  let (fraction, rest) ← takeFraction? rest
  let (exponent, rest) ← takeExponent? rest
  return (sign ++ whole ++ fraction ++ exponent, rest)

/-! ## Trees

The readers of trees call each other along the text; `fuel` bounds the calls, and
twice the length of the text is enough of it. -/

def takeLiteral? (text : List Char) : Option (Json × List Char) :=
  if "null".toList.isPrefixOf text then some (.null, text.drop 4)
  else if "true".toList.isPrefixOf text then some (.bool true, text.drop 4)
  else if "false".toList.isPrefixOf text then some (.bool false, text.drop 5)
  else none

def takeLeaf? (text : List Char) : Option (Json × List Char) :=
  match text with
  | [] => none
  | c :: rest =>
      if c = '"' then (takeInside? rest).map fun (inside, rest) => (.string inside, rest)
      else if c = '-' || c.isDigit then
        (takeNumeral? text).map fun (row, rest) => (.numeral row, rest)
      else takeLiteral? text

def takeName? (text : List Char) : Option (List Char × List Char) :=
  match skipBlanks text with
  | [] => none
  | c :: rest =>
      if c = '"' then do
        let (name, rest) ← takeInside? rest
        match skipBlanks rest with
        | [] => none
        | c :: rest => if c = ':' then some (name, rest) else none
      else none

mutual
def takeTree? : (fuel : Nat) → List Char → Option (Json × List Char)
  | 0, _ => none
  | fuel + 1, text =>
      match skipBlanks text with
      | [] => none
      | c :: rest =>
          if c = '[' then (takeItems? fuel rest).map fun (items, rest) => (.array items, rest)
          else if c = '\x7b' then
            (takeMembers? fuel rest).map fun (members, rest) => (.object members, rest)
          else takeLeaf? (c :: rest)

def takeItems? : (fuel : Nat) → List Char → Option (List Json × List Char)
  | 0, _ => none
  | fuel + 1, text =>
      match skipBlanks text with
      | [] => none
      | c :: rest => if c = ']' then some ([], rest) else takeMoreItems? fuel (c :: rest)

def takeMoreItems? : (fuel : Nat) → List Char → Option (List Json × List Char)
  | 0, _ => none
  | fuel + 1, text => do
      let (item, rest) ← takeTree? fuel text
      match skipBlanks rest with
      | [] => none
      | c :: rest =>
          if c = ']' then some ([item], rest)
          else if c = ',' then
            let (items, rest) ← takeMoreItems? fuel rest
            some (item :: items, rest)
          else none

def takeMembers? : (fuel : Nat) → List Char → Option (List (List Char × Json) × List Char)
  | 0, _ => none
  | fuel + 1, text =>
      match skipBlanks text with
      | [] => none
      | c :: rest => if c = '\x7d' then some ([], rest) else takeMoreMembers? fuel (c :: rest)

def takeMoreMembers? :
    (fuel : Nat) → List Char → Option (List (List Char × Json) × List Char)
  | 0, _ => none
  | fuel + 1, text => do
      let (name, rest) ← takeName? text
      let (value, rest) ← takeTree? fuel rest
      match skipBlanks rest with
      | [] => none
      | c :: rest =>
          if c = '\x7d' then some ([(name, value)], rest)
          else if c = ',' then
            let (members, rest) ← takeMoreMembers? fuel rest
            some ((name, value) :: members, rest)
          else none
end

def read? (text : List Char) : Option Json :=
  match takeTree? (2 * text.length + 2) text with
  | some (tree, rest) => if (skipBlanks rest).isEmpty then some tree else none
  | none => none

example : (read? "[1, 2.50]".toList).map compact = some "[1,2.50]" := by decide +kernel

example : (read? "[01]".toList).isNone := by decide +kernel

end BoundSql.Json
