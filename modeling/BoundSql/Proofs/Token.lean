import BoundSql.Sql.Quote

/-!
Tokens: what a database makes of the characters of a statement before it looks at their
order. `Token.read?` follows the lexical rules of MySQL and needs to know what a
placeholder starts with. A text that ends inside a quotation or a comment has no tokens.
-/

namespace BoundSql.Sql

inductive Token where
  | word (text : String)
  | number (text : String)
  | identifier (name : String)
  | placeholder (name : String)
  | literal (text : String)
  | symbol (text : String)
  | comment
  deriving DecidableEq

namespace Token

/-! ## Characters -/

def isBlank (c : Char) : Bool := c ∈ [' ', '\t', '\n', '\x0b', '\x0c', '\r']

def isNameChar (c : Char) : Bool :=
  c.isAlphanum || c = '_' || c = '$' || 0x80 ≤ c.toNat

def isVariableChar (c : Char) : Bool := c.isAlphanum || c = '_' || c = '$' || c = '.'

/-! ## Quotations and comments -/

def unescaped (c : Char) : Char :=
  if c = 'n' then '\n'
  else if c = 'r' then '\r'
  else if c = 't' then '\t'
  else if c = 'b' then '\x08'
  else if c = 'Z' then '\x1a'
  else if c = '0' then '\x00'
  else c

/-- Reads to the end of a quotation and returns what it says and what follows. A mark
written twice stands for one. -/
def enclosed (mark : Char) (escapes : Bool) : List Char → Option (List Char × List Char)
  | [] => none
  | [c] => if c = mark then some ([], []) else none
  | c :: d :: rest =>
      if c = mark then
        if d = mark then (enclosed mark escapes rest).map (Prod.map (mark :: ·) id)
        else some ([], d :: rest)
      else if escapes && c = '\\' then
        (enclosed mark escapes rest).map (Prod.map (unescaped d :: ·) id)
      else
        (enclosed mark escapes (d :: rest)).map (Prod.map (c :: ·) id)

def afterComment : List Char → Option (List Char)
  | [] => none
  | [_] => none
  | c :: d :: rest =>
      if c = '*' && d = '/' then some rest else afterComment (d :: rest)

/-- Two dashes start a comment only before a blank or a control character. -/
def startsLineComment : List Char → Bool
  | [] => false
  | c :: rest =>
      c = '#' ||
        (c = '-' && rest.head? = some '-' &&
          rest.tail.head?.all fun d => d ≤ ' ' || d = '\x7f')

/-! ## Reading -/

def longSymbols : List (List Char) :=
  [['<', '=', '>'], ['<', '>'], ['<', '='], ['<', '<'], ['>', '='], ['>', '>'],
   ['!', '='], [':', '='], ['|', '|'], ['&', '&']]

def symbolAt (text : List Char) : List Char :=
  (longSymbols.find? (·.isPrefixOf text)).getD (text.take 1)

def readOne (sigil : List Char) (text : List Char) : Option (Token × List Char) :=
  if sigil.isPrefixOf text then
    let name := text.drop sigil.length
    some (.placeholder (String.ofList (sigil ++ name.takeWhile isVariableChar)),
      name.dropWhile isVariableChar)
  else if startsLineComment text then
    some (.comment, text.dropWhile (· != '\n'))
  else
    match text with
    | [] => none
    | c :: rest =>
        if c = '\x60' then
          (enclosed c false rest).map (Prod.map (.identifier ∘ String.ofList) id)
        else if c = '\'' || c = '"' then
          (enclosed c true rest).map (Prod.map (.literal ∘ String.ofList) id)
        else if c = '/' && rest.head? = some '*' then
          (afterComment rest.tail).map (.comment, ·)
        else if isNameChar c then
          let name := String.ofList (c :: rest.takeWhile isNameChar)
          some (if c.isDigit then .number name else .word name, rest.dropWhile isNameChar)
        else
          let symbol := symbolAt (c :: rest)
          some (.symbol (String.ofList symbol), (c :: rest).drop symbol.length)

def readAll (sigil : List Char) : List Char → Option (List Token)
  | [] => some []
  | c :: rest =>
      if isBlank c then readAll sigil rest
      else
        match readOne sigil (c :: rest) with
        | none => none
        | some (token, others) =>
            if others.length ≤ rest.length then (readAll sigil others).map (token :: ·)
            else none
termination_by text => text.length

def read? (sigil text : String) : Option (List Token) := readAll sigil.toList text.toList

end Token

end BoundSql.Sql
