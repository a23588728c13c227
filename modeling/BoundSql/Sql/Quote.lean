/-!
Quoting for MySQL: identifiers between backticks, texts between single quotes, and
patterns whose wildcards are taken literally. Each is a rule per character, so nothing
in a text can end its quotation.
-/

namespace BoundSql.Sql

/-! ## Identifiers -/

def quoteIdentifierChar (c : Char) : List Char := if c = '\x60' then ['\x60', '\x60'] else [c]

def identifierChars (name : List Char) : List Char :=
  '\x60' :: name.flatMap quoteIdentifierChar ++ ['\x60']

def quoteIdentifier (name : String) : String := String.ofList (identifierChars name.toList)

def qualified (table name : String) : String := table ++ "." ++ quoteIdentifier name

example : quoteIdentifier "odd\x60name" = "\x60odd\x60\x60name\x60" := by decide

/-! ## Texts -/

def escapeTextChar (c : Char) : List Char :=
  if c = '\\' then ['\\', '\\']
  else if c = '\'' then ['\\', '\'']
  else if c = '\n' then ['\\', 'n']
  else if c = '\r' then ['\\', 'r']
  else if c.toNat = 0 then ['\\', '0']
  else [c]

def escapeText (text : String) : String := String.ofList (text.toList.flatMap escapeTextChar)

def quoteText (text : String) : String := "'" ++ escapeText text ++ "'"

/-! ## Patterns -/

def escapePatternChar (c : Char) : List Char :=
  if c = '\\' || c = '%' || c = '_' then ['\\', c] else [c]

/-- A pattern that matches a text and nothing else. -/
def escapePattern (text : String) : String :=
  String.ofList (text.toList.flatMap escapePatternChar)

example : escapePattern "50%_" = "50\\%\\_" := by decide

end BoundSql.Sql
