import BoundSql.Json
import BoundSql.Number.Hexadecimal

/-!
Strings inside a JSON text. Quotes, reverse slashes and controls are escaped, all else
stands for itself. Reading accepts every escape of the grammar; characters beyond the
first plane may be given by two surrogates, and a surrogate on its own denotes nothing.
-/

namespace BoundSql.Json

open Number

/-! ## Writing -/

def escapeChar (c : Char) : List Char :=
  if c = '"' then ['\\', '"']
  else if c = '\\' then ['\\', '\\']
  else if c.toNat = 0x08 then ['\\', 'b']
  else if c.toNat = 0x0C then ['\\', 'f']
  else if c = '\n' then ['\\', 'n']
  else if c = '\r' then ['\\', 'r']
  else if c = '\t' then ['\\', 't']
  else if c.toNat < 0x20 then
    ['\\', 'u', '0', '0', hexDigit (c.toNat / 16), hexDigit (c.toNat % 16)]
  else [c]

def escape (text : List Char) : List Char := text.flatMap escapeChar

def ofText (text : List Char) : Json := .string (escape text)

def ofString (text : String) : Json := ofText text.toList

/-! ## Reading -/

def unitOf? (a b c d : Char) : Option Nat :=
  match hexValue? a, hexValue? b, hexValue? c, hexValue? d with
  | some a, some b, some c, some d => some (((a * 16 + b) * 16 + c) * 16 + d)
  | _, _, _, _ => none

def isHighSurrogate (unit : Nat) : Bool := 0xD800 ≤ unit && unit < 0xDC00

def isLowSurrogate (unit : Nat) : Bool := 0xDC00 ≤ unit && unit < 0xE000

/-- What a reverse slash and one more character stand for. -/
def simpleEscape? (c : Char) : Option Char :=
  if c = '"' || c = '\\' || c = '/' then some c
  else if c = 'b' then some (Char.ofNat 0x08)
  else if c = 'f' then some (Char.ofNat 0x0C)
  else if c = 'n' then some '\n'
  else if c = 'r' then some '\r'
  else if c = 't' then some '\t'
  else none

def unescape? : List Char → Option (List Char)
  | [] => some []
  | '\\' :: 'u' :: a :: b :: c :: d :: '\\' :: 'u' :: e :: f :: g :: h :: rest =>
      match unitOf? a b c d, unitOf? e f g h with
      | some high, some low =>
          if isHighSurrogate high && isLowSurrogate low then
            let code := 0x10000 + (high - 0xD800) * 0x400 + (low - 0xDC00)
            (unescape? rest).map (Char.ofNat code :: ·)
          else if isHighSurrogate high || isLowSurrogate high then none
          else (unescape? ('\\' :: 'u' :: e :: f :: g :: h :: rest)).map (Char.ofNat high :: ·)
      | _, _ => none
  | '\\' :: 'u' :: a :: b :: c :: d :: rest =>
      match unitOf? a b c d with
      | some unit =>
          if isHighSurrogate unit || isLowSurrogate unit then none
          else (unescape? rest).map (Char.ofNat unit :: ·)
      | none => none
  | '\\' :: c :: rest =>
      match simpleEscape? c with
      | some meaning => (unescape? rest).map (meaning :: ·)
      | none => none
  | c :: rest => (unescape? rest).map (c :: ·)

def unquote? (inside : List Char) : Option String := (unescape? inside).map String.ofList

example : unquote? "a\\ud83d\\ude00\\n".toList = some "a😀\n" := by decide

example : unquote? "\\ud83d".toList = none := by decide

end BoundSql.Json
