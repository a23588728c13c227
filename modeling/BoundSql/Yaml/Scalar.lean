import BoundSql.Yaml.Layout
import BoundSql.Number.Hexadecimal

/-!
The three ways to write a scalar: between single quotes, between double quotes with
escapes, or plainly. Each reader takes a scalar from the front of a page and returns
its text and the rest.
-/

namespace BoundSql.Yaml

open Number

/-! ## Quoted -/

def takeSingle? (gap : Gap) : List Placed → Option (List Char × List Placed)
  | [] => none
  | p :: rest =>
      if atMarker (p :: rest) then none
      else if p.isBlank || p.isBreak then takeSingle? (gap.add p) rest
      else if p.char = '\'' then
        match rest with
        | [] => some (gap.text, [])
        | q :: rest =>
            if q.char = '\'' then
              (takeSingle? .empty rest).map fun (text, rest) => (gap.text ++ '\'' :: text, rest)
            else some (gap.text, q :: rest)
      else (takeSingle? .empty rest).map fun (text, rest) => (gap.text ++ p.char :: text, rest)

inductive Escape where
  | char (c : Char)
  | code (digits : Nat)

def escape? (c : Char) : Option Escape :=
  if c = '0' then some (.char (Char.ofNat 0x00))
  else if c = 'a' then some (.char (Char.ofNat 0x07))
  else if c = 'b' then some (.char (Char.ofNat 0x08))
  else if c = 't' || c = '\t' then some (.char '\t')
  else if c = 'n' then some (.char '\n')
  else if c = 'v' then some (.char (Char.ofNat 0x0B))
  else if c = 'f' then some (.char (Char.ofNat 0x0C))
  else if c = 'r' then some (.char '\r')
  else if c = 'e' then some (.char (Char.ofNat 0x1B))
  else if c = ' ' || c = '"' || c = '/' || c = '\\' then some (.char c)
  else if c = 'N' then some (.char (Char.ofNat 0x85))
  else if c = '_' then some (.char (Char.ofNat 0xA0))
  else if c = 'L' then some (.char (Char.ofNat 0x2028))
  else if c = 'P' then some (.char (Char.ofNat 0x2029))
  else if c = 'x' then some (.code 2)
  else if c = 'u' then some (.code 4)
  else if c = 'U' then some (.code 8)
  else none

inductive Inside where
  | between (gap : Gap)
  | escape
  | code (missing value : Nat)

def charOf? (code : Nat) : Option Char :=
  if code.isValidChar then some (Char.ofNat code) else none

def takeDouble? : Inside → List Placed → Option (List Char × List Placed)
  | _, [] => none
  | .code missing value, p :: rest =>
      match hexValue? p.char with
      | none => none
      | some digit =>
          let value := 16 * value + digit
          if missing ≤ 1 then
            match charOf? value, takeDouble? (.between .empty) rest with
            | some c, some (text, rest) => some (c :: text, rest)
            | _, _ => none
          else takeDouble? (.code (missing - 1) value) rest
  | .escape, p :: rest =>
      if p.isBreak then takeDouble? (.between (.folded true 0)) rest
      else
        match escape? p.char with
        | some (.char c) =>
            (takeDouble? (.between .empty) rest).map fun (text, rest) => (c :: text, rest)
        | some (.code digits) => takeDouble? (.code digits 0) rest
        | none => none
  | .between gap, p :: rest =>
      if atMarker (p :: rest) then none
      else if p.isBlank || p.isBreak then takeDouble? (.between (gap.add p)) rest
      else if p.char = '"' then some (gap.text, rest)
      else if p.char = '\\' then
        (takeDouble? .escape rest).map fun (text, rest) => (gap.text ++ text, rest)
      else
        (takeDouble? (.between .empty) rest).map fun (text, rest) =>
          (gap.text ++ p.char :: text, rest)

/-! ## Plain -/

def isBracketMark (c : Char) : Bool :=
  c = ',' || c = '[' || c = ']' || c = '\x7b' || c = '\x7d'

def isIndicator (c : Char) : Bool :=
  isBracketMark c || "-?:#&*!|>'\"%@\x60".toList.contains c

def startsPlain (bracketed : Bool) : List Placed → Bool
  | [] => false
  | p :: rest =>
      !(p.isBlank || p.isBreak || isIndicator p.char) ||
      p.char = '-' && !atEdge rest ||
      !bracketed && (p.char = '?' || p.char = ':') && !atEdge rest

/-- Characters up to a blank, a colon in front of one or, inside brackets, a mark. -/
def takeWord? (bracketed : Bool) : List Placed → Option (List Char × List Placed)
  | [] => some ([], [])
  | p :: rest =>
      if p.isBlank || p.isBreak || p.char = ':' && atEdge rest ||
          bracketed && isBracketMark p.char then
        some ([], p :: rest)
      else if bracketed && p.char = ':' &&
          rest.head?.any (fun q => isBracketMark q.char || q.char = '?') then
        none
      else (takeWord? bracketed rest).map fun (text, rest) => (p.char :: text, rest)

/-- Whether a plain scalar goes on after a gap: in the same line, or in a later one
that is indented up to `floor`. -/
def continues (bracketed : Bool) (floor line : Nat) : List Placed → Bool
  | [] => false
  | p :: rest =>
      !atMarker (p :: rest) && p.char != '#' &&
        (bracketed || p.line = line || floor ≤ p.column)

def indentsByTab (floor line : Nat) (p : Placed) : Bool :=
  p.char = '\t' && p.line != line && p.column < floor

/-- Words with the gaps between them; each word costs one of `fuel`. -/
def takeWords? (bracketed : Bool) (floor : Nat) :
    (fuel : Nat) → List Placed → Option (List Char × List Placed)
  | 0, _ => none
  | fuel + 1, page => do
      let (word, rest) ← takeWord? bracketed page
      let line := (page.head?.map Placed.line).getD 0
      let between := rest.takeWhile fun p => p.isBlank || p.isBreak
      let after := rest.drop between.length
      if between.any (indentsByTab floor line) then none
      else if between.isEmpty || !continues bracketed floor line after then
        some (word, after)
      else
        let (more, rest) ← takeWords? bracketed floor fuel after
        if more.isEmpty then some (word, rest)
        else some (word ++ (between.foldl Gap.add .empty).text ++ more, rest)

/-! ## All of them -/

def takeScalar? (bracketed : Bool) (floor : Nat) (page : List Placed) :
    Option (List Char × Bool × List Placed) :=
  match page with
  | [] => none
  | p :: rest =>
      if p.char = '\'' then
        (takeSingle? .empty rest).map fun (text, rest) => (text, false, rest)
      else if p.char = '"' then
        (takeDouble? (.between .empty) rest).map fun (text, rest) => (text, false, rest)
      else if startsPlain bracketed (p :: rest) then
        (takeWords? bracketed floor (page.length + 1) page).map fun (text, rest) =>
          (text, true, rest)
      else none

end BoundSql.Yaml
