import BoundSql.Yaml
import BoundSql.Number.Decimal
import BoundSql.Number.Hexadecimal

/-!
Taking YAML trees apart. Where a text is wanted every scalar will do, whatever it looks
like; elsewhere a plain scalar may denote null, a truth value or a number, and is no
text then. A record is a mapping; unknown entries are passed over, and no known one may
be given twice.
-/

namespace BoundSql.Yaml

open Number

/-! ## What plain scalars denote -/

def isNullText (text : List Char) : Bool :=
  ["", "~", "null", "Null", "NULL"].contains (String.ofList text)

def truthOf? (text : List Char) : Option Bool :=
  let word := String.ofList text
  if ["true", "True", "TRUE"].contains word then some true
  else if ["false", "False", "FALSE"].contains word then some false
  else none

def digitIn? (base : Nat) (c : Char) : Option Nat :=
  (hexValue? c).filter (· < base)

def numberIn? (base : Nat) (row : List Char) : Option Nat :=
  if row.isEmpty then none
  else row.foldlM (fun total c => (digitIn? base c).map (base * total + ·)) 0

def baseOf? : List Char → Option (Nat × List Char)
  | '0' :: 'x' :: row => some (16, row)
  | '0' :: 'o' :: row => some (8, row)
  | '0' :: 'b' :: row => some (2, row)
  | _ => none

def isBasedInteger (text : List Char) : Bool :=
  let (negative, unsigned) := splitSign text
  match baseOf? unsigned with
  | none => false
  | some (base, row) =>
      (numberIn? base row).any fun n => n ≤ (if negative then Nat.pow 2 127 else Nat.pow 2 128 - 1)

/-- Digits after a zero are no number. -/
def hasLeadingZero (text : List Char) : Bool :=
  match (splitSign text).2 with
  | '0' :: c :: row => (c :: row).all Char.isDigit
  | _ => false

def isInfinityText (text : List Char) : Bool :=
  [".inf", ".Inf", ".INF"].contains (String.ofList (splitSign text).2)

def isNanText (text : List Char) : Bool :=
  [".nan", ".NaN", ".NAN"].contains (String.ofList text)

def isNumberText (text : List Char) : Bool :=
  isBasedInteger text || isInfinityText text || isNanText text ||
    !hasLeadingZero text && (readFloat? text).any Binary64.isFinite

/-! ## Leaves -/

def string? : Yaml → Option String
  | .scalar text _ => some (String.ofList text)
  | _ => none

/-- A text, in a place where other scalars may stand. -/
def text? : Yaml → Option String
  | .scalar text isPlain =>
      if isPlain && (isNullText text || (truthOf? text).isSome || isNumberText text) then none
      else some (String.ofList text)
  | _ => none

def bool? : Yaml → Option Bool
  | .scalar text true => truthOf? text
  | _ => none

/-! ## Lists and records -/

def listOf? (decode : Yaml → Option α) : Yaml → Option (List α)
  | .sequence items => items.mapM decode
  | .scalar [] true => some []
  | _ => none

def orNull? (decode : Yaml → Option α) : Yaml → Option (Option α)
  | .scalar text true =>
      if isNullText text then some none else (decode (.scalar text true)).map some
  | tree => (decode tree).map some

def gather? (names : List String) : List (Yaml × Yaml) → Option (List (Option Yaml))
  | [] => some (names.map fun _ => none)
  | (key, value) :: rest => do
      let name ← string? key
      let found ← gather? names rest
      match names.idxOf? name with
      | none => some found
      | some index =>
          match found[index]? with
          | some none => some (found.set index (some value))
          | _ => none

/-- The fields of a record, none for one that is not given. Where nothing is written,
no field is given. -/
def fields? (names : List String) : Yaml → Option (List (Option Yaml))
  | .mapping entries => gather? names entries
  | .scalar [] true => some (names.map fun _ => none)
  | _ => none

def required? (decode : Yaml → Option α) : Option Yaml → Option α
  | some tree => decode tree
  | none => none

def defaulted? (fallback : α) (decode : Yaml → Option α) : Option Yaml → Option α
  | some tree => decode tree
  | none => some fallback

def optional? (decode : Yaml → Option α) : Option Yaml → Option (Option α)
  | some tree => orNull? decode tree
  | none => some none

end BoundSql.Yaml
