import BoundSql.Yaml
import BoundSql.Yaml.Scalar

/-!
Reading YAML documents made of block and bracketed collections and of scalars. In a
block, the column of the first token of a collection is the column of all its entries;
what stands further to the left belongs to a collection around it, and what stands
further to the right belongs to nothing and makes the document unreadable.

Anchors, tags, block scalars and directives are not read.
-/

namespace BoundSql.Yaml

def atDash : List Placed → Bool
  | [] => false
  | p :: rest => p.char = '-' && atEdge rest

/-- What follows the colon of a key that starts in the given line. The colon stands in
the same line; outside brackets it needs an edge after it. -/
def afterColon? (bracketed : Bool) (line : Nat) (page : List Placed) : Option (List Placed) :=
  match page.dropWhile Placed.isBlank with
  | [] => none
  | p :: rest =>
      if p.char = ':' && p.line = line && (bracketed || atEdge rest) then some rest else none

mutual
/-- A scalar or a bracketed collection, the text of plain scalars being indented up to
`floor`. -/
def takeAtom? (bracketed : Bool) (floor : Nat) :
    (fuel : Nat) → List Placed → Option (Yaml × List Placed)
  | 0, _ => none
  | _, [] => none
  | fuel + 1, p :: rest =>
      if p.char = '[' then
        (takeItems? floor fuel (skip rest)).map fun (items, rest) => (.sequence items, rest)
      else if p.char = '\x7b' then
        (takePairs? floor fuel (skip rest)).map fun (entries, rest) => (.mapping entries, rest)
      else
        (takeScalar? bracketed floor (p :: rest)).map fun (text, isPlain, rest) =>
          (.scalar text isPlain, rest)

def takeBracketedValue? (floor : Nat) :
    (fuel : Nat) → List Placed → Option (Yaml × List Placed)
  | 0, _ => none
  | fuel + 1, page =>
      match skip page with
      | [] => none
      | p :: rest =>
          if p.char = ',' || p.char = ']' || p.char = '\x7d' then some (.nothing, p :: rest)
          else takeAtom? true floor fuel (p :: rest)

def takeItems? (floor : Nat) :
    (fuel : Nat) → List Placed → Option (List Yaml × List Placed)
  | 0, _ => none
  | _, [] => none
  | fuel + 1, p :: rest =>
      if p.char = ']' then some ([], rest)
      else do
        let (key, rest) ← takeAtom? true floor fuel (p :: rest)
        let (item, rest) ←
          match afterColon? true p.line rest with
          | some rest =>
              (takeBracketedValue? floor fuel rest).map fun (value, rest) =>
                (Yaml.mapping [(key, value)], rest)
          | none => some (key, rest)
        match skip rest with
        | [] => none
        | q :: rest =>
            if q.char = ']' then some ([item], rest)
            else if q.char = ',' then
              (takeItems? floor fuel (skip rest)).map fun (items, rest) => (item :: items, rest)
            else none

def takePairs? (floor : Nat) :
    (fuel : Nat) → List Placed → Option (List (Yaml × Yaml) × List Placed)
  | 0, _ => none
  | _, [] => none
  | fuel + 1, p :: rest =>
      if p.char = '\x7d' then some ([], rest)
      else do
        let (key, rest) ← takeAtom? true floor fuel (p :: rest)
        let (value, rest) ←
          match afterColon? true p.line rest with
          | some rest => takeBracketedValue? floor fuel rest
          | none => some (.nothing, rest)
        match skip rest with
        | [] => none
        | q :: rest =>
            if q.char = '\x7d' then some ([(key, value)], rest)
            else if q.char = ',' then
              (takePairs? floor fuel (skip rest)).map fun (entries, rest) =>
                ((key, value) :: entries, rest)
            else none
end

mutual
/-- A node that is first in its line, or first after a dash. -/
def takeBlock? : (fuel floor : Nat) → List Placed → Option (Yaml × List Placed)
  | 0, _, _ => none
  | _, _, [] => none
  | fuel + 1, floor, p :: rest =>
      if atDash (p :: rest) then
        (takeDashes? fuel p.column (p :: rest)).map fun (items, rest) => (.sequence items, rest)
      else do
        let (atom, rest) ← takeAtom? false floor (fuel + 1) (p :: rest)
        match afterColon? false p.line rest with
        | none => some (atom, rest)
        | some rest =>
            let (value, rest) ← takeValue? fuel p.line p.column rest
            let (entries, rest) ← takeEntries? fuel p.column rest
            some (.mapping ((atom, value) :: entries), rest)
termination_by structural fuel => fuel

def takeDashes? : (fuel column : Nat) → List Placed → Option (List Yaml × List Placed)
  | 0, _, _ => none
  | _, _, [] => some ([], [])
  | fuel + 1, column, p :: rest =>
      if p.column = column && atDash (p :: rest) then do
        let body ← next? false rest
        let (item, rest) ←
          if !atEnd body && body.head?.any (column < ·.column) then
            takeBlock? fuel (column + 1) body
          else some (.nothing, body)
        let rest ← next? true rest
        let (items, rest) ← takeDashes? fuel column rest
        some (item :: items, rest)
      else some ([], p :: rest)
termination_by structural fuel => fuel

/-- The value of a key that starts in the given line and column. A sequence may stand in
the column of the key. -/
def takeValue? : (fuel line column : Nat) → List Placed → Option (Yaml × List Placed)
  | 0, _, _, _ => none
  | fuel + 1, line, column, page => do
      match ← next? true page with
      | [] => some (.nothing, [])
      | p :: rest =>
          if atMarker (p :: rest) then some (.nothing, p :: rest)
          else if p.line = line then takeAtom? false (column + 1) (fuel + 1) (p :: rest)
          else if column < p.column then takeBlock? fuel (column + 1) (p :: rest)
          else if column = p.column && atDash (p :: rest) then
            (takeDashes? fuel column (p :: rest)).map fun (items, rest) =>
              (.sequence items, rest)
          else some (.nothing, p :: rest)
termination_by structural fuel => fuel

def takeEntries? :
    (fuel column : Nat) → List Placed → Option (List (Yaml × Yaml) × List Placed)
  | 0, _, _ => none
  | fuel + 1, column, page => do
      match ← next? true page with
      | [] => some ([], [])
      | p :: rest =>
          if atMarker (p :: rest) || p.column != column then some ([], p :: rest)
          else
            let (key, rest) ← takeAtom? false (column + 1) (fuel + 1) (p :: rest)
            let rest ← afterColon? false p.line rest
            let (value, rest) ← takeValue? fuel p.line column rest
            let (entries, rest) ← takeEntries? fuel column rest
            some ((key, value) :: entries, rest)
termination_by structural fuel => fuel
end

/-! ## Documents -/

def atRow (c : Char) (page : List Placed) : Bool :=
  atMarker page && page.head?.any (·.char = c)

def takeMarked? (fuel line : Nat) (page : List Placed) : Option (Yaml × List Placed) :=
  match page with
  | [] => some (.nothing, [])
  | p :: rest =>
      if atMarker (p :: rest) then some (.nothing, p :: rest)
      else if p.line = line then takeAtom? false 0 fuel (p :: rest)
      else takeBlock? fuel 0 (p :: rest)

def takeUnmarked? (fuel : Nat) (page : List Placed) : Option (Yaml × List Placed) :=
  if page.isEmpty then some (.nothing, [])
  else if atMarker page then none
  else takeBlock? fuel 0 page

def takeDocument? (fuel : Nat) (page : List Placed) : Option (Yaml × List Placed) :=
  match page with
  | [] => takeUnmarked? fuel []
  | p :: rest =>
      if atRow '-' (p :: rest) then do
        let body ← next? true (rest.drop 2)
        takeMarked? fuel p.line body
      else takeUnmarked? fuel (p :: rest)

/-- The only document of a text. Nothing may follow it but a row of dots. -/
def read? (text : List Char) : Option Yaml :=
  if !(dropMark text).all isAllowed then none
  else do
    let page := place text
    let start ← next? false page
    let (document, rest) ← takeDocument? (3 * page.length + 3) start
    let rest ← next? true rest
    let rest ← if atRow '.' rest then next? true (rest.drop 3) else some rest
    if rest.isEmpty then some document else none

end BoundSql.Yaml
