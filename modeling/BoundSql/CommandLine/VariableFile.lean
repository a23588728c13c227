import BoundSql.Text.Blank

/-!
Files of variables. A line gives one variable, `NAME=value`; the value may be quoted,
and unless it stands between single quotes it may refer to variables that are known
already, as `$NAME` or in braces; the character that ends a name is part of the text.
A line whose quote is open goes on in the next one. The file counts up to the first line
that cannot be read, and a variable that has a value keeps it.
-/

namespace BoundSql.CommandLine

abbrev Variables := List (String × String)

/-! ## Values -/

inductive ValuePart where
  | text
  | escape
  | singleQuoted
  | name (row : List Char)
  | braced (row : List Char)
  | ended

/-- The rest of a value. `quoted` says whether a double quote is open; `lookup` gives the
variables that the value refers to. -/
def valueFrom? (lookup : List Char → List Char) :
    ValuePart → (quoted : Bool) → List Char → Option (List Char)
  | .singleQuoted, _, [] => none
  | .braced _, _, [] => none
  | _, true, [] => none
  | .name row, false, [] => some (lookup row)
  | _, false, [] => some []
  | .ended, quoted, c :: rest =>
      if c = ' ' || c = '\t' then valueFrom? lookup .ended quoted rest
      else if c = '#' then some []
      else none
  | .escape, quoted, c :: rest =>
      if c = '\\' || c = '\'' || c = '"' || c = '$' || c = ' ' then
        (valueFrom? lookup .text quoted rest).map (c :: ·)
      else if c = 'n' then (valueFrom? lookup .text quoted rest).map ('\n' :: ·)
      else none
  | .singleQuoted, quoted, c :: rest =>
      if c = '\'' then valueFrom? lookup .text quoted rest
      else (valueFrom? lookup .singleQuoted quoted rest).map (c :: ·)
  | .name row, quoted, c :: rest =>
      if c.isAlphanum then valueFrom? lookup (.name (row ++ [c])) quoted rest
      else if c = '\x7b' && row.isEmpty then valueFrom? lookup (.braced []) quoted rest
      else if c = '$' then (valueFrom? lookup (.name []) quoted rest).map (lookup row ++ ·)
      else (valueFrom? lookup .text quoted rest).map (lookup row ++ c :: ·)
  | .braced row, quoted, c :: rest =>
      if c = '\x7d' then (valueFrom? lookup .text quoted rest).map (lookup row ++ ·)
      else valueFrom? lookup (.braced (row ++ [c])) quoted rest
  | .text, quoted, c :: rest =>
      if c = '$' then valueFrom? lookup (.name []) quoted rest
      else if c = '\\' then valueFrom? lookup .escape quoted rest
      else if c = '"' then valueFrom? lookup .text (!quoted) rest
      else if quoted then (valueFrom? lookup .text quoted rest).map (c :: ·)
      else if c = '\'' then valueFrom? lookup .singleQuoted quoted rest
      else if c = ' ' || c = '\t' then valueFrom? lookup .ended quoted rest
      else (valueFrom? lookup .text quoted rest).map (c :: ·)

/-! ## Definitions -/

def startsName (c : Char) : Bool := c.isAlpha || c = '_'

def continuesName (c : Char) : Bool := c.isAlphanum || c = '_' || c = '.'

def takeName? (line : List Char) : Option (List Char × List Char) :=
  if line.head?.any startsName then
    some (line.takeWhile continuesName, Text.trimStart (line.dropWhile continuesName))
  else none

def takeDefinition? (line : List Char) : Option (List Char × List Char) := do
  let (name, rest) ← takeName? line
  match rest with
  | '=' :: value => some (name, Text.trimStart value)
  | _ =>
      if name = "export".toList then
        match ← takeName? rest with
        | (name, '=' :: value) => some (name, Text.trimStart value)
        | _ => none
      else none

def isBare (text : List Char) : Bool := text.isEmpty || text.head? == some '#'

def lineVariable? (lookup : List Char → List Char) (line : List Char) :
    Option (Option (String × String)) :=
  let line := Text.trim line
  if isBare line then some none
  else do
    let (name, value) ← takeDefinition? line
    let meaning ← if isBare value then some [] else valueFrom? lookup .text false value
    return some (String.ofList name, String.ofList meaning)

/-! ## Lines -/

/-- Where in a line a reader stands: at its start, in the open, behind a single blank,
behind a reverse slash, between quotes, or in a comment. -/
inductive LinePart where
  | start
  | plain
  | blank
  | escape
  | quoted (mark : Char)
  | quotedEscape (mark : Char)
  | comment
  deriving DecidableEq

namespace LinePart

def opening (c : Char) : LinePart :=
  if c = '\\' then .escape else if c = '"' || c = '\'' then .quoted c else .plain

def next : LinePart → Char → LinePart
  | .start, c =>
      if Text.isBlank c then .start else if c = '#' then .comment else opening c
  | .plain, c =>
      if Text.isBlank c && c != '\n' && c != '\r' then .blank else opening c
  | .blank, c => if c = '#' then .comment else opening c
  | .escape, _ => .plain
  | .quoted mark, c =>
      if c = '\\' then .quotedEscape mark else if c = mark then .plain else .quoted mark
  | .quotedEscape mark, _ => .quoted mark
  | .comment, _ => .comment

def mayEnd : LinePart → Bool
  | .start | .plain | .comment => true
  | _ => false

end LinePart

/-- The lines of a text without their comments. What follows a quote that is never closed is
no line. -/
def linesFrom : LinePart → (line : List Char) → List Char → List (List Char)
  | part, line, [] => if part.mayEnd then [line] else []
  | part, line, c :: rest =>
      let next := part.next c
      if c = '\n' && next.mayEnd then line :: linesFrom .start [] rest
      else if next = .comment then linesFrom next line rest
      else linesFrom next (line ++ [c]) rest

def linesOf (text : List Char) : List (List Char) := linesFrom .start [] text

example : linesOf "A='x\ny' # z\n# B".toList = ["A='x\ny' ".toList, []] := by decide +kernel

/-! ## Files -/

def meaningIn (known : Variables) (name : List Char) : List Char :=
  ((known.lookup (String.ofList name)).getD "").toList

def addLines (known : Variables) : List (List Char) → Variables
  | [] => known
  | line :: rest =>
      match lineVariable? (meaningIn known) line with
      | none => known
      | some none => addLines known rest
      | some (some definition) => addLines (known ++ [definition]) rest

def withoutMark : List Char → List Char
  | c :: rest => if c = '\uFEFF' then rest else c :: rest
  | [] => []

def addFile (environment : Variables) (text : String) : Variables :=
  addLines environment (linesOf (withoutMark text.toList))

example :
    addFile [("A", "1")] "A=2\nB='x'$\x7bA\x7d # note" =
      [("A", "1"), ("A", "2"), ("B", "x1")] := by
  decide +kernel

end BoundSql.CommandLine
