/-!
The layout of a document: characters with their places, the blanks, comments and line
breaks between them, and how a gap inside a scalar is folded.
-/

namespace BoundSql.Yaml

structure Placed where
  char : Char
  line : Nat
  column : Nat

def placeFrom (line column : Nat) : List Char → List Placed
  | [] => []
  | c :: rest =>
      ⟨c, line, column⟩ ::
        if c = '\n' then placeFrom (line + 1) 0 rest else placeFrom line (column + 1) rest

def unifyBreaks : List Char → List Char
  | [] => []
  | '\r' :: '\n' :: rest => '\n' :: unifyBreaks rest
  | c :: rest => (if c = '\r' || c.toNat = 0x85 then '\n' else c) :: unifyBreaks rest

def dropMark : List Char → List Char
  | [] => []
  | c :: rest => if c.toNat = 0xFEFF then rest else c :: rest

def isAllowed (c : Char) : Bool :=
  c = '\t' || c = '\n' || c = '\r' || c.toNat = 0x85 ||
  0x20 ≤ c.toNat && c.toNat ≤ 0x7E || 0xA0 ≤ c.toNat && c.toNat ≤ 0xFFFD ||
  0x10000 ≤ c.toNat

def place (text : List Char) : List Placed := placeFrom 0 0 (unifyBreaks (dropMark text))

/-! ## Between tokens -/

def Placed.isBlank (p : Placed) : Bool := p.char = ' ' || p.char = '\t'

def Placed.isBreak (p : Placed) : Bool := p.char = '\n'

def atEdge : List Placed → Bool
  | [] => true
  | p :: _ => p.isBlank || p.isBreak

/-- A row of three dashes or dots at the margin, which starts or ends a document. -/
def atMarker : List Placed → Bool
  | a :: b :: c :: rest =>
      a.column = 0 && (a.char = '-' || a.char = '.') && b.char = a.char && c.char = a.char &&
        atEdge rest
  | _ => false

def atEnd (page : List Placed) : Bool := page.isEmpty || atMarker page

/-- Drops blanks, comments and line breaks. Tabs count as blanks where `tabs` says so
and, after a line break, only inside brackets. -/
def skipFrom (bracketed tabs comment : Bool) : List Placed → List Placed
  | [] => []
  | p :: rest =>
      if p.isBreak then skipFrom bracketed bracketed false rest
      else if comment then skipFrom bracketed tabs true rest
      else if p.char = ' ' || p.char = '\t' && tabs then skipFrom bracketed tabs false rest
      else if p.char = '#' then skipFrom bracketed tabs true rest
      else p :: rest

def skip (page : List Placed) : List Placed := skipFrom true true false page

/-- What follows in a block. A tab must not indent it. -/
def next? (tabs : Bool) (page : List Placed) : Option (List Placed) :=
  match skipFrom false tabs false page with
  | p :: rest => if p.char = '\t' then none else some (p :: rest)
  | [] => some []

/-! ## Inside scalars

One line break stands for a blank, more of them for one less. The blanks around them
count for nothing. -/

/-- Blanks and line breaks that are read but not yet known to be inside a scalar. -/
inductive Gap where
  | inline (blanks : List Char)
  | folded (escaped : Bool) (more : Nat)

namespace Gap

def empty : Gap := .inline []

def add : Gap → Placed → Gap
  | .inline blanks, p => if p.isBreak then .folded false 0 else .inline (blanks ++ [p.char])
  | .folded escaped more, p => .folded escaped (if p.isBreak then more + 1 else more)

/-- What a gap contributes to the text. An escaped line break contributes nothing. -/
def text : Gap → List Char
  | .inline blanks => blanks
  | .folded true 0 => []
  | .folded false 0 => [' ']
  | .folded _ more => List.replicate more '\n'

end Gap

end BoundSql.Yaml
