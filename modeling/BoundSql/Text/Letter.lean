import BoundSql.Text.CaseTable

/-!
Letter case over whole texts. One character may become several, and a capital sigma
at the end of a word becomes a final sigma.
-/

namespace BoundSql.Text

/-- The case mapping of one character: an expansion if there is one, else the run
that holds its code point, else the character itself. -/
def mapCase (runs : List CaseRun) (expansions : List (Nat × List Nat)) (c : Char) : List Char :=
  match expansions.lookup c.toNat with
  | some codes => codes.map Char.ofNat
  | none =>
      match runs.find? (·.holds c.toNat) with
      | some run => [Char.ofNat (run.move c.toNat)]
      | none => [c]

def lowerChar (c : Char) : List Char :=
  if c.toNat < 0x80 then [c.toLower] else mapCase lowerRuns lowerExpansions c

def upperChar (c : Char) : List Char :=
  if c.toNat < 0x80 then [c.toUpper] else mapCase upperRuns upperExpansions c

def isCased (c : Char) : Bool := casedRanges.holds c

def isCaseIgnorable (c : Char) : Bool := caseIgnorableRanges.holds c

/-! ## The final sigma -/

def capitalSigma : Char := Char.ofNat 0x3A3

def smallSigma : Char := Char.ofNat 0x3C3

def finalSigma : Char := Char.ofNat 0x3C2

def reachesCased (text : List Char) : Bool :=
  match text.dropWhile isCaseIgnorable with
  | [] => false
  | c :: _ => isCased c

/-- The small form of a sigma, between the reversed text before it and the text after
it: final if a letter stands before it and none after it. -/
def lowerSigma (before after : List Char) : Char :=
  if reachesCased before && !reachesCased after then finalSigma else smallSigma

/-! ## Texts -/

def lowerFrom (before : List Char) : List Char → List Char
  | [] => []
  | c :: rest =>
      (if c = capitalSigma then [lowerSigma before rest] else lowerChar c) ++
        lowerFrom (c :: before) rest

def lower (text : List Char) : List Char := lowerFrom [] text

def upper (text : List Char) : List Char := text.flatMap upperChar

example : lower "ΟΔΟΣ Σ".toList = "οδος σ".toList := by decide +kernel

example : upper "Straße".toList = "STRASSE".toList := by decide +kernel

end BoundSql.Text
