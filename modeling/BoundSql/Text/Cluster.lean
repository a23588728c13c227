import BoundSql.Text.ClusterTable

/-!
Grapheme clusters: the characters that a reader takes for one. A cluster ends where
the next character does not join it; whether it joins depends on the class of both
and, for emoji and flags, on what the cluster holds so far.
-/

namespace BoundSql.Text

inductive ClusterClass where
  | carriageReturn
  | lineFeed
  | control
  | extend
  | joiner
  | spacingMark
  | prepended
  | regional
  | pictographic
  | leadingJamo
  | vowelJamo
  | trailingJamo
  | openSyllable
  | closedSyllable
  | other
  deriving DecidableEq

namespace ClusterClass

def ofAscii (c : Char) : ClusterClass :=
  if c = '\r' then .carriageReturn
  else if c = '\n' then .lineFeed
  else if c.toNat < 0x20 || c.toNat = 0x7F then .control
  else .other

/-- The class of a precomposed Hangul syllable: every 28th has no trailing consonant. -/
def ofSyllable (c : Char) : ClusterClass :=
  if (c.toNat - 0xAC00) % 28 = 0 then .openSyllable else .closedSyllable

def ofChar (c : Char) : ClusterClass :=
  if c.toNat < 0x80 then ofAscii c
  else if Ranges.holds [(0xAC00, 0xD7A3)] c then ofSyllable c
  else if Ranges.holds [(0x1100, 0x115F), (0xA960, 0xA97C)] c then .leadingJamo
  else if Ranges.holds [(0x1160, 0x11A7), (0xD7B0, 0xD7C6)] c then .vowelJamo
  else if Ranges.holds [(0x11A8, 0x11FF), (0xD7CB, 0xD7FB)] c then .trailingJamo
  else if Ranges.holds [(0x1F1E6, 0x1F1FF)] c then .regional
  else if c.toNat = 0x200D then .joiner
  else if clusterControlRanges.holds c then .control
  else if clusterExtendRanges.holds c then .extend
  else if clusterSpacingMarkRanges.holds c then .spacingMark
  else if clusterPrependRanges.holds c then .prepended
  else if pictographicRanges.holds c then .pictographic
  else .other

end ClusterClass

/-! ## Joining -/

/-- What a cluster remembers of its characters: the class of the last one, whether
they end in a pictograph and its extenders, whether a joiner follows these, and
whether an odd number of regional indicators stands at the end. -/
structure ClusterState where
  last : ClusterClass
  pictograph : Bool
  joined : Bool
  oddRegional : Bool

namespace ClusterState

def start (first : ClusterClass) : ClusterState :=
  { last := first
    pictograph := first = .pictographic
    joined := false
    oddRegional := first = .regional }

def push (state : ClusterState) (next : ClusterClass) : ClusterState :=
  { last := next
    pictograph := next = .pictographic || (next = .extend && state.pictograph)
    joined := next = .joiner && state.pictograph
    oddRegional := next = .regional && !state.oddRegional }

def joins (state : ClusterState) (next : ClusterClass) : Bool :=
  match state.last, next with
  | .carriageReturn, .lineFeed => true
  | .carriageReturn, _ | .lineFeed, _ | .control, _ => false
  | _, .carriageReturn | _, .lineFeed | _, .control => false
  | _, .extend | _, .joiner | _, .spacingMark => true
  | .prepended, _ => true
  | .leadingJamo, .leadingJamo | .leadingJamo, .vowelJamo => true
  | .leadingJamo, .openSyllable | .leadingJamo, .closedSyllable => true
  | .openSyllable, .vowelJamo | .openSyllable, .trailingJamo => true
  | .vowelJamo, .vowelJamo | .vowelJamo, .trailingJamo => true
  | .closedSyllable, .trailingJamo | .trailingJamo, .trailingJamo => true
  | .joiner, .pictographic => state.joined
  | .regional, .regional => state.oddRegional
  | _, _ => false

end ClusterState

/-! ## Cutting a text -/

def clustersFrom (state : ClusterState) (cluster : List Char) : List Char → List (List Char)
  | [] => [cluster]
  | c :: rest =>
      if state.joins (.ofChar c) then
        clustersFrom (state.push (.ofChar c)) (cluster ++ [c]) rest
      else
        cluster :: clustersFrom (.start (.ofChar c)) [c] rest

def clusters : List Char → List (List Char)
  | [] => []
  | c :: rest => clustersFrom (.start (.ofChar c)) [c] rest

theorem flatten_clustersFrom (state : ClusterState) (cluster text : List Char) :
    (clustersFrom state cluster text).flatten = cluster ++ text := by
  induction text generalizing state cluster with
  | nil => simp [clustersFrom]
  | cons c rest ih => unfold clustersFrom; split <;> simp [ih]

theorem flatten_clusters (text : List Char) : (clusters text).flatten = text := by
  cases text with
  | nil => rfl
  | cons c rest => simp [clusters, flatten_clustersFrom]

example : clusters "a\r\nb".toList = [['a'], ['\r', '\n'], ['b']] := by decide

end BoundSql.Text
