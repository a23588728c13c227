import BoundSql.Text.Letter
import BoundSql.Text.Cluster

/-!
Column names. A member name is cut into words at separators and where case or digits
change; the words, in small letters, are joined by underscores. `UserName` and
`userName` both live in the column `user_name`.
-/

namespace BoundSql.Entity

open Text

/-! ## Kinds of clusters

A cluster counts as a capital or a small letter only if the two cases differ, so
ideographs and punctuation are neither. -/

def isCapital (cluster : List Char) : Bool :=
  upper cluster != lower cluster && cluster == upper cluster

def isSmall (cluster : List Char) : Bool :=
  upper cluster != lower cluster && cluster == lower cluster

def isNumeral (cluster : List Char) : Bool := cluster.all Char.isDigit

def isSeparator (cluster : List Char) : Bool :=
  cluster == ['_'] || cluster == ['-'] || cluster == [' ']

/-! ## Words -/

/-- Whether a word starts at `cluster`, between its neighbours. The last capital of a
run starts a word if a small letter follows, so that `IOStream` is `IO` and `Stream`. -/
def startsWord (previous : Option (List Char)) (cluster : List Char)
    (next : Option (List Char)) : Bool :=
  match previous with
  | none => false
  | some before =>
      isSmall before && isCapital cluster ||
      isCapital before && isNumeral cluster ||
      isNumeral before && isCapital cluster ||
      isNumeral before && isSmall cluster ||
      isSmall before && isNumeral cluster ||
      isCapital before && isCapital cluster && next.any isSmall

/-- The words of a row of clusters, `word` being the part of the current one that is
already read. Words may be empty. -/
def wordsFrom (previous : Option (List Char)) (word : List Char) :
    List (List Char) → List (List Char)
  | [] => [word]
  | cluster :: rest =>
      if isSeparator cluster then
        word :: wordsFrom (some cluster) [] rest
      else if startsWord previous cluster rest.head? then
        word :: wordsFrom (some cluster) cluster rest
      else
        wordsFrom (some cluster) (word ++ cluster) rest

def words (member : List Char) : List (List Char) :=
  (wordsFrom none [] (clusters member)).filter (!·.isEmpty)

def columnName (member : String) : String :=
  String.ofList (['_'].intercalate ((words member.toList).map lower))

example : columnName "HTTPServerID" = "http_server_id" := by decide +kernel

example : columnName "user_name" = "user_name" := by decide +kernel

end BoundSql.Entity
