/-!
JSON texts as trees. A tree keeps numerals and the insides of strings as they are
written, so printing a tree needs no decision, and what a numeral or a string stands
for is settled where it is read.
-/

namespace BoundSql

inductive Json where
  | null
  | bool (value : Bool)
  | numeral (text : List Char)
  | string (inside : List Char)
  | array (items : List Json)
  | object (members : List (List Char × Json))
  deriving Inhabited

namespace Json

def quoted (inside : List Char) : List Char := '"' :: inside ++ ['"']

/-! ## Without blanks -/

mutual
def write : Json → List Char
  | .null => "null".toList
  | .bool true => "true".toList
  | .bool false => "false".toList
  | .numeral text => text
  | .string inside => quoted inside
  | .array items => '[' :: writeItems items ++ [']']
  | .object members => '\x7b' :: writeMembers members ++ ['\x7d']

def writeItems : List Json → List Char
  | [] => []
  | [item] => write item
  | item :: next :: rest => write item ++ ',' :: writeItems (next :: rest)

def writeMembers : List (List Char × Json) → List Char
  | [] => []
  | [(name, value)] => quoted name ++ ':' :: write value
  | (name, value) :: next :: rest =>
      quoted name ++ ':' :: write value ++ ',' :: writeMembers (next :: rest)
end

/-! ## In lines

Every item has a line of its own, two blanks deeper than what holds it; an empty
array or object stays in one piece. -/

def newLine (depth : Nat) : List Char := '\n' :: List.replicate (2 * depth) ' '

mutual
def writeLines (depth : Nat) : Json → List Char
  | .array (item :: rest) =>
      '[' :: writeItemLines (depth + 1) (item :: rest) ++ newLine depth ++ [']']
  | .object (member :: rest) =>
      '\x7b' :: writeMemberLines (depth + 1) (member :: rest) ++ newLine depth ++ ['\x7d']
  | .array [] => "[]".toList
  | .object [] => ['\x7b', '\x7d']
  | .null => "null".toList
  | .bool true => "true".toList
  | .bool false => "false".toList
  | .numeral text => text
  | .string inside => quoted inside

def writeItemLines (depth : Nat) : List Json → List Char
  | [] => []
  | [item] => newLine depth ++ writeLines depth item
  | item :: next :: rest =>
      newLine depth ++ writeLines depth item ++ ',' :: writeItemLines depth (next :: rest)

def writeMemberLines (depth : Nat) : List (List Char × Json) → List Char
  | [] => []
  | [(name, value)] => newLine depth ++ quoted name ++ ": ".toList ++ writeLines depth value
  | (name, value) :: next :: rest =>
      newLine depth ++ quoted name ++ ": ".toList ++ writeLines depth value ++
        ',' :: writeMemberLines depth (next :: rest)
end

def compact (json : Json) : String := String.ofList json.write

def pretty (json : Json) : String := String.ofList (json.writeLines 0)

example : (Json.array [.null, .object []]).compact = "[null,\x7b\x7d]" := by decide

end Json

end BoundSql
