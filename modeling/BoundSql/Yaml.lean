/-!
YAML documents as trees. A tree keeps the text of every scalar and whether it was
written plainly, for what a plain scalar denotes depends on where it is read; a quoted
one is always a text.
-/

namespace BoundSql

inductive Yaml where
  | scalar (text : List Char) (isPlain : Bool)
  | sequence (items : List Yaml)
  | mapping (entries : List (Yaml × Yaml))
  deriving Inhabited

def Yaml.nothing : Yaml := .scalar [] true

end BoundSql
