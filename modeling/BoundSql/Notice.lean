/-!
Notices: what the library reports on the way, apart from its results.
-/

namespace BoundSql

inductive Level where
  | debug
  | info
  | warn
  deriving DecidableEq

structure Notice where
  level : Level
  text : String
  deriving DecidableEq

def Level.name : Level → String
  | .debug => "DEBUG"
  | .info => "INFO"
  | .warn => "WARN"

end BoundSql
