/-
# InlineCache.Log -- lines of the log
-/
namespace InlineCache

set_option autoImplicit false

inductive LogLevel where
  | debug
  | info
  | warn
deriving DecidableEq, Repr

structure LogLine where
  level : LogLevel
  text : String
deriving DecidableEq, Repr

namespace LogLevel

def name : LogLevel → String
  | debug => "DEBUG"
  | info => "INFO"
  | warn => "WARN"

end LogLevel

namespace LogLine

def render (line : LogLine) : String := line.level.name ++ " " ++ line.text

end LogLine

end InlineCache
