/-
# InlineCache.Value.Render -- the text of a value

`Value.render` writes a value the way a program would: aggregates with their items,
texts quoted, an object by its type, a type by its name.
-/
import InlineCache.Text.Quoted
import InlineCache.Value.Basic

namespace InlineCache

set_option autoImplicit false

/-- An integer in decimal, with a minus sign below zero. -/
def renderInt (n : Int64) : String := toString n.toInt

mutual

def Value.render : Value → String
  | .nil => "nil"
  | .bool true => "true"
  | .bool false => "false"
  | .int n => renderInt n
  | .symbol name => ":" ++ name
  | .string text => Text.quote text
  | .array items => "[" ++ ", ".intercalate (renderItems items) ++ "]"
  | .hash entries => "\x7b" ++ ", ".intercalate (renderEntries entries) ++ "\x7d"
  | .object target => "#<" ++ target.type.name ++ ">"
  | .type target => target.name
  | .proc _ => "#<Proc>"

def renderItems : List Value → List String
  | [] => []
  | value :: rest => value.render :: renderItems rest

def renderEntries : List (Value × Value) → List String
  | [] => []
  | (key, value) :: rest => (key.render ++ "=>" ++ value.render) :: renderEntries rest

end

end InlineCache
