/-
# InlineCache.Value.Equality -- when two values are equal

Numbers, symbols and texts are equal when they are the same, arrays when they are
equal item by item.  Hashes are equal when they have as many entries and every
key of the first has an equal value under an equal key of the second, whatever
the orders.  Objects, types and blocks are equal only to themselves; there is one
null block.
-/
import InlineCache.Value.Basic

namespace InlineCache

set_option autoImplicit false

/-- Look a key up among entries, with a test for the key in hand. -/
def findEntry? (isKey : Value → Bool) : List (Value × Value) → Option Value
  | [] => none
  | (key, value) :: rest => if isKey key then some value else findEntry? isKey rest

mutual

def Value.eqv : Value → Value → Bool
  | .nil, .nil => true
  | .bool a, .bool b => a == b
  | .int a, .int b => a == b
  | .symbol a, .symbol b => a == b
  | .string a, .string b => a == b
  | .array xs, .array ys => itemsEqv xs ys
  | .hash xs, .hash ys => xs.length == ys.length && entriesWithin xs ys
  | .object a, .object b => a.id == b.id
  | .type a, .type b => a.id == b.id
  | .proc a, .proc b => a == b
  | _, _ => false

def itemsEqv : List Value → List Value → Bool
  | [], [] => true
  | x :: xs, y :: ys => x.eqv y && itemsEqv xs ys
  | _, _ => false

/-- Every key of the first has an equal value under an equal key of the second. -/
def entriesWithin : List (Value × Value) → List (Value × Value) → Bool
  | [], _ => true
  | (key, value) :: rest, ys =>
      (match findEntry? key.eqv ys with
        | some other => value.eqv other
        | none => false) && entriesWithin rest ys

end

instance : BEq Value := ⟨Value.eqv⟩

end InlineCache
