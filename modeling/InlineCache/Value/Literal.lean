/-
# InlineCache.Value.Literal -- the values of array and hash literals

A hash literal inserts its pairs in order; `extendHash` is the literal that starts
from the entries of another hash, which stays as it is.
-/
import InlineCache.Fault
import InlineCache.Value.Dict

namespace InlineCache.Value

set_option autoImplicit false

def ofPairs (pairs : List (Value × Value)) : Value := .hash (Dict.ofPairs pairs)

/-- A fresh hash of the base's entries and then the pairs.  Only a hash can be
the base. -/
def extendHash (base : Value) (pairs : List (Value × Value)) : Outcome :=
  match base with
  | .hash entries => .ok (.hash (Dict.insertAll entries pairs))
  | other => .error (.typeMismatch ("no implicit conversion of " ++ other.render ++ " into Hash"))

/-- **Extending the hash of a literal is the hash of the longer literal.** -/
theorem extendHash_ofPairs (ps qs : List (Value × Value)) :
    extendHash (ofPairs ps) qs = .ok (ofPairs (ps ++ qs)) := by
  simp [extendHash, ofPairs, Dict.insertAll_ofPairs]

end InlineCache.Value
