/-
# InlineCache.Value.Dict -- hashes as insertion-ordered maps

The entries of a hash are a list of key and value.  Inserting under a key that is
already there changes the value and keeps the key and its place; any other key
goes to the end.  `Dict.ofPairs` builds a hash literal by inserting its pairs in
order.
-/
import InlineCache.Value.Equality

namespace InlineCache

set_option autoImplicit false

/-- The entries of a hash, in insertion order. -/
abbrev Dict := List (Value × Value)

namespace Dict

def get? (dict : Dict) (key : Value) : Option Value :=
  findEntry? key.eqv dict

/-- Overwrite the value under an equal key, or append. -/
def insert (key value : Value) : Dict → Dict
  | [] => [(key, value)]
  | entry :: rest =>
      if key.eqv entry.1 then (entry.1, value) :: rest else entry :: insert key value rest

def insertAll (dict : Dict) (pairs : List (Value × Value)) : Dict :=
  pairs.foldl (fun dict pair => dict.insert pair.1 pair.2) dict

def ofPairs (pairs : List (Value × Value)) : Dict :=
  insertAll [] pairs

theorem insertAll_append (dict : Dict) (ps qs : List (Value × Value)) :
    insertAll dict (ps ++ qs) = insertAll (insertAll dict ps) qs := by
  simp [insertAll]

/-- **Extending a literal is the literal of all pairs.** -/
theorem insertAll_ofPairs (ps qs : List (Value × Value)) :
    insertAll (ofPairs ps) qs = ofPairs (ps ++ qs) :=
  (insertAll_append [] ps qs).symm

end Dict

end InlineCache
