/-
# InlineCache.Types.Lookup -- resolving a name against a receiver's type

A lookup answers with the method found, the type that defines it, and the switch
point under which the answer holds: always the current one of the type that was
asked, taken before the tables are read.  A name that is not found is an answer
too, under the same switch point.

Which method answers is for the world to say (`LookupRule`).  All that is asked of a
rule is that it looks at the method tables of the type and its ancestors only and
answers with a method that stands there; tombstones, and which names are seen at all,
are the rule's own business.
-/
import InlineCache.Types.Family

namespace InlineCache

set_option autoImplicit false

/-- How a world resolves names: from the method tables that answer for a type, and to
a method that stands in one of them. -/
structure LookupRule (Code : Type) where
  /-- the method of a name, and the type that defines it -/
  resolve? : MethodTables Code → String → Option (Method Code × TypeRef)
  stands : ∀ {tables : MethodTables Code} {name : String} {found : Method Code × TypeRef},
    resolve? tables name = some found → tables.Holds found.1

structure CacheEntry (Code : Type) where
  method : Method Code
  /-- the type that defines the method -/
  owner : TypeRef
  /-- the answer holds while this is valid -/
  token : SwitchPoint

inductive LookupResult (Code : Type) where
  | found (entry : CacheEntry Code)
  | notFound (token : SwitchPoint)

namespace CacheEntry

variable {Code : Type}

def render (entry : CacheEntry Code) : String :=
  "[#" ++ toString entry.method.serial ++ " " ++ entry.owner.name ++ "#" ++
    entry.method.name ++ "]"

end CacheEntry

namespace LookupResult

variable {Code : Type}

/-- The switch point under which the answer holds. -/
def token : LookupResult Code → SwitchPoint
  | found entry => entry.token
  | notFound token => token

def found? : LookupResult Code → Option (CacheEntry Code)
  | found entry => some entry
  | notFound _ => none

end LookupResult

namespace LookupRule

variable {Code : Type}

/-- The nearest method of a name that is no tombstone, for the names that are seen. -/
def visible (sees : MethodTables Code → String → Bool) : LookupRule Code where
  resolve? tables name :=
    if sees tables name then (tables.search? name).filter fun found => !found.1.isUndefined
    else none
  stands := by
    intro tables name found resolved
    by_cases seen : sees tables name
    · simp only [seen, if_true] at resolved
      exact MethodTables.holds_of_search? (Option.eq_some_of_filter_eq_some resolved)
    · simp [seen] at resolved

def hierarchy : LookupRule Code := visible fun _ _ => true

def only (name : String) : LookupRule Code := visible fun _ asked => asked == name

def nothing : LookupRule Code := visible fun _ _ => false

def own : LookupRule Code :=
  visible fun tables name => match tables with
    | (_, methods) :: _ => NameMap.contains methods name
    | [] => false

end LookupRule

namespace Types

variable {Code : Type}

def resolve? (table : Types Code) (rule : LookupRule Code) (type : TypeRef) (name : String) :
    Option (Method Code × TypeRef) :=
  rule.resolve? (table.methodTables type) name

def lookup (table : Types Code) (rule : LookupRule Code) (type : TypeRef) (name : String) :
    LookupResult Code :=
  match table.resolve? rule type name with
  | some (method, owner) => .found ⟨method, owner, table.switchPoint type⟩
  | none => .notFound (table.switchPoint type)

theorem found?_lookup (table : Types Code) (rule : LookupRule Code) (type : TypeRef)
    (name : String) :
    (table.lookup rule type name).found? =
      (table.resolve? rule type name).map fun found =>
        ⟨found.1, found.2, table.switchPoint type⟩ := by
  simp only [lookup]
  cases table.resolve? rule type name <;> rfl

end Types

end InlineCache
