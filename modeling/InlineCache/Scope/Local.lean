/-
# InlineCache.Scope.Local -- access to one local variable from one place

A local site stands for one variable at fixed coordinates.  When the variable is in
the innermost scope the site need not walk the chain, and the first few slots have an
accessor of their own.  The answer does not depend on the access chosen
(`LocalSite.get_eq_value`).
-/
import InlineCache.Log
import InlineCache.Scope.Dynamic

namespace InlineCache

set_option autoImplicit false

inductive LocalAccess where
  /-- an accessor made for this one slot of the innermost scope -/
  | specialized (slot : Nat)
  | depthZero
  | walk
deriving DecidableEq, Repr

/-- One variable at fixed coordinates, and the access chosen for it. -/
structure LocalSite where
  depth : Nat
  offset : Nat
  access : LocalAccess
deriving DecidableEq, Repr

namespace LocalSite

/-- Slots of the innermost scope below this one have an accessor of their own. -/
def specializedSlots : Nat := 10

def specializedGet? (table : DynamicScopes) (scope : ScopeRef) (slot : Nat) :
    Option (Option Value) :=
  if slot < specializedSlots then some (table.valueAt scope slot) else none

def create (depth offset : Nat) : LocalSite :=
  { depth, offset
    access :=
      if depth = 0 then
        if offset < specializedSlots then .specialized offset else .depthZero
      else .walk }

def isSpecialized (site : LocalSite) : Bool :=
  match site.access with
  | .specialized _ => true
  | _ => false

/-- The value of the variable, if it was assigned and the chain is long enough. -/
def get (site : LocalSite) (table : DynamicScopes) (scope : ScopeRef) : Option Value :=
  match site.access with
  | .specialized slot => table.valueAt scope slot
  | .depthZero => table.valueAt scope site.offset
  | .walk => table.value scope site.offset site.depth

/-- An unassigned variable reads as nil. -/
def getOrNil (site : LocalSite) (table : DynamicScopes) (scope : ScopeRef) : Value :=
  (site.get table scope).getD .nil

/-- Assign the variable.  A chain that is too short is reported and left alone. -/
def set (site : LocalSite) (table : DynamicScopes) (scope : ScopeRef) (value : Value) :
    DynamicScopes × List LogLine :=
  match table.setValue scope site.offset site.depth value with
  | (true, table) => (table, [])
  | (false, table) =>
      (table, [⟨.warn, "scope chain shorter than depth " ++ toString site.depth ++
        " for offset " ++ toString site.offset⟩])

/-- **The access chosen for a site does not show in its answer.** -/
theorem get_eq_value (depth offset : Nat) (table : DynamicScopes) (scope : ScopeRef) :
    (create depth offset).get table scope = table.value scope offset depth := by
  by_cases near : depth = 0
  · subst near
    by_cases low : offset < specializedSlots <;>
      simp [create, get, low, DynamicScopes.value, DynamicScopes.ancestor?]
  · simp [create, get, near]

end LocalSite

end InlineCache
