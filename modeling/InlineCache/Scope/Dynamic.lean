/-
# InlineCache.Scope.Dynamic -- the variables of a running activation

A dynamic scope holds the values of one activation of a static scope and points to
the dynamic scope around it.  Scopes are shared: a write through one closure is read
through every other that sees the same scope.  A slot past the declared variables
comes into being when it is first written.

All dynamic scopes of a world live in one table; a scope is made after the scope
around it.

* `valueAt_setLocal`: a slot reads back what was written to it, and a write touches no
  other slot;
* `parent?_setLocal`: nor does it change which scope is around which.
-/
import InlineCache.Scope.Static
import InlineCache.Slots

namespace InlineCache

set_option autoImplicit false

structure ScopeRef where
  index : Nat
deriving DecidableEq, Repr

/-- One activation of a static scope. -/
structure DynamicScope where
  layout : StaticScope
  parent : Option ScopeRef
  /-- a slot is empty until its variable is assigned -/
  values : Slots

structure DynamicScopes where
  scopes : Array DynamicScope := #[]

namespace DynamicScopes

/-- A fresh activation with every declared variable unassigned. -/
def create (table : DynamicScopes) (layout : StaticScope) (parent : Option ScopeRef) :
    ScopeRef × DynamicScopes :=
  (⟨table.scopes.size⟩,
    { table with
        scopes := table.scopes.push
          ⟨layout, parent, Slots.empty layout.locals.length⟩ })

def parent? (table : DynamicScopes) (scope : ScopeRef) : Option ScopeRef :=
  match table.scopes[scope.index]? with
  | some state => state.parent
  | none => none

/-- The scope so many steps out, if the chain is that long. -/
def ancestor? (table : DynamicScopes) : Nat → ScopeRef → Option ScopeRef
  | 0, scope => some scope
  | depth + 1, scope =>
      match table.parent? scope with
      | some parent => ancestor? table depth parent
      | none => none

def valueAt (table : DynamicScopes) (scope : ScopeRef) (offset : Nat) : Option Value :=
  match table.scopes[scope.index]? with
  | some state => state.values.read offset
  | none => none

/-- The value in a slot so many scopes out. -/
def value (table : DynamicScopes) (scope : ScopeRef) (offset depth : Nat) : Option Value :=
  match table.ancestor? depth scope with
  | some owner => table.valueAt owner offset
  | none => none

def setLocal (table : DynamicScopes) (scope : ScopeRef) (offset : Nat) (value : Value) :
    DynamicScopes :=
  { table with
      scopes := table.scopes.modify scope.index fun state =>
        { state with values := state.values.write offset value } }

/-- Write a slot so many scopes out; nothing happens when the chain is shorter. -/
def setValue (table : DynamicScopes) (scope : ScopeRef) (offset depth : Nat) (value : Value) :
    Bool × DynamicScopes :=
  match table.ancestor? depth scope with
  | some owner => (true, table.setLocal owner offset value)
  | none => (false, table)

/-- **A write reads back in its slot and touches no other slot of any scope.** -/
theorem valueAt_setLocal (table : DynamicScopes) (scope other : ScopeRef) (offset slot : Nat)
    (value : Value) (exists_ : scope.index < table.scopes.size) :
    (table.setLocal scope offset value).valueAt other slot =
      if other = scope ∧ slot = offset then some value else table.valueAt other slot := by
  simp only [setLocal, valueAt, Array.getElem?_modify]
  by_cases same : scope.index = other.index
  · have e : other = scope := by cases scope; cases other; simp_all
    subst e
    simp [Array.getElem?_eq_getElem exists_, Slots.read_write]
  · have ne : other ≠ scope := fun e => same (by rw [e])
    simp [same, ne]

/-- A write leaves every chain of scopes as it was. -/
theorem parent?_setLocal (table : DynamicScopes) (scope other : ScopeRef) (offset : Nat)
    (value : Value) : (table.setLocal scope offset value).parent? other = table.parent? other := by
  simp only [setLocal, parent?, Array.getElem?_modify]
  by_cases same : scope.index = other.index
  · cases table.scopes[other.index]? <;> simp [same]
  · simp [same]

end DynamicScopes

end InlineCache
