/-
# InlineCache.Scope.Static -- lexical scopes as a compiler describes them

A static scope lists the local variables that one method, block, script or eval
declares, and points to the scope around it.  `resolve` finds a name in the nearest
scope that declares it and answers with two coordinates: how many scopes out, and
which place among the variables there.
-/
import InlineCache.Signature

namespace InlineCache

set_option autoImplicit false

inductive ScopeKind where
  | script
  | method
  | block
  | eval
deriving DecidableEq, Repr

structure StaticScope where
  kind : ScopeKind
  locals : List String
  parent : Option StaticScope := none
  file : String := "-"
  line : UInt32 := 0
  signature : Signature := Signature.noArguments

namespace StaticScope

/-- A scope and the scopes around it, from the inside out. -/
def enclosing : StaticScope → List StaticScope
  | scope@⟨_, _, none, _, _, _⟩ => [scope]
  | scope@⟨_, _, some parent, _, _, _⟩ => scope :: parent.enclosing

/-- The first of these scopes that declares a name, and the first place of the name
there. -/
def locate (name : String) : List StaticScope → Option (Nat × Nat)
  | [] => none
  | scope :: outer =>
      match scope.locals.findIdx? (· == name) with
      | some offset => some (0, offset)
      | none => (locate name outer).map fun found => (found.1 + 1, found.2)

/-- The depth and the offset of a name. -/
def resolve (scope : StaticScope) (name : String) : Option (Nat × Nat) :=
  locate name scope.enclosing

def place (scope : StaticScope) : String := scope.file ++ ":" ++ toString scope.line

theorem enclosing_eq (scope : StaticScope) :
    scope.enclosing = scope :: (scope.parent.map enclosing).getD [] := by
  rcases scope with ⟨_, _, _ | _, _, _, _⟩ <;> simp [enclosing]

end StaticScope

end InlineCache
