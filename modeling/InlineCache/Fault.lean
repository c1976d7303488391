/-
# InlineCache.Fault -- the failures a program can see

A `Fault` is a cause: how many arguments came and how many were wanted, which
name was sent to what.  Its wording is one function, `Fault.message`.  Every path
a call can take returns the fault of the method it runs unchanged.

Faults compare by kind and wording (`Fault.same`).
-/
import InlineCache.Value.Render

namespace InlineCache

set_option autoImplicit false

inductive FaultKind where
  | argumentCount
  | undefinedMethod
  | privateMethod
  | undefinedName
  | typeMismatch
  | noBlock
  | raised
deriving DecidableEq, Repr

/-- A failure visible to the calling program. -/
inductive Fault where
  /-- a call brought `given` arguments where `expected` says how many fit -/
  | argumentCount (given : Nat) (expected : String)
  | undefinedMethod (name receiver : String)
  /-- a private method was sent to an explicit receiver -/
  | privateMethod (name receiver : String)
  /-- a bare identifier is neither a local variable nor a method -/
  | undefinedName (name receiver : String)
  | typeMismatch (text : String)
  /-- a method yields and was passed no block -/
  | noBlock
  /-- the program raised a value of its own -/
  | raised (value : Value)

abbrev Outcome := Except Fault Value

namespace Fault

def kind : Fault → FaultKind
  | argumentCount .. => .argumentCount
  | undefinedMethod .. => .undefinedMethod
  | privateMethod .. => .privateMethod
  | undefinedName .. => .undefinedName
  | typeMismatch .. => .typeMismatch
  | noBlock => .noBlock
  | raised .. => .raised

def message : Fault → String
  | argumentCount given expected =>
      "wrong number of arguments (given " ++ toString given ++ ", expected " ++ expected ++ ")"
  | undefinedMethod name receiver =>
      "undefined method \x60" ++ name ++ "' for " ++ receiver
  | privateMethod name receiver =>
      "private method \x60" ++ name ++ "' called for " ++ receiver
  | undefinedName name receiver =>
      "undefined local variable or method \x60" ++ name ++ "' for " ++ receiver
  | typeMismatch text => text
  | noBlock => "no block given (yield)"
  | raised value => value.render

def isArgumentCount (fault : Fault) : Bool := fault.kind == .argumentCount

/-- Two faults are the same when they are of one kind and read alike. -/
def same (a b : Fault) : Bool := a.kind == b.kind && a.message == b.message

end Fault

end InlineCache
