/-
# InlineCache.Block -- closures and what they capture

A block body is code with a lexical scope and a statement of what it reads from the
activation that makes it.  A closure is a body together with its binding: self, and
the frame and the dynamic scope as far as the body needs them.

A proc adapts the arguments it is given to its signature; a lambda refuses a count
that does not fit.
-/
import InlineCache.Context
import InlineCache.Log
import InlineCache.Scope.Dynamic

namespace InlineCache

set_option autoImplicit false

/-- What a block body reads from the activation that makes the closure. -/
structure CaptureRequirements where
  /-- more than plain self -/
  frame : Bool := false
  /-- local variables around it -/
  scope : Bool := false
deriving DecidableEq, Repr

/-- What a closure captures beside self. -/
inductive CaptureStrategy where
  | frameAndScope
  | scopeOnly
  | frameOnly
  | selfOnly
deriving DecidableEq, Repr

structure Binding where
  self : Value
  frame : Option Frame := none
  scope : Option ScopeRef := none

/-- The code of a block, shared by every closure made from it. -/
structure BlockBody (Code : Type) where
  entry : Code
  scope : StaticScope
  requirements : CaptureRequirements

structure BodyRef where
  index : Nat
deriving DecidableEq, Repr

structure Closure (Code : Type) where
  bodyRef : BodyRef
  body : BlockBody Code
  binding : Binding
  isLambda : Bool

/-- The place in the program where a closure is made.  Its body is built when it is
first needed, and the strategy is chosen once. -/
structure BlockSite (Code : Type) where
  /-- what the body will be -/
  plan : BlockBody Code
  bodyRef : Option BodyRef := none
  /-- how often the body was built -/
  built : Nat := 0
  strategy : Option CaptureStrategy := none
  prepared : Nat := 0

namespace CaptureRequirements

/-- The requirements as bits: one for the frame, two for the scope. -/
def bits (requirements : CaptureRequirements) : Nat :=
  (if requirements.frame then 1 else 0) + (if requirements.scope then 2 else 0)

end CaptureRequirements

namespace CaptureStrategy

/-- Capture what is required and no more. -/
def select (requirements : CaptureRequirements) : CaptureStrategy :=
  match requirements.frame, requirements.scope with
  | true, true => frameAndScope
  | false, true => scopeOnly
  | true, false => frameOnly
  | false, false => selfOnly

def capturesFrame : CaptureStrategy → Bool
  | frameAndScope | frameOnly => true
  | _ => false

def capturesScope : CaptureStrategy → Bool
  | frameAndScope | scopeOnly => true
  | _ => false

def name : CaptureStrategy → String
  | frameAndScope => "FrameAndScope"
  | scopeOnly => "ScopeOnly"
  | frameOnly => "FrameOnly"
  | selfOnly => "SelfOnly"

def capture (strategy : CaptureStrategy) (frame : Frame) (self : Value)
    (scope : Option ScopeRef) : Binding :=
  { self
    frame := if strategy.capturesFrame then some frame else none
    scope := if strategy.capturesScope then scope else none }

end CaptureStrategy

namespace Signature

/-- Does a proc take a lone array apart? -/
def destructures (signature : Signature) : Bool :=
  1 < signature.most || (signature.rest && 0 < signature.required)

/-- The list a proc adapts: a lone array taken apart, or the arguments. -/
def procBase (signature : Signature) (args : List Value) : List Value :=
  match args with
  | [.array items] => if signature.destructures then items else args
  | _ => args

/-- The arguments a proc runs with: what is too many is dropped, what is missing of
the required is nil. -/
def procArguments (signature : Signature) (args : List Value) : List Value :=
  let base := signature.procBase args
  let kept := if signature.rest then base else base.take signature.most.toNat
  kept ++ List.replicate (signature.required.toNat - kept.length) .nil

end Signature

namespace Closure

variable {Code : Type}

def render (closure : Closure Code) : String :=
  "Block(" ++ closure.body.scope.place ++ (if closure.isLambda then ", lambda" else "") ++ ")"

end Closure

end InlineCache
