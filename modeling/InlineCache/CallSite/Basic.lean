/-
# InlineCache.CallSite.Basic -- one send in the program

A call site stands for one send: the name, the shape of the call as the program
spells it, and whether a receiver is written.  It counts how often it has linked
and failed, and keeps its chain in a dispatch cell.
-/
import InlineCache.CallSite.Thunk
import InlineCache.DispatchCell

namespace InlineCache

set_option autoImplicit false

/-- How the receiver of a call is written. -/
inductive CallType where
  /-- `receiver.name` -/
  | normal
  /-- `name()`, which may reach private methods -/
  | functional
  /-- a bare `name` that could have been a local variable -/
  | variableLike
deriving DecidableEq, Repr

structure CallShape where
  /-- negative when the arguments arrive as one list -/
  argCount : Int := 0
  hasBlock : Bool := false
  /-- no receiver is written -/
  isFunctional : Bool := false
  receiverOffset : UInt64 := 0
deriving DecidableEq, Repr

structure CallSite (Code : Type) where
  name : String
  shape : CallShape
  callType : CallType
  target : DispatchCell (Thunk Code) := .create .link
  failures : UInt32 := 0
  links : Nat := 0

structure SiteStats where
  links : Nat
  failures : UInt32
  /-- receiver types chained now -/
  depth : Nat
  kind : ThunkKind
deriving DecidableEq, Repr

namespace CallType

def name : CallType → String
  | normal => "Normal"
  | functional => "Functional"
  | variableLike => "Variable"

/-- May a call of this type run the method?  Only a call with a written receiver is
kept from private methods. -/
def mayCall {Code : Type} (callType : CallType) (method : Method Code) : Bool :=
  !method.isPrivate || callType != normal

def missingReason (callType : CallType) (found : Bool) : MissingReason :=
  if found then .hidden
  else
    match callType with
    | normal => .normal
    | functional => .functional
    | variableLike => .variableLike

end CallType

namespace CallSite

variable {Code : Type}

/-- A site that has never linked.  Whether a receiver is written follows from the
call type. -/
def create (name : String) (shape : CallShape) (callType : CallType) : CallSite Code :=
  { name, callType, shape := { shape with isFunctional := callType != .normal } }

def render (site : CallSite Code) : String :=
  site.name ++ (if site.shape.argCount = -1 then "(*)" else "(" ++ toString site.shape.argCount ++ ")")

def stats (site : CallSite Code) : SiteStats :=
  { links := site.links
    failures := site.failures
    depth := site.target.load.depth
    kind := site.target.load.kind }

def isMegamorphic (site : CallSite Code) : Bool :=
  site.target.load.kind == .megamorphic

end CallSite

end InlineCache
