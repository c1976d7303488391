/-
# InlineCache.Send.Uncached -- a send that looks the name up each time

The plainest send: find the method on the receiver's type and run it if the call may
reach it; otherwise run the type's `method_missing` with the name sent in front of the
arguments; otherwise raise.  A call site must come to the same.
-/
import InlineCache.Send.Specialize

namespace InlineCache.World

set_option autoImplicit false

variable {Code Host : Type}

inductive Resolution (Code : Type) where
  /-- a method that the call may run -/
  | callable (entry : CacheEntry Code)
  /-- none, for a reason; the handler of missing methods if there is one -/
  | missing (reason : MissingReason) (handler : Option (CacheEntry Code))

def resolveSend (world : World Code Host) (type : TypeRef) (name : String)
    (callType : CallType) : Resolution Code :=
  let found := (world.lookup type name).found?
  match found with
  | some entry =>
      if callType.mayCall entry.method then .callable entry
      else .missing (callType.missingReason true) (world.lookup type methodMissing).found?
  | none => .missing (callType.missingReason false) (world.lookup type methodMissing).found?

/-- **The uncached send.** -/
def send (exec : Exec Code Host) (context : ContextRef) (name : String) (callType : CallType)
    (call : Call) (world : World Code Host) : Outcome × World Code Host :=
  match world.resolveSend call.receiver.typeOf name callType with
  | .callable entry => callMethod exec context entry.method entry.owner name call world
  | .missing reason (some handler) =>
      callMissing exec context handler.method handler.owner reason name call world
  | .missing reason none =>
      (world.setMissingReason context reason).raiseMissing context call.receiver
        (missingArguments name call.args)

end InlineCache.World
