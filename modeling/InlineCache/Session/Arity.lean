/-
# InlineCache.Session.Arity -- playing steps about argument counts
-/
import InlineCache.Session.Bench

namespace InlineCache

set_option autoImplicit false

namespace ShapeCheck

def answer : ShapeCheck → Answer
  | accepted => .text "Accepted"
  | dynamic => .text "Dynamic"
  | rejected given expected => .record [("given", .ofNat given), ("expected", .text expected)]

end ShapeCheck

namespace Signature

/-- Everything a signature tells about some counts and some shapes. -/
def portrait (signature : Signature) (counts : List Nat) (shapes : List Int) : Answer :=
  let verdicts := shapes.map signature.checkShape
  .record [("expected", .text signature.expected), ("arity", .number signature.arity),
    ("fixed", .bool signature.isFixed),
    ("accepts", .list (counts.map fun count => .bool (signature.accepts count))),
    ("shapes", .list (verdicts.map ShapeCheck.answer)),
    ("checks", .list (verdicts.map fun verdict => .ofCheck verdict.raise))]

end Signature

def ArityStep.play : ArityStep → Play Answer
  | .signature declared counts shapes => pure (.ok (declared.portrait counts shapes))
  | .arguments declared args kwargs => do
      pure (.ofCheck (declared.checkArguments (← Play.values args) kwargs))
  | .count declared given => pure (.ofCheck (declared.check given))
  | .array items required optional rest => do
      let declared : Signature := { required, optional, rest }
      pure (.ofCheck (declared.check (← Play.values items).length))
  | .native params isStatic =>
      pure (.ok (match NativeParam.argumentCount? params isStatic with
        | some given => .number given
        | none => .null))

end InlineCache
