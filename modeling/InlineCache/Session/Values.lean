/-
# InlineCache.Session.Values -- playing steps about values and faults
-/
import InlineCache.Session.Bench

namespace InlineCache

set_option autoImplicit false

namespace Value

def portrait (value : Value) (bench : Bench) : Answer :=
  let given {α : Type} (found : Option α) (shown : α → Answer) : Answer :=
    (found.map shown).getD .null
  .record [("show", .text value.render), ("json", bench.answer value),
    ("type", .text value.typeOf.name), ("describe", .text value.describe),
    ("truthy", .bool value.isTruthy), ("nil", .bool value.isNil),
    ("fixnum", given value.int? fun n => .number n.toInt),
    ("symbol", .ofText? value.symbol?),
    ("array", given value.array? fun items => .ofNat items.length),
    ("hash", given value.hash? fun entries =>
      .list [.ofNat entries.length, .bool entries.isEmpty]),
    ("object", given value.object? fun target => .text target.type.name),
    ("block", given value.block? fun block => .bool block.isGiven)]

end Value

namespace Play

/-- Do operations on a hash one after another, and collect what each answers. -/
def hashOps : List HashOp → Dict → Play (List Answer × Dict)
  | [], dict => pure ([], dict)
  | .insert key item :: rest, dict => do
      let dict := dict.insert (← value key) (← value item)
      let (answers, last) ← hashOps rest dict
      pure (.ofNat dict.length :: answers, last)
  | .get key :: rest, dict => do
      let answer ← shownOptional (dict.get? (← value key))
      let (answers, last) ← hashOps rest dict
      pure (answer :: answers, last)

end Play

def ValueStep.play : ValueStep → Play Answer
  | .value literal => do
      let value ← Play.value literal
      pure (.ok (value.portrait (← get).host))
  | .eq a b => do
      let a ← Play.value a
      let b ← Play.value b
      pure (.ok (.bool (a.eqv b)))
  | .hashOps ops => do
      let (answers, dict) ← Play.hashOps ops []
      pure (.ok (.record [("answers", .list answers), ("hash", ← Play.shown (.hash dict))]))
  | .hashGet hash key => do
      match ← Play.value hash with
      | .hash entries =>
          let key ← Play.value key
          pure (.ok (← Play.shownOptional (Dict.get? entries key)))
      | _ => failure
  | .buildArray values => do
      pure (.ok (← Play.shown (.array (← Play.values values))))
  | .buildHash pairs => do
      pure (.ok (← Play.shown (.ofPairs (← Play.pairs pairs))))
  | .kwargsHash base pairs => do
      let base ← Play.value base
      let outcome := base.extendHash (← Play.pairs pairs)
      pure ((← Play.shownOutcome outcome).extend [("base", ← Play.shown base)])
  | .errorEq a b => do
      let a ← Play.fault a
      let b ← Play.fault b
      pure (.ok (.bool (a.same b)))
  | .errorShow spec => do
      let fault ← Play.fault spec
      pure ((Answer.fault fault).extend [("argument_error", .bool fault.isArgumentCount)])

end InlineCache
