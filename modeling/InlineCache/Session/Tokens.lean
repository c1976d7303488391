/-
# InlineCache.Session.Tokens -- playing steps about switch points
-/
import InlineCache.Session.Types

namespace InlineCache

set_option autoImplicit false

namespace SwitchPoints

def portrait (points : SwitchPoints) (token : SwitchPoint) : Answer :=
  .list [.bool (points.isValid token), .ofNat (points.generation token)]

end SwitchPoints

namespace Play

def token : TokenSource → Play SwitchPoint
  | .invalidator name => do pure (← named Bench.invalidators name).current
  | .type name => do
      let type ← type name
      pure ((← getThe Stage).types.switchPoint type)
  | .global name => do
      modify fun stage =>
        let (globals, points) := stage.globals.mention name stage.points
        { stage with globals, points }
      match (← getThe Stage).globals.switchPoint? name with
      | some found => pure found
      | none => failure
  | .fresh generation => run fun stage =>
      let (made, points) := stage.points.mint generation
      (made, { stage with points })
  | .checkpoint => do pure (← getThe Stage).checkpoint.current

def invalidateAll : List String → Play Unit
  | [] => pure ()
  | name :: rest => do
      let owner ← named Bench.invalidators name
      let owner ← run fun stage =>
        let (owner, points) := owner.invalidate stage.points
        (owner, { stage with points })
      onBench fun bench =>
        { bench with invalidators := NameMap.insert bench.invalidators name owner }
      invalidateAll rest

def generations : List String → Play (List Answer)
  | [] => pure []
  | name :: rest => do
      let owner ← named Bench.invalidators name
      let tail ← generations rest
      pure (.ofNat owner.generation :: tail)

end Play

def TokenStep.play : TokenStep → Play Answer
  | .invalidator keepAs kind oneShot => do
      let made ← Play.run fun stage =>
        let (made, points) := Invalidator.create kind (!oneShot) stage.points
        (made, { stage with points })
      Play.onBench fun bench =>
        { bench with invalidators := NameMap.insert bench.invalidators keepAs made }
      pure (.ok (.bool true))
  | .invalidate names => do
      Play.invalidateAll names
      pure (.ok (.list (← Play.generations names)))
  | .info name => do
      let owner ← Play.named Bench.invalidators name
      let spent := owner.isSpent (← getThe Stage).points
      pure (.ok (.record [("kind", .text owner.kind.name),
        ("generation", .ofNat owner.generation), ("spent", .bool spent)]))
  | .token keepAs source => do
      let found ← Play.token source
      Play.onBench fun bench => { bench with tokens := NameMap.insert bench.tokens keepAs found }
      pure (.ok ((← getThe Stage).points.portrait found))
  | .check name => do
      let kept ← Play.named Bench.tokens name
      pure (.ok ((← getThe Stage).points.portrait kept))
  | .flip name => do
      let kept ← Play.named Bench.tokens name
      let valid := (← getThe Stage).points.isValid kept
      modify fun stage => { stage with points := stage.points.flip kept }
      pure (.ok (.bool valid))
  | .same a b => do
      let a ← Play.named Bench.tokens a
      let b ← Play.named Bench.tokens b
      pure (.ok (.bool (a == b)))

end InlineCache
