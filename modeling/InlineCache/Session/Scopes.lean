/-
# InlineCache.Session.Scopes -- playing steps about lexical scopes
-/
import InlineCache.Session.Bench

namespace InlineCache

set_option autoImplicit false

namespace ScopeKind

def name : ScopeKind → String
  | script => "Script"
  | method => "Method"
  | block => "Block"
  | eval => "Eval"

end ScopeKind

namespace StaticScope

/-- A static scope as data; the scope around it is shown by how many variables it has. -/
def answer (scope : StaticScope) : Answer :=
  let around := scope.parent.map fun parent => Answer.ofNat parent.locals.length
  .record [("kind", .text scope.kind.name), ("vars", .list (scope.locals.map .text)),
    ("parent", around.getD .null), ("at", .text scope.place),
    ("sig", .signature scope.signature)]

end StaticScope

namespace DynamicScopes

/-- What a slot shows by each way of reaching it. -/
def portrait (table : DynamicScopes) (scope : ScopeRef) (offset depth : Nat) (bench : Bench) :
    Answer :=
  let special := (LocalSite.specializedGet? table scope offset).map bench.optional
  .record [("value", bench.optional (table.value scope offset depth)),
    ("ancestor", .bool (table.ancestor? depth scope).isSome),
    ("zero", bench.optional (table.valueAt scope offset)), ("special", special.getD .null)]

end DynamicScopes

namespace Play

def dynamicScope? : Option String → Play (Option ScopeRef)
  | some name => some <$> named Bench.dynamicScopes name
  | none => pure none

end Play

def ScopeStep.play : ScopeStep → Play Answer
  | .static keepAs spec => do
      let scope ← Play.staticScope spec
      Play.onBench fun bench =>
        { bench with staticScopes := NameMap.insert bench.staticScopes keepAs scope }
      pure (.ok scope.answer)
  | .resolve name asked => do
      let scope ← Play.named Bench.staticScopes name
      pure (.ok (match scope.resolve asked with
        | some (depth, offset) => .list [.ofNat depth, .ofNat offset]
        | none => .null))
  | .dynamic keepAs layout parent => do
      let layout ← Play.named Bench.staticScopes layout
      let parent ← Play.dynamicScope? parent
      let made ← Play.run fun stage =>
        let (made, scopes) := stage.scopes.create layout parent
        (made, { stage with scopes })
      Play.onBench fun bench =>
        { bench with dynamicScopes := NameMap.insert bench.dynamicScopes keepAs made }
      pure (.ok (.list [.ofNat layout.locals.length, .bool parent.isSome]))
  | .get name offset depth => do
      let scope ← Play.named Bench.dynamicScopes name
      let stage ← getThe Stage
      pure (.ok (stage.scopes.portrait scope offset depth stage.host))
  | .set name offset depth value => do
      let scope ← Play.named Bench.dynamicScopes name
      let value ← Play.value value
      let reached ← Play.run fun stage =>
        let (reached, scopes) := stage.scopes.setValue scope offset depth value
        (reached, { stage with scopes })
      pure (.ok (.bool reached))
  | .site keepAs depth offset => do
      let made := LocalSite.create depth offset
      Play.onBench fun bench => { bench with locals := NameMap.insert bench.locals keepAs made }
      pure (.ok (.list [.ofNat depth, .ofNat offset, .bool made.isSpecialized]))
  | .siteGet name scope => do
      let kept ← Play.named Bench.locals name
      let scope ← Play.named Bench.dynamicScopes scope
      let stage ← getThe Stage
      pure (.ok (.list [stage.host.optional (kept.get stage.scopes scope),
        stage.host.answer (kept.getOrNil stage.scopes scope)]))
  | .siteSet name scope value => do
      let kept ← Play.named Bench.locals name
      let scope ← Play.named Bench.dynamicScopes scope
      let value ← Play.value value
      modify fun stage =>
        let (scopes, warnings) := kept.set stage.scopes scope value
        { stage with scopes }.say warnings
      pure (.ok (.bool true))

end InlineCache
