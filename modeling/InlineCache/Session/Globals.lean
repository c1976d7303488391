/-
# InlineCache.Session.Globals -- playing steps about global variables

A step finds its global site once, by name.  A hook on the write may give the name to
another site; the step goes on with the one it found.
-/
import InlineCache.Send.Block
import InlineCache.Session.Bench

namespace InlineCache

set_option autoImplicit false

namespace GlobalSite

def answer (site : GlobalSite) (points : SwitchPoints) : Answer :=
  .record [("cached", .bool (site.isCached points)), ("demoted", .bool site.demoted),
    ("failures", .number site.failures.toNat)]

end GlobalSite

namespace Play

def globalSite (name : String) : Play (Nat × GlobalSite) := do
  let index ← named Bench.globalSiteNames name
  match (← getThe Stage).host.globalSites[index]? with
  | some found => pure (index, found)
  | none => failure

def shownGlobalSite (index : Nat) : Play Answer := do
  let stage ← getThe Stage
  match stage.host.globalSites[index]? with
  | some site => pure (site.answer stage.points)
  | none => failure

def readGlobalSite (index : Nat) (site : GlobalSite) : Play Value :=
  run fun stage =>
    let result := site.get stage.options stage.globals stage.points
    let stage := { stage with globals := result.globals, points := result.points }
    let host := { stage.host with
      globalSites := stage.host.globalSites.modify index fun _ => result.site }
    (result.value, { stage.say result.log with host })

/-- The variable of a name, made on first mention. -/
def globalVariable (name : String) : Play (GlobalVariable Routine) := do
  modify fun stage =>
    let (globals, points) := stage.globals.mention name stage.points
    { stage with globals, points }
  match NameMap.get? (← get).globals name with
  | some variable_ => pure variable_
  | none => failure

end Play

namespace GlobalVariable

def portrait (variable_ : GlobalVariable Routine) (stage : Stage) : Answer :=
  .record [("name", .text variable_.name), ("scope", .text variable_.scope.name),
    ("cacheable", .bool variable_.isCacheable), ("writes", .ofNat variable_.writes),
    ("value", stage.host.answer variable_.value), ("debug", .text variable_.render),
    ("generation", .ofNat (stage.points.generation variable_.invalidator.current))]

end GlobalVariable

def GlobalStep.play (perform : Perform) : GlobalStep → Play Answer
  | .site keepAs name file line => do
      let made : GlobalSite := { name, file, line }
      Play.onBench fun bench => { bench with
        globalSites := bench.globalSites.push made
        globalSiteNames := NameMap.insert bench.globalSiteNames keepAs bench.globalSites.size }
      pure (.ok (.list [.text made.render, .text made.name]))
  | .siteGet name => do
      let (index, found) ← Play.globalSite name
      let value ← Play.readGlobalSite index found
      let shown ← Play.shown value
      pure ((Answer.ok shown).extend [("site", ← Play.shownGlobalSite index)])
  | .siteSet name value => do
      let value ← Play.value value
      let (index, found) ← Play.globalSite name
      let outcome ← Play.runHolding [.globalSite index, .value value]
        (World.setGlobal perform found.name value)
      let shown ← Play.shownOutcome outcome
      pure (shown.extend [("site", ← Play.shownGlobalSite index)])
  | .siteInfo name => do
      let (index, _) ← Play.globalSite name
      pure (.ok (← Play.shownGlobalSite index))
  | .get name => do pure (.ok (← Play.shown ((← getThe Stage).globals.value name)))
  | .set name value => do
      let value ← Play.value value
      let outcome ← Play.runHolding [.value value] (World.setGlobal perform name value)
      Play.shownOutcome outcome
  | .has name => do
      let globals := (← getThe Stage).globals
      pure (.ok (.list [.bool (NameMap.contains globals name), .ofNat globals.length,
        .bool globals.isEmpty]))
  | .define name scope => do
      modify fun stage =>
        let (globals, points) := stage.globals.define name scope stage.points
        { stage with globals, points }
      let variable_ ← Play.globalVariable name
      pure (.ok (.list [.text variable_.scope.name, .bool variable_.isCacheable]))
  | .info name => do
      let variable_ ← Play.globalVariable name
      pure (.ok (variable_.portrait (← getThe Stage)))
  | .trace name script => do
      let _ ← Play.globalVariable name
      modify fun stage => { stage with
        globals := NameMap.modify stage.globals name fun variable_ =>
          { variable_ with traces := variable_.traces ++ [.notice script] } }
      pure (.ok (.bool true))

end InlineCache
