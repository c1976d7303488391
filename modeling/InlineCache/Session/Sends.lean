/-
# InlineCache.Session.Sends -- playing steps about sends

A call through a site answers with what it came to, the site's statistics after it, how
deep the frames are, and whether the keyword facts are still set.  Whether the call gave
the site a new target is told only when no script was played during it.
-/
import InlineCache.Send.Site
import InlineCache.Session.Bench

namespace InlineCache

set_option autoImplicit false

namespace SiteStats

def fields (stats : SiteStats) : List (String × Answer) :=
  [("links", .ofNat stats.links), ("failures", .number stats.failures.toNat),
    ("depth", .ofNat stats.depth), ("kind", .text stats.kind.name)]

end SiteStats

namespace BoundThunk

def answer {Code : Type} (bound : BoundThunk Code) : Answer :=
  .record [("bound", .text bound.render), ("kind", .text bound.kind.name),
    ("entry", .text bound.entry.render)]

end BoundThunk

namespace Dispatch

def answer {Code : Type} : Dispatch Code → Answer
  | bound target => .record [("bound", .text target.render)]
  | link => .text "Link"
  | megamorphic => .text "Megamorphic"

end Dispatch

namespace CallSite

variable {Code : Type}

def answer (site : CallSite Code) : Answer :=
  .record [("show", .text site.render), ("name", .text site.name),
    ("functional", .bool site.shape.isFunctional), ("argc", .number site.shape.argCount),
    ("block", .bool site.shape.hasBlock), ("off", .number site.shape.receiverOffset.toNat),
    ("type", .text site.callType.name), ("kind", .text site.stats.kind.name)]

end CallSite

namespace Call

/-- What a call holds on to for itself: its receiver, its arguments and its block, also
where the code it reaches is given less. -/
def holdings (call : Call) : List Holding :=
  .block call.block :: .value call.receiver :: call.args.map .value

end Call

namespace Thunk

variable {Code : Type}

/-- What a call holds on to for linking: the chain from before, until it is over. -/
def holdings (chain : Thunk Code) : List Holding :=
  chain.entries.map fun entry => .type entry.2.entry.owner

end Thunk

namespace World

/-- What a call through a site holds on to: the site, itself, and the chain from before
when the site is to link.  The target of a guard that passes was found on a supertype of
the receiver's type, which the receiver holds. -/
def siteHoldings (stage : Stage) (ref : SiteRef) (site : CallSite Routine) (call : Call) :
    List Holding :=
  let chain := site.target.load
  let forLinking := match chain.dispatch stage.points call.receiver.typeOf.id with
    | .link => chain.holdings
    | _ => []
  .site ref :: call.holdings ++ forLinking

end World

namespace OptionsSpec

/-- The settings spelled; one that is left out has its default. -/
def options (spec : OptionsSpec) : Options :=
  let default : Options := {}
  { logBinding := spec.logBinding.getD default.logBinding
    logGlobals := spec.logGlobals.getD default.logGlobals
    maxFail := spec.maxFail.getD default.maxFail
    maxPoly := spec.maxPoly.getD default.maxPoly
    globalMaxFail := spec.globalMaxFail.getD default.globalMaxFail
    nativeBinding := spec.native.getD default.nativeBinding
    compiledBinding := spec.compiled.getD default.compiledBinding
    attrBinding := spec.attr.getD default.attrBinding }

end OptionsSpec

namespace Play

def site (name : String) : Play (SiteRef × CallSite Routine) := do
  let ref ← named Bench.sites name
  match (← get).site? ref with
  | some site => pure (ref, site)
  | none => failure

/-- Set the keyword facts if the call asks for it, and run while the call holds on to
things. -/
def entered (context : ContextRef) (kwargs : Bool) (holdings : List Holding)
    (operation : Stage → Outcome × Stage) : Play Outcome := do
  if kwargs then modify fun stage => stage.setKwargs context true
  runHolding holdings operation

def afterCall (context : ContextRef) : Play (List (String × Answer)) := do
  let state := (← get).context context
  pure [("frames", .ofNat state.frames.depth), ("kwargs", .bool state.kwargs)]

/-- Bind what a lookup found in the way a step asks for: under the settings it spells, or
under those of the world when it spells none. -/
def bindEntry (name : String) (type : TypeRef) (shape : CallShape) (mode : BindMode)
    (options : Option OptionsSpec) (entry : CacheEntry Routine) : Play (Option (BoundThunk Routine)) := do
  match mode with
  | .specialize =>
      run fun stage =>
        let settings := (options.map OptionsSpec.options).getD stage.options
        stage.specialize settings name shape type entry
  | .generic => pure (some (.generic name entry))
  | .missing sent reason => pure (some (.missing sent reason entry))

def chainEntry (spec : ChainEntrySpec) : Play (TypeGuard × BoundThunk Routine) := do
  let type ← type spec.type
  let bound ← named Bench.bounds spec.bound
  let token ← match spec.token with
    | some name => named Bench.tokens name
    | none => pure ((← get).types.switchPoint type)
  pure (⟨type.id, token⟩, bound)

def chainEntries : List ChainEntrySpec → Play (List (TypeGuard × BoundThunk Routine))
  | [] => pure []
  | spec :: rest => do
      let head ← chainEntry spec
      let tail ← chainEntries rest
      pure (head :: tail)

end Play

def SendStep.play (perform : Perform) (context : ContextRef) : SendStep → Play Answer
  | .site keepAs name callType shape => do
      let made : CallSite Routine := .create name shape callType
      let ref ← Play.run fun stage => stage.createSite made
      Play.onBench fun bench => { bench with sites := NameMap.insert bench.sites keepAs ref }
      pure (.ok made.answer)
  | .call name spec => do
      let (ref, before) ← Play.site name
      let arguments ← Play.call spec
      let traced := (← get).host.trace.size
      let holdings := (← getThe Stage).siteHoldings ref before arguments
      let outcome ← Play.entered context spec.kwargs holdings
        (World.callSite perform context ref arguments)
      let stage ← get
      match stage.site? ref with
      | none => failure
      | some after =>
          let shown ← Play.shownOutcome outcome
          let state ← Play.afterCall context
          let retargeted := if stage.host.trace.size = traced then
              [("retargeted", Answer.bool (after.target.swaps != before.target.swaps))]
            else []
          pure (shown.extend (("site", .record after.stats.fields) :: state ++ retargeted))
  | .send name callType spec => do
      let arguments ← Play.call spec
      let outcome ← Play.entered context spec.kwargs arguments.holdings
        (World.send perform context name callType arguments)
      let shown ← Play.shownOutcome outcome
      pure (shown.extend (← Play.afterCall context))
  | .methodCall name owner sent spec => do
      let kept ← Play.named Bench.methods name
      let owner ← Play.type owner
      let arguments ← Play.call spec
      let outcome ← Play.entered context spec.kwargs (.type owner :: arguments.holdings)
        (World.callMethod perform context kept owner sent arguments)
      let shown ← Play.shownOutcome outcome
      pure (shown.extend (← Play.afterCall context))
  | .siteInfo name => do
      let (_, state) ← Play.site name
      pure (.ok (.record (state.stats.fields ++ [("megamorphic", .bool state.isMegamorphic)])))
  | .bind keepAs type name shape mode options => do
      let type ← Play.type type
      match ((← get).lookup type name).found? with
      | none => pure (.ok (.text "not found"))
      | some entry =>
          match ← Play.bindEntry name type shape mode options entry with
          | none => pure (.ok .null)
          | some bound =>
              Play.onBench fun bench =>
                { bench with bounds := NameMap.insert bench.bounds keepAs bound }
              pure (.ok bound.answer)
  | .boundCall name spec => do
      let bound ← Play.named Bench.bounds name
      let arguments ← Play.call spec
      let outcome ← Play.entered context spec.kwargs
        (.type bound.entry.owner :: arguments.holdings)
        (World.invoke perform context bound arguments)
      Play.shownOutcome outcome
  | .chain keepAs specs megamorphic => do
      let entries ← Play.chainEntries specs
      let made := Thunk.chain entries (if megamorphic then .megamorphic else .link)
      Play.onBench fun bench => { bench with chains := NameMap.insert bench.chains keepAs made }
      pure (.ok (.bool true))
  | .dispatch name type => do
      let kept ← Play.named Bench.chains name
      let type ← Play.type type
      pure (.ok (kept.dispatch (← get).points type.id).answer)
  | .chainInfo name => do
      let kept ← Play.named Bench.chains name
      let points := (← get).points
      let entries := kept.entries.map fun entry =>
        Answer.list [.bool (points.isValid entry.1.token), .text entry.2.render]
      pure (.ok (.record [("depth", .ofNat kept.depth), ("kind", .text kept.kind.name),
        ("entries", .list entries)]))
  | .missingArgs name args => do
      let args ← Play.values args
      pure (.ok (← Play.shown (.array (missingArguments name args))))

end InlineCache
