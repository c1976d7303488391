/-
# InlineCache.Send.Site -- a send through a call site

A call walks the site's chain.  When a guard passes, its bound thunk runs.  Otherwise
the site links: it resolves the name for the receiver's type, binds what it found and
puts the binding, guarded, in front of the entries whose guards still hold.  Each link
after the first counts as a failure, and so does each method that could not be
specialised; a site with too many failures turns megamorphic and resolves on every
call from then on.
-/
import InlineCache.Send.Uncached

namespace InlineCache.World

set_option autoImplicit false

variable {Code Host : Type}

/-- Bind what a name resolves to for a receiver type: the guard, the bound thunk, and
whether a specialised binding was declined. -/
def bind (world : World Code Host) (site : CallSite Code) (receiverType : TypeRef) :
    Option (TypeGuard × BoundThunk Code × Bool) × World Code Host :=
  let guard : TypeGuard := ⟨receiverType.id, world.types.switchPoint receiverType⟩
  match world.resolveSend receiverType site.name site.callType with
  | .callable entry =>
      match world.specialize world.options site.name site.shape receiverType entry with
      | (some bound, world) =>
          (some (guard, bound, false),
            world.sayBinding (site.render ++ "\tbound " ++ bound.kind.name ++ " " ++ entry.render))
      | (none, world) =>
          (some (guard, .generic site.name entry, true),
            world.sayBinding (site.render ++ "\tfalling back to generic for " ++
              entry.method.implementation.kindName ++ " " ++ entry.render))
  | .missing reason (some handler) =>
      (some (guard, .missing site.name reason handler, false),
        world.sayBinding (site.render ++ "\t" ++ reason.name ++ " on " ++ receiverType.name ++
          ", bound method_missing " ++ handler.render))
  | .missing _ none => (none, world)

/-- The entries of a chain that a new entry for a type is put in front of: those of
other types whose guards still hold. -/
def keptEntries (points : SwitchPoints) (typeId : Nat) (thunk : Thunk Code) :
    List (TypeGuard × BoundThunk Code) :=
  thunk.entries.filter fun entry => entry.1.typeId != typeId && points.isValid entry.1.token

/-- Count a link; every one after the first is a failure. -/
def countLink (site : CallSite Code) : CallSite Code :=
  if site.links = 0 then { site with links := 1 }
  else { site with links := site.links + 1, failures := site.failures + 1 }

/-- Link a site for a receiver type.  Answers the bound thunk to run, or none when the
call is to be resolved without the site. -/
def link (world : World Code Host) (ref : SiteRef) (site : CallSite Code)
    (receiverType : TypeRef) : Option (BoundThunk Code) × World Code Host :=
  let counted := countLink site
  if site.links ≠ 0 ∧ world.options.maxFail < counted.failures then
    let world := world.sayBinding (site.render ++ "\tmegamorphic after " ++
      toString counted.failures ++ " relinks, no longer caching")
    (none, world.modifySite ref fun _ =>
      { counted with target := counted.target.store .megamorphic })
  else
    match world.bind site receiverType with
    | (none, world) => (none, world.modifySite ref fun _ => counted)
    | (some (guard, bound, declined), world) =>
        let counted :=
          if declined then { counted with failures := counted.failures + 1 } else counted
        let kept := keptEntries world.points guard.typeId counted.target.load
        let full := world.options.maxPoly.toNat ≤ kept.length
        let world := if full then
            world.sayBinding (site.render ++ "\tmore than " ++ toString world.options.maxPoly ++
              " receiver types, restarting chain")
          else world
        let entries := (guard, bound) :: (if full then [] else kept)
        (some bound, world.modifySite ref fun _ =>
          { counted with target := counted.target.store (Thunk.chain entries .link) })

/-- **The send through a call site.** -/
def callSite (exec : Exec Code Host) (context : ContextRef) (ref : SiteRef) (call : Call)
    (world : World Code Host) : Outcome × World Code Host :=
  match world.site? ref with
  | none => (.ok .nil, world)
  | some site =>
      let receiverType := call.receiver.typeOf
      match site.target.load.dispatch world.points receiverType.id with
      | .bound bound => invoke exec context bound call world
      | .megamorphic => send exec context site.name site.callType call world
      | .link =>
          match world.link ref site receiverType with
          | (some bound, world) => invoke exec context bound call world
          | (none, world) => send exec context site.name site.callType call world

end InlineCache.World
