/-
# InlineCache.Session.Liveness -- which types are still referred to

A type made for itself is gone as soon as nothing refers to it: no name, no subtype, no
object, no value, no frame, no cached entry and no call under way.  Nothing is traced from the outside in; a
thing stays as long as *something* that is still there refers to it, so things that refer
to each other in a circle stay for good.

`stillThere` drops unreferenced things until every one left is referred to.  A session
looks for types that are gone after each step and before each script, once one of them
has lost its name.
-/
import InlineCache.Session.Bench

namespace InlineCache

set_option autoImplicit false

inductive Referent where
  | type (id : Nat)
  | object (id : Nat)
  | closure (id : Nat)
  | scope (index : Nat)
deriving DecidableEq, Repr

namespace Referent

/-- Keep what a root or another thing kept refers to, and start over with those until
nothing is dropped.  Each round but the last drops something, so as many rounds as
things are enough. -/
def stillThere (edges : Referent → List Referent) (roots : List Referent) :
    Nat → List Referent → List Referent
  | 0, things => things
  | rounds + 1, things =>
      let referred := roots ++ things.flatMap edges
      let kept := things.filter referred.contains
      if kept.length = things.length then things else stillThere edges roots rounds kept

end Referent

namespace BlockRef

def referents : BlockRef → List Referent
  | null => []
  | closure id => [.closure id]

end BlockRef

namespace TypeRef

def referents (type : TypeRef) : List Referent := [.type type.id]

end TypeRef

namespace ObjectRef

/-- An object keeps its type. -/
def referents (object : ObjectRef) : List Referent :=
  .object object.id :: object.type.referents

end ObjectRef

mutual

def Value.referents : Value → List Referent
  | .object target => target.referents
  | .type target => target.referents
  | .proc block => block.referents
  | .array items => itemReferents items
  | .hash entries => entryReferents entries
  | _ => []

def itemReferents : List Value → List Referent
  | [] => []
  | value :: rest => value.referents ++ itemReferents rest

def entryReferents : List (Value × Value) → List Referent
  | [] => []
  | (key, value) :: rest => key.referents ++ value.referents ++ entryReferents rest

end

namespace Frame

def referents (frame : Frame) : List Referent :=
  frame.self.referents ++ frame.owner.toList.flatMap TypeRef.referents

end Frame

namespace Slots

def referents (slots : Slots) : List Referent :=
  slots.toList.flatMap fun slot => slot.toList.flatMap Value.referents

end Slots

namespace Binding

def referents (binding : Binding) : List Referent :=
  binding.self.referents ++ binding.frame.toList.flatMap Frame.referents ++
    binding.scope.toList.map fun scope => .scope scope.index

end Binding

namespace Context

def referents (context : Context) : List Referent :=
  if context.live then
    (context.frames.base :: context.frames.pushed).flatMap Frame.referents ++
      context.pending.flatMap fun fault =>
        match fault with
        | .raised value => value.referents
        | _ => []
  else []

end Context

namespace Thunk

def referents {Code : Type} (thunk : Thunk Code) : List Referent :=
  thunk.entries.flatMap fun entry => entry.2.entry.owner.referents

end Thunk

namespace GlobalSite

def referents (site : GlobalSite) : List Referent :=
  match site.read.load with
  | .cached _ value => value.referents
  | _ => []

end GlobalSite

namespace Bench

def referents (bench : Bench) : List Referent :=
  (bench.types.flatMap fun entry => entry.2.referents) ++
    (bench.objects.flatMap fun entry => entry.2.referents) ++
    (bench.blocks.flatMap fun entry => entry.2.referents) ++
    (bench.dynamicScopes.map fun entry => .scope entry.2.index) ++
    (bench.bounds.flatMap fun entry => entry.2.entry.owner.referents) ++
    (bench.chains.flatMap fun entry => entry.2.referents)

end Bench

namespace Holding

def referents (stage : Stage) : Holding → List Referent
  | value held => held.referents
  | block held => held.referents
  | type held => held.referents
  | site ref => (stage.site? ref).toList.flatMap fun site => site.target.load.referents
  | globalSite index => (stage.host.globalSites[index]?).toList.flatMap GlobalSite.referents

end Holding

namespace World

def roots (stage : Stage) : List Referent :=
  stage.host.referents ++
    (stage.classes.flatMap fun entry => entry.2.referents) ++
    (stage.contexts.contexts.toList.flatMap Context.referents) ++
    (stage.globals.flatMap fun entry => entry.2.value.referents) ++
    (stage.host.sites.flatMap fun entry => (Holding.site entry.2).referents stage) ++
    (stage.host.globalSiteNames.flatMap fun entry =>
      (Holding.globalSite entry.2).referents stage) ++
    stage.host.underWay.flatMap fun held => held.referents stage

def referents (stage : Stage) : Referent → List Referent
  | .type id =>
      (stage.types.types[id]?).toList.flatMap fun state =>
        state.parent?.toList.flatMap TypeRef.referents
  | .object id =>
      (stage.objects.objects[id]?).toList.flatMap fun state =>
        state.fields.referents ++ state.dictionary.flatMap fun entry => entry.2.referents
  | .closure id =>
      (stage.closures[id]?).toList.flatMap fun closure => closure.binding.referents
  | .scope index =>
      (stage.scopes.scopes[index]?).toList.flatMap fun scope =>
        scope.values.referents ++ scope.parent.toList.map fun parent => .scope parent.index

def things (stage : Stage) : List Referent :=
  (List.range stage.types.types.size).map .type ++
    (List.range stage.objects.objects.size).map .object ++
    (List.range stage.closures.size).map .closure ++
    (List.range stage.scopes.scopes.size).map .scope

/-- Take note of the types that are gone. -/
def settle (stage : Stage) : Stage :=
  if stage.host.typesMayBeGone then
    let things := stage.things
    let kept := Referent.stillThere stage.referents stage.roots things.length things
    let gone := stage.types.types.toList.filterMap fun state =>
      if kept.contains (.type state.ref.id) then none else some state.ref
    -- a type is made after its parent, so those made last are released first
    { stage with types := gone.foldr (fun type table => table.release type) stage.types }
  else stage

end World

end InlineCache
