/-
# InlineCache.World.Safepoints -- interrupts and the polls that deliver them

One thread asks another to raise a fault by queueing it in that thread's context and
requesting a safepoint.  Each poll of a context takes the oldest fault from its own
queue; as long as another live context still has one waiting, the safepoint stays
requested, so a site armed again by one thread cannot hide another thread's faults.
A context that is gone takes its queue with it.
-/
import InlineCache.Safepoint
import InlineCache.World.Basic

namespace InlineCache.World

set_option autoImplicit false

variable {Code Host : Type}

/-- Make the next poll of every checkpoint site take the slow path. -/
def requestSafepoint (world : World Code Host) : World Code Host :=
  let (checkpoint, points) := world.checkpoint.invalidate world.points
  { world with checkpoint, points }

def createContext (world : World Code Host) : ContextRef × World Code Host :=
  let (ref, contexts) := world.contexts.create
  (ref, { world with contexts })

/-- Queue a fault for a context; one that is gone receives nothing. -/
def interrupt (world : World Code Host) (target : ContextRef) (fault : Fault) :
    World Code Host :=
  if world.contexts.isLive target then
    let world := world.say [⟨.debug, "interrupting " ++ target.render ++ " with " ++ fault.message⟩]
    let world := world.modifyContext target fun state =>
      { state with pending := state.pending ++ [fault] }
    world.requestSafepoint
  else
    world.say [⟨.debug, target.render ++ " is gone, dropping " ++ fault.message⟩]

/-- The oldest fault waiting for a context.  While others wait too the safepoint stays
requested. -/
def takeInterrupt (world : World Code Host) (context : ContextRef) :
    Option Fault × World Code Host :=
  let pending := (world.context context).pending
  let world := world.modifyContext context fun state => { state with pending := pending.tail }
  let world := if world.contexts.othersPending context then world.requestSafepoint else world
  (pending.head?, world)

/-- Handle what waits for a context: raise the oldest fault. -/
def pollEvents (world : World Code Host) (context : ContextRef) :
    Except Fault Unit × World Code Host :=
  let world := world.modifyContext context fun state => { state with polls := state.polls + 1 }
  match world.takeInterrupt context with
  | (some fault, world) => (.error fault, world)
  | (none, world) => (.ok (), world)

def poll (world : World Code Host) (site : CheckpointSite) (context : ContextRef) :
    Except Fault Unit × CheckpointSite × World Code Host :=
  if site.isPending world.points then
    let site := site.rearm world.checkpoint.current
    let (outcome, world) := world.pollEvents context
    (outcome, site, world)
  else (.ok (), site, world)

/-- A thread has finished; faults it never received are gone with it. -/
def releaseContext (world : World Code Host) (context : ContextRef) : World Code Host :=
  let undelivered := (world.context context).pending.length
  let world := world.modifyContext context fun state =>
    { state with live := false, pending := [] }
  if 0 < undelivered then
    world.say [⟨.debug, context.render ++ " finished with " ++ toString undelivered ++
      " undelivered interrupts"⟩]
  else world

/-- A poll that finds its switch point valid changes nothing. -/
theorem poll_of_armed {world : World Code Host} {site : CheckpointSite} (context : ContextRef)
    (armed : site.isPending world.points = false) :
    world.poll site context = (.ok (), site, world) := by
  simp [poll, armed]

end InlineCache.World
