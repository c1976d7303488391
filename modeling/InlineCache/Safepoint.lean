/-
# InlineCache.Safepoint -- checkpoints where other threads can step in

A checkpoint site stands in a loop or a method prologue.  It keeps the switch point
of the world's checkpoint; while that holds a poll does nothing.  Requesting a
safepoint flips the switch point, so the next poll of every site takes the slow path:
the site arms itself again with the current switch point first and then looks for
faults waiting for its context.
-/
import InlineCache.DispatchCell
import InlineCache.SwitchPoint

namespace InlineCache

set_option autoImplicit false

/-- A poll for safepoints. -/
structure CheckpointSite where
  /-- the switch point it relies on, once it has one -/
  armed : DispatchCell (Option SwitchPoint) := .create none
  slowPaths : Nat := 0

namespace CheckpointSite

/-- Must the next poll take the slow path? -/
def isPending (site : CheckpointSite) (points : SwitchPoints) : Bool :=
  match site.armed.load with
  | some token => !points.isValid token
  | none => true

def rearm (site : CheckpointSite) (token : SwitchPoint) : CheckpointSite :=
  { armed := site.armed.store (some token), slowPaths := site.slowPaths + 1 }

end CheckpointSite

end InlineCache
