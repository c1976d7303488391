/-
# InlineCache.DispatchCell -- a target that can be replaced while it is in use

A cell holds one target.  Readers pin the cell while they use what they read;
writers publish a new target and retire the old one.  Retired targets are let go by
the first write that finds no reader pinned, so a target in use is always either the
current one or among the retired.
-/
namespace InlineCache

set_option autoImplicit false

structure DispatchCell (α : Type) where
  current : α
  /-- readers in the middle of using a target -/
  pins : Nat := 0
  /-- targets replaced since the last write without a reader, the latest first -/
  retired : List α := []
  /-- how many targets have been published after the first -/
  swaps : Nat := 0

namespace DispatchCell

variable {α : Type}

def create (target : α) : DispatchCell α := { current := target }

def load (cell : DispatchCell α) : α := cell.current

/-- Publish a target.  The one replaced is retired, and every retired target is let
go when no reader is pinned. -/
def store (cell : DispatchCell α) (target : α) : DispatchCell α :=
  { cell with
      current := target
      retired := if cell.pins = 0 then [] else cell.current :: cell.retired
      swaps := cell.swaps + 1 }

def pin (cell : DispatchCell α) : DispatchCell α := { cell with pins := cell.pins + 1 }

def unpin (cell : DispatchCell α) : DispatchCell α := { cell with pins := cell.pins - 1 }

@[simp] theorem load_store (cell : DispatchCell α) (target : α) :
    (cell.store target).load = target := rfl

theorem retired_store_of_unpinned {cell : DispatchCell α} (free : cell.pins = 0) (target : α) :
    (cell.store target).retired = [] := by
  simp [store, free]

end DispatchCell

end InlineCache
