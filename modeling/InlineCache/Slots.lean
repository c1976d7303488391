/-
# InlineCache.Slots -- growing rows of slots

A row of slots holds values at numbered places.  A place that was never written is
empty, and so is every place past the end; writing past the end grows the row.
-/
import InlineCache.Value.Basic

namespace InlineCache

set_option autoImplicit false

abbrev Slots := Array (Option Value)

namespace Slots

def empty (count : Nat) : Slots := Array.replicate count none

def read (slots : Slots) (place : Nat) : Option Value := (slots[place]?).join

/-- Write a place, growing the row as far as needed. -/
def write (slots : Slots) (place : Nat) (value : Value) : Slots :=
  (slots ++ Array.replicate (place + 1 - slots.size) none).setIfInBounds place (some value)

theorem read_empty (count place : Nat) : (empty count).read place = none := by
  simp [empty, read, Array.getElem?_replicate]
  split <;> rfl

/-- **A write shows at its own place only.** -/
theorem read_write (slots : Slots) (place other : Nat) (value : Value) :
    (slots.write place value).read other =
      if other = place then some value else slots.read other := by
  by_cases same : other = place
  · subst same
    have : other < (slots ++ Array.replicate (other + 1 - slots.size) none).size := by
      simp; omega
    rw [read, write, Array.getElem?_setIfInBounds_self_of_lt this]
    simp
  · have ne : place ≠ other := fun e => same e.symm
    by_cases old : other < slots.size
    · simp [read, write, ne, same, Array.getElem?_append, old]
    · simp only [read, write, Array.getElem?_setIfInBounds, ne, if_false, same,
        Array.getElem?_append, old, Array.getElem?_replicate]
      have past : slots[other]? = none := Array.getElem?_eq_none (Nat.le_of_not_lt old)
      split <;> simp [past]

/-- A row grows as far as it was written. -/
theorem size_write (slots : Slots) (place : Nat) (value : Value) :
    (slots.write place value).size = max slots.size (place + 1) := by
  simp only [write, Array.size_setIfInBounds, Array.size_append, Array.size_replicate]
  omega

end Slots

end InlineCache
