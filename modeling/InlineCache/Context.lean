/-
# InlineCache.Context -- the execution state of one thread

A context carries a stack of frames, the facts that a caller hands to the callee's
arity check (`kwargs`), the reason why the latest send went missing, how often it has
polled for events, and the faults other threads have asked it to raise.

The stack always has its base frame: `pop` takes pushed frames only.
-/
import InlineCache.CallSite.Thunk

namespace InlineCache

set_option autoImplicit false

/-- An activation as blocks and diagnostics see it. -/
structure Frame where
  self : Value
  owner : Option TypeRef := none
  name : Option String := none

/-- Frames above a base that stays. -/
structure FrameStack where
  base : Frame
  /-- the innermost first -/
  pushed : List Frame := []

namespace FrameStack

def current (stack : FrameStack) : Frame := stack.pushed.headD stack.base

def depth (stack : FrameStack) : Nat := stack.pushed.length + 1

def push (stack : FrameStack) (frame : Frame) : FrameStack :=
  { stack with pushed := frame :: stack.pushed }

/-- Take the innermost frame, unless only the base is left. -/
def pop (stack : FrameStack) : Option Frame × FrameStack :=
  match stack.pushed with
  | [] => (none, stack)
  | frame :: rest => (some frame, { stack with pushed := rest })

@[simp] theorem pop_push (stack : FrameStack) (frame : Frame) :
    (stack.push frame).pop = (some frame, stack) := rfl

end FrameStack

structure ContextRef where
  index : Nat
deriving DecidableEq, Repr

namespace ContextRef

def render (context : ContextRef) : String := "ContextId(" ++ toString context.index ++ ")"

end ContextRef

structure Context where
  frames : FrameStack := { base := { self := .nil } }
  /-- the last positional argument of the call being entered is a hash of keywords -/
  kwargs : Bool := false
  missingReason : MissingReason := .normal
  polls : Nat := 0
  /-- faults to raise at the next polls, the oldest first -/
  pending : List Fault := []
  /-- false once the thread has finished -/
  live : Bool := true

instance : Inhabited Context := ⟨{}⟩

namespace Context

def renderCallInfo (context : Context) : String :=
  if context.kwargs then "CallInfo(KWARGS)" else "CallInfo(0x0)"

def popFrame (context : Context) : Context := { context with frames := context.frames.pop.2 }

def pushFrame (context : Context) (frame : Frame) : Context :=
  { context with frames := context.frames.push frame }

end Context

/-- The contexts of a world, in the order they were made, finished ones included. -/
structure Contexts where
  contexts : Array Context := #[]

namespace Contexts

/-- The state of a context; one that was never made is fresh. -/
def get (table : Contexts) (context : ContextRef) : Context :=
  (table.contexts[context.index]?).getD {}

def modify (table : Contexts) (context : ContextRef) (change : Context → Context) : Contexts :=
  { table with contexts := table.contexts.modify context.index change }

def create (table : Contexts) : ContextRef × Contexts :=
  (⟨table.contexts.size⟩, { table with contexts := table.contexts.push {} })

def isLive (table : Contexts) (context : ContextRef) : Bool :=
  match table.contexts[context.index]? with
  | some state => state.live
  | none => false

/-- Does a live context other than this one have a fault waiting? -/
def othersPending (table : Contexts) (context : ContextRef) : Bool :=
  table.contexts.toList.zipIdx.any fun entry =>
    entry.2 != context.index && entry.1.live && !entry.1.pending.isEmpty

/-- A change shows in its own context only. -/
theorem get_modify_of_ne (table : Contexts) {context other : ContextRef}
    (change : Context → Context) (different : other ≠ context) :
    (table.modify context change).get other = table.get other := by
  have : context.index ≠ other.index := fun e => different (by cases other; cases context; simp_all)
  simp [modify, get, Array.getElem?_modify, this]

theorem isLive_modify_of_ne (table : Contexts) {context other : ContextRef}
    (change : Context → Context) (different : other ≠ context) :
    (table.modify context change).isLive other = table.isLive other := by
  have : context.index ≠ other.index := fun e => different (by cases other; cases context; simp_all)
  simp [modify, isLive, Array.getElem?_modify, this]

theorem get_modify_self (table : Contexts) {context : ContextRef} (change : Context → Context)
    (made : context.index < table.contexts.size) :
    (table.modify context change).get context = change (table.get context) := by
  simp [modify, get, made, Array.getElem_modify]

/-- A change shows in a context that was made, and nowhere else. -/
theorem get_modify (table : Contexts) (context other : ContextRef) (change : Context → Context) :
    (table.modify context change).get other =
      if context = other ∧ other.index < table.contexts.size then change (table.get other)
      else table.get other := by
  by_cases same : other = context
  · subst same
    by_cases made : other.index < table.contexts.size
    · simp [table.get_modify_self change made, made]
    · simp [made, get, modify]
  · simp [table.get_modify_of_ne change same, Ne.symm same]

@[simp] theorem get_create (table : Contexts) (other : ContextRef) :
    table.create.2.get other = table.get other := by
  simp only [create, get, Array.getElem?_push]
  split
  · rename_i fresh
    simp [fresh]
  · rfl

theorem isLive_create (table : Contexts) (other : ContextRef) :
    table.create.2.isLive other = (table.isLive other || decide (other = table.create.1)) := by
  by_cases fresh : other.index = table.contexts.size
  · have : other = table.create.1 := by cases other; simp_all [create]
    rw [decide_eq_true this]
    simp [create, isLive, fresh]
  · have : other ≠ table.create.1 := fun e => fresh (congrArg ContextRef.index e)
    rw [decide_eq_false this]
    simp [create, isLive, Array.getElem?_push, fresh]

theorem isLive_modify (table : Contexts) (context other : ContextRef)
    {change : Context → Context} (steady : ∀ state, (change state).live = state.live) :
    (table.modify context change).isLive other = table.isLive other := by
  by_cases same : context.index = other.index <;>
    cases found : table.contexts[other.index]? <;>
      simp [modify, isLive, Array.getElem?_modify, same, found, steady]

theorem modify_modify (table : Contexts) (context : ContextRef) (first second : Context → Context) :
    (table.modify context first).modify context second =
      table.modify context (second ∘ first) := by
  simp only [modify, mk.injEq]
  refine Array.ext_getElem? fun place => ?_
  by_cases same : context.index = place <;> simp [Array.getElem?_modify, same]

/-- Only what a change does to the state it meets counts. -/
theorem modify_congr {table : Contexts} {context : ContextRef} {first second : Context → Context}
    (agree : first (table.get context) = second (table.get context)) :
    table.modify context first = table.modify context second := by
  simp only [modify, mk.injEq]
  refine Array.ext_getElem? fun place => ?_
  by_cases same : context.index = place
  · subst same
    cases found : table.contexts[context.index]? with
    | none => simp [Array.getElem?_modify, found]
    | some state => simpa [Array.getElem?_modify, found, get] using agree
  · simp [Array.getElem?_modify, same]

/-- What is asked of every other context is asked of one of them. -/
theorem othersPending_iff (table : Contexts) (context : ContextRef) :
    table.othersPending context = true ↔
      ∃ other, other ≠ context ∧ table.isLive other = true ∧ (table.get other).pending ≠ [] := by
  simp only [othersPending, List.any_eq_true, Bool.and_eq_true, bne_iff_ne, ne_eq,
    Bool.not_eq_true', List.isEmpty_eq_false_iff]
  constructor
  · rintro ⟨⟨state, place⟩, member, ⟨different, live⟩, waiting⟩
    have found : table.contexts[place]? = some state := by
      simpa using List.mem_zipIdx_iff_getElem?.1 member
    refine ⟨⟨place⟩, fun e => different (congrArg ContextRef.index e), ?_, ?_⟩
    · simpa [isLive, found] using live
    · simpa [get, found] using waiting
  · rintro ⟨other, different, live, waiting⟩
    cases found : table.contexts[other.index]? with
    | none => simp [isLive, found] at live
    | some state =>
        refine ⟨(state, other.index), List.mem_zipIdx_iff_getElem?.2 (by simpa using found), ⟨?_, ?_⟩, ?_⟩
        · exact fun e => different (by cases other; cases context; simp_all)
        · simpa [isLive, found] using live
        · simpa [get, found] using waiting

/-- A context's own queue does not count among the others'. -/
theorem othersPending_modify (table : Contexts) (context : ContextRef)
    {change : Context → Context} (steady : ∀ state, (change state).live = state.live) :
    (table.modify context change).othersPending context = table.othersPending context := by
  have same : ∀ other, other ≠ context → (table.modify context change).get other = table.get other :=
    fun _ different => table.get_modify_of_ne change different
  rw [Bool.eq_iff_iff, othersPending_iff, othersPending_iff]
  constructor
  · rintro ⟨other, different, live, waiting⟩
    rw [isLive_modify _ _ _ steady] at live
    rw [same other different] at waiting
    exact ⟨other, different, live, waiting⟩
  · rintro ⟨other, different, live, waiting⟩
    rw [← isLive_modify table context other steady] at live
    rw [← same other different] at waiting
    exact ⟨other, different, live, waiting⟩

end Contexts

end InlineCache
