/-
# InlineCache.CallSite.Thunk -- bound targets and the chain a call site walks

A *bound thunk* is a method resolved once for a call site, together with the way to
run it (`Invoker`).  A call site keeps a *thunk*: a chain of bound thunks, each
guarded by a receiver type and the switch point its resolution rests on, ending
either in `link` (resolve and bind) or in `megamorphic` (resolve on every call).

* `entries_chain`: a chain built from entries has exactly those entries;
* `dispatch_chain`: dispatch on it answers with the first entry whose guard passes,
  and with the terminal when there is none.
-/
import InlineCache.Types.Lookup

namespace InlineCache

set_option autoImplicit false

inductive MissingReason where
  | normal
  /-- a private method was found by a call with an explicit receiver -/
  | hidden
  /-- a bare identifier that might have been a local variable -/
  | variableLike
  /-- a call without an explicit receiver -/
  | functional
deriving DecidableEq, Repr

/-- What a call site's target is, as statistics and logs name it. -/
inductive ThunkKind where
  | link
  | native
  | compiled
  | handle
  | attrReader
  | attrWriter
  | methodMissing
  /-- a method through its generic calling convention -/
  | generic
  /-- resolve on every call -/
  | megamorphic
deriving DecidableEq, Repr

inductive Invoker (Code : Type) where
  /-- a primitive whose argument count is settled -/
  | native (method : NativeMethod Code)
  /-- a primitive that takes its arguments as one list, counted per call -/
  | nativeList (method : NativeMethod Code)
  /-- the entry of a handle table for the count of the call -/
  | handleEntry (entry : Code)
  /-- a handle table, consulted per call -/
  | handleTable (method : HandleMethod Code)
  /-- an entry of a compiled body whose argument count is settled -/
  | compiledEntry (method : CompiledMethod Code) (entry : Code)
  /-- a compiled body, counted per call -/
  | compiledChecked (method : CompiledMethod Code)
  | readVariable (accessor : VariableAccessor)
  | writeVariable (accessor : VariableAccessor)
  /-- the method's generic calling convention -/
  | generic
  /-- the method is `method_missing`; the arguments are packed behind the name sent -/
  | missing (reason : MissingReason)

structure BoundThunk (Code : Type) where
  /-- the name that was sent -/
  name : String
  entry : CacheEntry Code
  invoker : Invoker Code

/-- A receiver type, by its number, and the switch point a binding rests on.  The number
stands for the type as long as no more than 2^32 were made (`World.dispatch_by_words`). -/
structure TypeGuard where
  typeId : Nat
  token : SwitchPoint
deriving DecidableEq, Repr

inductive Thunk (Code : Type) where
  | link
  | guarded (guard : TypeGuard) (target : BoundThunk Code) (fallback : Thunk Code)
  | megamorphic

inductive Dispatch (Code : Type) where
  | bound (target : BoundThunk Code)
  | link
  | megamorphic

namespace MissingReason

def name : MissingReason → String
  | normal => "Normal"
  | hidden => "Private"
  | variableLike => "Variable"
  | functional => "Functional"

end MissingReason

namespace ThunkKind

def name : ThunkKind → String
  | link => "Link"
  | native => "Native"
  | compiled => "Compiled"
  | handle => "Handle"
  | attrReader => "AttrReader"
  | attrWriter => "AttrWriter"
  | methodMissing => "MethodMissing"
  | generic => "Generic"
  | megamorphic => "Megamorphic"

end ThunkKind

namespace Invoker

variable {Code : Type}

def kind : Invoker Code → ThunkKind
  | native _ | nativeList _ => .native
  | handleEntry _ | handleTable _ => .handle
  | compiledEntry .. | compiledChecked _ => .compiled
  | readVariable _ => .attrReader
  | writeVariable _ => .attrWriter
  | generic => .generic
  | missing _ => .methodMissing

end Invoker

namespace BoundThunk

variable {Code : Type}

def kind (bound : BoundThunk Code) : ThunkKind := bound.invoker.kind

def render (bound : BoundThunk Code) : String := bound.kind.name ++ " " ++ bound.entry.render

end BoundThunk

namespace TypeGuard

def passes (guard : TypeGuard) (points : SwitchPoints) (typeId : Nat) : Bool :=
  guard.typeId == typeId && points.isValid guard.token

end TypeGuard

namespace Thunk

variable {Code : Type}

/-- The first target whose guard passes, or what the chain ends in. -/
def dispatch (points : SwitchPoints) (typeId : Nat) : Thunk Code → Dispatch Code
  | link => .link
  | guarded guard target fallback =>
      if guard.passes points typeId then .bound target else dispatch points typeId fallback
  | megamorphic => .megamorphic

/-- The guarded entries, the one linked last first. -/
def entries : Thunk Code → List (TypeGuard × BoundThunk Code)
  | guarded guard target fallback => (guard, target) :: entries fallback
  | _ => []

def depth (thunk : Thunk Code) : Nat := thunk.entries.length

def kind : Thunk Code → ThunkKind
  | link => .link
  | guarded _ target _ => target.kind
  | megamorphic => .megamorphic

/-- Chain entries in order in front of a terminal. -/
def chain (entries : List (TypeGuard × BoundThunk Code)) (terminal : Thunk Code) : Thunk Code :=
  entries.foldr (fun entry fallback => .guarded entry.1 entry.2 fallback) terminal

theorem entries_chain (es : List (TypeGuard × BoundThunk Code)) (terminal : Thunk Code) :
    (chain es terminal).entries = es ++ terminal.entries := by
  induction es with
  | nil => rfl
  | cons entry rest ih => exact congrArg (entry :: ·) ih

theorem dispatch_chain (points : SwitchPoints) (typeId : Nat)
    (es : List (TypeGuard × BoundThunk Code)) (terminal : Thunk Code) :
    (chain es terminal).dispatch points typeId =
      match es.find? fun entry => entry.1.passes points typeId with
      | some entry => .bound entry.2
      | none => terminal.dispatch points typeId := by
  induction es with
  | nil => rfl
  | cons entry rest ih =>
      have unfolded : chain (entry :: rest) terminal =
          .guarded entry.1 entry.2 (chain rest terminal) := rfl
      by_cases passes : entry.1.passes points typeId <;>
        simp [unfolded, dispatch, passes, ih]

end Thunk

end InlineCache
