/-
# InlineCache.Method.Basic -- methods and the ways they run

A method has a name, a visibility and an implementation.  Its serial number tells
it from every other method of the world.  The implementations:

* *native*: a primitive that declares its parameters;
* *compiled*: a body with its lexical scope, and perhaps entries made for exactly
  so many arguments;
* *mixed*: a compiled body that runs interpreted until a better one is promoted;
* *handle*: a table of entries by argument count, and perhaps one for every count;
* *attribute reader* and *attribute writer* of an instance variable;
* *undefined*: a tombstone that hides what is inherited.

The code that a method runs is a parameter, `Code`: the engine passes it on and
never looks inside.
-/
import InlineCache.Log
import InlineCache.Scope.Static

namespace InlineCache

set_option autoImplicit false

inductive NativeParam where
  | context
  /-- the receiver, passed explicitly -/
  | receiver
  | value
  /-- every argument, as one list -/
  | values
  | block
deriving DecidableEq, Repr

namespace NativeParam

def dropContext : List NativeParam → List NativeParam
  | .context :: rest => rest
  | params => params

def dropBlock (params : List NativeParam) : List NativeParam :=
  if params.getLast? = some .block then params.dropLast else params

/-- The list without a receiver in first place, which must be there. -/
def dropReceiver? : List NativeParam → Option (List NativeParam)
  | .receiver :: rest => some rest
  | _ => none

/-- How many arguments parameters between context and block bind, in 32 bits: minus one for
a single list of all arguments. -/
def middleCount? (params : List NativeParam) : Option Int :=
  if params = [.values] then some (-1)
  else if params.all (· == .value) then some (Int32.ofNat params.length).toInt
  else none

/-- How many arguments a parameter list binds, minus one when it takes them all as
one list; nothing for a list that no call fits. -/
def argumentCount? (params : List NativeParam) (isStatic : Bool) : Option Int :=
  let params := dropContext params
  if isStatic then (dropReceiver? params).bind fun rest => middleCount? (dropBlock rest)
  else middleCount? (dropBlock params)

end NativeParam

/-- What a native primitive runs: the world's own answer to a missing method, or
code. -/
inductive NativeBody (Code : Type) where
  | raiseMissing
  | code (code : Code)

structure NativeMethod (Code : Type) where
  body : NativeBody Code
  params : List NativeParam
  /-- the receiver arrives as an explicit parameter -/
  isStatic : Bool := false
  /-- runs inside a frame of its own -/
  framed : Bool := false
  signature : Signature

/-- Argument counts below this one may have an entry of their own. -/
def specificArities : Nat := 4

abbrev EntryTable (Code : Type) := Vector (Option Code) specificArities

structure CompiledMethod (Code : Type) where
  entry : Code
  specific : EntryTable Code := Vector.replicate specificArities none
  scope : StaticScope
  /-- the body may yield; otherwise the caller's block is dropped -/
  wantsBlock : Bool := true

structure HandleMethod (Code : Type) where
  handles : EntryTable Code := Vector.replicate specificArities none
  variadic : Option Code := none
  signature : Signature

inductive Implementation (Code : Type) where
  | native (method : NativeMethod Code)
  | compiled (method : CompiledMethod Code)
  /-- interpreted until a body is promoted in its place -/
  | mixed (interpreted : CompiledMethod Code)
  | handle (method : HandleMethod Code)
  | attrReader (variableName : String)
  | attrWriter (variableName : String)
  /-- a tombstone: lookup takes the name for missing -/
  | undefined

structure Method (Code : Type) where
  serial : Nat
  name : String
  isPrivate : Bool := false
  implementation : Implementation Code

namespace EntryTable

variable {Code : Type}

def get? (table : EntryTable Code) (arity : Nat) : Option Code :=
  if small : arity < specificArities then table[arity] else none

/-- Set the entry for this many arguments, if the table reaches that far. -/
def set (table : EntryTable Code) (arity : Nat) (entry : Code) : EntryTable Code :=
  if small : arity < specificArities then Vector.set table arity (some entry) else table

/-- Setting an entry changes the table at its own count only. -/
theorem get?_set (table : EntryTable Code) (arity other : Nat) (entry : Code) :
    get? (set table arity entry) other =
      if arity = other ∧ arity < specificArities then some entry else get? table other := by
  by_cases small : arity < specificArities
  · by_cases asked : other < specificArities
    · by_cases same : arity = other
      · subst same; simp [get?, set, small]
      · simp [get?, set, small, asked, same]
    · have : arity ≠ other := fun e => asked (e ▸ small)
      simp [get?, asked, this]
  · simp [set, small]

end EntryTable

namespace NativeMethod

variable {Code : Type}

def arity? (method : NativeMethod Code) : Option Int :=
  NativeParam.argumentCount? method.params method.isStatic

def wantsContext (method : NativeMethod Code) : Bool := method.params.head? == some .context

def wantsBlock (method : NativeMethod Code) : Bool := method.params.getLast? == some .block

/-- The signature that takes exactly the count bound, if one is. -/
def boundSignature? (params : List NativeParam) (isStatic : Bool) : Option Signature :=
  match NativeParam.argumentCount? params isStatic with
  | some count => if 0 ≤ count then some (Signature.exactly (UInt64.ofNat count.toNat)) else none
  | none => none

/-- A primitive whose signature follows from its parameters. -/
def create (body : NativeBody Code) (params : List NativeParam) : NativeMethod Code :=
  { body, params, signature := (boundSignature? params false).getD Signature.any }

/-- Pass the receiver as an explicit parameter. -/
def asStatic (method : NativeMethod Code) : NativeMethod Code :=
  { method with
      isStatic := true
      signature := (boundSignature? method.params true).getD method.signature }

end NativeMethod

namespace CompiledMethod

variable {Code : Type}

def signature (method : CompiledMethod Code) : Signature := method.scope.signature

/-- Add an entry for exactly this many arguments.  One that the signature would
refuse, or too large for the table, is reported and left out. -/
def withSpecific (method : CompiledMethod Code) (arity : Nat) (entry : Code) :
    CompiledMethod Code × List LogLine :=
  if arity < specificArities && method.signature.accepts arity then
    ({ method with specific := EntryTable.set method.specific arity entry }, [])
  else
    (method, [⟨.warn, "ignoring specific entry for arity " ++ toString arity ++
      ", signature expects " ++ method.signature.expected⟩])

end CompiledMethod

namespace HandleMethod

variable {Code : Type}

/-- Set the entry for exactly this many arguments; the table ignores large counts. -/
def withArity (method : HandleMethod Code) (arity : Nat) (entry : Code) : HandleMethod Code :=
  { method with handles := EntryTable.set method.handles arity entry }

end HandleMethod

namespace Implementation

variable {Code : Type}

def kindName : Implementation Code → String
  | native _ => "native"
  | compiled _ => "compiled"
  | mixed _ => "mixed"
  | handle _ => "handle"
  | attrReader _ => "attr-reader"
  | attrWriter _ => "attr-writer"
  | undefined => "undefined"

end Implementation

namespace Method

variable {Code : Type}

def isUndefined (method : Method Code) : Bool :=
  match method.implementation with
  | .undefined => true
  | _ => false

end Method

end InlineCache
