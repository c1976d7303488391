/-
# InlineCache.Value.Basic -- the values of the language and the types they have

Everything a program can hold is a `Value`.  Numbers, names, texts and the two
aggregates stand for themselves; objects, types and blocks are known by
identity, and a reference carries with it the facts about its target that never
change: a type its name, an object its type.  So the type of a value, and the way
an error message speaks of it, can be read off the value alone.

The twelve built-in types have fixed references (`TypeRef.builtins`), in the
order in which a fresh world creates them.
-/
namespace InlineCache

set_option autoImplicit false

/-- A type, known by its number; the name is the one it was created with.  No number is given
twice.  Guards that hold 32 bits of it tell the types of a run apart if it makes at most 2^32
of them (`World.dispatch_by_words`). -/
structure TypeRef where
  id : Nat
  name : String
deriving DecidableEq, Repr

/-- An object, known by its number; an object never changes its type. -/
structure ObjectRef where
  id : Nat
  type : TypeRef
deriving DecidableEq, Repr

/-- What a call passes as its block: nothing, or a closure known by its number. -/
inductive BlockRef where
  | null
  | closure (id : Nat)
deriving DecidableEq, Repr

/-- A value of the language.  A hash keeps its entries in insertion order. -/
inductive Value where
  | nil
  | bool (b : Bool)
  | int (n : Int64)
  | symbol (name : String)
  | string (text : String)
  | array (items : List Value)
  | hash (entries : List (Value × Value))
  | object (target : ObjectRef)
  | type (target : TypeRef)
  | proc (block : BlockRef)

instance : Inhabited Value := ⟨.nil⟩

namespace TypeRef

def basicObject : TypeRef := ⟨0, "BasicObject"⟩
def object : TypeRef := ⟨1, "Object"⟩
def class_ : TypeRef := ⟨2, "Class"⟩
def nilClass : TypeRef := ⟨3, "NilClass"⟩
def trueClass : TypeRef := ⟨4, "TrueClass"⟩
def falseClass : TypeRef := ⟨5, "FalseClass"⟩
def integer : TypeRef := ⟨6, "Integer"⟩
def symbol : TypeRef := ⟨7, "Symbol"⟩
def string : TypeRef := ⟨8, "String"⟩
def array : TypeRef := ⟨9, "Array"⟩
def hash : TypeRef := ⟨10, "Hash"⟩
def proc : TypeRef := ⟨11, "Proc"⟩

/-- The types every world starts with, each at the place its number says. -/
def builtins : List TypeRef :=
  [basicObject, object, class_, nilClass, trueClass, falseClass, integer, symbol, string, array,
    hash, proc]

end TypeRef

namespace BlockRef

def isGiven : BlockRef → Bool
  | null => false
  | closure _ => true

end BlockRef

namespace Value

/-- Everything except nil and false counts as true. -/
def isTruthy : Value → Bool
  | nil | bool false => false
  | _ => true

def isNil : Value → Bool
  | nil => true
  | _ => false

def isHash : Value → Bool
  | hash _ => true
  | _ => false

def int? : Value → Option Int64
  | int n => some n
  | _ => none

def symbol? : Value → Option String
  | symbol name => some name
  | _ => none

def array? : Value → Option (List Value)
  | array items => some items
  | _ => none

def hash? : Value → Option (List (Value × Value))
  | hash entries => some entries
  | _ => none

def object? : Value → Option ObjectRef
  | object target => some target
  | _ => none

def block? : Value → Option BlockRef
  | proc block => some block
  | _ => none

def typeOf : Value → TypeRef
  | nil => TypeRef.nilClass
  | bool true => TypeRef.trueClass
  | bool false => TypeRef.falseClass
  | int _ => TypeRef.integer
  | symbol _ => TypeRef.symbol
  | string _ => TypeRef.string
  | array _ => TypeRef.array
  | hash _ => TypeRef.hash
  | object target => target.type
  | type _ => TypeRef.class_
  | proc _ => TypeRef.proc

/-- The receiver as an error message speaks of it. -/
def describe : Value → String
  | nil => "nil"
  | bool true => "true"
  | bool false => "false"
  | type target => "class " ++ target.name
  | other => "an instance of " ++ other.typeOf.name

@[simp] theorem typeOf_object (target : ObjectRef) : (object target).typeOf = target.type := rfl

end Value

end InlineCache
