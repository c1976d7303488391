/-
# InlineCache.Session.Answer -- what a session tells

The answer to a step is a tree of plain data.  A step that went well answers under
`ok`; a fault answers with its kind under `error` and its wording under `message`.
-/
import InlineCache.Signature

namespace InlineCache

set_option autoImplicit false

/-- A tree of plain data. -/
inductive Answer where
  | null
  | bool (b : Bool)
  | number (n : Int)
  | text (text : String)
  | list (items : List Answer)
  | record (fields : List (String × Answer))

namespace Fault

def kindName (fault : Fault) : String :=
  match fault.kind with
  | .argumentCount => "ArgumentError"
  | .undefinedMethod => "NoMethodError"
  | .privateMethod => "PrivateMethodError"
  | .undefinedName => "NameError"
  | .typeMismatch => "TypeError"
  | .noBlock => "LocalJumpError"
  | .raised => "Raised"

end Fault

namespace Answer

def ofNat (n : Nat) : Answer := number n

def ofText? : Option String → Answer
  | some found => text found
  | none => null

def ok (answer : Answer) : Answer := record [("ok", answer)]

def fault (cause : Fault) : Answer :=
  record [("error", text cause.kindName), ("message", text cause.message)]

def ofCheck : Except Fault Unit → Answer
  | .ok () => ok (bool true)
  | .error cause => fault cause

def badStep : Answer := record [("error", text "BadStep"), ("message", text "bad step")]

def signature (declared : Signature) : Answer :=
  record [("req", number declared.required.toNat), ("opt", number declared.optional.toNat),
    ("rest", bool declared.rest), ("key", bool declared.keyrest)]

def extend (answer : Answer) (more : List (String × Answer)) : Answer :=
  match answer with
  | record fields => record (fields ++ more)
  | other => other

end Answer

end InlineCache
