/-
# InlineCache.Global.Table -- global variables

A global variable has a value, an invalidator that guards the value, and hooks that
run on each write.  The table starts with a few special names, whose values belong
to the running frame or thread or are changed behind the program's back; reads of
those are never cached.  Any other name comes into being when it is first mentioned.
-/
import InlineCache.NameMap
import InlineCache.SwitchPoint
import InlineCache.Value.Render

namespace InlineCache

set_option autoImplicit false

inductive GlobalScope where
  | global
  | frame
  | thread
deriving DecidableEq, Repr

structure GlobalVariable (Code : Type) where
  name : String
  scope : GlobalScope
  value : Value := .nil
  /-- guards the value -/
  invalidator : Invalidator
  /-- run in order on each write -/
  traces : List Code := []
  writes : Nat := 0

/-- The special names, in the order in which the table holds them. -/
def uncachedGlobals : List String :=
  ["$_", "$~", "$!", "$@", "$;", "$,", "$/", "$\\", "$.", "$0", "$*"]

/-- The scope a name has when it is first mentioned. -/
def defaultScope (name : String) : GlobalScope :=
  if name ∈ ["$_", "$~"] then .frame
  else if name ∈ ["$!", "$@"] then .thread
  else .global

namespace GlobalScope

def name : GlobalScope → String
  | global => "Global"
  | frame => "Frame"
  | thread => "Thread"

end GlobalScope

namespace GlobalVariable

variable {Code : Type}

def isCacheable (variable_ : GlobalVariable Code) : Bool :=
  variable_.scope == .global && !uncachedGlobals.contains variable_.name

def render (variable_ : GlobalVariable Code) : String :=
  "GlobalVariable \x7b name: :" ++ variable_.name ++ ", scope: " ++ variable_.scope.name ++
    ", value: " ++ variable_.value.render ++ ", .. \x7d"

end GlobalVariable

abbrev Globals (Code : Type) := NameMap (GlobalVariable Code)

namespace Globals

variable {Code : Type}

/-- Make sure a name is there; one that is there already keeps its scope. -/
def define (table : Globals Code) (name : String) (scope : GlobalScope) (points : SwitchPoints) :
    Globals Code × SwitchPoints :=
  match NameMap.get? table name with
  | some _ => (table, points)
  | none =>
      let (invalidator, points) := Invalidator.create .global true points
      (NameMap.insert table name { name, scope, invalidator }, points)

def mention (table : Globals Code) (name : String) (points : SwitchPoints) :
    Globals Code × SwitchPoints :=
  table.define name (defaultScope name) points

/-- The value of a variable; nil for a name never mentioned. -/
def value (table : Globals Code) (name : String) : Value :=
  match NameMap.get? table name with
  | some variable_ => variable_.value
  | none => .nil

/-- Store a value and count the write. -/
def assign (table : Globals Code) (name : String) (value : Value) : Globals Code :=
  NameMap.modify table name fun variable_ =>
    { variable_ with value, writes := variable_.writes + 1 }

def invalidate (table : Globals Code) (name : String) (points : SwitchPoints) :
    Globals Code × SwitchPoints :=
  match NameMap.get? table name with
  | some variable_ =>
      let (invalidator, points) := variable_.invalidator.invalidate points
      (NameMap.modify table name fun variable_ => { variable_ with invalidator }, points)
  | none => (table, points)

def switchPoint? (table : Globals Code) (name : String) : Option SwitchPoint :=
  (NameMap.get? table name).map fun variable_ => variable_.invalidator.current

def defineAll (names : List String) (table : Globals Code) (points : SwitchPoints) :
    Globals Code × SwitchPoints :=
  match names with
  | [] => (table, points)
  | name :: rest =>
      let (table, points) := table.mention name points
      defineAll rest table points

/-- A table with the special names in place. -/
def initial (points : SwitchPoints) : Globals Code × SwitchPoints :=
  defineAll uncachedGlobals [] points

theorem get?_define_of_ne (table : Globals Code) {name other : String} (scope : GlobalScope)
    (points : SwitchPoints) (different : name ≠ other) :
    NameMap.get? (table.define name scope points).1 other = NameMap.get? table other := by
  simp only [define]
  cases NameMap.get? table name <;> simp [NameMap.get?_insert, different]

theorem isValid_defineAll {point : SwitchPoint} (names : List String) (table : Globals Code)
    {points : SwitchPoints} (valid : points.isValid point = true) :
    (defineAll names table points).2.isValid point = true := by
  induction names generalizing table points with
  | nil => exact valid
  | cons name rest ih =>
      refine ih _ ?_
      change (table.define name (defaultScope name) points).2.isValid point = true
      simp only [define]
      split
      · exact valid
      · simp only [Invalidator.create, SwitchPoints.isValid_mint, valid, Bool.true_or]

/-- **A write is read back, and no other name's value changes.** -/
theorem value_assign {table : Globals Code} {name other : String} (value : Value)
    (there : (NameMap.get? table name).isSome = true) :
    (table.assign name value).value other = if name = other then value else table.value other := by
  simp only [assign, Globals.value, NameMap.get?_modify]
  by_cases same : name = other
  · subst same
    obtain ⟨variable_, found⟩ := Option.isSome_iff_exists.1 there
    simp [found]
  · simp [same]

end Globals

end InlineCache
