/-
# InlineCache.Session.Step -- the steps of a session

A session is a list of steps played one after another in one world.  Steps refer to
what earlier steps made by name; a name is looked up when its step is played, so a
script may name what does not exist yet.  The steps fall into families, one for each
part of the world; only the last few contain other steps.
-/
import InlineCache.World.Basic
import InlineCache.Session.Routine

namespace InlineCache

set_option autoImplicit false

inductive Literal where
  | nil
  | bool (b : Bool)
  | int (n : Int64)
  | symbol (name : String)
  | string (text : String)
  | array (items : List Literal)
  | hash (pairs : List (Literal × Literal))
  | type (name : String)
  | object (name : String)
  /-- the block of a name, or the null block -/
  | proc (name : Option String)

inductive FaultSpec where
  | argumentCount (given : Nat) (expected : String)
  | undefinedMethod (name receiver : String)
  | privateMethod (name receiver : String)
  | undefinedName (name receiver : String)
  | typeMismatch (text : String)
  | noBlock
  | raised (value : Literal)

/-- A lexical scope as a step spells it: a kept one, or a new one. -/
inductive ScopeSpec where
  | kept (name : String)
  | fresh (kind : ScopeKind) (locals : List String) (parent : Option String)
      (signature : Option Signature) (place : Option (String × UInt32))

structure CompiledSpec where
  entry : Routine
  scope : ScopeSpec
  specific : List (Nat × Routine)
  noBlock : Bool

inductive MethodSpec where
  | native (routine : Routine) (params : List NativeParam) (isStatic framed : Bool)
      (signature : Option Signature)
  | compiled (body : CompiledSpec)
  | mixed (body : CompiledSpec)
  | handle (signature : Signature) (handles : List (Nat × Routine)) (variadic : Option Routine)
  | attrReader (variableName : String)
  | attrWriter (variableName : String)
  | undefined

/-- Settings as a session spells them; those left out have their defaults. -/
structure OptionsSpec where
  logBinding : Option Bool := none
  logGlobals : Option Bool := none
  maxFail : Option UInt32 := none
  maxPoly : Option UInt64 := none
  globalMaxFail : Option UInt32 := none
  native : Option Bool := none
  compiled : Option Bool := none
  attr : Option Bool := none

structure CallSpec where
  receiver : Literal
  args : List Literal
  block : Option String
  /-- set the keyword facts on the context just before the call -/
  kwargs : Bool

inductive HashOp where
  | insert (key value : Literal)
  | get (key : Literal)

inductive ValueStep where
  | value (v : Literal)
  | eq (a b : Literal)
  | hashOps (ops : List HashOp)
  | hashGet (hash key : Literal)
  | buildArray (values : List Literal)
  | buildHash (pairs : List (Literal × Literal))
  | kwargsHash (base : Literal) (pairs : List (Literal × Literal))
  | errorEq (a b : FaultSpec)
  | errorShow (fault : FaultSpec)

inductive ArityStep where
  | signature (signature : Signature) (counts : List Nat) (shapes : List Int)
  | arguments (signature : Signature) (args : List Literal) (kwargs : Bool)
  | count (signature : Signature) (count : Nat)
  | array (items : List Literal) (required optional : UInt64) (rest : Bool)
  | native (params : List NativeParam) (isStatic : Bool)

inductive TypeStep where
  | openClass (name : String) (parent : Option String) (fields : Option Nat)
  | create (name : String) (parent : Option String) (fields : Option Nat)
  | drop (name : String)
  | info (type : String)
  | kindOf (type other : String)
  | define (type name : String) (isPrivate : Bool) (method : MethodSpec) (keepAs : Option String)
  | remove (type name : String)
  | method (type name : String)
  | search (type name : String)
  | lookup (type name : String) (keepAs : Option String)
  | promote (type name : String) (body : CompiledSpec)
  | invalidate (type : String)
  | accessor (type variableName : String) (write : Bool)
  | accessorGet (receiver : Literal) (accessor : VariableAccessor)
  | accessorSet (receiver : Literal) (accessor : VariableAccessor) (value : Literal)
  | object (name type : String)
  | getVariable (object : Literal) (variableName : String)
  | setVariable (object : Literal) (variableName : String) (value : Literal)

inductive BindMode where
  | specialize
  | generic
  | missing (name : String) (reason : MissingReason)

structure ChainEntrySpec where
  type : String
  bound : String
  token : Option String

inductive SendStep where
  | site (keepAs name : String) (callType : CallType) (shape : CallShape)
  | call (site : String) (call : CallSpec)
  | send (name : String) (callType : CallType) (call : CallSpec)
  | methodCall (method owner name : String) (call : CallSpec)
  | siteInfo (site : String)
  | bind (keepAs type name : String) (shape : CallShape) (mode : BindMode)
      (options : Option OptionsSpec)
  | boundCall (bound : String) (call : CallSpec)
  | chain (keepAs : String) (entries : List ChainEntrySpec) (megamorphic : Bool)
  | dispatch (chain type : String)
  | chainInfo (chain : String)
  | missingArgs (name : String) (args : List Literal)

inductive ContextStep where
  | create (keepAs : String)
  | drop (name : String)
  | info
  | pushFrame (self : Literal) (owner : Option String) (name : String)
  | popFrame
  | setInfo (kwargs : Bool) (keepAs : Option String)
  | infoSite (site : String)
  | takeInfo
  | setReason (reason : MissingReason)
  | takeReason
  | raiseMissing (receiver : Literal) (args : List Literal)
  | checkpoint (keepAs : String)
  | poll (site : String)
  | pollEvents
  | interrupt (target : String) (fault : FaultSpec)
  | requestSafepoint

inductive GlobalStep where
  | site (keepAs name file : String) (line : UInt32)
  | siteGet (site : String)
  | siteSet (site : String) (value : Literal)
  | siteInfo (site : String)
  | get (name : String)
  | set (name : String) (value : Literal)
  | has (name : String)
  | define (name : String) (scope : GlobalScope)
  | info (name : String)
  | trace (name script : String)

inductive CoverageStep where
  | site (keepAs file : String) (line : UInt32)
  | cover (site : String) (times : Nat)
  | create (keepAs : String) (oneShot : Bool)
  | record (coverage file : String) (line : UInt32)
  | info (file : String) (coverage : Option String)

inductive ScopeStep where
  | static (keepAs : String) (scope : ScopeSpec)
  | resolve (scope name : String)
  | dynamic (keepAs scope : String) (parent : Option String)
  | get (scope : String) (offset depth : Nat)
  | set (scope : String) (offset depth : Nat) (value : Literal)
  | site (keepAs : String) (depth offset : Nat)
  | siteGet (site scope : String)
  | siteSet (site scope : String) (value : Literal)

inductive BlockStep where
  | strategy (requirements : CaptureRequirements)
  | block (keepAs : String) (routine : Routine) (scope : ScopeSpec) (self : Literal)
      (dynamicScope : Option String) (requirements : CaptureRequirements) (isLambda : Bool)
  | site (keepAs : String) (routine : Routine) (scope : ScopeSpec)
      (requirements : CaptureRequirements)
  | prepare (site keepAs : String) (self : Literal) (dynamicScope : Option String)
  | call (block : Option String) (args : List Literal)
  | info (block : Option String)
  | same (a b : Option String)

inductive TokenSource where
  | invalidator (name : String)
  | type (name : String)
  | global (name : String)
  | fresh (generation : Nat)
  | checkpoint

inductive TokenStep where
  | invalidator (keepAs : String) (kind : GuardedFact) (oneShot : Bool)
  | invalidate (names : List String)
  | info (name : String)
  | token (keepAs : String) (source : TokenSource)
  | check (token : String)
  | flip (token : String)
  | same (a b : String)

inductive CellStep where
  | create (keepAs : String) (value : Int)
  | load (cell keepAs : String)
  | storeValue (cell : String) (value : Int)
  | storeHeld (cell held : String)
  | info (cell : String)
  | drop (cell : String)
  | heldInfo (held : String)

inductive TableStep where
  | create (keepAs : String)
  | intern (table : String) (names : List String)
  | get (table source name : String)
  | compare (tableA nameA tableB nameB : String)

inductive Step where
  | value (step : ValueStep)
  | arity (step : ArityStep)
  | type (step : TypeStep)
  | send (step : SendStep)
  | context (step : ContextStep)
  | global (step : GlobalStep)
  | coverage (step : CoverageStep)
  | scope (step : ScopeStep)
  | block (step : BlockStep)
  | token (step : TokenStep)
  | cell (step : CellStep)
  | table (step : TableStep)
  /-- run steps while a reader has the cell pinned -/
  | cellWith (cell : String) (body : List Step)
  /-- keep steps under a name -/
  | script (keepAs : String) (steps : List Step)
  /-- play steps several times over -/
  | rounds (times : Nat) (steps : List Step)
  /-- a step that cannot be read -/
  | unreadable

/-- A step of the outermost list, and the context it runs in. -/
structure TopStep where
  context : String
  step : Step

end InlineCache
