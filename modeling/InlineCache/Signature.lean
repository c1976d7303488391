/-
# InlineCache.Signature -- how many arguments fit

A signature counts the required and the optional parameters and says whether a
rest parameter takes the remainder and whether keywords are taken.  `accepts`
decides a count; `checkArguments` decides a list of arguments, in which a hash of
keywords in last place is no positional argument when the signature takes
keywords; `checkShape` decides as much as can be known of a call before its
arguments are there.

Counts of parameters are machine words of 64 bits and the arity number has 32, so
sums and the arity number wrap at those widths.
-/
import InlineCache.Fault

namespace InlineCache

set_option autoImplicit false

structure Signature where
  required : UInt64 := 0
  optional : UInt64 := 0
  /-- a rest parameter takes every further argument -/
  rest : Bool := false
  /-- keywords are taken -/
  keyrest : Bool := false
deriving DecidableEq, Repr

/-- What is known of a call's argument count before the call. -/
inductive ShapeCheck where
  /-- the count always fits -/
  | accepted
  /-- the count never fits -/
  | rejected (given : Nat) (expected : String)
  /-- the count is known at the call only -/
  | dynamic
deriving DecidableEq, Repr

namespace Signature

def noArguments : Signature := {}

def oneArgument : Signature := { required := 1 }

def any : Signature := { rest := true }

def exactly (required : UInt64) : Signature := { required }

/-- The most positional arguments that fit without a rest parameter. -/
def most (signature : Signature) : UInt64 := signature.required + signature.optional

def accepts (signature : Signature) (count : Nat) : Bool :=
  signature.required.toNat ≤ count && (signature.rest || count ≤ signature.most.toNat)

def isFixed (signature : Signature) : Bool :=
  signature.optional == 0 && !signature.rest

/-- The number of required parameters for a fixed signature, and one less than its
negation otherwise, in 32 bits. -/
def arity (signature : Signature) : Int :=
  let required := Int32.ofNat signature.required.toNat
  if signature.isFixed then required.toInt else (-required - 1).toInt

/-- The counts that fit, as an error message names them: `2`, `2..3` or `2+`. -/
def expected (signature : Signature) : String :=
  if signature.rest then toString signature.required ++ "+"
  else if 0 < signature.optional then
    toString signature.required ++ ".." ++ toString signature.most
  else toString signature.required

def check (signature : Signature) (count : Nat) : Except Fault Unit :=
  if signature.accepts count then .ok ()
  else .error (.argumentCount count signature.expected)

def endsInHash (args : List Value) : Bool :=
  match args.getLast? with
  | some last => last.isHash
  | none => false

/-- The positional arguments among those of a call. -/
def positionalCount (signature : Signature) (args : List Value) (kwargs : Bool) : Nat :=
  if kwargs && signature.keyrest && endsInHash args then args.length - 1 else args.length

/-- Refuse arguments whose positional count does not fit. -/
def checkArguments (signature : Signature) (args : List Value) (kwargs : Bool) :
    Except Fault Unit :=
  signature.check (signature.positionalCount args kwargs)

/-- Decide a call by the count its site declares; a negative count means that the
arguments arrive as one list. -/
def checkShape (signature : Signature) (argCount : Int) : ShapeCheck :=
  if argCount < 0 || signature.keyrest then .dynamic
  else if signature.accepts argCount.toNat then .accepted
  else .rejected argCount.toNat signature.expected

theorem check_eq_ok_iff (signature : Signature) (count : Nat) :
    signature.check count = .ok () ↔ signature.accepts count = true := by
  by_cases fits : signature.accepts count <;> simp [check, fits]

/-- A refusal names the count and the counts that would have fitted. -/
theorem check_of_not_accepts {signature : Signature} {count : Nat}
    (unfit : signature.accepts count = false) :
    signature.check count = .error (.argumentCount count signature.expected) := by
  simp [check, unfit]

/-- A shape accepts a count that it declares only. -/
theorem count_of_accepted {signature : Signature} {argCount : Int}
    (accepted : signature.checkShape argCount = .accepted) : 0 ≤ argCount := by
  simp only [checkShape] at accepted
  split at accepted
  · cases accepted
  · rename_i static
    simp only [Bool.or_eq_true, decide_eq_true_eq, not_or, Int.not_lt] at static
    exact static.1

/-- **A call accepted by its shape is accepted at the call**, when it brings the
arguments that the shape declares. -/
theorem checkArguments_of_accepted {signature : Signature} {args : List Value}
    (accepted : signature.checkShape args.length = .accepted) (kwargs : Bool) :
    signature.checkArguments args kwargs = .ok () := by
  simp only [checkShape] at accepted
  split at accepted
  · simp at accepted
  · rename_i static
    simp only [Bool.or_eq_true, not_or, Bool.not_eq_true] at static
    split at accepted
    · rename_i fits
      simp only [Int.toNat_natCast] at fits
      simp [checkArguments, positionalCount, static.2, check, fits]
    · simp at accepted

end Signature

namespace ShapeCheck

/-- Raise what the shape alone decides. -/
def raise : ShapeCheck → Except Fault Unit
  | rejected given expected => .error (.argumentCount given expected)
  | _ => .ok ()

end ShapeCheck

end InlineCache
