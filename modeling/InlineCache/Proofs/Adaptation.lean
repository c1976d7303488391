/-
# InlineCache.Proofs.Adaptation -- the arguments a block runs with

A lambda takes the arguments it is called with, if their count fits.  A proc is never refused:
it takes a lone array apart if its signature has places for several items, drops what is too
many and fills up with nil what is too few, one after the other.

What comes of that is told by its parts (`Signature.Adapts`): the list fits the signature, and
it is the arguments as far as both go, with no more nil added and no more dropped than that
takes.  There is one such list and no other.

* `Signature.adapts_iff`: the arguments of a proc are the one list that adapts what it starts
  from;
* `World.block_arguments`: which arguments a block's body is entered with, and when it is not.
-/
import InlineCache.Send.Block

namespace InlineCache

set_option autoImplicit false

variable {Code Host : Type}

namespace Signature

/-! ## The specification -/

/-- The parameters can be counted in a machine word. -/
def Countable (signature : Signature) : Prop :=
  signature.required.toNat + signature.optional.toNat < UInt64.size

instance (signature : Signature) : Decidable signature.Countable :=
  inferInstanceAs (Decidable (_ < _))

/-- There are places for more than one item of an array. -/
def TakesApart (signature : Signature) : Prop :=
  1 < signature.required.toNat + signature.optional.toNat ∨
    (signature.rest = true ∧ 0 < signature.required.toNat)

instance (signature : Signature) : Decidable signature.TakesApart :=
  inferInstanceAs (Decidable (_ ∨ _))

/-- What a proc starts from. -/
inductive Spreads (signature : Signature) : List Value → List Value → Prop where
  | apart {items : List Value} (takes : signature.TakesApart) :
      Spreads signature [.array items] items
  | whole {args : List Value} (kept : ∀ items, args = [.array items] → ¬ signature.TakesApart) :
      Spreads signature args args

/-- The list that a proc makes of what it starts from. -/
structure Adapts (signature : Signature) (base given : List Value) : Prop where
  fits : signature.accepts given.length = true
  agrees : ∀ i, i < base.length → i < given.length → given[i]? = base[i]?
  padded : ∀ i, base.length ≤ i → i < given.length → given[i]? = some .nil
  /-- nil is added to make up the required arguments only -/
  longer : base.length < given.length → given.length = signature.required.toNat
  /-- nothing is dropped that a parameter could take -/
  shorter : ∀ i, given.length ≤ i → i < base.length → signature.rest = false ∧
    signature.required.toNat + signature.optional.toNat ≤ i

section

variable {signature : Signature} {base given other : List Value}

/-! ## Counts -/

theorem toNat_most (countable : signature.Countable) :
    signature.most.toNat = signature.required.toNat + signature.optional.toNat := by
  rw [most, UInt64.toNat_add, Nat.mod_eq_of_lt countable]

theorem accepts_iff (countable : signature.Countable) (count : Nat) :
    signature.accepts count = true ↔ signature.required.toNat ≤ count ∧
      (signature.rest = true ∨ count ≤ signature.required.toNat + signature.optional.toNat) := by
  simp only [accepts, toNat_most countable, Bool.and_eq_true, Bool.or_eq_true, decide_eq_true_eq]

theorem destructures_iff (countable : signature.Countable) :
    signature.destructures = true ↔ signature.TakesApart := by
  simp only [destructures, TakesApart, Bool.or_eq_true, Bool.and_eq_true, decide_eq_true_eq,
    UInt64.lt_iff_toNat_lt, toNat_most countable]
  rfl

theorem spreads_iff (countable : signature.Countable) {args : List Value} :
    signature.Spreads args base ↔ base = signature.procBase args := by
  constructor
  · rintro (takes | kept)
    · simp [procBase, (destructures_iff countable).2 takes]
    · unfold procBase
      split
      · rename_i items
        rw [if_neg fun splits => kept items rfl ((destructures_iff countable).1 splits)]
      · rfl
  · rintro rfl
    unfold procBase
    split
    · rename_i items
      by_cases takes : signature.TakesApart
      · rw [if_pos ((destructures_iff countable).2 takes)]
        exact .apart takes
      · rw [if_neg fun splits => takes ((destructures_iff countable).1 splits)]
        exact .whole fun _ _ => takes
    · rename_i notLone
      exact .whole fun items lone => absurd lone (notLone items)

/-! ## One list -/

/-- What a proc keeps of what it starts from. -/
def kept (signature : Signature) (base : List Value) : List Value :=
  if signature.rest then base else base.take signature.most.toNat

/-- A proc fills up to the required arguments. -/
def filled (signature : Signature) (base : List Value) : List Value :=
  signature.kept base ++
    List.replicate (signature.required.toNat - (signature.kept base).length) .nil

theorem procArguments_eq_filled (signature : Signature) (args : List Value) :
    signature.procArguments args = signature.filled (signature.procBase args) := rfl

/-- What is kept is a first part, all of it or as much as there are parameters for. -/
theorem length_kept (countable : signature.Countable) (base : List Value) :
    (signature.kept base).length = if signature.rest then base.length
      else min (signature.required.toNat + signature.optional.toNat) base.length := by
  unfold kept
  split
  · rfl
  · rw [List.length_take, toNat_most countable]

theorem getElem?_kept {i : Nat} (inside : i < (signature.kept base).length) :
    (signature.kept base)[i]? = base[i]? := by
  by_cases rest : signature.rest = true
  · rw [kept, if_pos rest]
  · rw [kept, if_neg rest] at inside ⊢
    rw [List.length_take] at inside
    exact List.getElem?_take_of_lt (Nat.lt_of_lt_of_le inside (Nat.min_le_left _ _))

theorem length_filled (signature : Signature) (base : List Value) :
    (signature.filled base).length =
      max (signature.kept base).length signature.required.toNat := by
  rw [filled, List.length_append, List.length_replicate]
  omega

theorem adapts_filled (countable : signature.Countable) (base : List Value) :
    signature.Adapts base (signature.filled base) := by
  have count := length_kept countable base
  have whole := length_filled signature base
  refine ⟨?fits, ?agrees, ?padded, ?longer, ?shorter⟩
  case fits =>
    rw [accepts_iff countable, whole]
    by_cases rest : signature.rest = true
    · exact ⟨by omega, .inl rest⟩
    · rw [if_neg rest] at count
      exact ⟨by omega, .inr (by omega)⟩
  case agrees =>
    intro i old inside
    -- nil is added only where nothing was dropped, so an item of both is one that is kept
    have first : i < (signature.kept base).length := by
      split at count <;> omega
    rw [filled, List.getElem?_append_left first, getElem?_kept first]
  case padded =>
    intro i new inside
    have added : (signature.kept base).length ≤ i := by
      split at count <;> omega
    rw [filled, List.getElem?_append_right added, List.getElem?_replicate, if_pos (by omega)]
  case longer =>
    intro more
    split at count <;> omega
  case shorter =>
    intro i outside old
    by_cases rest : signature.rest = true
    · rw [if_pos rest] at count
      omega
    · rw [if_neg rest] at count
      exact ⟨Bool.eq_false_iff.2 rest, by omega⟩

theorem Adapts.length_le (countable : signature.Countable) (adapts : signature.Adapts base given)
    (adapts' : signature.Adapts base other) : given.length ≤ other.length := by
  obtain ⟨least, most⟩ := (accepts_iff countable _).1 adapts.fits
  obtain ⟨least', -⟩ := (accepts_iff countable _).1 adapts'.fits
  refine Nat.le_of_not_lt fun more => ?_
  rcases Nat.lt_or_ge other.length base.length with dropped | added
  · -- the other list drops an item that this one has a place for
    obtain ⟨closed, bound⟩ := adapts'.shorter other.length (Nat.le_refl _) dropped
    rcases most with open_ | most
    · rw [closed] at open_
      cases open_
    · omega
  · -- this list adds to the other, which has what is required
    have full := adapts.longer (by omega)
    omega

/-- **There is one list.** -/
theorem Adapts.unique (countable : signature.Countable) (adapts : signature.Adapts base given)
    (adapts' : signature.Adapts base other) : given = other := by
  have lengths := Nat.le_antisymm (adapts.length_le countable adapts')
    (adapts'.length_le countable adapts)
  refine List.ext_getElem? fun i => ?_
  by_cases inside : i < given.length
  · rcases Nat.lt_or_ge i base.length with old | new
    · rw [adapts.agrees i old inside, adapts'.agrees i old (lengths ▸ inside)]
    · rw [adapts.padded i new inside, adapts'.padded i new (lengths ▸ inside)]
  · rw [List.getElem?_eq_none (by omega), List.getElem?_eq_none (by omega)]

theorem adapts_iff (countable : signature.Countable) {args : List Value}
    (spreads : signature.Spreads args base) :
    signature.Adapts base given ↔ given = signature.procArguments args := by
  obtain rfl := (spreads_iff countable).1 spreads
  rw [procArguments_eq_filled]
  refine ⟨fun adapts => adapts.unique countable (adapts_filled countable _), ?_⟩
  rintro rfl
  exact adapts_filled countable _

end

end Signature

namespace World

variable {world : World Code Host} {block : BlockRef} {closure : Closure Code}

/-- **The arguments a block runs with.**  A lambda runs with the arguments it is called with if
its signature accepts their count, and otherwise the call is a fault and nothing runs.  A proc
always runs, with the one list that adapts what it starts from.  To run is to enter the body
with those arguments, as the receiver that the block was made under and without a block. -/
theorem block_arguments (there : world.closure? block = some closure)
    (countable : closure.body.scope.signature.Countable) (context : ContextRef)
    (args : List Value) :
    let signature := closure.body.scope.signature
    (closure.isLambda = true →
      ((∀ exec : Exec Code Host, callBlock exec context block args world =
          runBlock exec context closure args world) ↔ signature.accepts args.length = true) ∧
      (signature.accepts args.length = false →
        ∀ exec : Exec Code Host, callBlock exec context block args world =
          (.error (.argumentCount args.length signature.expected), world))) ∧
    (closure.isLambda = false →
      (∃ base given, signature.Spreads args base ∧ signature.Adapts base given) ∧
      ∀ base given, signature.Spreads args base → signature.Adapts base given →
        ∀ exec : Exec Code Host, callBlock exec context block args world =
          runBlock exec context closure given world) ∧
    ∀ (exec : Exec Code Host) (given : List Value),
      runBlock exec context closure given world =
        exec closure.body.entry
          { context := some context
            receiver := closure.binding.self
            args := given
            block := none
            entrance := .block closure.binding }
          world := by
  intro signature
  have checks : closure.body.scope.signature.checkArguments args false =
      signature.check args.length := rfl
  have runs (exec : Exec Code Host) (isLambda : closure.isLambda = true)
      (accepted : signature.accepts args.length = true) :
      callBlock exec context block args world = runBlock exec context closure args world := by
    rw [(signature.check_eq_ok_iff _).2 accepted] at checks
    simp only [callBlock, there, isLambda, if_true, checks]
  have refuses (exec : Exec Code Host) (isLambda : closure.isLambda = true)
      (unfit : signature.accepts args.length = false) :
      callBlock exec context block args world =
        (.error (.argumentCount args.length signature.expected), world) := by
    rw [Signature.check_of_not_accepts unfit] at checks
    simp only [callBlock, there, isLambda, if_true, checks]
  refine ⟨fun isLambda => ⟨⟨fun always => ?_, fun accepted exec => runs exec isLambda accepted⟩,
    fun unfit exec => refuses exec isLambda unfit⟩, fun isProc => ⟨?_, ?_⟩, fun _ _ => rfl⟩
  · by_cases accepted : signature.accepts args.length = true
    · exact accepted
    · -- code that answers would be seen to run
      have seen := always fun _ _ world => (.ok .nil, world)
      rw [refuses _ isLambda (Bool.eq_false_iff.2 accepted)] at seen
      cases congrArg Prod.fst seen
  · exact ⟨_, _, (Signature.spreads_iff countable).2 rfl, Signature.adapts_filled countable _⟩
  · intro base given spreads adapts exec
    simp only [callBlock, there, isProc, Bool.false_eq_true, if_false,
      (Signature.adapts_iff countable spreads).1 adapts]

/-- A short array is taken apart and filled up, by a proc with a rest parameter too; a lambda
of the same signature is not called with it. -/
theorem block_arguments_of_short_array :
    let signature : Signature := { required := 2, rest := true }
    let body : BlockBody Unit := ⟨(), { kind := .block, locals := [], signature }, {}⟩
    let proc : Closure Unit := ⟨⟨0⟩, body, { self := .nil }, false⟩
    let lambda : Closure Unit := ⟨⟨0⟩, body, { self := .nil }, true⟩
    let world : World Unit Unit :=
      { (World.create {} .hierarchy none () : World Unit Unit) with closures := #[proc, lambda] }
    (∀ exec, callBlock exec ⟨0⟩ (.closure 0) [.array [.int 1]] world =
        exec ()
          { context := some ⟨0⟩
            receiver := .nil
            args := [.int 1, .nil]
            block := none
            entrance := .block { self := .nil } }
          world) ∧
      ∀ exec, callBlock exec ⟨0⟩ (.closure 1) [.array [.int 1]] world =
        (.error (.argumentCount 1 "2+"), world) := by
  intro signature body proc lambda world
  have countable : signature.Countable := by decide
  constructor
  · have there : world.closure? (.closure 0) = some proc := rfl
    have spreads : signature.Spreads [.array [.int 1]] [.int 1] := .apart (by decide)
    obtain ⟨-, isProc, entered⟩ := block_arguments there countable ⟨0⟩ [.array [.int 1]]
    intro exec
    have runs := (isProc rfl).2 _ _ spreads ((Signature.adapts_iff countable spreads).2 rfl) exec
    exact runs.trans (entered exec _)
  · have there : world.closure? (.closure 1) = some lambda := rfl
    obtain ⟨isLambda, -⟩ := block_arguments there countable ⟨0⟩ [.array [.int 1]]
    intro exec
    rw [(isLambda rfl).2 rfl exec, show lambda.body.scope.signature.expected = "2+" by decide]
    rfl

end World

end InlineCache
