/-
# InlineCache.Proofs.Bounds -- what signatures tell, and how large they may be

A signature tells which counts fit, names them in a message, and has an arity number.  The
counts are words of 64 bits, so is the sum of the required and the optional ones, and the
arity number has 32 bits.  Here stands beside each of the three what it is without a word's end
(`Fits`, `bounds`, `exactArity`), and where the two part.

* `accepts_exact_iff`: a sum that does not fit in a word leaves no count that fits, though
  every count from the required one on should;
* `expected_exact_iff`: and it is not the sum that the message names;
* `arity_eq_bmod`: the arity number is the exact one up to multiples of 2^32;
* `exact_iff_within_words`: so which signatures are exact;
* `wide_signatures_misjudged`: two that are not.
-/
import InlineCache.Proofs.Adaptation
import Mathlib

namespace InlineCache

set_option autoImplicit false

namespace Signature

/-! ## Without a word's end -/

/-- A count fits: the required arguments are there, and without a rest parameter there are no
more beside them than the optional ones. -/
def Fits (signature : Signature) (count : Nat) : Prop :=
  signature.required.toNat ≤ count ∧
    (signature.rest = true ∨ count - signature.required.toNat ≤ signature.optional.toNat)

/-- The counts that fit, as a message names them. -/
def bounds (signature : Signature) : String :=
  let required := signature.required.toNat
  if signature.rest then toString required ++ "+"
  else if 0 < signature.optional then
    toString required ++ ".." ++ toString (required + signature.optional.toNat)
  else toString required

/-- The required count of a fixed signature, and otherwise one less than its negation. -/
def exactArity (signature : Signature) : Int :=
  if signature.isFixed then signature.required.toNat else -(signature.required.toNat + 1)

variable {signature : Signature}

/-! ## Counts -/

/-- A sum that does not fit in a word comes out below the required count. -/
theorem most_lt_required (uncountable : ¬ signature.Countable) :
    signature.most.toNat < signature.required.toNat := by
  have small := UInt64.toNat_lt signature.required
  have small' := UInt64.toNat_lt signature.optional
  have wide : 2 ^ 64 ≤ signature.required.toNat + signature.optional.toNat :=
    Nat.le_of_not_lt uncountable
  rw [most, UInt64.toNat_add]
  omega

theorem not_accepts_of_uncountable (closed : signature.rest = false)
    (uncountable : ¬ signature.Countable) (count : Nat) : signature.accepts count = false := by
  have below := most_lt_required uncountable
  have none_ : ¬ (signature.required.toNat ≤ count ∧ count ≤ signature.most.toNat) := by omega
  simpa [accepts, closed] using none_

/-- Where a count is judged as it should be. -/
theorem accepts_exact_iff (signature : Signature) (count : UInt64) :
    (signature.accepts count.toNat = true ↔ signature.Fits count.toNat) ↔
      signature.rest = true ∨ signature.Countable ∨ count < signature.required := by
  by_cases open_ : signature.rest = true
  · have judged : signature.accepts count.toNat = true ↔ signature.Fits count.toNat := by
      simp [accepts, Fits, open_]
    exact iff_of_true judged (.inl open_)
  · by_cases countable : signature.Countable
    · have judged : signature.accepts count.toNat = true ↔ signature.Fits count.toNat := by
        rw [accepts_iff countable, Fits]
        refine and_congr_right fun least => or_congr_right ?_
        omega
      exact iff_of_true judged (.inr (.inl countable))
    · -- nothing is accepted, and every count from the required one on should be
      have closed : signature.rest = false := Bool.eq_false_iff.2 open_
      have small := UInt64.toNat_lt count
      have wide : 2 ^ 64 ≤ signature.required.toNat + signature.optional.toNat :=
        Nat.le_of_not_lt countable
      have fits : signature.Fits count.toNat ↔ signature.required.toNat ≤ count.toNat := by
        simp only [Fits, closed, Bool.false_eq_true, false_or]
        omega
      rw [not_accepts_of_uncountable closed countable, fits, closed, UInt64.lt_iff_toNat_lt]
      simp only [Bool.false_eq_true, false_iff, countable, false_or, Nat.not_le]

/-! ## Messages -/

theorem expected_exact_iff (signature : Signature) :
    signature.expected = signature.bounds ↔
      signature.rest = true ∨ signature.optional = 0 ∨ signature.Countable := by
  by_cases open_ : signature.rest = true
  · have named : signature.expected = signature.bounds := by
      rw [expected, bounds, if_pos open_, if_pos open_]
      rfl
    exact iff_of_true named (.inl open_)
  · by_cases fixed : signature.optional = 0
    · have named : signature.expected = signature.bounds := by
        have none_ : ¬ 0 < signature.optional := by simp [fixed]
        rw [expected, bounds, if_neg open_, if_neg open_, if_neg none_, if_neg none_]
        rfl
      exact iff_of_true named (.inr (.inl fixed))
    · have some_ : 0 < signature.optional := UInt64.pos_iff_ne_zero.2 fixed
      have named : signature.expected = signature.bounds ↔
          signature.most.toNat = signature.required.toNat + signature.optional.toNat := by
        rw [expected, bounds, if_neg open_, if_neg open_, if_pos some_, if_pos some_]
        show toString signature.required.toNat ++ ".." ++ signature.most.toNat.repr =
          toString signature.required.toNat ++ ".." ++ Nat.repr _ ↔ _
        rw [String.append_right_inj, Nat.repr_inj]
      rw [named]
      constructor
      · intro exact_
        refine .inr (.inr ?_)
        rw [Countable, ← exact_]
        exact UInt64.toNat_lt signature.most
      · rintro (rest | none_ | countable)
        · exact absurd rest open_
        · exact absurd none_ fixed
        · exact toNat_most countable

/-! ## The arity number -/

theorem arity_eq_bmod (signature : Signature) :
    signature.arity = signature.exactArity.bmod (2 ^ 32) := by
  unfold arity exactArity
  split
  · exact Int32.toInt_ofNat'
  · have whole : -Int32.ofNat signature.required.toNat - 1 =
        Int32.ofInt (-(signature.required.toNat + 1 : Int)) := by
      rw [Int.neg_add, ← Int.sub_eq_add_neg, Int32.ofInt_sub, Int32.ofInt_neg, Int32.ofInt_eq_ofNat]
      rfl
    show (-Int32.ofNat signature.required.toNat - 1).toInt = _
    rw [whole]
    exact Int32.toInt_ofInt

/-- An arity number is exact if 32 bits with a sign hold it. -/
theorem arity_exact_iff (signature : Signature) :
    signature.arity = signature.exactArity ↔ signature.required.toNat < 2 ^ 31 := by
  have held : -(2 ^ 31) ≤ signature.exactArity ∧ signature.exactArity < 2 ^ 31 ↔
      signature.required.toNat < 2 ^ 31 := by
    unfold exactArity
    split <;> omega
  rw [arity_eq_bmod, Int.bmod_eq_iff (by decide), ← held]
  constructor
  · rintro ⟨least, most, -⟩
    exact ⟨by omega, by omega⟩
  · rintro ⟨least, most⟩
    exact ⟨by omega, by omega, by simp⟩

/-! ## Together -/

/-- **Which signatures are exact.**  A count is judged as it should be by every signature with a
rest parameter and by every one whose required and optional counts have a sum below 2^64, and
besides if it is less than required.  The message names the bounds as they are if there is a
rest parameter, or no optional one, or such a sum.  The arity number is exact if fewer than 2^31
arguments are required.  Nothing else is exact. -/
theorem exact_iff_within_words (signature : Signature) :
    (∀ count : UInt64, (signature.accepts count.toNat = true ↔ signature.Fits count.toNat) ↔
        signature.rest = true ∨ signature.Countable ∨ count < signature.required) ∧
      (signature.expected = signature.bounds ↔
        signature.rest = true ∨ signature.optional = 0 ∨ signature.Countable) ∧
      (signature.arity = signature.exactArity ↔ signature.required.toNat < 2 ^ 31) :=
  ⟨accepts_exact_iff signature, expected_exact_iff signature, arity_exact_iff signature⟩

/-- **Signatures that tell what is not so.**  The one refuses the count that it requires, and
names no argument as the most it takes; the other has an arity number below zero, though it is
fixed. -/
theorem wide_signatures_misjudged :
    let wide : Signature := { required := 18446744073709551615, optional := 1 }
    let long : Signature := { required := 2147483648 }
    (wide.Fits 18446744073709551615 ∧ wide.accepts 18446744073709551615 = false) ∧
      (wide.bounds = "18446744073709551615..18446744073709551616" ∧
        wide.expected = "18446744073709551615..0") ∧
      long.exactArity = 2147483648 ∧ long.arity = -2147483648 := by
  intro wide long
  refine ⟨⟨⟨?_, ?_⟩, ?_⟩, ⟨?_, ?_⟩, ?_, ?_⟩
  all_goals decide

end Signature

end InlineCache
