/-
# InlineCache.Proofs.Parameters -- the parameter lists that a call can fit

A native primitive declares its parameters in a fixed order: perhaps a context, the receiver
if the primitive is static and no other way, then the arguments, either one by one or all of
them as one list, and last perhaps a block.  `Parts` tells what a list in that order consists
of, and `Parts.written` is the list.

* `Parts.written_injective`: a list is written in one way only;
* `argumentCount?_written`: what is written so is accepted, with the count of its arguments;
* `exists_parts`: and nothing else is accepted;
* `argument_count_grammar`: so the count of a list is read off its parts, and so is whether the
  primitive wants a context and a block.
-/
import InlineCache.Method.Basic
import Mathlib.Algebra.Group.Nat.Defs

namespace InlineCache

set_option autoImplicit false

namespace NativeParam

variable {param : NativeParam} {params rest : List NativeParam} {there isStatic : Bool}

/-! ## The order of parameters -/

/-- How a primitive takes its arguments. -/
inductive Middle where
  /-- so many, one by one -/
  | counted (n : Nat)
  /-- all of them, as one list -/
  | listed
deriving DecidableEq

/-- What a parameter list in order consists of. -/
structure Parts where
  context : Bool
  middle : Middle
  block : Bool
deriving DecidableEq

/-- A parameter that may be there. -/
def given (there : Bool) (param : NativeParam) : List NativeParam :=
  if there then [param] else []

theorem mem_given {other : NativeParam} :
    other ∈ given there param ↔ there = true ∧ other = param := by
  cases there <;> simp [given]

namespace Middle

variable {middle other : Middle}

def written : Middle → List NativeParam
  | counted n => List.replicate n .value
  | listed => [.values]

/-- How many arguments are taken, minus one for all of them. -/
def count : Middle → Int
  | counted n => n
  | listed => -1

theorem eq_of_mem (member : param ∈ middle.written) : param = .value ∨ param = .values := by
  cases middle with
  | counted n => exact .inl (List.eq_of_mem_replicate member)
  | listed => exact .inr (List.mem_singleton.1 member)

theorem written_counted_ne (n : Nat) : (counted n).written ≠ [.values] := by
  intro same
  have member : NativeParam.values ∈ (counted n).written := by
    rw [same]
    exact List.mem_singleton_self _
  cases List.eq_of_mem_replicate member

theorem written_injective (same : middle.written = other.written) : middle = other := by
  cases middle with
  | counted n =>
      cases other with
      | counted m => rw [(List.replicate_inj.1 same).1]
      | listed => exact absurd same (written_counted_ne n)
  | listed =>
      cases other with
      | counted m => exact absurd same.symm (written_counted_ne m)
      | listed => rfl

end Middle

namespace Parts

variable {parts other : Parts}

/-- The parameters between context and block. -/
def inner (parts : Parts) (isStatic : Bool) : List NativeParam :=
  given isStatic .receiver ++ parts.middle.written

/-- The parameters in order. -/
def written (parts : Parts) (isStatic : Bool) : List NativeParam :=
  given parts.context .context ++ (parts.inner isStatic ++ given parts.block .block)

/-! ## One way to write a list -/

theorem eq_of_mem_inner (member : param ∈ parts.inner isStatic) :
    param = .receiver ∨ param = .value ∨ param = .values := by
  rcases List.mem_append.1 member with receiver | middle
  · exact .inl (mem_given.1 receiver).2
  · exact .inr (Middle.eq_of_mem middle)

theorem context_notMem :
    NativeParam.context ∉ parts.inner isStatic ++ given parts.block .block := by
  intro member
  rcases List.mem_append.1 member with inner | block
  · rcases eq_of_mem_inner inner with e | e | e <;> cases e
  · cases (mem_given.1 block).2

theorem block_notMem : NativeParam.block ∉ parts.inner isStatic := by
  intro member
  rcases eq_of_mem_inner member with e | e | e <;> cases e

/-- A context comes first exactly if there is one. -/
theorem head?_written (parts : Parts) (isStatic : Bool) :
    (parts.written isStatic).head? = some .context ↔ parts.context = true := by
  constructor
  · intro first
    rcases List.mem_append.1 (List.mem_of_head? first) with context | later
    · exact (mem_given.1 context).1
    · exact absurd later context_notMem
  · intro there
    rw [written, there]
    rfl

/-- A block comes last exactly if there is one. -/
theorem getLast?_written (parts : Parts) (isStatic : Bool) :
    (parts.written isStatic).getLast? = some .block ↔ parts.block = true := by
  constructor
  · intro last
    rcases List.mem_append.1 (List.mem_of_getLast? last) with context | later
    · cases (mem_given.1 context).2
    · rcases List.mem_append.1 later with inner | block
      · exact absurd inner block_notMem
      · exact (mem_given.1 block).1
  · intro there
    rw [written, there, ← List.append_assoc]
    exact List.getLast?_concat

/-- **A list is written in one way only.** -/
theorem written_injective (same : parts.written isStatic = other.written isStatic) :
    parts = other := by
  have context : parts.context = other.context := by
    rw [Bool.eq_iff_iff, ← head?_written parts isStatic, same, head?_written]
  have block : parts.block = other.block := by
    rw [Bool.eq_iff_iff, ← getLast?_written parts isStatic, same, getLast?_written]
  have inner : parts.inner isStatic = other.inner isStatic := by
    rw [written, written, context, block] at same
    exact List.append_cancel_right (List.append_cancel_left same)
  have middle : parts.middle = other.middle :=
    Middle.written_injective (List.append_cancel_left inner)
  cases parts
  cases other
  cases context
  cases block
  cases middle
  rfl

end Parts

/-! ## What is taken off a list -/

theorem dropContext_given (no : NativeParam.context ∉ rest) :
    dropContext (given there .context ++ rest) = rest := by
  cases there with
  | true => rfl
  | false =>
      cases rest with
      | nil => rfl
      | cons first rest =>
          cases first with
          | context => exact absurd List.mem_cons_self no
          | receiver | value | values | block => rfl

theorem given_dropContext (params : List NativeParam) :
    given (params.head? == some .context) .context ++ dropContext params = params := by
  cases params with
  | nil => rfl
  | cons first rest => cases first <;> rfl

theorem dropBlock_given (no : NativeParam.block ∉ rest) :
    dropBlock (rest ++ given there .block) = rest := by
  cases there with
  | true => simp [dropBlock, given]
  | false =>
      have kept : rest.getLast? ≠ some .block := fun last => no (List.mem_of_getLast? last)
      simp [dropBlock, given, kept]

theorem dropBlock_append_given (params : List NativeParam) :
    dropBlock params ++ given (params.getLast? == some .block) .block = params := by
  by_cases last : params.getLast? = some .block
  · obtain ⟨earlier, rfl⟩ := List.getLast?_eq_some_iff.1 last
    simp [dropBlock, given]
  · simp [dropBlock, given, last]

theorem dropReceiver?_eq_some_iff :
    dropReceiver? params = some rest ↔ params = .receiver :: rest := by
  cases params with
  | nil => simp [dropReceiver?]
  | cons first others => cases first <;> simp [dropReceiver?]

/-! ## The count of a list -/

theorem middleCount?_written {middle : Middle} (few : middle.written.length < 2 ^ 31) :
    middleCount? middle.written = some middle.count := by
  cases middle with
  | counted n =>
      have all : (Middle.counted n).written.all (· == .value) = true := by
        simp [Middle.written]
      rw [middleCount?, if_neg (Middle.written_counted_ne n), if_pos all]
      rw [Middle.written, List.length_replicate] at few ⊢
      rw [Int32.toInt_ofNat_of_lt few]
      rfl
  | listed => rfl

theorem exists_middle {count : Int} (few : params.length < 2 ^ 31)
    (accepted : middleCount? params = some count) :
    ∃ middle : Middle, middle.written = params ∧ middle.count = count := by
  unfold middleCount? at accepted
  split at accepted
  · rename_i listed
    cases accepted
    exact ⟨.listed, listed.symm, rfl⟩
  · split at accepted
    · rename_i all
      cases accepted
      have values : params = List.replicate params.length .value :=
        List.eq_replicate_iff.2 ⟨rfl, fun param member =>
          eq_of_beq (List.all_eq_true.1 all param member)⟩
      exact ⟨.counted params.length, values.symm, (Int32.toInt_ofNat_of_lt few).symm⟩
    · cases accepted

/-- **A list in order is accepted, with the count of its arguments.** -/
theorem argumentCount?_written (parts : Parts) (few : (parts.written isStatic).length < 2 ^ 31) :
    argumentCount? (parts.written isStatic) isStatic = some parts.middle.count := by
  have fewer : parts.middle.written.length < 2 ^ 31 := by
    simp only [Parts.written, Parts.inner, List.length_append] at few
    omega
  have peeled : dropContext (parts.written isStatic) =
      given isStatic .receiver ++ (parts.middle.written ++ given parts.block .block) := by
    rw [Parts.written, dropContext_given Parts.context_notMem, Parts.inner, List.append_assoc]
  have no : NativeParam.block ∉ parts.middle.written := fun member =>
    @Parts.block_notMem false parts member
  have bare : middleCount? (dropBlock (parts.middle.written ++ given parts.block .block)) =
      some parts.middle.count := by
    rw [dropBlock_given no, middleCount?_written fewer]
  cases isStatic with
  | true =>
      show (dropReceiver? (dropContext (parts.written true))).bind _ = _
      rw [peeled]
      exact bare
  | false =>
      show middleCount? (dropBlock (dropContext (parts.written false))) = _
      rw [peeled]
      exact bare

/-- What is left when the context, the receiver of a static primitive and the block are taken
off. -/
theorem exists_inner {count : Int} (accepted : argumentCount? params isStatic = some count) :
    ∃ rest, dropContext params = given isStatic .receiver ++ rest ∧
      middleCount? (dropBlock rest) = some count := by
  cases isStatic with
  | true =>
      obtain ⟨rest, dropped, counted⟩ := Option.bind_eq_some_iff.1 accepted
      exact ⟨rest, dropReceiver?_eq_some_iff.1 dropped, counted⟩
  | false => exact ⟨dropContext params, rfl, accepted⟩

/-- **Nothing else is accepted.** -/
theorem exists_parts {count : Int} (few : params.length < 2 ^ 31)
    (accepted : argumentCount? params isStatic = some count) :
    ∃ parts : Parts, parts.written isStatic = params ∧ parts.middle.count = count := by
  obtain ⟨rest, peeled, counted⟩ := exists_inner accepted
  have whole : given (params.head? == some .context) .context ++
      (given isStatic .receiver ++ (dropBlock rest ++
        given (rest.getLast? == some .block) .block)) = params := by
    rw [dropBlock_append_given, ← peeled, given_dropContext]
  have fewer : (dropBlock rest).length < 2 ^ 31 := by
    have lengths := congrArg List.length whole
    simp only [List.length_append] at lengths
    omega
  obtain ⟨middle, written, is⟩ := exists_middle fewer counted
  refine ⟨⟨params.head? == some .context, middle, rest.getLast? == some .block⟩, ?_, is⟩
  rw [Parts.written, Parts.inner, written, List.append_assoc]
  exact whole

/-- What a list is accepted with is what it is written with. -/
theorem argumentCount?_eq_some_iff {count : Int} (few : params.length < 2 ^ 31) :
    argumentCount? params isStatic = some count ↔
      ∃ parts : Parts, parts.written isStatic = params ∧ parts.middle.count = count := by
  constructor
  · exact exists_parts few
  · rintro ⟨parts, rfl, rfl⟩
    exact argumentCount?_written parts few

/-- A primitive wants a context and a block exactly if its list is written with them. -/
theorem wants_of_written {Code : Type} {method : NativeMethod Code} {parts : Parts}
    (written : parts.written isStatic = method.params) :
    method.wantsContext = parts.context ∧ method.wantsBlock = parts.block := by
  constructor
  · rw [Bool.eq_iff_iff, ← parts.head?_written isStatic, written]
    exact beq_iff_eq
  · rw [Bool.eq_iff_iff, ← parts.getLast?_written isStatic, written]
    exact beq_iff_eq

/-- **A parameter list is accepted exactly if it is in order.**  Take fewer than 2^31
parameters, and say whether the primitive is static.  The list binds so many arguments exactly
if it is written with so many values, one by one, and minus one exactly if it is written with
the list of all of them; it is refused exactly if it is written in no way, and there is never
more than one way.  A primitive whose list is accepted wants a context, and a block, exactly if
the list is written with one. -/
theorem argument_count_grammar {Code : Type} (params : List NativeParam) (isStatic : Bool)
    (few : params.length < 2 ^ 31) :
    (∀ n : Nat, argumentCount? params isStatic = some (n : Int) ↔
        ∃ context block, Parts.written ⟨context, .counted n, block⟩ isStatic = params) ∧
      (argumentCount? params isStatic = some (-1) ↔
        ∃ context block, Parts.written ⟨context, .listed, block⟩ isStatic = params) ∧
      (argumentCount? params isStatic = none ↔
        ∀ parts : Parts, parts.written isStatic ≠ params) ∧
      (∀ parts other : Parts, parts.written isStatic = params →
        other.written isStatic = params → parts = other) ∧
      ∀ method : NativeMethod Code, method.params = params → method.isStatic = isStatic →
        ∀ count, method.arity? = some count → ∃ parts : Parts,
          parts.written isStatic = params ∧ parts.middle.count = count ∧
            method.wantsContext = parts.context ∧ method.wantsBlock = parts.block := by
  have reads : ∀ count, argumentCount? params isStatic = some count ↔
      ∃ parts : Parts, parts.written isStatic = params ∧ parts.middle.count = count :=
    fun _ => argumentCount?_eq_some_iff few
  refine ⟨fun n => ?counted, ?listed, ?refused, ?once, ?wants⟩
  case counted =>
    rw [reads]
    constructor
    · rintro ⟨⟨context, middle, block⟩, written, is⟩
      cases middle with
      | counted m =>
          cases Int.ofNat.inj is
          exact ⟨context, block, written⟩
      | listed => cases is
    · rintro ⟨context, block, written⟩
      exact ⟨_, written, rfl⟩
  case listed =>
    rw [reads]
    constructor
    · rintro ⟨⟨context, middle, block⟩, written, is⟩
      cases middle with
      | counted m => cases is
      | listed => exact ⟨context, block, written⟩
    · rintro ⟨context, block, written⟩
      exact ⟨_, written, rfl⟩
  case refused =>
    rw [Option.eq_none_iff_forall_ne_some]
    constructor
    · intro refused parts written
      exact refused _ ((reads _).2 ⟨parts, written, rfl⟩)
    · intro unwritten count accepted
      obtain ⟨parts, written, -⟩ := (reads count).1 accepted
      exact unwritten parts written
  case once =>
    rintro parts other rfl same
    exact Parts.written_injective same.symm
  case wants =>
    rintro method rfl rfl count accepted
    obtain ⟨parts, written, is⟩ := (reads count).1 accepted
    exact ⟨parts, written, is, wants_of_written written⟩

/-- Two arguments between everything that may stand around them.  The same list is in no order
for a primitive that is not static. -/
theorem argument_count_grammar_of_five :
    let params : List NativeParam := [.context, .receiver, .value, .value, .block]
    params.length < 2 ^ 31 ∧ argumentCount? params true = some 2 ∧
      (∀ parts : Parts, parts.written true = params → parts = ⟨true, .counted 2, true⟩) ∧
      ∀ parts : Parts, parts.written false ≠ params := by
  intro params
  have few : params.length < 2 ^ 31 := by decide
  obtain ⟨counts, -, -, once, -⟩ := @argument_count_grammar Unit params true few
  obtain ⟨-, -, refuses, -⟩ := @argument_count_grammar Unit params false few
  exact ⟨few, (counts 2).2 ⟨true, true, rfl⟩, fun parts written => once parts _ written rfl,
    refuses.1 rfl⟩

end NativeParam

end InlineCache
