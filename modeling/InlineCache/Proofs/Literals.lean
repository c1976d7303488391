/-
# InlineCache.Proofs.Literals -- what a hash literal comes to

A literal inserts its pairs one after another, so what it comes to is said by its last pair
and by what the pairs before it came to (`Dict.ofPairs_concat`).  Its keys are the keys of
the pairs where each stands first, and the value of each is the one that stands last.

* `Dict.keys_ofPairs`: the keys, in order, whatever equality is;
* `Dict.get?_ofPairs`: what is found under any key at all;
* `Dict.length_eq_of_represents`: how many entries there are;
* `Value.hash_literal`: these together, with the literal that goes on from another.
-/
import InlineCache.Proofs.Equality
import Mathlib.Data.List.Induction

namespace InlineCache

set_option autoImplicit false

/-! ## The specification -/

/-- The keys of the pairs, each where it stands first: later keys equal to it are left out. -/
def firstKeys (pairs : List (Value × Value)) : List Value :=
  (pairs.map Prod.fst).eraseDupsBy Value.eqv

/-- The value that is paired last with a key equal to this one. -/
def lastValue? (pairs : List (Value × Value)) (key : Value) : Option Value :=
  (pairs.findRev? fun pair => key.eqv pair.1).map Prod.snd

/-- A list that has one of each of the keys, and no others. -/
structure Represents (keys : List Value) (pairs : List (Value × Value)) : Prop where
  apart : keys.Pairwise fun a b => a.eqv b = false ∧ b.eqv a = false
  occurs : ∀ key ∈ keys, ∃ pair ∈ pairs, key.eqv pair.1 = true
  covers : ∀ pair ∈ pairs, ∃ key ∈ keys, pair.1.eqv key = true

theorem lastValue?_concat (pairs : List (Value × Value)) (pair : Value × Value) (key : Value) :
    lastValue? (pairs ++ [pair]) key =
      if key.eqv pair.1 then some pair.2 else lastValue? pairs key := by
  simp only [lastValue?, List.findRev?_eq_find?_reverse, List.reverse_append,
    List.reverse_singleton, List.singleton_append, List.find?_cons]
  split <;> simp_all

/-! ## Leaving out what is there -/

section

variable {α : Type} (same : α → α → Bool)

theorem eraseDupsBy_loop_concat (xs seen : List α) (x : α) :
    List.eraseDupsBy.loop same (xs ++ [x]) seen =
      if (List.eraseDupsBy.loop same xs seen).any (same x) then
        List.eraseDupsBy.loop same xs seen
      else List.eraseDupsBy.loop same xs seen ++ [x] := by
  induction xs generalizing seen with
  | nil =>
      simp only [List.nil_append, List.eraseDupsBy.loop, List.any_reverse]
      cases seen.any (same x) <;> simp
  | cons y ys ih =>
      simp only [List.cons_append, List.eraseDupsBy.loop]
      by_cases there : seen.any (same y) = true <;> simp only [there] <;> exact ih _

/-- A last item is left out if one of the first items that are kept is the same. -/
theorem eraseDupsBy_concat (xs : List α) (x : α) :
    (xs ++ [x]).eraseDupsBy same =
      if (xs.eraseDupsBy same).any (same x) then xs.eraseDupsBy same
      else xs.eraseDupsBy same ++ [x] :=
  eraseDupsBy_loop_concat same xs [] x

end

namespace Dict

/-! ## One more pair -/

theorem ofPairs_concat (pairs : List (Value × Value)) (pair : Value × Value) :
    ofPairs (pairs ++ [pair]) = (ofPairs pairs).insert pair.1 pair.2 := by
  rw [ofPairs, insertAll_append]
  rfl

theorem isSome_get?_eq_any (dict : Dict) (key : Value) :
    (dict.get? key).isSome = dict.keys.any key.eqv := by
  induction dict with
  | nil => rfl
  | cons entry rest ih =>
      rw [get?_cons]
      simp only [keys, List.map_cons, List.any_cons] at ih ⊢
      by_cases here : key.eqv entry.1 = true <;> simp [here, ih]

/-- **The keys of a literal are the keys of its pairs, each where it stands first.** -/
theorem keys_ofPairs (pairs : List (Value × Value)) : (ofPairs pairs).keys = firstKeys pairs := by
  induction pairs using List.reverseRecOn with
  | nil => rfl
  | append_singleton pairs pair ih =>
      have longer : firstKeys (pairs ++ [pair]) =
          if (firstKeys pairs).any pair.1.eqv then firstKeys pairs
          else firstKeys pairs ++ [pair.1] := by
        rw [firstKeys, List.map_append, List.map_singleton]
        exact eraseDupsBy_concat Value.eqv (pairs.map Prod.fst) pair.1
      rw [ofPairs_concat, keys_insert, isSome_get?_eq_any, ih, longer]

section

variable {P : Value → Prop} {dict : Dict}

/-- **An insertion is felt under the keys equal to its own.** -/
theorem get?_insert (lawful : Value.LawfulOn P) (all : dict.All P) {key asked : Value}
    (its : P key) (its' : P asked) (value : Value) :
    (dict.insert key value).get? asked =
      if asked.eqv key then some value else dict.get? asked := by
  induction dict with
  | nil => rfl
  | cons first rest ih =>
      obtain ⟨head, others⟩ := List.forall_mem_cons.1 all
      by_cases here : key.eqv first.1 = true
      · -- the key asked for is equal to both or to neither
        have both : asked.eqv first.1 = asked.eqv key := by
          rw [Bool.eq_iff_iff]
          exact ⟨fun equal => lawful.trans its' head.1 its equal (lawful.symm its head.1 here),
            fun equal => lawful.trans its' its head.1 equal here⟩
        simp only [insert, here, if_true, get?_cons, both]
        split <;> rfl
      · simp only [insert, here, if_false, get?_cons, ih others, Bool.false_eq_true]
        by_cases equal : asked.eqv key = true
        · -- no key equal to the new one is equal to one that it is not equal to
          have missed : asked.eqv first.1 = false := by
            by_contra hit
            rw [Bool.not_eq_false] at hit
            exact here (lawful.trans its its' head.1 (lawful.symm its' its equal) hit)
          simp [equal, missed]
        · simp [equal]

/-- **Under a key stands the value that is paired with it last.** -/
theorem get?_ofPairs (lawful : Value.LawfulOn P) {pairs : List (Value × Value)}
    (all : Dict.All P pairs) {key : Value} (its : P key) :
    (ofPairs pairs).get? key = lastValue? pairs key := by
  induction pairs using List.reverseRecOn with
  | nil => rfl
  | append_singleton pairs pair ih =>
      obtain ⟨before, last⟩ := List.forall_mem_append.1 all
      obtain ⟨itsKey, -⟩ := last pair List.mem_cons_self
      rw [ofPairs_concat, get?_insert lawful (all_ofPairs before) itsKey its, ih before,
        lastValue?_concat]

/-- A repeated key keeps its first place and takes the last value. -/
example : ofPairs [(.int 1, .nil), (.int 2, .nil), (.int 1, .bool true)] =
    [(.int 1, .bool true), (.int 2, .nil)] := rfl

/-! ## How many entries -/

/-- Unequal keys that each have their like among others are no more than these. -/
theorem length_le_of_covered (lawful : Value.LawfulOn P) {xs ys : List Value}
    (each : ∀ x ∈ xs, P x) (each' : ∀ y ∈ ys, P y)
    (apart : xs.Pairwise fun a b => a.eqv b = false ∧ b.eqv a = false)
    (covered : ∀ x ∈ xs, ∃ y ∈ ys, x.eqv y = true) : xs.length ≤ ys.length := by
  induction xs generalizing ys with
  | nil => exact Nat.zero_le _
  | cons x rest ih =>
      obtain ⟨itsX, others⟩ := List.forall_mem_cons.1 each
      obtain ⟨new, apart⟩ := List.pairwise_cons.1 apart
      obtain ⟨⟨y, there, equal⟩, covered⟩ := List.forall_mem_cons.1 covered
      -- take the like of the first key out: it is the like of no other
      obtain ⟨before, after, rfl⟩ := List.append_of_mem there
      have fewer : rest.length ≤ (before ++ after).length := by
        refine ih others (fun z member => each' z ?_) apart fun z member => ?_
        · exact List.mem_append.2 ((List.mem_append.1 member).imp_right (List.mem_cons_of_mem _))
        · obtain ⟨w, stands, like⟩ := covered z member
          refine ⟨w, ?_, like⟩
          rcases List.mem_append.1 stands with early | late
          · exact List.mem_append_left _ early
          · rcases List.mem_cons.1 late with rfl | late
            · have same := lawful.trans itsX (each' w there) (others z member) equal
                (lawful.symm (others z member) (each' w there) like)
              rw [(new z member).1] at same
              exact absurd same Bool.false_ne_true
            · exact List.mem_append_right _ late
      simp only [List.length_cons, List.length_append] at fewer ⊢
      omega

theorem All.keys (all : dict.All P) : ∀ key ∈ dict.keys, P key := by
  intro key member
  obtain ⟨entry, there, rfl⟩ := List.mem_map.1 member
  exact (all entry there).1

theorem mem_of_mem_keys_ofPairs {pairs : List (Value × Value)} {key : Value}
    (member : key ∈ (ofPairs pairs).keys) : ∃ pair ∈ pairs, pair.1 = key := by
  induction pairs using List.reverseRecOn with
  | nil => exact absurd member List.not_mem_nil
  | append_singleton pairs pair ih =>
      rw [ofPairs_concat, keys_insert] at member
      have first : key ∈ (ofPairs pairs).keys → ∃ pair' ∈ pairs ++ [pair], pair'.1 = key := by
        intro there
        obtain ⟨pair', there, its⟩ := ih there
        exact ⟨pair', List.mem_append_left _ there, its⟩
      split at member
      · exact first member
      · rcases List.mem_append.1 member with there | last
        · exact first there
        · exact ⟨pair, by simp, (List.mem_singleton.1 last).symm⟩

theorem represents_keys_ofPairs (lawful : Value.LawfulOn P) {pairs : List (Value × Value)}
    (all : Dict.All P pairs) : Represents (ofPairs pairs).keys pairs := by
  have kept := (all_ofPairs all).keys
  refine ⟨?_, fun key member => ?_, fun pair member => ?_⟩
  · refine (distinct_ofPairs pairs).imp_of_mem fun {a b} itsA itsB apart => ⟨?_, apart⟩
    by_contra equal
    rw [Bool.not_eq_false] at equal
    rw [lawful.symm (kept a itsA) (kept b itsB) equal] at apart
    exact Bool.false_ne_true apart.symm
  · obtain ⟨pair, there, rfl⟩ := mem_of_mem_keys_ofPairs member
    exact ⟨pair, there, lawful.refl (all pair there).1⟩
  · -- something is found under the key, so it has its like
    have found : ((ofPairs pairs).get? pair.1).isSome = true := by
      rw [get?_ofPairs lawful all (all pair member).1, lastValue?, Option.isSome_map,
        List.findRev?_eq_find?_reverse, List.find?_isSome]
      exact ⟨pair, List.mem_reverse.2 member, lawful.refl (all pair member).1⟩
    rwa [isSome_get?_eq_any, List.any_eq_true] at found

/-- **There are as many entries as unequal keys**, however these are picked. -/
theorem length_eq_of_represents (lawful : Value.LawfulOn P) {pairs : List (Value × Value)}
    (all : Dict.All P pairs) {keys : List Value} (each : ∀ key ∈ keys, P key)
    (represents : Represents keys pairs) : (ofPairs pairs).length = keys.length := by
  have own := represents_keys_ofPairs lawful all
  have kept := (all_ofPairs all).keys
  -- each key of the one list is the key of a pair, and that is covered by the other
  have through : ∀ {xs ys : List Value}, (∀ x ∈ xs, P x) → (∀ y ∈ ys, P y) →
      Represents xs pairs → Represents ys pairs → xs.length ≤ ys.length := by
    intro xs ys each each' first second
    refine length_le_of_covered lawful each each' first.apart fun x member => ?_
    obtain ⟨pair, there, like⟩ := first.occurs x member
    obtain ⟨y, stands, like'⟩ := second.covers pair there
    exact ⟨y, stands, lawful.trans (each x member) (all pair there).1 (each' y stands) like like'⟩
  rw [← show (ofPairs pairs).keys.length = (ofPairs pairs).length from List.length_map _]
  exact Nat.le_antisymm (through kept each own represents) (through each kept represents own)

end

end Dict

namespace Value

/-- **A hash literal.**  It iterates over the keys of its pairs where each stands first, no two
of them equal, and each with the value that stands last; it has as many entries as there are
unequal keys; under every key it finds the value that is paired last with an equal one; and a
literal that goes on from it is the literal of all pairs, while from a value that is no hash it
is refused, whatever the pairs. -/
theorem hash_literal {ps : List (Value × Value)} (built : Dict.All Built ps) :
    (Dict.ofPairs ps).keys = firstKeys ps ∧
      Represents (Dict.ofPairs ps).keys ps ∧
      (∀ entry ∈ Dict.ofPairs ps, lastValue? ps entry.1 = some entry.2) ∧
      (∀ keys : List Value, (∀ key ∈ keys, Built key) → Represents keys ps →
        (Dict.ofPairs ps).length = keys.length) ∧
      (∀ key, Built key → (Dict.ofPairs ps).get? key = lastValue? ps key) ∧
      (∀ qs, extendHash (ofPairs ps) qs = .ok (ofPairs (ps ++ qs))) ∧
      ∀ base : Value, base.isHash = false →
        ∃ text, ∀ qs, extendHash base qs = .error (.typeMismatch text) := by
  have found : ∀ key, Built key → (Dict.ofPairs ps).get? key = lastValue? ps key :=
    fun key its => Dict.get?_ofPairs Built.lawful built its
  refine ⟨Dict.keys_ofPairs ps, Dict.represents_keys_ofPairs Built.lawful built,
    fun entry member => ?_, fun keys each represents =>
      Dict.length_eq_of_represents Built.lawful built each represents, found,
    extendHash_ofPairs ps, fun base notHash => ?_⟩
  · have all := Dict.all_ofPairs built
    obtain ⟨its, -⟩ := all entry member
    rw [← found entry.1 its]
    exact Dict.get?_of_mem Built.lawful all (Dict.distinct_ofPairs ps) its member
      (Built.lawful.refl its)
  · cases base with
    | hash entries => cases notHash
    | _ => exact ⟨_, fun _ => rfl⟩

/-- Two hashes with the same entries in another order are one key, and it is the first. -/
theorem hash_literal_of_likes :
    let a := Value.hash [(.int 1, .nil), (.int 2, .nil)]
    let b := Value.hash [(.int 2, .nil), (.int 1, .nil)]
    let pairs := [(a, .int 1), (.symbol "k", .int 2), (b, .int 3)]
    Dict.All Built pairs ∧ (Dict.ofPairs pairs).keys = [a, .symbol "k"] ∧
      (Dict.ofPairs pairs).get? a = some (.int 3) ∧ (Dict.ofPairs pairs).length = 2 := by
  intro a b pairs
  have numbers : ∀ n m : Int64, Built (ofPairs [(.int n, .nil), (.int m, .nil)]) := fun n m =>
    .hash (by simp [Built.int]) (by simp [Built.nil])
  have builtA : Built a := numbers 1 2
  have builtB : Built b := numbers 2 1
  have built : Dict.All Built pairs := by
    simp only [pairs, Dict.All, List.mem_cons, List.not_mem_nil, or_false, forall_eq_or_imp,
      forall_eq]
    exact ⟨⟨builtA, .int 1⟩, ⟨.symbol "k", .int 2⟩, builtB, .int 3⟩
  obtain ⟨keys, -, -, -, found, -⟩ := hash_literal built
  refine ⟨built, keys.trans rfl, (found a builtA).trans rfl, ?_⟩
  rw [← show (Dict.ofPairs pairs).keys.length = _ from List.length_map _, keys]
  rfl

end Value

end InlineCache
