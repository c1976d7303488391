/-
# InlineCache.Proofs.Hashing -- equal values have equal hash codes and are one key

A hash table does not compare a key with every key it holds.  It first compares hash codes,
each computed from what a value feeds to the hash function, and looks at a key only where
the codes agree.  The equality of two hashes looks keys up in the same way, so codes decide
about equality as well (`Value.eqvByCode`).

None of that shows, whatever the hash function is, because equal values feed the same:

* `Value.feed_of_eqv`: equal values feed the same items;
* `Value.eqvByCode_eq`, `Dict.getByCode?_eq`, `Dict.insertByCode_eq`: with codes compared
  first, equality, look-up and insertion are what they are without;
* `Value.equal_values_are_one_key`: the laws of equality together.
-/
import InlineCache.Proofs.Equality
import InlineCache.Value.Feed

namespace InlineCache

set_option autoImplicit false

/-! ## What equal values feed -/

mutual

/-- **Equal values feed the same.** -/
theorem Value.feed_of_eqv {a b : Value} (equal : a.eqv b = true) : a.feed = b.feed := by
  match a, b, Value.eqv_iff_alike.1 equal with
  | .array xs, .array ys, .array items =>
      simp only [Value.feed, items.length_eq, feedItems_of_eqv (itemsEqv_iff.2 items)]
  | _, _, .hash count _ => simp only [Value.feed, count]
  | _, _, .object same => simp only [Value.feed, same]
  | _, _, .type same => simp only [Value.feed, same]
  | _, _, .nil | _, _, .bool _ | _, _, .int _ | _, _, .symbol _ | _, _, .string _ | _, _, .proc _ =>
      rfl

theorem feedItems_of_eqv {xs ys : List Value} (equal : itemsEqv xs ys = true) :
    feedItems xs = feedItems ys := by
  match xs, ys, equal with
  | [], [], _ => rfl
  | x :: xs, y :: ys, equal =>
      simp only [itemsEqv, Bool.and_eq_true] at equal
      simp only [feedItems, Value.feed_of_eqv equal.1, feedItems_of_eqv equal.2]

end

/-! ## Comparing codes first -/

section

variable (code : List FeedItem → UInt64)

/-- Where values are equal, so are their codes. -/
theorem Value.codes_and_eqv (a b : Value) : (code a.feed == code b.feed && a.eqv b) = a.eqv b := by
  cases equal : a.eqv b with
  | false => rw [Bool.and_false]
  | true => rw [Value.feed_of_eqv equal, beq_self_eq_true, Bool.and_self]

mutual

/-- Equality, where keys of hashes are looked up by their codes. -/
def Value.eqvByCode : Value → Value → Bool
  | .nil, .nil => true
  | .bool a, .bool b => a == b
  | .int a, .int b => a == b
  | .symbol a, .symbol b => a == b
  | .string a, .string b => a == b
  | .array xs, .array ys => itemsEqvByCode xs ys
  | .hash xs, .hash ys => xs.length == ys.length && entriesWithinByCode xs ys
  | .object a, .object b => a.id == b.id
  | .type a, .type b => a.id == b.id
  | .proc a, .proc b => a == b
  | _, _ => false

def itemsEqvByCode : List Value → List Value → Bool
  | [], [] => true
  | x :: xs, y :: ys => x.eqvByCode y && itemsEqvByCode xs ys
  | _, _ => false

def entriesWithinByCode : List (Value × Value) → List (Value × Value) → Bool
  | [], _ => true
  | (key, value) :: rest, ys =>
      (match findEntry?
          (fun other => code key.feed == code other.feed && key.eqvByCode other) ys with
        | some other => value.eqvByCode other
        | none => false) && entriesWithinByCode rest ys

end

/-- Does a table take a key that it holds for the one asked? -/
def Value.isKeyByCode (key other : Value) : Bool :=
  code key.feed == code other.feed && key.eqvByCode code other

namespace Dict

def getByCode? (dict : Dict) (key : Value) : Option Value :=
  findEntry? (key.isKeyByCode code) dict

def insertByCode (key value : Value) : Dict → Dict
  | [] => [(key, value)]
  | entry :: rest =>
      if key.isKeyByCode code entry.1 then (entry.1, value) :: rest
      else entry :: insertByCode key value rest

/-- The entries of a hash literal. -/
def ofPairsByCode (pairs : List (Value × Value)) : Dict :=
  pairs.foldl (fun dict pair => dict.insertByCode code pair.1 pair.2) []

end Dict

mutual

/-- **Codes do not decide**, whatever they are. -/
theorem Value.eqvByCode_eq (a b : Value) : a.eqvByCode code b = a.eqv b := by
  match a with
  | .array xs => cases b <;> simp only [Value.eqvByCode, Value.eqv, itemsEqvByCode_eq xs]
  | .hash xs => cases b <;> simp only [Value.eqvByCode, Value.eqv, entriesWithinByCode_eq xs]
  | .nil | .bool _ | .int _ | .symbol _ | .string _ | .object _ | .type _ | .proc _ =>
      cases b <;> rfl

theorem itemsEqvByCode_eq (xs ys : List Value) :
    itemsEqvByCode code xs ys = itemsEqv xs ys := by
  match xs, ys with
  | [], [] | [], _ :: _ | _ :: _, [] => rfl
  | x :: xs, y :: ys =>
      simp only [itemsEqvByCode, itemsEqv, Value.eqvByCode_eq x y, itemsEqvByCode_eq xs ys]

theorem entriesWithinByCode_eq (xs ys : List (Value × Value)) :
    entriesWithinByCode code xs ys = entriesWithin xs ys := by
  match xs with
  | [] => rfl
  | (key, value) :: rest =>
      have probe : (fun other => code key.feed == code other.feed && key.eqvByCode code other) =
          key.eqv := by
        funext other
        rw [Value.eqvByCode_eq key other, Value.codes_and_eqv]
      have held : ∀ other, value.eqvByCode code other = value.eqv other :=
        Value.eqvByCode_eq value
      simp only [entriesWithinByCode, entriesWithin, probe, entriesWithinByCode_eq rest ys]
      cases findEntry? key.eqv ys with
      | none => rfl
      | some other => simp only [held]

end

/-- So a table takes a key for the one asked exactly when they are equal. -/
theorem Value.isKeyByCode_eq (key : Value) : key.isKeyByCode code = key.eqv := by
  funext other
  rw [Value.isKeyByCode, Value.eqvByCode_eq, Value.codes_and_eqv]

namespace Dict

theorem getByCode?_eq (dict : Dict) (key : Value) : dict.getByCode? code key = dict.get? key := by
  rw [getByCode?, get?, Value.isKeyByCode_eq]

theorem insertByCode_eq (dict : Dict) (key value : Value) :
    dict.insertByCode code key value = dict.insert key value := by
  induction dict with
  | nil => rfl
  | cons entry rest ih => rw [insertByCode, insert, Value.isKeyByCode_eq, ih]

theorem ofPairsByCode_eq (pairs : List (Value × Value)) :
    ofPairsByCode code pairs = ofPairs pairs := by
  simp only [ofPairsByCode, insertByCode_eq]
  rfl

end Dict

namespace Value

/-- **Equality of values is an equivalence that hashing respects.**  On all values that can
be built it is reflexive, symmetric and transitive.  Hashes are equal when they have as many
entries and every key of the one has an equal value under an equal key of the other, in
whatever order the entries came.  Equal values feed the same, so with codes compared first
equality is the same relation; and a table that compares codes first, filled by any inserts,
has unequal keys and takes equal values for one key: it finds the same under both, and what
was inserted under the one is overwritten under the other. -/
theorem equal_values_are_one_key :
    (Equivalence fun a b : { value : Value // value.Built } => a.1.eqv b.1 = true) ∧
      (∀ xs ys : Dict, (hash xs).Built → (hash ys).Built →
        ((hash xs).eqv (.hash ys) = true ↔ xs.length = ys.length ∧
            ∀ x ∈ xs, ∃ y ∈ ys, x.1.eqv y.1 = true ∧ x.2.eqv y.2 = true) ∧
          (xs.Perm ys → (hash xs).eqv (.hash ys) = true)) ∧
      (∀ a b : Value, a.eqvByCode code b = a.eqv b ∧ (a.eqv b = true → a.feed = b.feed)) ∧
      ∀ pairs : List (Value × Value), Dict.All Built pairs →
        let table := Dict.ofPairsByCode code pairs
        table = Dict.ofPairs pairs ∧
          (table.keys.Pairwise fun earlier later =>
            earlier.eqv later = false ∧ later.eqv earlier = false) ∧
          ∀ a b : Value, a.Built → b.Built → a.eqv b = true →
            table.getByCode? code a = table.getByCode? code b ∧
              ∀ before after : Value,
                (table.insertByCode code a before).insertByCode code b after =
                  table.insertByCode code a after := by
  have lawful := Built.lawful
  refine ⟨⟨fun a => lawful.refl a.2, fun {a b} => lawful.symm a.2 b.2,
    fun {a b c} => lawful.trans a.2 b.2 c.2⟩, fun xs ys built built' => ⟨?_, fun order => ?_⟩,
    fun a b => ⟨eqvByCode_eq code a b, feed_of_eqv⟩, fun pairs all => ⟨?_, ?_, ?_⟩⟩
  · exact eqv_hash_iff built built'
  · refine (eqv_hash_iff built built').2 ⟨order.length_eq, fun x member => ?_⟩
    have its := built.entries x member
    exact ⟨x, order.mem_iff.1 member, lawful.refl its.1, lawful.refl its.2⟩
  · exact Dict.ofPairsByCode_eq code pairs
  · rw [Dict.ofPairsByCode_eq]
    have every : ∀ key ∈ (Dict.ofPairs pairs).keys, key.Built := by
      intro key member
      obtain ⟨entry, there, rfl⟩ := List.mem_map.1 member
      exact (Dict.all_ofPairs all entry there).1
    refine (Dict.distinct_ofPairs pairs).imp_of_mem fun {earlier later} member member' apart => ?_
    refine ⟨Bool.eq_false_iff.2 fun equal => ?_, apart⟩
    rw [lawful.symm (every earlier member) (every later member') equal] at apart
    exact absurd apart.symm Bool.false_ne_true
  · intro a b built built' equal
    simp only [Dict.ofPairsByCode_eq, Dict.getByCode?_eq, Dict.insertByCode_eq]
    have entries := Dict.all_ofPairs all
    exact ⟨Dict.get?_congr lawful entries built built' equal, fun before after =>
      Dict.insert_insert lawful entries built built' equal before after⟩

end Value

end

/-- Two hashes with the same entries in two orders, as keys of a table in which all codes
collide. -/
theorem Value.equal_values_are_one_key_of_turned :
    let few := Dict.ofPairs [(.int 1, .nil), (.symbol "a", .array [.bool true])]
    let turned := Dict.ofPairs [(.symbol "a", .array [.bool true]), (.int 1, .nil)]
    let code : List FeedItem → UInt64 := fun _ => 0
    let table := Dict.ofPairsByCode code [(.hash few, .int 2), (.nil, .int 3)]
    (Value.hash few).eqv (.hash turned) = true ∧ (Value.hash few).feed = (Value.hash turned).feed ∧
      table.getByCode? code (.hash few) = table.getByCode? code (.hash turned) ∧
        (table.insertByCode code (.hash few) .nil).insertByCode code (.hash turned) (.int 4) =
          table.insertByCode code (.hash few) (.int 4) := by
  intro few turned code table
  have listed : ∀ item ∈ [Value.bool true], item.Built := by simp [Built.bool]
  have built : (Value.hash few).Built :=
    .hash (by simp [Built.int, Built.symbol]) (by simp [Built.nil, Built.array listed])
  have built' : (Value.hash turned).Built :=
    .hash (by simp [Built.int, Built.symbol]) (by simp [Built.nil, Built.array listed])
  obtain ⟨-, hashes, values, tables⟩ := Value.equal_values_are_one_key code
  have equal := (hashes few turned built built').2 (.swap _ _ _)
  obtain ⟨-, -, one⟩ := tables [(.hash few, .int 2), (.nil, .int 3)]
    (by simp [Dict.All, built, Built.nil, Built.int])
  obtain ⟨found, overwritten⟩ := one _ _ built built' equal
  exact ⟨equal, (values _ _).2 equal, found, overwritten .nil (.int 4)⟩

end InlineCache
