/-
# InlineCache.Proofs.Equality -- equality of values is an equivalence

Hashes are compared by looking keys up, with the very equality that is being decided.  So
whether equality is symmetric and transitive at a hash hangs on whether it is so at the
keys and values inside, and on one thing more: that the keys of a hash are pairwise
unequal.  Every value that a program can build has that at every depth (`Value.Built`),
because entries get into a hash by insertion only (`Dict.distinct_insert`).

* `Value.eqv_iff_alike`: what two equal values look like;
* `Dict.Within.symm`: among hashes of one size, with unequal keys, to be within is to be
  the same;
* `Value.Built.lawful`: equality is an equivalence on the values that can be built;
* `Value.eqv_hash_iff`: hashes are equal when they have as many entries and each entry of
  the one has its like in the other, at whatever place.
-/
import InlineCache.Value.Literal
import Mathlib.Data.List.Forall2

namespace InlineCache

set_option autoImplicit false

/-! ## Looking a key up -/

section

variable {isKey : Value → Bool} {entries : List (Value × Value)}

theorem findEntry?_cons (isKey : Value → Bool) (entry : Value × Value)
    (rest : List (Value × Value)) :
    findEntry? isKey (entry :: rest) =
      if isKey entry.1 then some entry.2 else findEntry? isKey rest := rfl

theorem exists_of_findEntry? {found : Value} (there : findEntry? isKey entries = some found) :
    ∃ key, (key, found) ∈ entries ∧ isKey key = true := by
  induction entries with
  | nil => cases there
  | cons entry rest ih =>
      rw [findEntry?_cons] at there
      by_cases here : isKey entry.1
      · rw [if_pos here, Option.some.injEq] at there
        exact ⟨entry.1, by simp [← there], here⟩
      · rw [if_neg here] at there
        obtain ⟨other, member, its⟩ := ih there
        exact ⟨other, List.mem_cons_of_mem _ member, its⟩

theorem findEntry?_eq_none_iff :
    findEntry? isKey entries = none ↔ ∀ entry ∈ entries, isKey entry.1 = false := by
  induction entries with
  | nil => exact ⟨fun _ _ member => absurd member List.not_mem_nil, fun _ => rfl⟩
  | cons entry rest ih =>
      rw [findEntry?_cons, List.forall_mem_cons]
      by_cases here : isKey entry.1 <;> simp [here, ih]

end

theorem entriesWithin_iff {xs ys : List (Value × Value)} :
    entriesWithin xs ys = true ↔
      ∀ x ∈ xs, ∃ other, findEntry? x.1.eqv ys = some other ∧ x.2.eqv other = true := by
  induction xs with
  | nil => simp [entriesWithin]
  | cons x rest ih =>
      obtain ⟨key, value⟩ := x
      cases found : findEntry? key.eqv ys <;> simp [entriesWithin, found, ih]

theorem itemsEqv_iff {xs ys : List Value} :
    itemsEqv xs ys = true ↔ List.Forall₂ (fun x y => x.eqv y = true) xs ys := by
  induction xs generalizing ys with
  | nil => cases ys <;> simp [itemsEqv]
  | cons x xs ih => cases ys <;> simp [itemsEqv, ih]

namespace Value

/-! ## What equal values look like -/

/-- Two values of one kind that agree in what equality compares. -/
inductive Alike : Value → Value → Prop where
  | nil : Alike .nil .nil
  | bool (b : Bool) : Alike (.bool b) (.bool b)
  | int (n : Int64) : Alike (.int n) (.int n)
  | symbol (name : String) : Alike (.symbol name) (.symbol name)
  | string (text : String) : Alike (.string text) (.string text)
  | array {xs ys : List Value} (items : List.Forall₂ (fun x y => x.eqv y = true) xs ys) :
      Alike (.array xs) (.array ys)
  | hash {xs ys : List (Value × Value)} (count : xs.length = ys.length)
      (within : entriesWithin xs ys = true) : Alike (.hash xs) (.hash ys)
  | object {a b : ObjectRef} (same : a.id = b.id) : Alike (.object a) (.object b)
  | type {a b : TypeRef} (same : a.id = b.id) : Alike (.type a) (.type b)
  | proc (block : BlockRef) : Alike (.proc block) (.proc block)

theorem eqv_iff_alike {a b : Value} : a.eqv b = true ↔ Alike a b := by
  constructor
  · intro equal
    cases a <;> cases b <;>
      simp only [eqv, Bool.false_eq_true, beq_iff_eq, Bool.and_eq_true, itemsEqv_iff] at equal
    case nil.nil => exact .nil
    case bool.bool => exact equal ▸ .bool _
    case int.int => exact equal ▸ .int _
    case symbol.symbol => exact equal ▸ .symbol _
    case string.string => exact equal ▸ .string _
    case array.array => exact .array equal
    case hash.hash => exact .hash equal.1 equal.2
    case object.object => exact .object equal
    case type.type => exact .type equal
    case proc.proc => exact equal ▸ .proc _
  · intro alike
    cases alike <;> simp_all [eqv, itemsEqv_iff]

/-- Equality is an equivalence among the values of a kind. -/
structure LawfulOn (P : Value → Prop) : Prop where
  refl : ∀ {a : Value}, P a → a.eqv a = true
  symm : ∀ {a b : Value}, P a → P b → a.eqv b = true → b.eqv a = true
  trans : ∀ {a b c : Value}, P a → P b → P c → a.eqv b = true → b.eqv c = true →
    a.eqv c = true

theorem LawfulOn.congr {P : Value → Prop} (lawful : LawfulOn P) {a b c : Value} (its : P a)
    (its' : P b) (its'' : P c) (equal : a.eqv b = true) : a.eqv c = b.eqv c := by
  rw [Bool.eq_iff_iff]
  exact ⟨lawful.trans its' its its'' (lawful.symm its its' equal),
    lawful.trans its its' its'' equal⟩

/-! ## Arrays -/

section

variable {P : Value → Prop} {xs ys zs : List Value}

theorem LawfulOn.items_symm (lawful : LawfulOn P) (each : ∀ x ∈ xs, P x) (each' : ∀ y ∈ ys, P y)
    (equal : List.Forall₂ (fun x y => x.eqv y = true) xs ys) :
    List.Forall₂ (fun x y => x.eqv y = true) ys xs := by
  induction equal with
  | nil => exact .nil
  | cons here _ ih =>
      obtain ⟨first, others⟩ := List.forall_mem_cons.1 each
      obtain ⟨first', others'⟩ := List.forall_mem_cons.1 each'
      exact .cons (lawful.symm first first' here) (ih others others')

theorem LawfulOn.items_trans (lawful : LawfulOn P) (each : ∀ x ∈ xs, P x) (each' : ∀ y ∈ ys, P y)
    (each'' : ∀ z ∈ zs, P z) (equal : List.Forall₂ (fun x y => x.eqv y = true) xs ys)
    (equal' : List.Forall₂ (fun y z => y.eqv z = true) ys zs) :
    List.Forall₂ (fun x z => x.eqv z = true) xs zs := by
  induction equal generalizing zs with
  | nil => exact equal'
  | cons here _ ih =>
      cases equal' with
      | cons here' rest' =>
          obtain ⟨first, others⟩ := List.forall_mem_cons.1 each
          obtain ⟨first', others'⟩ := List.forall_mem_cons.1 each'
          obtain ⟨first'', others''⟩ := List.forall_mem_cons.1 each''
          exact .cons (lawful.trans first first' first'' here here')
            (ih others others' others'' rest')

end

end Value

/-! ## Hashes with unequal keys -/

namespace Dict

def keys (dict : Dict) : List Value := dict.map Prod.fst

/-- No key is equal to an earlier one. -/
def Distinct (dict : Dict) : Prop :=
  dict.keys.Pairwise fun earlier later => later.eqv earlier = false

/-- All keys and values are of a kind. -/
def All (P : Value → Prop) (dict : Dict) : Prop :=
  ∀ entry ∈ dict, P entry.1 ∧ P entry.2

/-- Every key of the first has an equal value under an equal key of the second, wherever
it is. -/
def Within (xs ys : Dict) : Prop :=
  ∀ x ∈ xs, ∃ y ∈ ys, x.1.eqv y.1 = true ∧ x.2.eqv y.2 = true

theorem get?_cons (entry : Value × Value) (rest : Dict) (key : Value) :
    get? (entry :: rest) key = if key.eqv entry.1 then some entry.2 else get? rest key := rfl

/-- An insertion keeps the keys and their order, and appends a key that is new. -/
theorem keys_insert (dict : Dict) (key value : Value) :
    (dict.insert key value).keys =
      if (dict.get? key).isSome then dict.keys else dict.keys ++ [key] := by
  induction dict with
  | nil => rfl
  | cons entry rest ih =>
      by_cases here : key.eqv entry.1
      · simp [insert, keys, get?_cons, here]
      · have later : (insert key value (entry :: rest)).keys =
            entry.1 :: (insert key value rest).keys := by simp [insert, keys, here]
        rw [later, ih, get?_cons, if_neg here]
        split <;> rfl

/-- **Keys stay unequal.** -/
theorem distinct_insert {dict : Dict} (distinct : dict.Distinct) (key value : Value) :
    (dict.insert key value).Distinct := by
  rw [Distinct, keys_insert]
  cases found : dict.get? key with
  | some other => exact distinct
  | none =>
      have fresh := findEntry?_eq_none_iff.1 found
      simp only [Option.isSome_none, Bool.false_eq_true, if_false, List.pairwise_append,
        List.pairwise_singleton, List.mem_singleton, true_and]
      refine ⟨distinct, ?_⟩
      rintro earlier member _ rfl
      obtain ⟨entry, there, rfl⟩ := List.mem_map.1 member
      exact fresh entry there

theorem distinct_insertAll {dict : Dict} (distinct : dict.Distinct)
    (pairs : List (Value × Value)) : (dict.insertAll pairs).Distinct := by
  induction pairs generalizing dict with
  | nil => exact distinct
  | cons pair rest ih => exact ih (distinct_insert distinct pair.1 pair.2)

theorem distinct_ofPairs (pairs : List (Value × Value)) : (ofPairs pairs).Distinct :=
  distinct_insertAll (show Distinct [] from List.Pairwise.nil) pairs

theorem all_insert {P : Value → Prop} {dict : Dict} (all : dict.All P) {key value : Value}
    (its : P key) (held : P value) : (dict.insert key value).All P := by
  induction dict with
  | nil =>
      rintro entry member
      obtain rfl := List.mem_singleton.1 member
      exact ⟨its, held⟩
  | cons first rest ih =>
      obtain ⟨old, others⟩ := List.forall_mem_cons.1 all
      simp only [insert]
      split
      · exact List.forall_mem_cons.2 ⟨⟨old.1, held⟩, others⟩
      · exact List.forall_mem_cons.2 ⟨old, ih others⟩

theorem all_insertAll {P : Value → Prop} {dict : Dict} (all : dict.All P)
    {pairs : List (Value × Value)} (more : Dict.All P pairs) : (dict.insertAll pairs).All P := by
  induction pairs generalizing dict with
  | nil => exact all
  | cons pair rest ih =>
      obtain ⟨first, others⟩ := List.forall_mem_cons.1 more
      exact ih (all_insert all first.1 first.2) others

theorem all_ofPairs {P : Value → Prop} {pairs : List (Value × Value)} (all : Dict.All P pairs) :
    (ofPairs pairs).All P :=
  all_insertAll (fun _ member => absurd member List.not_mem_nil) all

section

variable {P : Value → Prop} {xs ys zs : Dict}

/-- Where keys are unequal, an entry is found under every key equal to its own. -/
theorem get?_of_mem (lawful : Value.LawfulOn P) (all : ys.All P) (distinct : ys.Distinct)
    {asked : Value} (its : P asked) {key value : Value} (member : (key, value) ∈ ys)
    (equal : asked.eqv key = true) : ys.get? asked = some value := by
  induction ys with
  | nil => exact absurd member List.not_mem_nil
  | cons first rest ih =>
      obtain ⟨head, others⟩ := List.forall_mem_cons.1 all
      obtain ⟨apart, distinct⟩ := List.pairwise_cons.1 distinct
      rcases List.mem_cons.1 member with rfl | later
      · simp [get?_cons, equal]
      · -- an earlier key equal to the one asked would be equal to the later one too
        have missed : asked.eqv first.1 = false := by
          by_contra hit
          rw [Bool.not_eq_false] at hit
          have its' := (others _ later).1
          have same := lawful.trans its' its head.1 (lawful.symm its its' equal) hit
          rw [apart key (List.mem_map_of_mem later)] at same
          exact Bool.false_ne_true same
        simpa [get?_cons, missed] using ih others distinct later

theorem get?_congr (lawful : Value.LawfulOn P) (all : ys.All P) {a b : Value} (its : P a)
    (its' : P b) (equal : a.eqv b = true) : ys.get? a = ys.get? b := by
  induction ys with
  | nil => rfl
  | cons first rest ih =>
      obtain ⟨head, others⟩ := List.forall_mem_cons.1 all
      rw [get?_cons, get?_cons, lawful.congr its its' head.1 equal, ih others]

/-- **Equal keys are one key**: what was inserted under the one is overwritten under the
other. -/
theorem insert_insert (lawful : Value.LawfulOn P) (all : ys.All P) {a b : Value} (its : P a)
    (its' : P b) (equal : a.eqv b = true) (earlier later : Value) :
    (ys.insert a earlier).insert b later = ys.insert a later := by
  induction ys with
  | nil => simp [insert, lawful.symm its its' equal]
  | cons first rest ih =>
      obtain ⟨head, others⟩ := List.forall_mem_cons.1 all
      have same := lawful.congr its its' head.1 equal
      by_cases here : a.eqv first.1 = true
      · simp only [insert, here, ← same, if_true]
      · simp only [insert, here, ← same, ih others, Bool.false_eq_true, if_false]

/-- Looking up is finding. -/
theorem entriesWithin_iff_within (lawful : Value.LawfulOn P) (all : xs.All P) (all' : ys.All P)
    (distinct : ys.Distinct) : entriesWithin xs ys = true ↔ xs.Within ys := by
  rw [entriesWithin_iff]
  refine forall₂_congr fun x member => ?_
  constructor
  · rintro ⟨value, found, equal⟩
    obtain ⟨key, there, its⟩ := exists_of_findEntry? found
    exact ⟨(key, value), there, its, equal⟩
  · rintro ⟨y, there, its, equal⟩
    exact ⟨y.2, get?_of_mem lawful all' distinct (all x member).1 there its, equal⟩

theorem Within.refl (lawful : Value.LawfulOn P) (all : xs.All P) : xs.Within xs :=
  fun x member => ⟨x, member, lawful.refl (all x member).1, lawful.refl (all x member).2⟩

theorem Within.trans (lawful : Value.LawfulOn P) (all : xs.All P) (all' : ys.All P)
    (all'' : zs.All P) (within : xs.Within ys) (within' : ys.Within zs) : xs.Within zs := by
  intro x member
  obtain ⟨y, there, key, value⟩ := within x member
  obtain ⟨z, stands, key', value'⟩ := within' y there
  have first := all x member
  have second := all' y there
  have third := all'' z stands
  exact ⟨z, stands, lawful.trans first.1 second.1 third.1 key key',
    lawful.trans first.2 second.2 third.2 value value'⟩

/-- **Counting.**  If each of the unequal keys of one hash has its like in another of the
same size, then no key of the other is left over. -/
theorem Within.symm (lawful : Value.LawfulOn P) (all : xs.All P) (all' : ys.All P)
    (distinct : xs.Distinct) (count : xs.length = ys.length) (within : xs.Within ys) :
    ys.Within xs := by
  induction xs generalizing ys with
  | nil =>
      obtain rfl : ys = [] := List.length_eq_zero_iff.1 count.symm
      exact fun _ member => absurd member List.not_mem_nil
  | cons x rest ih =>
      obtain ⟨head, others⟩ := List.forall_mem_cons.1 all
      obtain ⟨apart, distinct⟩ := List.pairwise_cons.1 distinct
      obtain ⟨⟨y, there, key, value⟩, within⟩ := List.forall_mem_cons.1 within
      -- take the like of the first entry out, and the rest is within what remains
      obtain ⟨before, after, rfl⟩ := List.append_of_mem there
      have its := all' y there
      have remaining : Dict.All P (before ++ after) := fun entry member =>
        all' entry (List.mem_append.2 ((List.mem_append.1 member).imp_right
          (List.mem_cons_of_mem _)))
      have smaller : rest.length = (before ++ after).length := by
        simp only [List.length_cons, List.length_append] at count ⊢
        omega
      have back : Dict.Within (before ++ after) rest := by
        refine ih others remaining distinct smaller fun z member => ?_
        obtain ⟨w, stands, key', value'⟩ := within z member
        refine ⟨w, ?_, key', value'⟩
        rcases List.mem_append.1 stands with early | late
        · exact List.mem_append_left _ early
        · rcases List.mem_cons.1 late with rfl | late
          · have first := (others z member).1
            have same := lawful.trans first its.1 head.1 key' (lawful.symm head.1 its.1 key)
            rw [apart z.1 (List.mem_map_of_mem member)] at same
            exact absurd same Bool.false_ne_true
          · exact List.mem_append_right _ late
      intro w stands
      have elsewhere : w ∈ before ++ after → ∃ x' ∈ x :: rest,
          w.1.eqv x'.1 = true ∧ w.2.eqv x'.2 = true := by
        intro member
        obtain ⟨z, listed, equal⟩ := back w member
        exact ⟨z, List.mem_cons_of_mem _ listed, equal⟩
      rcases List.mem_append.1 stands with early | late
      · exact elsewhere (List.mem_append_left _ early)
      · rcases List.mem_cons.1 late with rfl | late
        · exact ⟨x, List.mem_cons_self, lawful.symm head.1 its.1 key,
            lawful.symm head.2 its.2 value⟩
        · exact elsewhere (List.mem_append_right _ late)

end

end Dict

/-! ## Values that can be built -/

namespace Value

/-- A value that a program can build: arrays from items, and hashes by inserting pairs. -/
inductive Built : Value → Prop where
  | nil : Built .nil
  | bool (b : Bool) : Built (.bool b)
  | int (n : Int64) : Built (.int n)
  | symbol (name : String) : Built (.symbol name)
  | string (text : String) : Built (.string text)
  | array {items : List Value} (each : ∀ item ∈ items, Built item) : Built (.array items)
  | hash {pairs : List (Value × Value)} (keys : ∀ pair ∈ pairs, Built pair.1)
      (values : ∀ pair ∈ pairs, Built pair.2) : Built (ofPairs pairs)
  | object (target : ObjectRef) : Built (.object target)
  | type (target : TypeRef) : Built (.type target)
  | proc (block : BlockRef) : Built (.proc block)

theorem Built.items {items : List Value} (built : Built (.array items)) :
    ∀ item ∈ items, Built item := by
  cases built with
  | array each => exact each

theorem Built.distinct {entries : Dict} (built : Built (.hash entries)) : entries.Distinct := by
  cases built with
  | hash keys values => exact Dict.distinct_ofPairs _

theorem Built.entries {entries : Dict} (built : Built (.hash entries)) :
    entries.All Built := by
  cases built with
  | hash keys values =>
      exact Dict.all_ofPairs fun pair member => ⟨keys pair member, values pair member⟩

/-- To start from the entries of another hash is one more way to build one. -/
theorem Built.extendHash {base extended : Value} (built : Built base)
    {pairs : List (Value × Value)} (all : Dict.All Built pairs)
    (done : extendHash base pairs = .ok extended) : Built extended := by
  cases built with
  | @hash first keys values =>
      rw [show Value.extendHash (ofPairs first) pairs = _ from extendHash_ofPairs first pairs]
        at done
      obtain rfl := Except.ok.inj done
      exact .hash
        (fun pair member => (List.mem_append.1 member).elim (keys pair) fun more =>
          (all pair more).1)
        (fun pair member => (List.mem_append.1 member).elim (values pair) fun more =>
          (all pair more).2)
  | _ => exact absurd done (by simp [Value.extendHash])

/-- A value that can be built, smaller than so much. -/
def BuiltBelow (bound : Nat) (value : Value) : Prop := value.Built ∧ sizeOf value < bound

theorem BuiltBelow.items {bound : Nat} {items : List Value}
    (built : BuiltBelow (bound + 1) (.array items)) : ∀ item ∈ items, BuiltBelow bound item := by
  intro item member
  have inside := List.sizeOf_lt_of_mem member
  have whole := built.2
  simp only [array.sizeOf_spec] at whole
  exact ⟨built.1.items item member, by omega⟩

theorem BuiltBelow.entries {bound : Nat} {entries : Dict}
    (built : BuiltBelow (bound + 1) (.hash entries)) : entries.All (BuiltBelow bound) := by
  rintro ⟨key, value⟩ member
  have inside := List.sizeOf_lt_of_mem member
  have whole := built.2
  simp only [hash.sizeOf_spec, Prod.mk.sizeOf_spec] at whole inside
  obtain ⟨its, held⟩ := built.1.entries (key, value) member
  exact ⟨⟨its, by simp only; omega⟩, ⟨held, by simp only; omega⟩⟩

section

variable {bound : Nat} {a b c : Value}

theorem refl_succ (lawful : LawfulOn (BuiltBelow bound)) (its : BuiltBelow (bound + 1) a) :
    Alike a a := by
  cases a with
  | nil => exact .nil
  | bool b => exact .bool b
  | int n => exact .int n
  | symbol name => exact .symbol name
  | string text => exact .string text
  | array items =>
      exact .array (List.forall₂_same.2 fun x member => lawful.refl (its.items x member))
  | hash entries =>
      have all := its.entries
      exact .hash rfl ((Dict.entriesWithin_iff_within lawful all all its.1.distinct).2
        (.refl lawful all))
  | object target => exact .object rfl
  | type target => exact .type rfl
  | proc block => exact .proc block

theorem Alike.symm_succ (lawful : LawfulOn (BuiltBelow bound)) (alike : Alike a b)
    (its : BuiltBelow (bound + 1) a) (its' : BuiltBelow (bound + 1) b) : Alike b a := by
  cases alike with
  | array equal => exact .array (lawful.items_symm its.items its'.items equal)
  | hash count within =>
      have all := its.entries
      have all' := its'.entries
      rw [Dict.entriesWithin_iff_within lawful all all' its'.1.distinct] at within
      exact .hash count.symm ((Dict.entriesWithin_iff_within lawful all' all its.1.distinct).2
        (within.symm lawful all all' its.1.distinct count))
  | object same => exact .object same.symm
  | type same => exact .type same.symm
  | nil => exact .nil
  | bool b => exact .bool b
  | int n => exact .int n
  | symbol name => exact .symbol name
  | string text => exact .string text
  | proc block => exact .proc block

theorem Alike.trans_succ (lawful : LawfulOn (BuiltBelow bound)) (alike : Alike a b)
    (alike' : Alike b c) (its : BuiltBelow (bound + 1) a) (its' : BuiltBelow (bound + 1) b)
    (its'' : BuiltBelow (bound + 1) c) : Alike a c := by
  cases alike with
  | array equal =>
      cases alike' with
      | array equal' =>
          exact .array (lawful.items_trans its.items its'.items its''.items equal equal')
  | hash count within =>
      cases alike' with
      | hash count' within' =>
          have all := its.entries
          have all' := its'.entries
          have all'' := its''.entries
          rw [Dict.entriesWithin_iff_within lawful all all' its'.1.distinct] at within
          rw [Dict.entriesWithin_iff_within lawful all' all'' its''.1.distinct] at within'
          exact .hash (count.trans count')
            ((Dict.entriesWithin_iff_within lawful all all'' its''.1.distinct).2
              (within.trans lawful all all' all'' within'))
  | object same =>
      cases alike' with
      | object same' => exact .object (same.trans same')
  | type same =>
      cases alike' with
      | type same' => exact .type (same.trans same')
  | nil | bool | int | symbol | string | proc => exact alike'

end

/-- Symmetry at a hash takes transitivity inside, and the other way round, so the laws are
shown together, for larger and larger values. -/
theorem lawful_below (bound : Nat) : LawfulOn (BuiltBelow bound) := by
  induction bound with
  | zero =>
      have none_ : ∀ {value : Value}, ¬ BuiltBelow 0 value := fun its => Nat.not_lt_zero _ its.2
      exact ⟨fun its => absurd its none_, fun its => absurd its none_, fun its => absurd its none_⟩
  | succ bound lawful =>
      refine ⟨fun its => ?_, fun its its' equal => ?_, fun its its' its'' equal equal' => ?_⟩
      · rw [eqv_iff_alike]
        exact refl_succ lawful its
      · rw [eqv_iff_alike] at equal ⊢
        exact equal.symm_succ lawful its its'
      · rw [eqv_iff_alike] at equal equal' ⊢
        exact equal.trans_succ lawful equal' its its' its''

/-- **Equality is an equivalence** on the values that can be built. -/
theorem Built.lawful : LawfulOn Built where
  refl {a} built := (lawful_below (sizeOf a + 1)).refl ⟨built, by omega⟩
  symm {a b} built built' :=
    (lawful_below (sizeOf a + sizeOf b + 1)).symm ⟨built, by omega⟩ ⟨built', by omega⟩
  trans {a b c} built built' built'' :=
    (lawful_below (sizeOf a + sizeOf b + sizeOf c + 1)).trans ⟨built, by omega⟩
      ⟨built', by omega⟩ ⟨built'', by omega⟩

/-- **Hashes are equal when each has what the other has.** -/
theorem eqv_hash_iff {xs ys : Dict} (built : Built (.hash xs)) (built' : Built (.hash ys)) :
    (hash xs).eqv (.hash ys) = true ↔ xs.length = ys.length ∧ xs.Within ys := by
  have within := Dict.entriesWithin_iff_within Built.lawful built.entries built'.entries
    built'.distinct
  simp only [eqv, Bool.and_eq_true, beq_iff_eq, within]

/-- The order of the entries does not count. -/
example : eqv (.hash [(.int 1, .nil), (.string "a", .bool true)])
    (.hash [(.string "a", .bool true), (.int 1, .nil)]) = true := by decide

end Value

end InlineCache
