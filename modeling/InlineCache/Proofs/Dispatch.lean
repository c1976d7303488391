/-
# InlineCache.Proofs.Dispatch -- chains as lists of entries

A thunk is a list of guarded entries in front of what it ends in, and nothing else: it can
be taken apart into the two and put together again.  So what dispatch comes to is said of
the list: the first entry whose guard passes, or what the chain ends in when there is none.

* `chain_entries`: every thunk is the chain of its own entries;
* `dispatch_chain_eq_bound_iff`: which entry of a list of entries dispatch finds;
* `chain_laws`: what a chain shows of the list it was built from.
-/
import InlineCache.CallSite.Thunk

namespace InlineCache

set_option autoImplicit false

variable {Code : Type}

theorem TypeGuard.passes_iff {guard : TypeGuard} {points : SwitchPoints} {typeId : Nat} :
    guard.passes points typeId = true ↔
      guard.typeId = typeId ∧ points.isValid guard.token = true := by
  rw [passes, Bool.and_eq_true, beq_iff_eq]

namespace Thunk

variable {es : List (TypeGuard × BoundThunk Code)} {last : Thunk Code} {points : SwitchPoints}
  {typeId : Nat}

/-- What a thunk ends in. -/
def terminal : Thunk Code → Thunk Code
  | guarded _ _ fallback => terminal fallback
  | link => link
  | megamorphic => megamorphic

/-- **Every thunk is the chain of its own entries.** -/
theorem chain_entries (thunk : Thunk Code) : chain thunk.entries thunk.terminal = thunk := by
  induction thunk with
  | link | megamorphic => rfl
  | guarded guard target fallback ih => exact congrArg (guarded guard target) ih

theorem terminal_chain : (chain es last).terminal = last.terminal := by
  induction es with
  | nil => rfl
  | cons entry rest ih => exact ih

/-- A chain is called by its first entry, or by what it ends in. -/
theorem kind_chain :
    (chain es last).kind =
      match es with
      | [] => last.kind
      | entry :: _ => entry.2.kind := by
  cases es <;> rfl

/-- **Dispatch finds the first entry whose guard passes**, whatever stands behind it. -/
theorem dispatch_chain_eq_bound_iff (ends : ∀ target, last.dispatch points typeId ≠ .bound target)
    {target : BoundThunk Code} :
    (chain es last).dispatch points typeId = .bound target ↔
      ∃ before entry after, es = before ++ entry :: after ∧ entry.2 = target ∧
        entry.1.passes points typeId = true ∧
        ∀ other ∈ before, other.1.passes points typeId = false := by
  rw [dispatch_chain]
  cases found : es.find? fun entry => entry.1.passes points typeId with
  | none =>
      refine iff_of_false (ends target) ?_
      rintro ⟨before, entry, after, rfl, -, passes, -⟩
      exact List.find?_eq_none.1 found entry (by simp) passes
  | some first =>
      obtain ⟨passes, before, after, split, missed⟩ := List.find?_eq_some_iff_append.1 found
      constructor
      · rintro ⟨⟩
        exact ⟨before, first, after, split, rfl, passes, by simpa using missed⟩
      · rintro ⟨before', entry, after', split', rfl, passes', missed'⟩
        have again : es.find? (fun entry => entry.1.passes points typeId) = some entry :=
          List.find?_eq_some_iff_append.2
            ⟨passes', before', after', split', by simpa using missed'⟩
        rw [Option.some.inj (found.symm.trans again)]

/-- Dispatch comes to anything else only by what the chain ends in. -/
theorem dispatch_chain_eq_iff (answer : Dispatch Code) (other : ∀ target, answer ≠ .bound target) :
    (chain es last).dispatch points typeId = answer ↔
      last.dispatch points typeId = answer ∧
        ∀ entry ∈ es, entry.1.passes points typeId = false := by
  rw [dispatch_chain]
  cases found : es.find? fun entry => entry.1.passes points typeId with
  | none => exact (and_iff_left (by simpa using List.find?_eq_none.1 found)).symm
  | some entry =>
      refine iff_of_false (other entry.2).symm fun both => ?_
      have missed := both.2 entry (List.mem_of_find?_eq_some found)
      rw [List.find?_some found] at missed
      cases missed

/-! ## What ends a chain -/

/-- A thunk without entries. -/
def Ends (last : Thunk Code) : Prop := last = .link ∨ last = .megamorphic

namespace Ends

theorem entries (ends : last.Ends) : last.entries = [] := by
  rcases ends with rfl | rfl <;> rfl

theorem terminal (ends : last.Ends) : last.terminal = last := by
  rcases ends with rfl | rfl <;> rfl

theorem dispatch_ne_bound (ends : last.Ends) (target : BoundThunk Code) :
    last.dispatch points typeId ≠ .bound target := by
  rcases ends with rfl | rfl <;> simp [dispatch]

theorem dispatch_eq_link_iff (ends : last.Ends) :
    last.dispatch points typeId = .link ↔ last = .link := by
  rcases ends with rfl | rfl <;> simp [dispatch]

theorem dispatch_eq_megamorphic_iff (ends : last.Ends) :
    last.dispatch points typeId = .megamorphic ↔ last = .megamorphic := by
  rcases ends with rfl | rfl <;> simp [dispatch]

end Ends

/-- **The laws of chains.**  Take any entries, of whatever types and also several of one, in
front of a link or of what gives up.  The chain has exactly these entries in their order, as
many as its depth says, and ends so, and no other thunk does; it is called by its first
entry, or by what it ends in when there is none.  Whatever switch points are valid, dispatch
on it for a type answers with the target of the first entry for that type whose switch point
is valid, and with what the chain ends in exactly when there is none. -/
theorem chain_laws (es : List (TypeGuard × BoundThunk Code)) (ends : last.Ends) :
    (chain es last).entries = es ∧ (chain es last).depth = es.length ∧
      (chain es last).kind = (match es with
        | [] => last.kind
        | entry :: _ => entry.2.kind) ∧
      (∀ thunk, thunk = chain es last ↔ thunk.entries = es ∧ thunk.terminal = last) ∧
      ∀ (points : SwitchPoints) (typeId : Nat),
        let Passing := fun entry : TypeGuard × BoundThunk Code =>
          entry.1.typeId = typeId ∧ points.isValid entry.1.token = true
        (∀ target, (chain es last).dispatch points typeId = .bound target ↔
          ∃ before entry after, es = before ++ entry :: after ∧ entry.2 = target ∧
            Passing entry ∧ ∀ other ∈ before, ¬ Passing other) ∧
        ((chain es last).dispatch points typeId = .link ↔
          last = .link ∧ ∀ entry ∈ es, ¬ Passing entry) ∧
        ((chain es last).dispatch points typeId = .megamorphic ↔
          last = .megamorphic ∧ ∀ entry ∈ es, ¬ Passing entry) := by
  have entries : (chain es last).entries = es := by
    rw [entries_chain, ends.entries, List.append_nil]
  refine ⟨entries, congrArg List.length entries, kind_chain, fun thunk => ?_, ?_⟩
  · constructor
    · rintro rfl
      exact ⟨entries, terminal_chain.trans ends.terminal⟩
    · rintro ⟨rfl, rfl⟩
      exact thunk.chain_entries.symm
  · intro points typeId Passing
    have passing : ∀ entry : TypeGuard × BoundThunk Code,
        entry.1.passes points typeId = true ↔ Passing entry := fun _ => TypeGuard.passes_iff
    have missed : ∀ entry : TypeGuard × BoundThunk Code,
        entry.1.passes points typeId = false ↔ ¬ Passing entry :=
      fun entry => by rw [← passing, Bool.not_eq_true]
    refine ⟨fun target => ?_, ?_, ?_⟩
    · simp only [dispatch_chain_eq_bound_iff ends.dispatch_ne_bound, passing, missed]
    · rw [dispatch_chain_eq_iff .link (by simp), ends.dispatch_eq_link_iff]
      simp only [missed]
    · rw [dispatch_chain_eq_iff .megamorphic (by simp), ends.dispatch_eq_megamorphic_iff]
      simp only [missed]

/-- A chain with three entries for one type, the first of them revoked, and one for another:
dispatch passes over the first two, and nothing serves a third type. -/
theorem chain_laws_of_revoked :
    let points := ((((({} : SwitchPoints).mint 0).2.mint 0).2.mint 0).2).flip ⟨0⟩
    let bound : Nat → BoundThunk Nat := fun code =>
      { name := "size"
        entry := ⟨{ serial := code, name := "size", implementation := .undefined }, .object, ⟨0⟩⟩
        invoker := .handleEntry code }
    let es : List (TypeGuard × BoundThunk Nat) :=
      [(⟨6, ⟨0⟩⟩, bound 1), (⟨8, ⟨1⟩⟩, bound 2), (⟨6, ⟨2⟩⟩, bound 3), (⟨6, ⟨1⟩⟩, bound 4)]
    (chain es .megamorphic).entries = es ∧ (chain es .megamorphic).depth = 4 ∧
      (chain es .megamorphic).kind = .handle ∧
      (chain es .megamorphic).dispatch points 6 = .bound (bound 3) ∧
      (chain es .megamorphic).dispatch points 9 = .megamorphic := by
  intro points bound es
  obtain ⟨entries, depth, kind, -, dispatched⟩ := chain_laws es (.inr rfl)
  have third := ((dispatched points 6).1 (bound 3)).2
    ⟨es.take 2, (⟨6, ⟨2⟩⟩, bound 3), es.drop 3, rfl, rfl, by decide, by decide⟩
  have gaveUp := (dispatched points 9).2.2.2 ⟨rfl, by decide⟩
  exact ⟨entries, depth, kind, third, gaveUp⟩

end Thunk

end InlineCache
