/-
# InlineCache.Proofs.Borrowing -- targets that are replaced while they are in use

Whoever runs a cell's target borrows it: the cell is pinned, the target is run, and the pin
is taken off when it is done.  What it runs may use the same cell, so borrows nest, and
targets may be replaced at any depth.  A program that uses a cell (`CellProgram`) decides by
what it has read; its history tells what it did and what it got (`CellEvent`), and every
moment on its way is one of a run (`CellRun`).

* `CellMoment.Sound`: what every use of a cell keeps;
* `targets_kept`: a reader gets the target published last; what is borrowed is still there;
  and what is retired are the targets replaced since the last store without a borrow.
-/
import InlineCache.DispatchCell

namespace InlineCache

set_option autoImplicit false

variable {α : Type} {first target : α}

/-! ## Uses of a cell -/

inductive CellEvent (α : Type) where
  /-- somebody keeps what the cell holds -/
  | loaded (got : α)
  /-- a target is published -/
  | stored (target : α)
  /-- somebody begins to run what the cell holds -/
  | entered (got : α)
  /-- the latest of those is done -/
  | left

namespace CellEvent

def got? : CellEvent α → Option α
  | loaded got | entered got => some got
  | stored _ | left => none

def isStored : CellEvent α → Bool
  | stored _ => true
  | _ => false

/-- The target published last; the first one before any store.  The latest event is
first, here and in what follows. -/
def latest (first : α) : List (CellEvent α) → α
  | stored target :: _ => target
  | loaded _ :: earlier | entered _ :: earlier | left :: earlier => latest first earlier
  | [] => first

def borrows : List (CellEvent α) → Nat
  | entered _ :: earlier => borrows earlier + 1
  | left :: earlier => borrows earlier - 1
  | loaded _ :: earlier | stored _ :: earlier => borrows earlier
  | [] => 0

/-- The target that each store replaced, with the number of borrows that went on. -/
def replaced (first : α) : List (CellEvent α) → List (α × Nat)
  | stored _ :: earlier => (latest first earlier, borrows earlier) :: replaced first earlier
  | loaded _ :: earlier | entered _ :: earlier | left :: earlier => replaced first earlier
  | [] => []

/-- The targets replaced since the last store with no borrow going on. -/
def replacedSince (first : α) (history : List (CellEvent α)) : List α :=
  ((replaced first history).takeWhile fun store => store.2 ≠ 0).map Prod.fst

theorem replacedSince_stored (first target : α) (earlier : List (CellEvent α)) :
    replacedSince first (stored target :: earlier) =
      if borrows earlier = 0 then [] else latest first earlier :: replacedSince first earlier := by
  by_cases none_ : borrows earlier = 0 <;> simp [replacedSince, replaced, none_]

end CellEvent

/-- A cell, what is borrowed from it, the innermost first, and what happened to it. -/
structure CellMoment (α : Type) where
  cell : DispatchCell α
  borrowed : List α := []
  history : List (CellEvent α) := []

namespace CellMoment

def load (moment : CellMoment α) : CellMoment α :=
  { moment with history := .loaded moment.cell.load :: moment.history }

def store (moment : CellMoment α) (target : α) : CellMoment α :=
  { moment with cell := moment.cell.store target, history := .stored target :: moment.history }

def enter (moment : CellMoment α) : CellMoment α where
  cell := moment.cell.pin
  borrowed := moment.cell.load :: moment.borrowed
  history := .entered moment.cell.load :: moment.history

def leave (moment : CellMoment α) : CellMoment α where
  cell := moment.cell.unpin
  borrowed := moment.borrowed.tail
  history := .left :: moment.history

end CellMoment

/-- What may be done with a cell; what comes next may depend on what was read. -/
inductive CellProgram (α : Type) where
  | done
  | load (next : α → CellProgram α)
  | store (target : α) (next : CellProgram α)
  /-- run the target, by a body that may use the cell again -/
  | borrow (body : α → CellProgram α) (next : CellProgram α)

/-- Use a cell as a program says. -/
def CellProgram.play : CellProgram α → CellMoment α → CellMoment α
  | done, moment => moment
  | load next, moment => (next moment.cell.load).play moment.load
  | store target next, moment => next.play (moment.store target)
  | borrow body next, moment => next.play ((body moment.cell.load).play moment.enter).leave

/-- The moments of a new cell in use. -/
inductive CellRun (first : α) : CellMoment α → Prop where
  | start : CellRun first { cell := .create first }
  | load {moment : CellMoment α} (run : CellRun first moment) : CellRun first moment.load
  | store {moment : CellMoment α} (run : CellRun first moment) (target : α) :
      CellRun first (moment.store target)
  | enter {moment : CellMoment α} (run : CellRun first moment) : CellRun first moment.enter
  | leave {moment : CellMoment α} (run : CellRun first moment) (inside : moment.borrowed ≠ []) :
      CellRun first moment.leave

variable {moment : CellMoment α}

/-- **A program runs through such moments**, and takes off every pin that it puts on. -/
theorem CellProgram.play_runs (program : CellProgram α) (run : CellRun first moment) :
    CellRun first (program.play moment) ∧ (program.play moment).borrowed = moment.borrowed := by
  induction program generalizing moment with
  | done => exact ⟨run, rfl⟩
  | load next ih => exact ih _ run.load
  | store target next ih => exact ih (run.store target)
  | borrow body next inner ih =>
      obtain ⟨within, same⟩ := inner moment.cell.load run.enter
      have inside : ((body moment.cell.load).play moment.enter).borrowed ≠ [] := by
        rw [same]
        exact List.cons_ne_nil _ _
      obtain ⟨further, same'⟩ := ih (within.leave inside)
      refine ⟨further, same'.trans ?_⟩
      show ((body moment.cell.load).play moment.enter).borrowed.tail = _
      rw [same]
      rfl

/-! ## What every use keeps -/

open CellEvent

/-- **What every use of a cell keeps.** -/
structure CellMoment.Sound (first : α) (moment : CellMoment α) : Prop where
  pins : moment.cell.pins = moment.borrowed.length
  borrows : borrows moment.history = moment.borrowed.length
  current : moment.cell.load = latest first moment.history
  retired : moment.cell.retired = replacedSince first moment.history
  swaps : moment.cell.swaps = moment.history.countP isStored
  there : ∀ target ∈ moment.borrowed, target = moment.cell.load ∨ target ∈ moment.cell.retired
  got : ∀ {newer older : List (CellEvent α)} {event : CellEvent α} {got : α},
    moment.history = newer ++ event :: older → event.got? = some got → got = latest first older

namespace CellMoment.Sound

/-- What readers got before is what they got, and a reader gets what the cell holds. -/
theorem got_cons (sound : moment.Sound first) (event : CellEvent α)
    (now : ∀ got, event.got? = some got → got = moment.cell.load)
    {newer older : List (CellEvent α)} {other : CellEvent α} {got : α}
    (split : event :: moment.history = newer ++ other :: older) (reads : other.got? = some got) :
    got = latest first older := by
  rcases List.cons_eq_append_iff.1 split with ⟨rfl, same⟩ | ⟨_, rfl, same⟩
  · obtain ⟨rfl, rfl⟩ := List.cons.inj same
    exact (now got reads).trans sound.current
  · exact sound.got same reads

theorem create (first : α) : CellMoment.Sound first { cell := .create first } where
  pins := rfl
  borrows := rfl
  current := rfl
  retired := rfl
  swaps := rfl
  there _ member := absurd member List.not_mem_nil
  got split := absurd split (List.append_ne_nil_of_right_ne_nil _ (List.cons_ne_nil _ _)).symm

theorem load (sound : moment.Sound first) : moment.load.Sound first where
  pins := sound.pins
  borrows := sound.borrows
  current := sound.current
  retired := sound.retired
  swaps := sound.swaps
  there := sound.there
  got := sound.got_cons (.loaded _) fun _ reads => (Option.some.inj reads).symm

theorem store (sound : moment.Sound first) (target : α) : (moment.store target).Sound first where
  pins := sound.pins
  borrows := sound.borrows
  current := rfl
  retired := by
    show (if moment.cell.pins = 0 then [] else moment.cell.load :: moment.cell.retired) = _
    rw [CellMoment.store, replacedSince_stored, sound.pins, sound.borrows, sound.current,
      sound.retired]
  swaps := by
    show moment.cell.swaps + 1 = _
    rw [sound.swaps]
    exact (List.countP_cons_of_pos rfl).symm
  there target' member := by
    -- somebody runs a target, so the one replaced is kept with those before it
    have used : moment.cell.pins ≠ 0 := by
      rw [sound.pins]
      exact Nat.ne_of_gt (List.length_pos_of_mem member)
    refine .inr ?_
    show target' ∈ if moment.cell.pins = 0 then [] else moment.cell.load :: moment.cell.retired
    rw [if_neg used]
    exact List.mem_cons.2 (sound.there target' member)
  got := sound.got_cons (.stored target) fun _ reads => nomatch reads

theorem enter (sound : moment.Sound first) : moment.enter.Sound first where
  pins := congrArg (· + 1) sound.pins
  borrows := congrArg (· + 1) sound.borrows
  current := sound.current
  retired := sound.retired
  swaps := sound.swaps
  there := List.forall_mem_cons.2 ⟨.inl rfl, sound.there⟩
  got := sound.got_cons (.entered _) fun _ reads => (Option.some.inj reads).symm

theorem leave (sound : moment.Sound first) : moment.leave.Sound first where
  pins := (congrArg (· - 1) sound.pins).trans List.length_tail.symm
  borrows := (congrArg (· - 1) sound.borrows).trans List.length_tail.symm
  current := sound.current
  retired := sound.retired
  swaps := sound.swaps
  there target member := sound.there target (List.mem_of_mem_tail member)
  got := sound.got_cons .left fun _ reads => nomatch reads

end CellMoment.Sound

theorem CellRun.sound (run : CellRun first moment) : moment.Sound first := by
  induction run with
  | start => exact .create first
  | load _ ih => exact ih.load
  | store _ target ih => exact ih.store target
  | enter _ ih => exact ih.enter
  | leave _ _ ih => exact ih.leave

/-- **No target is lost while it is in use.**  At every moment of a cell in use, with
borrows nested to any depth and stores at any of them: whoever has loaded or borrowed a
target got the one published last before that, or the first one; what is borrowed is the
current target or one of the retired; the retired are the targets replaced since the last
store with no borrow going on, so a store outside any borrow leaves none; and the cell has
counted the stores.  Whatever program uses the cell next carries the run on, and is done with
all that it has borrowed. -/
theorem targets_kept (run : CellRun first moment) :
    (∀ newer event older got, moment.history = newer ++ event :: older →
        event.got? = some got → got = latest first older) ∧
      (∀ target ∈ moment.borrowed,
        target = moment.cell.current ∨ target ∈ moment.cell.retired) ∧
      moment.cell.retired = replacedSince first moment.history ∧
      (moment.borrowed = [] → ∀ target, (moment.store target).cell.retired = []) ∧
      moment.cell.swaps = moment.history.countP isStored ∧
      ∀ program : CellProgram α, CellRun first (program.play moment) ∧
        (program.play moment).borrowed = moment.borrowed := by
  have sound := run.sound
  refine ⟨fun _ _ _ _ => sound.got, sound.there, sound.retired, fun outside target => ?_,
    sound.swaps, fun program => program.play_runs run⟩
  have free : moment.cell.pins = 0 := by rw [sound.pins, outside, List.length_nil]
  exact DispatchCell.retired_store_of_unpinned free target

/-- Inside the second of two nested borrows, with a store in each: both targets that run are
retired, and the second reader runs the one that the first has published.  The store after
both leaves none. -/
theorem targets_kept_of_nested :
    let nested := ((({ cell := .create 1 } : CellMoment Nat).enter.store 2).enter).store 3
    let after := nested.leave.leave
    nested.borrowed = [2, 1] ∧ nested.cell.retired = [2, 1] ∧ nested.cell.swaps = 2 ∧
      after.cell.retired = [2, 1] ∧ (after.store 4).cell.retired = [] := by
  intro nested after
  have run : CellRun 1 nested := ((CellRun.start.enter.store 2).enter).store 3
  obtain ⟨-, -, retired, -, swaps, -⟩ := targets_kept run
  obtain ⟨-, -, kept, outside, -, -⟩ :=
    targets_kept ((run.leave (List.cons_ne_nil _ _)).leave (List.cons_ne_nil _ _))
  exact ⟨rfl, retired, swaps, kept, outside rfl 4⟩

end InlineCache
