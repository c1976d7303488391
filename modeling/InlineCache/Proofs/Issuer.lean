/-
# InlineCache.Proofs.Issuer -- an owner and the tokens it has handed out

An owner of switch points hands out the current one, and whoever holds a switch point may
flip it.  So a switch point can be flipped from two sides.  From the side of its owner it is
flipped when the fact changes, and a repeatable owner then has a fresh one.  From the side
of a holder it is only flipped; the owner does not hear of it, and tells by the switch point
alone whether it is spent.

* `Issuer.Sound`: a switch point that was handed out is the current one, or flipped and of an
  earlier generation;
* `isValid_play`: the current switch point of a repeatable owner holds until a holder flips
  it while it is the current one (`Struck`), and that is the end of it (`stays_flipped`);
* `recovers_iff`: so a repeatable owner recovers from an `invalidate` exactly if it was never
  struck, and a one-shot owner never does;
* `struck_never_recovers`: a repeatable owner that stays with a dead switch point.
-/
import InlineCache.SwitchPoint

namespace InlineCache

set_option autoImplicit false

/-- What happens to an owner and to the switch points it has handed out. -/
inductive IssuerEvent where
  /-- the current switch point is handed out -/
  | handOut
  /-- the fact changed -/
  | invalidate
  /-- a holder flips a switch point -/
  | flip (token : SwitchPoint)
  /-- other owners mint and flip switch points of theirs -/
  | elsewhere (later : SwitchPoints)

/-- An owner, the switch points of its world, and the ones it has handed out, the latest
first. -/
structure Issuer where
  owner : Invalidator
  table : SwitchPoints
  handed : List SwitchPoint := []

namespace Issuer

def create (kind : GuardedFact) (repeatable : Bool) (table : SwitchPoints) : Issuer :=
  let made := Invalidator.create kind repeatable table
  { owner := made.1, table := made.2 }

def step (issuer : Issuer) : IssuerEvent → Issuer
  | .handOut => { issuer with handed := issuer.owner.current :: issuer.handed }
  | .invalidate =>
      let done := issuer.owner.invalidate issuer.table
      { issuer with owner := done.1, table := done.2 }
  | .flip token => { issuer with table := issuer.table.flip token }
  | .elsewhere later => { issuer with table := later }

def play (issuer : Issuer) (events : List IssuerEvent) : Issuer := events.foldl step issuer

/-- The switch points that this owner has in hand or has handed out. -/
def Knows (issuer : Issuer) (token : SwitchPoint) : Prop :=
  token = issuer.owner.current ∨ token ∈ issuer.handed

/-- Nobody can flip a switch point that he was not handed, and what goes on elsewhere is
not about the switch points of this owner. -/
def Permits (issuer : Issuer) : IssuerEvent → Prop
  | .handOut | .invalidate => True
  | .flip token => token ∈ issuer.handed
  | .elsewhere later =>
      issuer.table.points.size ≤ later.points.size ∧
        ∀ token, issuer.Knows token →
          later.points[token.index]? = issuer.table.points[token.index]?

/-- Each event is permitted when its turn comes. -/
def Permitted : Issuer → List IssuerEvent → Prop
  | _, [] => True
  | issuer, event :: rest => issuer.Permits event ∧ Permitted (issuer.step event) rest

/-- At some moment a holder flipped the switch point that was the current one. -/
def Struck : Issuer → List IssuerEvent → Prop
  | _, [] => False
  | issuer, event :: rest => event = .flip issuer.owner.current ∨ Struck (issuer.step event) rest

/-- A switch point of an earlier generation, which was flipped. -/
structure Past (issuer : Issuer) (token : SwitchPoint) : Prop where
  known : token.index < issuer.table.points.size
  flipped : issuer.table.isValid token = false
  earlier : issuer.table.generation token < issuer.owner.generation

/-- What was handed out is the current switch point or one of the past. -/
structure Sound (issuer : Issuer) : Prop where
  known : issuer.owner.current.index < issuer.table.points.size
  generation : issuer.table.generation issuer.owner.current = issuer.owner.generation
  handed : ∀ token ∈ issuer.handed, token = issuer.owner.current ∨ issuer.Past token

variable {issuer : Issuer} {event : IssuerEvent} {events : List IssuerEvent}
  {token : SwitchPoint}

theorem sound_create (kind : GuardedFact) (repeatable : Bool) (table : SwitchPoints) :
    (create kind repeatable table).Sound where
  known := by simp [create, Invalidator.create, SwitchPoints.mint]
  generation := table.generation_mint_self 0
  handed _ member := absurd member List.not_mem_nil

namespace Sound

theorem lt_size (sound : issuer.Sound) (knows : issuer.Knows token) :
    token.index < issuer.table.points.size := by
  rcases knows with rfl | member
  · exact sound.known
  · rcases sound.handed token member with rfl | past
    · exact sound.known
    · exact past.known

end Sound

/-! ## One event -/

/-- What a step does to the switch points: none of this owner's is revived, and none changes
its generation. -/
structure Passes (before after : Issuer) : Prop where
  grows : before.table.points.size ≤ after.table.points.size
  stale : ∀ {token : SwitchPoint}, before.Knows token → before.table.isValid token = false →
    after.table.isValid token = false
  generations : ∀ {token : SwitchPoint}, before.Knows token →
    after.table.generation token = before.table.generation token

theorem generation_invalidate (owner : Invalidator) {table : SwitchPoints}
    (known : token.index < table.points.size) :
    (owner.invalidate table).2.generation token = table.generation token := by
  unfold Invalidator.invalidate
  split
  · split
    · exact (SwitchPoints.generation_flip _ _ _).trans (table.generation_mint_of_lt _ known)
    · exact table.generation_flip _ _
  · rfl

theorem Sound.passes (sound : issuer.Sound) (permits : issuer.Permits event) :
    Passes issuer (issuer.step event) := by
  cases event with
  | handOut => exact ⟨Nat.le_refl _, fun _ flipped => flipped, fun _ => rfl⟩
  | invalidate =>
      have ages := Invalidator.ages_invalidate issuer.owner issuer.table
      exact ⟨ages.grows, fun knows => ages.stale (sound.lt_size knows),
        fun knows => generation_invalidate issuer.owner (sound.lt_size knows)⟩
  | flip token =>
      have ages := SwitchPoints.Ages.flip issuer.table token
      exact ⟨ages.grows, fun knows => ages.stale (sound.lt_size knows),
        fun _ => issuer.table.generation_flip _ _⟩
  | elsewhere later =>
      obtain ⟨grows, same⟩ := permits
      refine ⟨grows, fun {token} knows flipped => ?_, fun {token} knows => ?_⟩
      · simpa only [step, SwitchPoints.isValid, same token knows] using flipped
      · simp only [step, SwitchPoints.generation, same token knows]

theorem Passes.past {after : Issuer} (passes : Passes issuer after)
    (later : issuer.owner.generation ≤ after.owner.generation) (member : token ∈ issuer.handed)
    (past : issuer.Past token) : after.Past token where
  known := Nat.lt_of_lt_of_le past.known passes.grows
  flipped := passes.stale (.inr member) past.flipped
  earlier := by
    rw [passes.generations (.inr member)]
    exact Nat.lt_of_lt_of_le past.earlier later

/-- An owner that keeps its switch point keeps what it knows of it. -/
theorem Sound.of_passes {after : Issuer} (sound : issuer.Sound) (passes : Passes issuer after)
    (owner : after.owner = issuer.owner) (handed : after.handed = issuer.handed) :
    after.Sound where
  known := by
    rw [owner]
    exact Nat.lt_of_lt_of_le sound.known passes.grows
  generation := by
    rw [owner, passes.generations (.inl rfl)]
    exact sound.generation
  handed token member := by
    rw [handed] at member
    rw [owner]
    exact (sound.handed token member).imp_right (passes.past (Nat.le_of_eq (by rw [owner])) member)

/-- **A renewal leaves everything behind**: a fresh switch point that holds, of the next
generation, and all that were handed out before are past. -/
theorem Sound.renewed (sound : issuer.Sound) (again : issuer.owner.repeatable = true)
    (valid : issuer.table.isValid issuer.owner.current = true) :
    (issuer.step .invalidate).Sound ∧
      (issuer.step .invalidate).table.isValid (issuer.step .invalidate).owner.current = true ∧
      ∀ token ∈ issuer.handed, (issuer.step .invalidate).Past token := by
  have passes : Passes issuer (issuer.step .invalidate) := sound.passes trivial
  obtain ⟨live, next⟩ := Invalidator.invalidate_renews again valid
  have fresh := Invalidator.current_invalidate again valid
  have left : ∀ token ∈ issuer.handed, (issuer.step .invalidate).Past token := by
    intro token member
    rcases sound.handed token member with rfl | past
    · refine ⟨Nat.lt_of_lt_of_le sound.known passes.grows, Invalidator.invalidate_flips _ _, ?_⟩
      rw [passes.generations (.inl rfl), sound.generation]
      show _ < (issuer.owner.invalidate issuer.table).1.generation
      omega
    · refine passes.past ?_ member past
      show _ ≤ (issuer.owner.invalidate issuer.table).1.generation
      omega
  refine ⟨⟨SwitchPoints.lt_size_of_isValid live, ?_, fun token member => .inr (left token member)⟩,
    live, left⟩
  show SwitchPoints.generation _ (issuer.owner.invalidate issuer.table).1.current = _
  simp only [step, Invalidator.invalidate, valid, again, if_true, SwitchPoints.generation_flip,
    SwitchPoints.generation_mint_self]

/-- An owner whose switch point is flipped hears of nothing any more. -/
theorem owner_step_of_flipped (flipped : issuer.table.isValid issuer.owner.current = false)
    (event : IssuerEvent) : (issuer.step event).owner = issuer.owner := by
  cases event with
  | invalidate => simp only [step, Invalidator.invalidate_of_flipped flipped]
  | handOut | flip | elsewhere => rfl

/-- A one-shot owner has one switch point. -/
theorem owner_step_of_once (once : issuer.owner.repeatable = false) (event : IssuerEvent) :
    (issuer.step event).owner = issuer.owner := by
  cases event with
  | invalidate =>
      simp only [step, Invalidator.invalidate, once]
      split <;> rfl
  | handOut | flip | elsewhere => rfl

@[simp] theorem repeatable_step (issuer : Issuer) (event : IssuerEvent) :
    (issuer.step event).owner.repeatable = issuer.owner.repeatable := by
  cases event with
  | invalidate => exact Invalidator.repeatable_invalidate _ _
  | handOut | flip | elsewhere => rfl

theorem sound_step (sound : issuer.Sound) (permits : issuer.Permits event) :
    (issuer.step event).Sound := by
  have passes := sound.passes permits
  cases event with
  | handOut =>
      refine ⟨sound.known, sound.generation, fun token member => ?_⟩
      rcases List.mem_cons.1 member with rfl | member
      · exact .inl rfl
      · exact (sound.handed token member).imp_right
          fun past => ⟨past.known, past.flipped, past.earlier⟩
  | flip token => exact sound.of_passes passes rfl rfl
  | elsewhere later => exact sound.of_passes passes rfl rfl
  | invalidate =>
      cases valid : issuer.table.isValid issuer.owner.current with
      | false => exact sound.of_passes passes (owner_step_of_flipped valid .invalidate) rfl
      | true =>
          cases again : issuer.owner.repeatable with
          | false => exact sound.of_passes passes (owner_step_of_once again .invalidate) rfl
          | true => exact (sound.renewed again valid).1

/-- A repeatable owner loses its switch point to a holder only. -/
theorem isValid_step (sound : issuer.Sound) (again : issuer.owner.repeatable = true)
    (permits : issuer.Permits event) :
    (issuer.step event).table.isValid (issuer.step event).owner.current = true ↔
      issuer.table.isValid issuer.owner.current = true ∧ event ≠ .flip issuer.owner.current := by
  cases event with
  | handOut => simp [step]
  | elsewhere later =>
      simp [step, SwitchPoints.isValid, permits.2 issuer.owner.current (.inl rfl)]
  | flip token =>
      simp only [step, SwitchPoints.isValid_flip, Bool.and_eq_true, decide_eq_true_eq, ne_eq,
        IssuerEvent.flip.injEq]
      exact and_congr_right fun _ => not_congr eq_comm
  | invalidate =>
      cases valid : issuer.table.isValid issuer.owner.current with
      | false => simp [step, Invalidator.invalidate_of_flipped valid, valid]
      | true => simp [(sound.renewed again valid).2.1]

/-! ## All events -/

theorem sound_play (sound : issuer.Sound) (permitted : issuer.Permitted events) :
    (issuer.play events).Sound := by
  induction events generalizing issuer with
  | nil => exact sound
  | cons event rest ih => exact ih (sound_step sound permitted.1) permitted.2

theorem repeatable_play (issuer : Issuer) (events : List IssuerEvent) :
    (issuer.play events).owner.repeatable = issuer.owner.repeatable := by
  induction events generalizing issuer with
  | nil => rfl
  | cons event rest ih => exact (ih _).trans (issuer.repeatable_step event)

/-- The current switch point holds exactly if it was never struck. -/
theorem isValid_play (sound : issuer.Sound) (again : issuer.owner.repeatable = true)
    (permitted : issuer.Permitted events) :
    (issuer.play events).table.isValid (issuer.play events).owner.current = true ↔
      issuer.table.isValid issuer.owner.current = true ∧ ¬ issuer.Struck events := by
  induction events generalizing issuer with
  | nil => simp [play, Struck]
  | cons event rest ih =>
      have first := isValid_step sound again permitted.1
      have others := ih (sound_step sound permitted.1) (by simpa using again) permitted.2
      rw [show issuer.play (event :: rest) = (issuer.step event).play rest from rfl, others, first,
        Struck, not_or, and_assoc]

/-- **A flipped switch point is never valid again.** -/
theorem stale_play (sound : issuer.Sound) (permitted : issuer.Permitted events)
    (member : token ∈ issuer.handed) (flipped : issuer.table.isValid token = false) :
    (issuer.play events).table.isValid token = false := by
  induction events generalizing issuer with
  | nil => exact flipped
  | cons event rest ih =>
      have kept : token ∈ (issuer.step event).handed := by
        cases event with
        | handOut => exact List.mem_cons_of_mem _ member
        | invalidate | flip | elsewhere => exact member
      exact ih (sound_step sound permitted.1) permitted.2 kept
        ((sound.passes permitted.1).stale (.inr member) flipped)

/-- **An owner whose switch point was flipped stays with it**, whatever happens. -/
theorem stays_flipped (sound : issuer.Sound) (permitted : issuer.Permitted events)
    (flipped : issuer.table.isValid issuer.owner.current = false) :
    (issuer.play events).owner = issuer.owner ∧
      (issuer.play events).table.isValid issuer.owner.current = false := by
  induction events generalizing issuer with
  | nil => exact ⟨rfl, flipped⟩
  | cons event rest ih =>
      have owner := owner_step_of_flipped flipped event
      have still := (sound.passes permitted.1).stale (.inl rfl) flipped
      have later := ih (sound_step sound permitted.1) permitted.2 (by rwa [owner])
      rwa [owner] at later

/-- A one-shot owner is what it was from the start. -/
theorem owner_play_of_once (once : issuer.owner.repeatable = false) (events : List IssuerEvent) :
    (issuer.play events).owner = issuer.owner := by
  induction events generalizing issuer with
  | nil => rfl
  | cons event rest ih =>
      have first := owner_step_of_once once event
      exact (ih (by rwa [first])).trans first

/-- An owner of the first generation has handed out one switch point only. -/
theorem Sound.eq_current (sound : issuer.Sound) (first : issuer.owner.generation = 0)
    (member : token ∈ issuer.handed) : token = issuer.owner.current := by
  refine (sound.handed token member).resolve_right fun past => ?_
  have earlier := past.earlier
  omega

/-- After the fact changed, nothing that was handed out before holds. -/
theorem Sound.isValid_invalidate (sound : issuer.Sound) (member : token ∈ issuer.handed) :
    (issuer.step .invalidate).table.isValid token = false := by
  rcases sound.handed token member with rfl | past
  · exact Invalidator.invalidate_flips _ _
  · have passes : Passes issuer (issuer.step .invalidate) := sound.passes trivial
    exact passes.stale (.inr member) past.flipped

/-- **Which owners recover.**  A flipped switch point is never valid again, and when the fact
changes all that were handed out are flipped.  A repeatable owner then has one that holds, of
a larger generation than any before, exactly if no holder ever flipped the current one; and
if one did, the owner stays with the dead one, whatever happens.  A one-shot owner is spent,
and has handed out and hands out only the one switch point it had. -/
theorem recovers_iff (kind : GuardedFact) (repeatable : Bool) (table : SwitchPoints)
    {events : List IssuerEvent} (permitted : (create kind repeatable table).Permitted events) :
    let fresh := create kind repeatable table
    let before := fresh.play events
    let after := before.step .invalidate
    (∀ more, before.Permitted more → ∀ token ∈ before.handed,
        before.table.isValid token = false → (before.play more).table.isValid token = false) ∧
      (∀ token ∈ after.handed, after.table.isValid token = false) ∧
      (repeatable = true →
        ((after.table.isValid after.owner.current = true ∧
            ∀ token ∈ after.handed,
              after.table.generation token < after.table.generation after.owner.current) ↔
          ¬ fresh.Struck events) ∧
        (fresh.Struck events → ∀ more, before.Permitted more →
          (before.play more).owner = before.owner ∧
            (before.play more).table.isValid before.owner.current = false)) ∧
      (repeatable = false → ∀ more, after.Permitted more →
        let later := after.play more
        later.owner.isSpent later.table = true ∧ later.owner.current = fresh.owner.current ∧
          ∀ token ∈ later.handed, token = fresh.owner.current) := by
  intro fresh before after
  have start : fresh.Sound := sound_create kind repeatable table
  have sound : before.Sound := sound_play start permitted
  have mode : before.owner.repeatable = repeatable := repeatable_play fresh events
  have minted : fresh.table.isValid fresh.owner.current = true := table.isValid_mint_self 0
  refine ⟨fun more allowed token => stale_play sound allowed,
    fun token member => sound.isValid_invalidate member, ?_, ?_⟩
  · rintro rfl
    have holds := isValid_play start rfl permitted
    rw [minted, eq_self, true_and] at holds
    refine ⟨⟨fun recovered => ?_, fun spared => ?_⟩, fun struck more allowed => ?_⟩
    · have permits : before.Permits .invalidate := trivial
      exact holds.1 ((isValid_step sound mode permits).1 recovered.1).1
    · obtain ⟨next, live, past⟩ := sound.renewed mode (holds.2 spared)
      refine ⟨live, fun token member => ?_⟩
      rw [next.generation]
      exact (past token member).earlier
    · refine stays_flipped sound allowed (Bool.eq_false_iff.2 fun valid => ?_)
      exact holds.1 valid struck
  · rintro rfl more allowed later
    have once : before.owner = fresh.owner := owner_play_of_once rfl events
    have same : after.owner = fresh.owner := (owner_step_of_once mode .invalidate).trans once
    have dead : after.table.isValid after.owner.current = false := by
      rw [same, ← once]
      exact Invalidator.invalidate_flips _ _
    have spent : after.Sound := sound_step sound trivial
    obtain ⟨owner, flipped⟩ := stays_flipped spent allowed dead
    rw [same] at owner flipped
    refine ⟨?_, congrArg Invalidator.current owner, fun token member => ?_⟩
    · simp only [Invalidator.isSpent, later, owner, flipped]
      rfl
    · have last := (sound_play spent allowed).eq_current (congrArg Invalidator.generation owner)
        member
      rwa [owner] at last

/-- An owner that was invalidated, and then had the switch point from before flipped once more
by a holder. -/
theorem recovers_iff_of_late_flip :
    let events : List IssuerEvent := [.handOut, .invalidate, .handOut, .flip ⟨0⟩]
    let after := ((create .methodTable true {}).play events).step .invalidate
    (create .methodTable true {}).Permitted events ∧
      (∀ token ∈ [(⟨1⟩ : SwitchPoint), ⟨0⟩], after.table.isValid token = false) ∧
        after.table.isValid after.owner.current = true := by
  intro events after
  have permitted : (create .methodTable true {}).Permitted events :=
    ⟨trivial, trivial, trivial, .tail _ (.head _), trivial⟩
  obtain ⟨-, dead, again, -⟩ := recovers_iff .methodTable true {} permitted
  have spared : ¬ (create .methodTable true {}).Struck events := by
    simp [events, Struck, step, create, Invalidator.create, Invalidator.invalidate,
      SwitchPoints.mint, SwitchPoints.isValid]
  exact ⟨permitted, dead, ((again rfl).1.2 spared).1⟩

/-- **A repeatable owner that is struck stays with a dead switch point**: after the next
change of the fact it has none that holds, and none of a larger generation. -/
theorem struck_never_recovers :
    let events : List IssuerEvent := [.handOut, .flip ⟨0⟩]
    let struck := (create .global true {}).play events
    let after := struck.step .invalidate
    (create .global true {}).Permitted events ∧ struck.owner.repeatable = true ∧
      after.table.isValid after.owner.current = false ∧
        after.table.generation after.owner.current = 0 :=
  ⟨⟨trivial, .head _, trivial⟩, rfl, rfl, rfl⟩

end Issuer

end InlineCache
