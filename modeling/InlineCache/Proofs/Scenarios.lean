/-
# InlineCache.Proofs.Scenarios -- what the scenarios print

A line that a scenario prints is known as a text, or by the call site or the global site that
it tells of (`Line`).  A scenario *plays* lines (`Plays`) when it prints just these on any
stage, and leaves a stage to the next.

* `Summed.round`, `Counted.round`, `Assigned.round`: each loop has an invariant of its own, about
  the value that it carries or the variable that it writes;
* `plays_sumUp`, `plays_countCorners`, `plays_readAndWrite`, `plays_sendUndefined`: so what is
  printed after the loops is known;
* `proceeds_stopThreads`: of the threads that come and go nothing is said but that they leave a
  stage.
-/
import InlineCache.Proofs.Scenes
import Mathlib.Algebra.BigOperators.Intervals

namespace InlineCache

set_option autoImplicit false

/-! ## Lines -/

/-- What is known of a line that is printed. -/
inductive Line where
  | exact (text : String)
  /-- the statistics of a call site under a label, whatever they are -/
  | statistics (label site : String)
  /-- the value that a global site reads, and perhaps how often it failed -/
  | reading (site value : String) (failures? : Option Nat)

/-- **A line that is printed is as it is known.** -/
def Line.Shows : Line → String → Prop
  | exact text, printed => printed = text
  | statistics label site, printed =>
      ∃ rest, printed = padded 16 label ++ " " ++ padded 12 site ++ " links=" ++ rest
  | reading site value failures?, printed =>
      ∃ (failures : UInt32) (demoted : Bool),
        printed = padded 28 site ++ " value=" ++ value ++ " failures=" ++ toString failures ++
          " demoted=" ++ toString demoted ∧
        ∀ count, failures? = some count → failures.toNat = count

namespace Demo

open World

/-- What is printed on top of what was there is as it is known. -/
def Shown (lines : List Line) (before after : Array String) : Prop :=
  ∃ texts, after.toList = before.toList ++ texts ∧ List.Forall₂ Line.Shows lines texts

namespace Shown

variable {lines more : List Line} {before between after : Array String}

theorem nil (before : Array String) : Shown [] before before :=
  ⟨[], (List.append_nil _).symm, .nil⟩

theorem append (first : Shown lines before between) (second : Shown more between after) :
    Shown (lines ++ more) before after := by
  obtain ⟨texts, printed, shows⟩ := first
  obtain ⟨texts', printed', shows'⟩ := second
  exact ⟨texts ++ texts', by rw [printed', printed, List.append_assoc],
    List.rel_append shows shows'⟩

theorem push (shown : Shown lines before after) {line : Line} {text : String}
    (shows : line.Shows text) : Shown (lines ++ [line]) before (after.push text) :=
  shown.append ⟨[text], Array.toList_push, .cons shows .nil⟩

theorem exact (shown : Shown lines before after) (text : String) :
    Shown (lines ++ [.exact text]) before (after.push text) :=
  shown.push rfl

end Shown

/-- **A program plays lines**: on any stage it prints them, without a fault, and leaves a
stage. -/
def Plays (options : Options) (rounds : Nat) (program : Demo Unit) (lines : List Line) : Prop :=
  ∀ ⦃state : DemoState⦄, Staged options rounds state.world →
    Yields program state fun _ after =>
      Staged options rounds after.world ∧ Shown lines state.printed after.printed

variable {options : Options} {rounds : Nat} {state : DemoState} {world : DemoWorld}
  {printed : Array String} {name : String} {ref : SiteRef}

theorem plays_withContext {body : ContextRef → Demo Unit} {lines : List Line}
    (plays : ∀ context, Plays options rounds (body context) lines) :
    Plays options rounds (withContext body) lines := by
  intro state staged
  refine .bind (.run (.bind ?_))
  exact (plays _ staged.createContext.1).mono fun ⟨staged', shown⟩ =>
    .change ⟨staged'.releaseContext _, shown⟩

/-! ## The steps of a scenario -/

namespace Yields

theorem define (staged : Staged options rounds world) (role : Role)
    (public_ : role.isPrivate = false) {type : TypeRef}
    (class_ : world.class? role.owner = some type) {post : Unit → DemoState → Prop}
    (rest : ∀ {after : DemoWorld}, Staged options rounds after → Keeps world after →
      (after.types.ownMethod? type role.name).isSome = true → post () { world := after, printed }) :
    Yields (Demo.define type role.name role.implementation) { world, printed } post := by
  obtain ⟨staged', keeps, plays⟩ := staged.define public_ class_
  exact .change (rest staged' keeps plays)

theorem openClass (staged : Staged options rounds world) (parent? : Option TypeRef)
    {upper : String} (under : world.class? upper = some (parent?.getD TypeRef.object))
    (below : parentName? name = some upper)
    {post : TypeRef → DemoState → Prop}
    (rest : ∀ {after : DemoWorld} {type : TypeRef}, Staged options rounds after →
      Keeps world after → after.class? name = some type → post type { world := after, printed }) :
    Yields (Demo.openClass name parent?) { world, printed } post := by
  obtain ⟨staged', keeps, class_⟩ := staged.openClass below under
  exact .run (rest staged' keeps class_)

theorem object (staged : Staged options rounds world) {type : TypeRef}
    (class_ : world.class? name = some type) {post : Value → DemoState → Prop}
    (rest : ∀ {after : DemoWorld} {made : ObjectRef}, Staged options rounds after →
      Keeps world after → made.type = type → (after.objects.find? made).isSome = true →
        (∀ asked, after.getVariable made asked = none) → post (.object made) { world := after, printed }) :
    Yields (Demo.object type) { world, printed } post := by
  obtain ⟨staged', keeps, made, bare⟩ := staged.createObject class_
  exact .bind (.run (.pure (rest staged' keeps rfl made bare)))

theorem site (staged : Staged options rounds world) (name : String) (count? : Option Nat)
    {post : SiteRef → DemoState → Prop}
    (rest : ∀ {after : DemoWorld} {ref : SiteRef}, Staged options rounds after →
      Keeps world after → Sited after ref name count? →
        (∀ object asked, after.getVariable object asked = world.getVariable object asked) →
          post ref { world := after, printed }) :
    Yields (Demo.site name count?) { world, printed } post := by
  obtain ⟨staged', keeps, there⟩ :=
    staged.createSite name { argCount := (count?.map Int.ofNat).getD (-1) }
  exact .run (rest staged' keeps ⟨_, there, rfl⟩ fun _ _ => rfl)

theorem report {label : String}
    {count? : Option Nat} (sited : Sited world ref name count?) {post : Unit → DemoState → Prop}
    (rest : ∀ {text : String}, (Line.statistics label (written name count?).render).Shows text →
      post () { world, printed := printed.push text }) :
    Yields (Demo.report label ref) { world, printed } post := by
  obtain ⟨site, there, declared⟩ := sited
  obtain ⟨name_, shape, -⟩ := CallSite.spelling_of_declared declared
  have render : site.render = (written name count?).render := by
    simp only [CallSite.render, name_, shape]
  refine .bind ⟨{ world, printed }, _, rfl, ?_⟩
  simp only [there]
  refine .print (rest ⟨padded 4 (toString site.stats.links) ++
    " failures=" ++ padded 4 (toString site.stats.failures) ++
      " depth=" ++ toString site.stats.depth ++ " kind=" ++ site.stats.kind.name, ?_⟩)
  rw [← render]
  simp only [CallSite.report, String.append_assoc]

end Yields

/-- A loop is under way: the stage is as it needs it, and nothing more was printed. -/
structure Going (options : Options) (rounds : Nat) (scene : DemoWorld → Prop)
    (printed : Array String) (later : DemoState) : Prop where
  staged : Staged options rounds later.world
  scene : scene later.world
  printed : later.printed = printed

/-! ## Sums and corners -/

/-- A number as it is printed after it went through the arithmetic of machine words. -/
def wrapped (n : Nat) : String := toString ((n : Int).bmod (2 ^ 64))

theorem renderInt_ofNat (n : Nat) : renderInt (Int64.ofNat n) = wrapped n := by
  rw [renderInt, wrapped, Int64.toInt_ofNat']
  rfl

theorem wrapped_of_lt {n : Nat} (below : n < 2 ^ 63) : wrapped n = toString n := by
  rw [wrapped, Int.bmod_eq_of_le (by omega) (by omega)]
  rfl

/-- Numbers can be added, and the site that adds them is there. -/
structure Adding (plus : SiteRef) (world : DemoWorld) : Prop where
  plays : (world.types.ownMethod? TypeRef.integer "+").isSome = true
  sited : Sited world plus "+" (some 1)

/-- The sum of the numbers below the one of the next round. -/
def Summed (options : Options) (rounds : Nat) (plus : SiteRef) (printed : Array String)
    (count : Nat) (total : Value) (later : DemoState) : Prop :=
  Going options rounds (Adding plus) printed later ∧
    total = .int (Int64.ofNat (∑ number ∈ Finset.range count, number))

/-- **One number more.** -/
theorem Summed.round {context : ContextRef} {plus : SiteRef} {count : Nat} {total : Value}
    {later : DemoState} (summed : Summed options rounds plus printed count total later) :
    Yields (call context plus total [.int (Int64.ofNat count)]) later
      (Summed options rounds plus printed (count + 1)) := by
  obtain ⟨going, rfl⟩ := summed
  refine .plus going.staged going.scene.plays going.scene.sited fun staged keeps =>
    ⟨⟨staged, ⟨?_, going.scene.sited.kept keeps⟩, going.printed⟩, ?_⟩
  · exact keeps.roles going.staged.cast.integer going.scene.plays
  · rw [Finset.sum_range_succ, Int64.ofNat_add]

/-- **Sums through one site.** -/
theorem plays_sumUp (iterations : Int) :
    Plays options rounds (sumUp iterations)
      [.exact ("sum of 0.." ++ toString iterations ++ " = " ++
          wrapped (iterations.toNat * (iterations.toNat - 1) / 2)),
        .statistics "monomorphic" "+(1)"] := by
  refine plays_withContext fun context state staged => ?_
  refine .bind (.define staged .plus rfl staged.cast.integer fun ready _ plays => ?_)
  refine .bind (.site ready "+" (some 1) fun {start plus} staged keeps sited _ => ?_)
  have adding : Adding plus start := ⟨keeps.roles ready.cast.integer plays, sited⟩
  have summed : Summed options rounds plus state.printed 0 (.int 0) ⟨start, state.printed⟩ :=
    ⟨⟨staged, adding, rfl⟩, rfl⟩
  refine .bind ((Yields.countUp (Summed options rounds plus state.printed) summed
    fun _ summed => summed.round).mono ?_)
  rintro total later ⟨going, rfl⟩
  refine .bind (.print (.report going.scene.sited fun shows => ⟨going.staged, ?_⟩))
  rw [Finset.sum_range_id, Value.render, renderInt_ofNat, going.printed]
  exact ((Shown.nil _).exact _).push shows

/-- As many corners as so many shapes have, a triangle and a square in turn. -/
def cornersOf (count : Nat) : Nat := 3 * ((count + 1) / 2) + 4 * (count / 2)

theorem cornersOf_of_even {count : Nat} (even : count % 2 = 0) :
    cornersOf (count + 1) = cornersOf count + 3 := by
  unfold cornersOf
  omega

theorem cornersOf_of_odd {count : Nat} (odd : ¬ count % 2 = 0) :
    cornersOf (count + 1) = cornersOf count + 4 := by
  unfold cornersOf
  omega

/-- There are a triangle and a square, which take a method from the class above theirs, and
the site that calls it. -/
structure Shapes (shape : TypeRef) (triangle square : ObjectRef) (corners : SiteRef)
    (world : DemoWorld) : Prop where
  above : world.class? "Shape" = some shape
  plays : (world.types.ownMethod? shape "corners").isSome = true
  triangle : world.class? "Triangle" = some triangle.type
  square : world.class? "Square" = some square.type
  sited : Sited world corners "corners" (some 0)

section Shapes

variable {context : ContextRef} {shape : TypeRef} {triangle square : ObjectRef}
  {corners : SiteRef} {after : DemoWorld}

theorem Shapes.kept (shapes : Shapes shape triangle square corners world)
    (keeps : Keeps world after) : Shapes shape triangle square corners after where
  above := keeps.classes shapes.above
  plays := keeps.roles shapes.above shapes.plays
  triangle := keeps.classes shapes.triangle
  square := keeps.classes shapes.square
  sited := shapes.sited.kept keeps

/-- The corners of so many shapes are counted. -/
def Counted (options : Options) (rounds : Nat) (shape : TypeRef) (triangle square : ObjectRef)
    (corners : SiteRef) (printed : Array String) (count : Nat) (total : Int64)
    (later : DemoState) : Prop :=
  Going options rounds (Shapes shape triangle square corners) printed later ∧
    total = Int64.ofNat (cornersOf count)

/-- **One shape more**, a triangle or a square. -/
theorem Counted.round {number : Nat} {total : Int64} {later : DemoState}
    (counted : Counted options rounds shape triangle square corners printed number total later) :
    Yields (do
      let count ← call context corners
        (if number % 2 = 0 then .object triangle else .object square) []
      pure (total + count.int?.getD 0)) later
      (Counted options rounds shape triangle square corners printed (number + 1)) := by
  obtain ⟨⟨staged, shapes, printed⟩, rfl⟩ := counted
  refine .bind ?_
  split
  · refine .corners staged shapes.above shapes.plays (.inl rfl) shapes.triangle shapes.sited
      fun staged keeps => .pure ⟨⟨staged, shapes.kept keeps, printed⟩, ?_⟩
    rw [cornersOf_of_even ‹_›, Int64.ofNat_add]
    rfl
  · refine .corners staged shapes.above shapes.plays (.inr rfl) shapes.square shapes.sited
      fun staged keeps => .pure ⟨⟨staged, shapes.kept keeps, printed⟩, ?_⟩
    rw [cornersOf_of_odd ‹_›, Int64.ofNat_add]
    rfl

/-- **Corners through one site**, of two types that take their method from a third. -/
theorem plays_countCorners {iterations : Int} (few : iterations ≤ 2 ^ 60) :
    Plays options rounds (countCorners iterations)
      [.exact ("corners counted = " ++ toString (cornersOf iterations.toNat)),
        .statistics "polymorphic" "corners(0)"] := by
  refine plays_withContext fun context state staged => ?_
  refine .bind (.openClass staged none staged.cast.object (by decide)
    fun {_ shape} opened _ class_ => ?_)
  refine .bind (.define opened .corners rfl class_ fun defined keeps plays => ?_)
  have shape_ := keeps.classes class_
  refine .bind (.openClass defined (some shape) shape_ (by decide) fun opened keeps₁ class₁ => ?_)
  refine .bind (.object opened class₁ fun {_ triangle} made keeps₂ type₁ _ _ => ?_)
  have shape' := (keeps₁.trans keeps₂).classes shape_
  refine .bind (.openClass made (some shape) shape' (by decide) fun opened keeps₃ class₂ => ?_)
  refine .bind (.object opened class₂ fun {_ square} made keeps₄ type₂ _ _ => ?_)
  refine .bind (.site made "corners" (some 0) fun {start corners} ready keeps₅ sited _ => ?_)
  -- what holds of the three classes is carried over to the world that the rounds start in
  have later := keeps₂.trans (keeps₃.trans (keeps₄.trans keeps₅))
  have shapes : Shapes shape triangle square corners start :=
    { above := (keeps₁.trans later).classes shape_
      plays := (keeps₁.trans later).roles shape_ plays
      triangle := later.classes (type₁ ▸ class₁)
      square := (keeps₄.trans keeps₅).classes (type₂ ▸ class₂)
      sited }
  have counted : Counted options rounds shape triangle square corners state.printed 0 0
      ⟨start, state.printed⟩ := ⟨⟨ready, shapes, rfl⟩, rfl⟩
  refine .bind ((Yields.countUp (Counted options rounds shape triangle square corners state.printed)
    counted fun _ counted => counted.round).mono ?_)
  rintro total later ⟨going, rfl⟩
  refine .bind (.print (.report going.scene.sited fun shows => ⟨going.staged, ?_⟩))
  have below : cornersOf iterations.toNat < 2 ^ 63 := by unfold cornersOf; omega
  rw [renderInt_ofNat, wrapped_of_lt below, going.printed]
  exact ((Shown.nil _).exact _).push shows

end Shapes

/-! ## Variables and missing methods -/

/-- The number of the last of so many rounds; nil if there was none. -/
def lastOf : Nat → Value
  | 0 => .nil
  | count + 1 => .int (Int64.ofNat count)

/-- A point has a variable that can be read and written, and the sites that do so are there. -/
structure Attribute (target : ObjectRef) (reader writer : SiteRef) (world : DemoWorld) : Prop where
  class_ : world.class? "Point" = some target.type
  reads : (world.types.ownMethod? target.type "x").isSome = true
  writes : (world.types.ownMethod? target.type "x=").isSome = true
  there : (world.objects.find? target).isSome = true
  reader : Sited world reader "x" (some 0)
  writer : Sited world writer "x=" (some 1)

section Attribute

variable {context : ContextRef} {target : ObjectRef} {reader writer : SiteRef}
  {after : DemoWorld}

theorem Attribute.kept (attr : Attribute target reader writer world)
    (keeps : Keeps world after) : Attribute target reader writer after where
  class_ := keeps.classes attr.class_
  reads := keeps.roles attr.class_ attr.reads
  writes := keeps.roles attr.class_ attr.writes
  there := keeps.objects attr.there
  reader := attr.reader.kept keeps
  writer := attr.writer.kept keeps

/-- The variable has the number of the last round. -/
def Assigned (options : Options) (rounds : Nat) (target : ObjectRef) (reader writer : SiteRef)
    (printed : Array String) (count : Nat) (later : DemoState) : Prop :=
  Going options rounds (Attribute target reader writer) printed later ∧
    (later.world.getVariable target "@x").getD .nil = lastOf count

/-- **One number more** is written over the last. -/
theorem Assigned.round {number : Nat} {later : DemoState}
    (assigned : Assigned options rounds target reader writer printed number later) :
    Yields (do
      let _ ← call context writer (.object target) [.int (Int64.ofNat number)]) later
      fun _ => Assigned options rounds target reader writer printed (number + 1) := by
  obtain ⟨⟨staged, attr, printed⟩, -⟩ := assigned
  refine .bind (.write staged attr.class_ attr.writes attr.there attr.writer
    fun staged keeps now => .pure ⟨⟨staged, attr.kept keeps, printed⟩, ?_⟩)
  rw [now]
  rfl

/-- A variable that is not there reads as nil, and as the last number that was written. -/
theorem plays_readAndWrite (iterations : Int) (options : Options) (rounds : Nat) :
    Plays options rounds (readAndWrite iterations)
      [.exact "unset x = nil",
        .exact ("x = " ++ (lastOf iterations.toNat).render),
        .statistics "attr reader" "x(0)",
        .statistics "attr writer" "x=(1)"] := by
  refine plays_withContext fun context state staged => ?_
  refine .bind (.openClass staged none staged.cast.object (by decide)
    fun {_ point} opened _ class_ => ?_)
  refine .bind (.define opened .read rfl class_ fun defined keeps₁ reads => ?_)
  have class_ := keeps₁.classes class_
  refine .bind (.define defined .write rfl class_ fun defined keeps₂ writes => ?_)
  have reads := keeps₂.roles class_ reads
  have class_ := keeps₂.classes class_
  refine .bind (.object defined class_ fun {_ target} made keeps₃ type there bare => ?_)
  refine .bind (.site made "x" (some 0) fun {_ reader} ready keeps₄ sited values₄ => ?_)
  refine .bind (.site ready "x=" (some 1) fun {start writer} ready keeps₅ sited' values₅ => ?_)
  obtain rfl := type
  -- what holds of the class and of the object is carried over to the first read
  have later := keeps₃.trans (keeps₄.trans keeps₅)
  have attr : Attribute target reader writer start :=
    { class_ := later.classes class_
      reads := later.roles class_ reads
      writes := later.roles class_ writes
      there := (keeps₄.trans keeps₅).objects there
      reader := sited.kept keeps₅
      writer := sited' }
  have unset : getVariable start target "@x" = none :=
    (values₅ target "@x").trans ((values₄ target "@x").trans (bare "@x"))
  refine .bind (.read ready attr.class_ attr.reads attr.reader
    fun {world} staged keeps same => ?_)
  rw [unset]
  have assigned : Assigned options rounds target reader writer
      (state.printed.push "unset x = nil") 0 ⟨world, state.printed.push "unset x = nil"⟩ :=
    ⟨⟨staged, attr.kept keeps, rfl⟩, by rw [same, unset]; rfl⟩
  refine .bind (.print (.bind ((Yields.countUp (fun count (_ : Unit) =>
    Assigned options rounds target reader writer (state.printed.push "unset x = nil") count)
    assigned fun _ assigned => assigned.round).mono ?_)))
  rintro _ later ⟨⟨staged, attr, printed⟩, last⟩
  refine .bind (.read staged attr.class_ attr.reads attr.reader
    fun staged' keeps' _ => ?_)
  have attr := attr.kept keeps'
  rw [last, printed]
  refine .bind (.print (.bind (.report attr.reader fun shows => ?_)))
  refine .report attr.writer fun shows' => ⟨staged', ?_⟩
  exact ((((Shown.nil _).exact _).exact _).push shows).push shows'

end Attribute

theorem render_echoed :
    "method_missing received " ++
      (Value.array [.symbol "boo", .int 1, .string "two"]).render =
        "method_missing received [:boo, 1, \"two\"]" := by
  simp only [Value.render, renderItems]
  rw [Text.quote_of_typed (by decide)]
  rfl

/-- **A missing method**: its handler is handed what was sent, and without one it is undefined. -/
theorem plays_sendUndefined :
    Plays options rounds sendUndefined
      [.exact "method_missing received [:boo, 1, \"two\"]",
        .statistics "method_missing" "boo(*)",
        .exact "without a handler: undefined method \x60boo' for an instance of Plain"] := by
  refine plays_withContext fun context state staged => ?_
  have nobody : ∀ role : Role, role.name ≠ "boo" := by
    intro role
    cases role <;> decide
  refine .bind (.openClass staged none staged.cast.object (by decide)
    fun {_ ghost} opened _ class_ => ?_)
  refine .bind (.define opened .haunt rfl class_ fun defined keeps plays => ?_)
  have class_ := keeps.classes class_
  refine .bind (.object defined class_ fun made keeps type _ _ => ?_)
  have plays := keeps.roles class_ plays
  have class_ := keeps.classes class_
  obtain rfl := type
  refine .bind (.site made "boo" none fun ready keeps sited _ => ?_)
  refine .bind (.haunt ready (keeps.classes class_) (keeps.roles class_ plays) nobody sited
    fun staged keeps => ?_)
  refine .bind (.print (.bind (.report (sited.kept keeps) fun shows => ?_)))
  have sited := sited.kept keeps
  refine .bind (.openClass staged none staged.cast.object (by decide)
    fun {_ plain} opened keeps class_ => ?_)
  have sited := sited.kept keeps
  refine .bind (.object opened class_ fun {world target} made keeps type _ _ => ?_)
  obtain rfl := type
  obtain ⟨after, staged, raised⟩ := outcome_raise made (keeps.classes class_) nobody
    (sited.kept keeps) [] _
  refine .recover (outcome_bind_of_error raised) (.print ⟨staged, ?_⟩)
  rw [render_echoed]
  exact (((Shown.nil _).exact _).push shows).exact _

/-! ## Threads -/

/-- **A program proceeds**: on any stage it ends without a fault, whatever it prints, and leaves
a stage. -/
def Proceeds {α : Type} (options : Options) (rounds : Nat) (program : Demo α) : Prop :=
  ∀ ⦃state : DemoState⦄, Staged options rounds state.world →
    Yields program state fun _ after => Staged options rounds after.world ∧
      ∃ texts, after.printed.toList = state.printed.toList ++ texts

namespace Proceeds

variable {α β : Type} {program : Demo α} {next : α → Demo β}

theorem pure (value : α) : Proceeds options rounds (Pure.pure value : Demo α) :=
  fun _ staged => .pure ⟨staged, [], (List.append_nil _).symm⟩

theorem bind (proceeds : Proceeds options rounds program)
    (proceeds' : ∀ value, Proceeds options rounds (next value)) :
    Proceeds options rounds (program >>= next) := by
  intro state staged
  refine .bind ((proceeds staged).mono fun {value after} ⟨staged', texts, printed⟩ => ?_)
  refine (proceeds' value staged').mono fun ⟨staged'', texts', printed'⟩ => ⟨staged'', ?_⟩
  exact ⟨texts ++ texts', by rw [printed', printed, List.append_assoc]⟩

theorem print (line : String) : Proceeds options rounds (Demo.print line) :=
  fun _ staged => .print ⟨staged, [line], Array.toList_push⟩

theorem run {operation : DemoWorld → α × DemoWorld}
    (keeps : ∀ {world : DemoWorld}, Staged options rounds world →
      Staged options rounds (operation world).2) :
    Proceeds options rounds (Demo.run operation) :=
  fun _ staged => .run ⟨keeps staged, [], (List.append_nil _).symm⟩

theorem change {operation : DemoWorld → DemoWorld}
    (keeps : ∀ {world : DemoWorld}, Staged options rounds world →
      Staged options rounds (operation world)) :
    Proceeds options rounds (Demo.change operation) :=
  fun _ staged => .change ⟨keeps staged, [], (List.append_nil _).symm⟩

theorem countUp {round : Nat → α → Demo α}
    (proceeds : ∀ number value, Proceeds options rounds (round number value)) (count : Nat)
    (start : α) : Proceeds options rounds (Demo.countUp count round start) := by
  have all : ∀ more first value, Proceeds options rounds (roundsFrom round first more value) := by
    intro more
    induction more with
    | zero => exact fun _ => pure
    | succ more ih => exact fun first value => bind (proceeds first value) (ih (first + 1))
  exact all count 0 start

theorem foldlM {step : α → β → Demo α}
    (proceeds : ∀ value entry, Proceeds options rounds (step value entry)) (entries : List β)
    (start : α) : Proceeds options rounds (entries.foldlM step start) := by
  induction entries generalizing start with
  | nil => exact pure start
  | cons entry rest ih => exact bind (proceeds start entry) ih

theorem forIn {step : β → α → Demo (ForInStep α)}
    (proceeds : ∀ entry value, Proceeds options rounds (step entry value)) (entries : List β)
    (start : α) : Proceeds options rounds (ForIn.forIn entries start step) := by
  induction entries generalizing start with
  | nil => exact pure start
  | cons entry rest ih =>
      rw [List.forIn_cons]
      refine bind (proceeds entry start) fun result => ?_
      cases result with
      | done value => exact pure value
      | yield value => exact ih value

end Proceeds

/-- A thread that polls meets a fault or it does not. -/
theorem proceeds_spin (context : ContextRef) (more : Nat) :
    ∀ site, Proceeds options rounds (spin context site more) := by
  induction more with
  | zero => exact fun site => .pure _
  | succ more ih =>
      intro site
      refine .bind (.run fun staged => staged.poll site context) fun ⟨outcome, site⟩ => ?_
      cases outcome with
      | error fault => exact .pure _
      | ok _ => exact .bind (ih site) fun _ => .pure _

theorem proceeds_stopThread (site : CheckpointSite) (context : ContextRef) :
    Proceeds options rounds (stopThread site context) := by
  refine .bind (proceeds_spin context 1 site) fun ⟨polls, fault?, site⟩ => ?_
  refine .bind (.change fun staged => staged.releaseContext context) fun _ => ?_
  cases fault? with
  | none => exact .pure _
  | some fault => exact .bind (.print _) fun _ => .pure _

/-- **Threads come and go**, and are interrupted. -/
theorem proceeds_stopThreads (threads : Nat) : Proceeds options rounds (stopThreads threads) := by
  refine .bind (.countUp (fun _ contexts => .bind (.run fun staged => staged.createContext.1)
    fun _ => .pure _) threads _) fun contexts => ?_
  rw [← Array.forIn_toList, ← Array.foldlM_toList]
  refine .bind (.forIn (fun context _ => .bind (.change fun staged => staged.interrupt context _)
    fun _ => .pure _) _ _) fun _ => ?_
  exact .bind (.foldlM proceeds_stopThread _ _) fun site => .print _

end Demo

end InlineCache
