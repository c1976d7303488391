/-
# InlineCache.Proofs.Counts -- a method runs if the arguments fit, and only then

A primitive, a compiled body and an attribute declare a signature.  Whether the arguments
of a call fit it is decided at the call, or, where the shape of the site settles it, when
the site is bound: then the thunk does not count any more.

* `performs_iff_fits`: on every path, a call whose arguments fit performs the method,
  once, and any other answers with what was given and what is expected, and leaves behind
  a world that differs in nothing but the facts of the call;
* `handle_refuses_iff`: a table of entries does not keep to that.  An entry for the count of
  a call runs, whatever the signature says;
* `handle_runs_unfit`: one that does.
-/
import InlineCache.Proofs.Handover

namespace InlineCache

set_option autoImplicit false

variable {Code Host : Type}

/-! ## What is declared, and what is done -/

theorem Signature.accepts_exactly (required : UInt64) (count : Nat) :
    (Signature.exactly required).accepts count = decide (count = required.toNat) := by
  have most : (Signature.exactly required).most.toNat = required.toNat :=
    congrArg UInt64.toNat (UInt64.add_zero required)
  have least : (Signature.exactly required).required.toNat = required.toNat := rfl
  have closed : (Signature.exactly required).rest = false := rfl
  rw [Bool.eq_iff_iff]
  simp only [Signature.accepts, most, least, closed, Bool.false_or, Bool.and_eq_true,
    decide_eq_true_eq]
  omega

theorem Signature.accepts_noArguments (count : Nat) :
    Signature.noArguments.accepts count = decide (count = 0) :=
  Signature.accepts_exactly 0 count

theorem Signature.accepts_oneArgument (count : Nat) :
    Signature.oneArgument.accepts count = decide (count = 1) :=
  Signature.accepts_exactly 1 count

/-- The facts of a call are taken once. -/
theorem NativeMethod.handover_cleared (native : NativeMethod Code) (context : ContextRef)
    (owner : TypeRef) (name : String) (call : Call) (world : World Code Host) :
    native.handover context owner name call (world.setKwargs context false) =
      native.handover context owner name call world := by
  simp only [NativeMethod.handover, World.setKwargs_again]

theorem CompiledMethod.handover_cleared (body : CompiledMethod Code) (context : ContextRef)
    (entry : Code) (owner : TypeRef) (name : String) (call : Call) (world : World Code Host) :
    body.handover context entry owner name call (world.setKwargs context false) =
      body.handover context entry owner name call world := by
  simp only [CompiledMethod.handover, World.setKwargs_again]

/-- The signature that a method declares: for a body that may be promoted, that of the one
which runs now. -/
def Types.signature? (table : Types Code) (method : Method Code) : Option Signature :=
  match method.implementation with
  | .native native => some native.signature
  | .compiled body => some body.signature
  | .mixed interpreted => some (table.activeBody method interpreted).signature
  | .attrReader _ => some .noArguments
  | .attrWriter _ => some .oneArgument
  | .handle _ | .undefined => none

/-- The calls of a method that is defined on `owner` and called by `name`, with the types that
it was found in: by the generic convention, directly or bound, and through what was built at
any time for a shape that the arguments fit. -/
inductive World.Calls (world : World Code Host) (method : Method Code) (owner : TypeRef)
    (name : String) (call : Call) : Types Code → Calling Code → Prop where
  | method : World.Calls world method owner name call world.types (.method method owner name call)
  | generic {entry : CacheEntry Code} (its : entry.method = method)
      (defined : entry.owner = owner) :
      World.Calls world method owner name call world.types (.thunk (.generic name entry) call)
  | specialized {earlier : World Code Host} {options : Options} {shape : CallShape} {type : TypeRef}
      {entry : CacheEntry Code} {bound : BoundThunk Code} (its : entry.method = method)
      (defined : entry.owner = owner)
      (built : (earlier.specialize options name shape type entry).1 = some bound)
      (fits : 0 ≤ shape.argCount → shape.argCount = call.args.length) :
      World.Calls world method owner name call earlier.types (.thunk bound call)

/-- **To perform a method**: to enter the code of a primitive, or of a compiled body by its
general entry or by the one for this many arguments, or to go to the place of a variable. -/
inductive Performs (context : ContextRef) (table : Types Code) (method : Method Code)
    (owner : TypeRef) (name : String) (call : Call) (world : World Code Host) :
    Handover Code Host → Prop where
  | native {native : NativeMethod Code} (kind : method.implementation = .native native) :
      Performs context table method owner name call world
        (native.handover context owner name call world)
  | compiled {body : CompiledMethod Code} {entry : Code}
      (runs : table.compiledBody? method = some body)
      (chosen : entry = body.entry ∨
        EntryTable.get? body.specific call.args.length = some entry) :
      Performs context table method owner name call world
        (body.handover context entry owner name call world)
  | reads {variable_ : String} (kind : method.implementation = .attrReader variable_) :
      Performs context table method owner name call world
        (.answers (.ok (world.readAttribute variable_ call.receiver)) world)
  | readsThrough {variable_ : String} (kind : method.implementation = .attrReader variable_)
      (type : TypeRef) :
      Performs context table method owner name call world
        (.answers (.ok (world.readThrough (table.accessorForWrite type variable_).1 call.receiver))
          world)
  | writes {variable_ : String} {value : Value}
      (kind : method.implementation = .attrWriter variable_) (args : call.args = [value]) :
      Performs context table method owner name call world
        (.answers (world.writeAttribute variable_ call.receiver value).1
          (world.writeAttribute variable_ call.receiver value).2)
  | writesThrough {variable_ : String} {value : Value}
      (kind : method.implementation = .attrWriter variable_) (args : call.args = [value])
      (type : TypeRef) :
      Performs context table method owner name call world
        (.answers
          (world.writeThrough (table.accessorForWrite type variable_).1 call.receiver value).1
          (world.writeThrough (table.accessorForWrite type variable_).1 call.receiver value).2)

/-- What the arguments decide about a call: it performs the method if they fit, and if they
do not it is refused. -/
structure Decides (signature : Signature) (context : ContextRef) (table : Types Code)
    (method : Method Code) (owner : TypeRef) (name : String) (call : Call) (world : World Code Host)
    (handover : Handover Code Host) : Prop where
  performs :
    signature.accepts
        (signature.positionalCount call.args (world.context context).kwargs) = true →
      Performs context table method owner name call (world.setKwargs context false) handover
  refuses :
    signature.accepts
        (signature.positionalCount call.args (world.context context).kwargs) = false →
      handover = .answers
        (.error (.argumentCount
          (signature.positionalCount call.args (world.context context).kwargs)
          signature.expected))
        (world.setKwargs context false)

namespace Decides

variable {signature : Signature} {context : ContextRef} {table : Types Code}
  {method : Method Code} {owner : TypeRef} {name : String} {call : Call} {world : World Code Host}
  {handover : Handover Code Host}

theorem checked {next : World Code Host → Handover Code Host}
    (performs : Performs context table method owner name call (world.setKwargs context false)
      (next (world.setKwargs context false))) :
    Decides signature context table method owner name call world
      (signature.handover context call.args next world) where
  performs fits := by
    have checks := (signature.check_eq_ok_iff _).2 fits
    simpa only [Signature.handover, Signature.checkArguments, checks] using performs
  refuses unfit := by
    simp only [Signature.handover, Signature.checkArguments, Signature.check_of_not_accepts unfit]

theorem settled (accepted : signature.checkShape call.args.length = .accepted)
    (performs : Performs context table method owner name call (world.setKwargs context false)
      handover) :
    Decides signature context table method owner name call world handover where
  performs _ := performs
  refuses unfit := by
    have fits := (signature.check_eq_ok_iff _).1
      (Signature.checkArguments_of_accepted accepted (world.context context).kwargs)
    exact Bool.noConfusion (fits.symm.trans unfit)

/-- Without keywords, all arguments are counted. -/
theorem of_length (plain : signature.keyrest = false)
    (performs : signature.accepts call.args.length = true →
      Performs context table method owner name call (world.setKwargs context false) handover)
    (refuses : signature.accepts call.args.length = false →
      handover = .answers (.error (.argumentCount call.args.length signature.expected))
        (world.setKwargs context false)) :
    Decides signature context table method owner name call world handover := by
  have count : signature.positionalCount call.args (world.context context).kwargs =
      call.args.length := by
    simp [Signature.positionalCount, plain]
  exact ⟨by rwa [count], by rwa [count]⟩

/-! ## The generic convention -/

theorem of_reader {variable_ : String} (kind : method.implementation = .attrReader variable_) :
    Decides .noArguments context table method owner name call world
      (.answers (World.callReader context variable_ call world).1
        (World.callReader context variable_ call world).2) := by
  refine of_length rfl (fun fits => ?_) (fun unfit => ?_)
  · have args : call.args = [] := by simpa [Signature.accepts_noArguments] using fits
    simp only [World.callReader, args]
    exact .reads kind
  · cases args : call.args with
    | nil => simp [args, Signature.accepts_noArguments] at unfit
    | cons first rest => simp only [World.callReader, args]

theorem of_writer {variable_ : String} (kind : method.implementation = .attrWriter variable_) :
    Decides .oneArgument context table method owner name call world
      (.answers (World.callWriter context variable_ call world).1
        (World.callWriter context variable_ call world).2) := by
  refine of_length rfl (fun fits => ?_) (fun unfit => ?_)
  · rw [Signature.accepts_oneArgument, decide_eq_true_eq] at fits
    obtain ⟨value, args⟩ := List.length_eq_one_iff.1 fits
    simp only [World.callWriter, args]
    exact .writes kind args
  · match args : call.args with
    | [] => simp only [World.callWriter, args]
    | [_] => simp [args, Signature.accepts_oneArgument] at unfit
    | _ :: _ :: _ => simp only [World.callWriter, args]

theorem of_method (declared : world.types.signature? method = some signature) :
    Decides signature context world.types method owner name call world
      (method.handover context owner name call world) := by
  unfold Types.signature? at declared
  unfold Method.handover
  cases kind : method.implementation with
  | native native =>
      simp only [kind, Option.some.injEq] at declared
      subst declared
      exact checked (.native kind)
  | compiled body =>
      simp only [kind, Option.some.injEq] at declared
      subst declared
      exact checked (.compiled (by rw [Types.compiledBody?, kind]) (.inl rfl))
  | mixed interpreted =>
      simp only [kind, Option.some.injEq] at declared
      subst declared
      exact checked (.compiled (by rw [Types.compiledBody?, kind]) (.inl rfl))
  | attrReader variable_ =>
      simp only [kind, Option.some.injEq] at declared
      subst declared
      exact of_reader kind
  | attrWriter variable_ =>
      simp only [kind, Option.some.injEq] at declared
      subst declared
      exact of_writer kind
  | handle handle => simp [kind] at declared
  | undefined => simp [kind] at declared

/-! ## What was built -/

variable {shape : CallShape} {invoker : Invoker Code}

theorem of_native {native : NativeMethod Code} (kind : method.implementation = .native native)
    (built : Invoker.ofNative? shape native = some invoker)
    (fits : 0 ≤ shape.argCount → shape.argCount = call.args.length)
    (entry : CacheEntry Code) :
    Decides native.signature context table method entry.owner name call world
      ((BoundThunk.mk name entry invoker).handover context call world) := by
  unfold Invoker.ofNative? at built
  split at built
  · cases built
  · split at built
    · rename_i arity _ counts
      obtain ⟨fixed, count, accepted⟩ := counts
      cases built
      rw [fits (count ▸ fixed)] at accepted
      refine settled accepted ?_
      show Performs context table method entry.owner name call _
        (native.handover context entry.owner name call world)
      rw [← native.handover_cleared]
      exact .native kind
    · split at built <;> cases built
      exact checked (.native kind)

theorem of_compiled {body : CompiledMethod Code} (runs : table.compiledBody? method = some body)
    (fits : 0 ≤ shape.argCount → shape.argCount = call.args.length)
    (entry : CacheEntry Code) :
    Decides body.signature context table method entry.owner name call world
      ((BoundThunk.mk name entry (.ofCompiled shape body)).handover context call world) := by
  unfold Invoker.ofCompiled
  split
  · rename_i accepted
    have count := fits (Signature.count_of_accepted accepted)
    rw [count] at accepted
    refine settled accepted ?_
    show Performs context table method entry.owner name call _
      (body.handover context _ entry.owner name call world)
    rw [← body.handover_cleared, count, Int.toNat_natCast]
    refine .compiled runs ?_
    cases EntryTable.get? body.specific call.args.length with
    | none => exact .inl rfl
    | some specific => exact .inr rfl
  · exact checked (.compiled runs (.inl rfl))

theorem of_specialize {options : Options} {type : TypeRef} {entry : CacheEntry Code}
    (declared : table.signature? entry.method = some signature)
    (built : (table.specialize options shape type entry.method).1 = some invoker)
    (fits : 0 ≤ shape.argCount → shape.argCount = call.args.length) :
    Decides signature context table entry.method entry.owner name call world
      ((BoundThunk.mk name entry invoker).handover context call world) := by
  unfold Types.signature? at declared
  unfold Types.specialize at built
  cases kind : entry.method.implementation with
  | native native =>
      simp only [kind, Option.some.injEq] at declared built
      subst declared
      split at built
      · exact of_native kind built fits entry
      · cases built
  | compiled body =>
      simp only [kind, Option.some.injEq] at declared built
      subst declared
      split at built <;> cases built
      exact of_compiled (by rw [Types.compiledBody?, kind]) fits entry
  | mixed interpreted =>
      simp only [kind, Option.some.injEq] at declared built
      subst declared
      split at built
      · obtain ⟨body, promoted, rfl⟩ := Option.map_eq_some_iff.1 built
        have active : table.activeBody entry.method interpreted = body := by
          simp only [Types.activeBody, promoted, Option.getD_some]
        rw [active]
        exact of_compiled (by simp only [Types.compiledBody?, kind, active]) fits entry
      · cases built
  | attrReader variable_ =>
      simp only [kind, Option.some.injEq] at declared built
      subst declared
      split at built
      · rename_i binds
        cases built
        have none_ : call.args.length = 0 := by
          have count := fits (binds.2.1 ▸ Int.le_refl 0)
          omega
        refine of_length rfl (fun _ => .readsThrough kind type) fun unfit => ?_
        simp [none_, Signature.accepts_noArguments] at unfit
      · cases built
  | attrWriter variable_ =>
      simp only [kind, Option.some.injEq] at declared built
      subst declared
      split at built
      · rename_i binds
        cases built
        have one : call.args.length = 1 := by
          have count := fits (binds.2.1 ▸ (by omega))
          omega
        obtain ⟨value, args⟩ := List.length_eq_one_iff.1 one
        refine of_length rfl (fun _ => ?_) fun unfit => ?_
        · simp only [BoundThunk.handover, args, List.headD_cons]
          exact .writesThrough kind args type
        · simp [one, Signature.accepts_oneArgument] at unfit
      · cases built
  | handle handle => simp [kind] at declared
  | undefined => simp [kind] at declared

end Decides

/-- **A method is performed exactly if the arguments fit.**  On every path, whatever the
arguments, the facts and the context are: if the positional arguments fit the signature, the
call performs the method, which enters its code once; if not, whatever code there is, the
call is refused with what was given and what is expected, and nothing has changed but that
the facts of the call were taken. -/
theorem performs_iff_fits {world : World Code Host} {method : Method Code} {owner : TypeRef}
    {name : String} {call : Call} {table : Types Code} {calling : Calling Code}
    (calls : world.Calls method owner name call table calling) {signature : Signature}
    (declared : table.signature? method = some signature) (context : ContextRef) :
    let given := signature.positionalCount call.args (world.context context).kwargs
    let cleared := world.setKwargs context false
    ∃ handover : Handover Code Host,
      (∀ exec, calling.run exec context world = handover.run exec context) ∧
      (signature.accepts given = true →
        Performs context table method owner name call cleared handover) ∧
      (signature.accepts given = false →
        handover = .answers (.error (.argumentCount given signature.expected)) cleared) := by
  intro given cleared
  refine ⟨calling.handover context world,
    fun exec => (calling.run_handover exec context world).symm, ?_⟩
  have decides : Decides signature context table method owner name call world
      (calling.handover context world) := by
    cases calls with
    | method => exact .of_method declared
    | generic its defined =>
        subst its defined
        exact .of_method declared
    | specialized its defined built fits =>
        subst its defined
        obtain ⟨invoker, builds, rfl⟩ := Option.map_eq_some_iff.1 built
        exact .of_specialize declared builds fits
  exact ⟨decides.performs, decides.refuses⟩

/-- A method of one argument and keywords is bound for two arguments.  Called with a hash that
the caller declared to be keywords, it enters its body, once, and otherwise it is refused. -/
theorem performs_iff_fits_of_keywords :
    let body : CompiledMethod Unit :=
      { entry := ()
        scope := {
          kind := .method, locals := [], signature := { required := 1, keyrest := true } } }
    let entry : CacheEntry Unit :=
      ⟨{ serial := 2, name := "kw", implementation := .compiled body }, TypeRef.object, ⟨0⟩⟩
    let call : Call := { receiver := .int 1, args := [.int 2, .hash []] }
    let fresh : World Unit Unit := .create {} .hierarchy none ()
    let plain := { fresh with contexts := fresh.contexts.create.2 }
    let keyed := plain.setKwargs ⟨0⟩ true
    ∃ bound, (plain.specialize {} "kw" { argCount := 2 } TypeRef.integer entry).1 = some bound ∧
      (∀ exec, (Calling.thunk bound call).run exec ⟨0⟩ plain =
        (.error (.argumentCount 2 "1"), plain.setKwargs ⟨0⟩ false)) ∧
      ∀ exec, (Calling.thunk bound call).run exec ⟨0⟩ keyed =
        World.within ⟨0⟩ (some ⟨.int 1, some TypeRef.object, some "kw"⟩)
          (exec () (body.activation ⟨0⟩ TypeRef.object "kw" call)) (keyed.setKwargs ⟨0⟩ false) := by
  intro body entry call fresh plain keyed
  have built : (plain.specialize {} "kw" { argCount := 2 } TypeRef.integer entry).1 =
      some ⟨"kw", entry, .compiledChecked body⟩ := rfl
  have calls : ∀ world : World Unit Unit, world.Calls entry.method TypeRef.object "kw" call
      plain.types (.thunk ⟨"kw", entry, .compiledChecked body⟩ call) :=
    fun _ => .specialized rfl rfl built fun _ => rfl
  have declared : plain.types.signature? entry.method = some body.signature := rfl
  have counts : body.signature.positionalCount call.args (plain.context ⟨0⟩).kwargs = 2 ∧
      body.signature.positionalCount call.args (keyed.context ⟨0⟩).kwargs = 1 ∧
      body.signature.expected = "1" := by
    decide +kernel
  obtain ⟨refused, runs, -, refuses⟩ := performs_iff_fits (calls plain) declared ⟨0⟩
  obtain ⟨entered, runs', performs, -⟩ := performs_iff_fits (calls keyed) declared ⟨0⟩
  rw [counts.1, counts.2.2] at refuses
  rw [counts.2.1] at performs
  refine ⟨_, built, fun exec => ?_, fun exec => ?_⟩
  · rw [runs exec, refuses rfl]
    rfl
  · rw [runs' exec]
    cases performs rfl with
    | compiled its chosen =>
        cases its
        rcases chosen with rfl | chosen
        · simp only [Handover.run, CompiledMethod.handover, World.setKwargs_again]
          rfl
        · cases chosen
    | native kind | reads kind | readsThrough kind | writes kind | writesThrough kind => cases kind

/-! ## Tables of entries -/

/-- An entry that a table is given: for one count, or for every count. -/
inductive HandleStep (Code : Type) where
  | arity (count : Nat) (entry : Code)
  | variadic (entry : Code)

namespace HandleStep

def apply (handle : HandleMethod Code) : HandleStep Code → HandleMethod Code
  | arity count entry => handle.withArity count entry
  | variadic entry => { handle with variadic := some entry }

/-- The entry that is given for a count, if the table reaches that far. -/
def given? (count : Nat) : HandleStep Code → Option Code
  | arity its entry => if its = count ∧ its < specificArities then some entry else none
  | variadic _ => none

/-- The entry that is given for a count last. -/
def lastGiven? (count : Nat) : List (HandleStep Code) → Option Code
  | [] => none
  | step :: rest => (lastGiven? count rest).or (step.given? count)

theorem get?_apply (handle : HandleMethod Code) (step : HandleStep Code) (count : Nat) :
    EntryTable.get? (step.apply handle).handles count =
      (step.given? count).or (EntryTable.get? handle.handles count) := by
  cases step with
  | arity its entry =>
      simp only [apply, HandleMethod.withArity, EntryTable.get?_set, given?]
      split <;> rfl
  | variadic entry => rfl

/-- No entry is given for a count if every step is for another one, or out of reach. -/
theorem lastGiven?_eq_none_iff (count : Nat) (steps : List (HandleStep Code)) :
    lastGiven? count steps = none ↔
      ∀ entry, arity count entry ∈ steps → specificArities ≤ count := by
  induction steps with
  | nil => simp [lastGiven?]
  | cons step rest ih =>
      have first : step.given? count = none ↔
          ∀ entry, arity count entry = step → specificArities ≤ count := by
        cases step with
        | arity its entry =>
            by_cases same : its = count
            · simp [given?, same]
            · simp [given?, same, Ne.symm same]
        | variadic entry => simp [given?]
      simp only [lastGiven?, Option.or_eq_none_iff, ih, first, List.mem_cons]
      constructor
      · rintro ⟨later, now⟩ entry (same | member)
        · exact now entry same
        · exact later entry member
      · exact fun all => ⟨fun entry member => all entry (.inr member),
          fun entry same => all entry (.inl same)⟩

end HandleStep

/-- A table with a signature, and with these entries, the earliest first. -/
def HandleMethod.built (signature : Signature) (steps : List (HandleStep Code)) :
    HandleMethod Code :=
  steps.foldl HandleStep.apply { signature }

theorem HandleMethod.get?_foldl (count : Nat) (steps : List (HandleStep Code))
    (handle : HandleMethod Code) :
    EntryTable.get? (steps.foldl HandleStep.apply handle).handles count =
        (HandleStep.lastGiven? count steps).or (EntryTable.get? handle.handles count) ∧
      (steps.foldl HandleStep.apply handle).signature = handle.signature := by
  induction steps generalizing handle with
  | nil => exact ⟨rfl, rfl⟩
  | cons step rest ih =>
      obtain ⟨entries, signature⟩ := ih (step.apply handle)
      refine ⟨?_, signature.trans (by cases step <;> rfl)⟩
      rw [List.foldl_cons, entries, HandleStep.get?_apply, HandleStep.lastGiven?, Option.or_assoc]

namespace HandleMethod

/-- The entry that a table has for a count is the one that was given last. -/
theorem get?_built (signature : Signature) (steps : List (HandleStep Code)) (count : Nat) :
    EntryTable.get? (built signature steps).handles count = HandleStep.lastGiven? count steps := by
  have empty : EntryTable.get? (Vector.replicate specificArities (none : Option Code)) count =
      none := by
    unfold EntryTable.get?
    split
    · exact Vector.getElem_replicate _
    · rfl
  rw [built, (get?_foldl count steps _).1, empty, Option.or_none]

theorem signature_built (signature : Signature) (steps : List (HandleStep Code)) :
    (built signature steps).signature = signature :=
  (get?_foldl 0 steps _).2

/-- An entry for the count runs, whether the signature allows the count or not. -/
theorem handover_of_entry {handle : HandleMethod Code} {call : Call} {entry : Code}
    (found : EntryTable.get? handle.handles call.args.length = some entry) (context : ContextRef)
    (world : World Code Host) :
    handle.handover context call world =
      .enters none entry (call.handled context) (world.setKwargs context false) := by
  simp only [handover, found]

/-- Without an entry for the count, a table keeps to its signature. -/
theorem handover_of_unfit {handle : HandleMethod Code} {call : Call}
    (none_ : EntryTable.get? handle.handles call.args.length = none)
    (unfit : handle.signature.accepts call.args.length = false) (context : ContextRef)
    (world : World Code Host) :
    handle.handover context call world =
      .answers (.error (.argumentCount call.args.length handle.signature.expected))
        (world.setKwargs context false) := by
  unfold handover
  rw [none_]
  cases handle.variadic with
  | none => rfl
  | some entry => simp only [Signature.check_of_not_accepts unfit]

/-- What was built for a table does what the table does. -/
theorem handover_of_built {handle : HandleMethod Code} {shape : CallShape} {call : Call}
    {invoker : Invoker Code} (built : Invoker.ofHandle? shape handle = some invoker)
    (fits : 0 ≤ shape.argCount → shape.argCount = call.args.length) (name : String)
    (its : CacheEntry Code) (context : ContextRef) (world : World Code Host) :
    (BoundThunk.mk name its invoker).handover context call world =
      handle.handover context call world := by
  unfold Invoker.ofHandle? at built
  dsimp only at built
  split at built
  · rename_i entry specific
    cases built
    split at specific
    · rename_i fixed
      rw [fits fixed, Int.toNat_natCast] at specific
      exact (handover_of_entry specific context world).symm
    · cases specific
  · split at built <;> cases built
    rfl

end HandleMethod

theorem World.Calls.handover_of_handle {world : World Code Host} {method : Method Code}
    {owner : TypeRef} {name : String} {call : Call} {table : Types Code} {calling : Calling Code}
    (calls : world.Calls method owner name call table calling) {handle : HandleMethod Code}
    (kind : method.implementation = .handle handle) (context : ContextRef) :
    calling.handover context world = handle.handover context call world := by
  cases calls with
  | method => simp only [Calling.handover, Method.handover, kind]
  | generic its _ =>
      subst its
      simp only [Calling.handover, BoundThunk.handover, BoundThunk.generic, Method.handover, kind]
  | specialized its _ built fits =>
      subst its
      obtain ⟨invoker, builds, rfl⟩ := Option.map_eq_some_iff.1 built
      simp only [kind] at builds
      split at builds
      · exact HandleMethod.handover_of_built builds fits _ _ context world
      · cases builds

/-- **A table refuses what its signature does exactly if it has no entry for the count.**  On
every path, a count that the signature does not allow is refused, with what was given and
what is expected, if no entry was given for it; and if one was, the last of them runs. -/
theorem handle_refuses_iff {world : World Code Host} {method : Method Code} {owner : TypeRef}
    {name : String} {call : Call} {table : Types Code} {calling : Calling Code}
    (calls : world.Calls method owner name call table calling) {signature : Signature}
    {steps : List (HandleStep Code)}
    (kind : method.implementation = .handle (.built signature steps))
    (unfit : signature.accepts call.args.length = false) (context : ContextRef) :
    let cleared := world.setKwargs context false
    ((∀ exec, calling.run exec context world =
        (.error (.argumentCount call.args.length signature.expected), cleared)) ↔
      ∀ entry, HandleStep.arity call.args.length entry ∈ steps →
        specificArities ≤ call.args.length) ∧
      ∀ entry, HandleStep.lastGiven? call.args.length steps = some entry →
        ∀ exec, calling.run exec context world = exec entry (call.handled context) cleared := by
  intro cleared
  have its := HandleMethod.signature_built signature steps
  have runs : ∀ exec, calling.run exec context world =
      ((HandleMethod.built signature steps).handover context call world).run exec context :=
    fun exec => by rw [← calling.run_handover, calls.handover_of_handle kind]
  have enters : ∀ entry, HandleStep.lastGiven? call.args.length steps = some entry →
      ∀ exec, calling.run exec context world = exec entry (call.handled context) cleared := by
    intro entry last exec
    have found := HandleMethod.get?_built signature steps call.args.length
    rw [runs, HandleMethod.handover_of_entry (found.trans last)]
    rfl
  refine ⟨?_, enters⟩
  rw [← HandleStep.lastGiven?_eq_none_iff]
  constructor
  · intro refused
    cases last : HandleStep.lastGiven? call.args.length steps with
    | none => rfl
    | some entry =>
        -- code that answers shows that it ran
        have answered := enters entry last fun _ _ world => (.ok .nil, world)
        rw [refused] at answered
        cases answered
  · intro last exec
    have missing := (HandleMethod.get?_built signature steps call.args.length).trans last
    rw [runs, HandleMethod.handover_of_unfit missing (by rw [its]; exact unfit), its]
    rfl

/-- A table for two arguments that also has an entry for every count refuses one argument. -/
theorem handle_refuses_iff_of_two :
    let handle : HandleMethod Bool :=
      .built { required := 2 } [.arity 2 true, .variadic false]
    let entry : CacheEntry Bool :=
      ⟨{ serial := 2, name := "pair", implementation := .handle handle }, TypeRef.object, ⟨0⟩⟩
    let call : Call := { receiver := .int 1, args := [.int 2] }
    let world : World Bool Unit := .create {} .hierarchy none ()
    ∃ bound, (world.specialize {} "pair" { argCount := 1 } TypeRef.integer entry).1 = some bound ∧
      ∀ exec, (Calling.thunk bound call).run exec ⟨0⟩ world =
        (.error (.argumentCount 1 "2"), world.setKwargs ⟨0⟩ false) := by
  intro handle entry call world
  have built : (world.specialize {} "pair" { argCount := 1 } TypeRef.integer entry).1 =
      some ⟨"pair", entry, .handleTable handle⟩ := rfl
  have calls : world.Calls entry.method TypeRef.object "pair" call world.types
      (.thunk ⟨"pair", entry, .handleTable handle⟩ call) :=
    .specialized rfl rfl built fun _ => rfl
  have refuses := (handle_refuses_iff calls rfl rfl ⟨0⟩).1.2 fun _ member => by
    simp [call] at member
  exact ⟨_, built, refuses⟩

/-- **A table that runs what its signature refuses.**  An entry for one argument runs though
the signature asks for two, by the generic convention and through what was built. -/
theorem handle_runs_unfit :
    let signature : Signature := { required := 2 }
    let entry : CacheEntry Unit :=
      ⟨{ serial := 2, name := "pair", implementation := .handle (.built signature [.arity 1 ()]) },
        TypeRef.object, ⟨0⟩⟩
    let call : Call := { receiver := .int 1, args := [.int 2] }
    let world : World Unit Unit := .create {} .hierarchy none ()
    let bound : BoundThunk Unit := ⟨"pair", entry, .handleEntry ()⟩
    signature.accepts call.args.length = false ∧
      (world.specialize {} "pair" { argCount := 1 } TypeRef.integer entry).1 = some bound ∧
      ∀ exec,
        (Calling.method entry.method TypeRef.object "pair" call).run exec ⟨0⟩ world =
          exec () (call.handled ⟨0⟩) (world.setKwargs ⟨0⟩ false) ∧
        (Calling.thunk bound call).run exec ⟨0⟩ world =
          exec () (call.handled ⟨0⟩) (world.setKwargs ⟨0⟩ false) :=
  ⟨rfl, rfl, fun _ => ⟨rfl, rfl⟩⟩

end InlineCache
