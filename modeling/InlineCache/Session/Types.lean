/-
# InlineCache.Session.Types -- playing steps about types, methods and objects

A step spells a method by its kind and the routines behind it; `Play.implementation`
builds it.  A method is shown by its serial number, name and visibility, and by what
is particular to its kind.
-/
import InlineCache.Send.Method
import InlineCache.Session.Bench

namespace InlineCache

set_option autoImplicit false

namespace EntryTable

/-- Which argument counts have an entry, for a few counts past the table too. -/
def answer {Code : Type} (table : EntryTable Code) : Answer :=
  .list ((List.range 6).map fun arity => .bool (get? table arity).isSome)

end EntryTable

namespace VariableAccessor

def answer : VariableAccessor → Answer
  | field index => .record [("field", .ofNat index)]
  | dictionary name => .record [("dict", .text name)]

end VariableAccessor

namespace GuardedFact

def name : GuardedFact → String
  | methodTable => "MethodTable"
  | global => "Global"
  | checkpoint => "Checkpoint"

end GuardedFact

namespace CompiledMethod

def answer {Code : Type} (method : CompiledMethod Code) : Answer :=
  .record [("sig", .signature method.signature), ("wants_block", .bool method.wantsBlock),
    ("specific", EntryTable.answer method.specific), ("at", .text method.scope.place)]

end CompiledMethod

namespace Method

variable {Code : Type}

def detail (method : Method Code) (types : Types Code) : Answer :=
  match method.implementation with
  | .native native => .record
      [("arity", ((native.arity?).map Answer.number).getD .null),
        ("wants_context", .bool native.wantsContext), ("wants_block", .bool native.wantsBlock),
        ("frame", .bool native.framed), ("sig", .signature native.signature)]
  | .compiled compiled => compiled.answer
  | .mixed interpreted => .record
      [("jitted", .bool (types.promoted? method).isSome),
        ("active", (types.activeBody method interpreted).answer)]
  | .handle handle => .record
      [("sig", .signature handle.signature), ("variadic", .bool handle.variadic.isSome),
        ("handles", EntryTable.answer handle.handles)]
  | .attrReader name | .attrWriter name => .record [("var", .text name)]
  | .undefined => .null

def answer (method : Method Code) (types : Types Code) : Answer :=
  .record [("serial", .ofNat method.serial), ("name", .text method.name),
    ("visibility", .text (if method.isPrivate then "Private" else "Public")),
    ("kind", .text method.implementation.kindName), ("undefined", .bool method.isUndefined),
    ("detail", method.detail types)]

end Method

namespace Play

def withSpecifics (method : CompiledMethod Routine) :
    List (Nat × Routine) → Play (CompiledMethod Routine)
  | [] => pure method
  | (arity, entry) :: rest => do
      let (method, warnings) := method.withSpecific arity entry
      modify fun stage => stage.say warnings
      withSpecifics method rest

def compiledBody (spec : CompiledSpec) : Play (CompiledMethod Routine) := do
  let scope ← staticScope spec.scope
  let method ← withSpecifics { entry := spec.entry, scope } spec.specific
  pure { method with wantsBlock := !spec.noBlock }

def implementation : MethodSpec → Play (Implementation Routine)
  | .native routine params isStatic framed declared => do
      let method := NativeMethod.create (.code routine) params
      let method := if isStatic then method.asStatic else method
      let signature := declared.getD method.signature
      pure (.native { method with framed, signature })
  | .compiled body => do pure (.compiled (← compiledBody body))
  | .mixed body => do pure (.mixed (← compiledBody body))
  | .handle signature handles variadic => do
      let method : HandleMethod Routine := { signature, variadic }
      pure (.handle (handles.foldl (fun method entry => method.withArity entry.1 entry.2) method))
  | .attrReader name => pure (.attrReader name)
  | .attrWriter name => pure (.attrWriter name)
  | .undefined => pure .undefined

def type? : Option String → Play (Option TypeRef)
  | some name => some <$> type name
  | none => pure none

def shownMethod (method? : Option (Method Routine)) : Play Answer := do
  let types := (← get).types
  pure ((method?.map fun method => method.answer types).getD .null)

def shownLookup (result : LookupResult Routine) : Play Answer := do
  let points := (← get).points
  let generation := ("generation", Answer.ofNat (points.generation result.token))
  pure (match result with
    | .notFound _ => .record [("found", .bool false), generation]
    | .found entry => .record
        [("found", .bool true), ("entry", .text entry.render),
          ("version", .ofNat entry.method.serial), ("owner", .text entry.owner.name),
          ("valid", .bool (points.isValid entry.token)), generation])

def typePortrait (ref : TypeRef) : Play Answer := do
  let types := (← get).types
  match types.get? ref with
  | none => failure
  | some state =>
      pure (.record
        [("name", .text ref.name), ("parent", .ofText? (state.parent?.map TypeRef.name)),
          ("fields", .ofNat (types.fieldCount ref)),
          ("subclasses", .list ((types.subclasses ref).map fun child => .text child.name)),
          ("generation", .ofNat state.invalidator.generation),
          ("kind", .text state.invalidator.kind.name)])

end Play

def TypeStep.play : TypeStep → Play Answer
  | .openClass name parent fields => do
      let parent? ← Play.type? parent
      let reopened := ((← get).class? name).isSome
      let ref ← Play.run fun stage =>
        stage.openClass name parent? (fields.getD World.defaultFieldCapacity)
      let above := ((← get).types.get? ref).bind TypeState.parent?
      pure (.ok (.record [("reopened", .bool reopened), ("name", .text ref.name),
        ("parent", .ofText? (above.map TypeRef.name))]))
  | .create name parent fields => do
      let parent? ← Play.type? parent
      let ref ← Play.run fun stage =>
        stage.createType name parent? (fields.getD World.defaultFieldCapacity)
      Play.onBench fun bench => { bench with
        types := NameMap.insert bench.types name ref
        typesMayBeGone := bench.typesMayBeGone || NameMap.contains bench.types name }
      pure (.ok (.bool true))
  | .drop name => do
      let kept := NameMap.contains (← get).host.types name
      Play.onBench fun bench => { bench with
        types := NameMap.erase bench.types name
        typesMayBeGone := bench.typesMayBeGone || kept }
      pure (.ok (.bool kept))
  | .info type => do pure (.ok (← Play.typePortrait (← Play.type type)))
  | .kindOf type other => do
      let type ← Play.type type
      let other ← Play.type other
      pure (.ok (.bool ((← get).types.isKindOf type other)))
  | .define type name isPrivate spec keepAs => do
      let type ← Play.type type
      let implementation ← Play.implementation spec
      let made ← Play.run fun stage => stage.createMethod name isPrivate implementation
      modify fun stage => stage.define type made
      match keepAs with
      | some key =>
          Play.onBench fun bench => { bench with methods := NameMap.insert bench.methods key made }
      | none => pure ()
      pure (.ok (← Play.shownMethod (some made)))
  | .remove type name => do
      let type ← Play.type type
      let removed ← Play.run fun stage =>
        let (removed, types, points) := stage.types.remove type name stage.points
        (removed, { stage with types, points })
      pure (.ok (← Play.shownMethod removed))
  | .method type name => do
      let type ← Play.type type
      pure (.ok (← Play.shownMethod ((← get).types.ownMethod? type name)))
  | .search type name => do
      let type ← Play.type type
      match (← get).types.search? type name with
      | some (found, owner) =>
          let shown ← Play.shownMethod (some found)
          pure (.ok (.record [("method", shown), ("owner", .text owner.name)]))
      | none => pure (.ok .null)
  | .lookup type name keepAs => do
      let type ← Play.type type
      let result := (← get).lookup type name
      match keepAs with
      | some key =>
          Play.onBench fun bench =>
            { bench with tokens := NameMap.insert bench.tokens key result.token }
      | none => pure ()
      pure (.ok (← Play.shownLookup result))
  | .promote type name spec => do
      let type ← Play.type type
      let body ← Play.compiledBody spec
      let promoted ← Play.run fun stage =>
        let (promoted, types, points) := stage.types.promote type name body stage.points
        (promoted, { stage with types, points })
      pure (.ok (.bool promoted))
  | .invalidate type => do
      let type ← Play.type type
      modify fun stage =>
        let (types, points) := stage.types.invalidateFamily type stage.points
        { stage with types, points }
      pure (.ok (.bool true))
  | .accessor type name write => do
      let type ← Play.type type
      let place ←
        if write then Play.run fun stage => stage.accessorForWrite type name
        else pure ((← get).types.accessorForRead type name)
      pure (.ok place.answer)
  | .accessorGet receiver place => do
      let receiver ← Play.value receiver
      let stage ← get
      let raw := match receiver.object? with
        | some target => stage.host.optional (stage.objects.get? target place)
        | none => .null
      pure (.ok (.record
        [("read", stage.host.answer (stage.readThrough place receiver)), ("raw", raw)]))
  | .accessorSet receiver place value => do
      let receiver ← Play.value receiver
      let value ← Play.value value
      let outcome ← Play.run fun stage => stage.writeThrough place receiver value
      Play.shownOutcome outcome
  | .object name type => do
      let type ← Play.type type
      let made ← Play.run fun stage => stage.createObject type
      Play.onBench fun bench => { bench with objects := NameMap.insert bench.objects name made }
      pure (.ok (.bool true))
  | .getVariable receiver name => do
      match ← Play.value receiver with
      | .object target => pure (.ok (← Play.shownOptional ((← get).getVariable target name)))
      | _ => failure
  | .setVariable receiver name value => do
      match ← Play.value receiver with
      | .object target =>
          let value ← Play.value value
          modify fun stage => stage.setVariable target name value
          pure (.ok (.bool true))
      | _ => failure

end InlineCache
