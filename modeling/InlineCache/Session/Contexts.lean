/-
# InlineCache.Session.Contexts -- playing steps about contexts and safepoints

A name given to a second context passes to it before the first is finished.  The number
of a context stays known under its name after the context is finished, so that it can
still be interrupted, in vain.
-/
import InlineCache.Send.Method
import InlineCache.Session.Bench
import InlineCache.World.Safepoints

namespace InlineCache

set_option autoImplicit false

namespace Frame

/-- A frame as self, type and name. -/
def portrait (frame : Frame) (bench : Bench) (owner : TypeRef → Answer)
    (name : String → Answer) : Answer :=
  .list [bench.answer frame.self, (frame.owner.map owner).getD .null,
    (frame.name.map name).getD .null]

end Frame

namespace Play

def contextPortrait (context : ContextRef) : Play Answer := do
  let stage ← get
  let state := stage.context context
  let depth := state.frames.depth
  let debug := "ThreadContext \x7b id: " ++ context.render ++ ", frames: " ++ toString depth ++
    ", call_info: " ++ state.renderCallInfo ++ ", .. \x7d"
  let frame := state.frames.current.portrait stage.host
    (fun owner => .text owner.name) (fun name => .text name)
  pure (.record [("depth", .ofNat depth), ("kwargs", .bool state.kwargs),
    ("polls", .ofNat state.polls), ("frame", frame), ("debug", .text debug)])

/-- A new context under a name; one that had the name is finished.  Answers whether
there was one. -/
def createContext (name : String) : Play Bool := do
  let replaced := NameMap.get? (← get).host.contexts name
  let made ← run World.createContext
  onBench fun bench => { bench with
    contexts := NameMap.insert bench.contexts name made
    contextIds := NameMap.insert bench.contextIds name made }
  match replaced with
  | some old => modify fun stage => stage.releaseContext old
  | none => pure ()
  pure replaced.isSome

def dropContext (name : String) : Play Bool := do
  match NameMap.get? (← get).host.contexts name with
  | some old =>
      onBench fun bench => { bench with contexts := NameMap.erase bench.contexts name }
      modify fun stage => stage.releaseContext old
      pure true
  | none => pure false

end Play

def kwargsBits (kwargs : Bool) : Answer := .number (if kwargs then 1 else 0)

def ContextStep.play (context : ContextRef) : ContextStep → Play Answer
  | .create keepAs => do pure (.ok (.bool (← Play.createContext keepAs)))
  | .drop name => do pure (.ok (.bool (← Play.dropContext name)))
  | .info => do pure (.ok (← Play.contextPortrait context))
  | .pushFrame self owner name => do
      let self ← Play.value self
      let frame : Frame ← match owner with
        | some type => do pure ⟨self, some (← Play.type type), some name⟩
        | none => pure { self }
      modify fun stage => stage.pushFrame context frame
      pure (.ok (← Play.contextPortrait context))
  | .popFrame => do
      let (popped, frames) := ((← get).context context).frames.pop
      modify fun stage => stage.modifyContext context fun state => { state with frames }
      let popped ← match popped with
        | some frame => Play.shown frame.self
        | none => pure .null
      pure (.ok (.record [("popped", popped), ("ctx", ← Play.contextPortrait context)]))
  | .setInfo kwargs keepAs => do
      match keepAs with
      | some key =>
          Play.onBench fun bench =>
            { bench with callInfos := NameMap.insert bench.callInfos key kwargs }
      | none => modify fun stage => stage.setKwargs context kwargs
      pure (.ok (.bool ((← get).context context).kwargs))
  | .infoSite name => do
      let flags ← Play.named Bench.callInfos name
      modify fun stage => stage.setKwargs context flags
      let set := ((← get).context context).kwargs
      pure (.ok (.list [kwargsBits flags, kwargsBits set]))
  | .takeInfo => do
      let taken ← Play.run fun stage => stage.takeKwargs context
      pure (.ok (kwargsBits taken))
  | .setReason reason => do
      modify fun stage => stage.setMissingReason context reason
      pure (.ok (.bool true))
  | .takeReason => do
      let taken ← Play.run fun stage => stage.takeMissingReason context
      pure (.ok (.text taken.name))
  | .raiseMissing receiver args => do
      let receiver ← Play.value receiver
      let args ← Play.values args
      let outcome ← Play.run fun stage => stage.raiseMissing context receiver args
      Play.shownOutcome outcome
  | .checkpoint keepAs => do
      Play.onBench fun bench =>
        { bench with checkpoints := NameMap.insert bench.checkpoints keepAs {} }
      pure (.ok (.bool true))
  | .poll name => do
      let before ← Play.named Bench.checkpoints name
      let (outcome, after) ← Play.run fun stage =>
        let (outcome, after, stage) := stage.poll before context
        ((outcome, after), stage)
      Play.onBench fun bench =>
        { bench with checkpoints := NameMap.insert bench.checkpoints name after }
      let polls := ((← get).context context).polls
      pure ((Answer.ofCheck outcome).extend
        [("slow", .ofNat after.slowPaths), ("polls", .ofNat polls)])
  | .pollEvents => do
      let outcome ← Play.run fun stage => stage.pollEvents context
      pure (.ofCheck outcome)
  | .interrupt target spec => do
      let fault ← Play.fault spec
      let target ← Play.named Bench.contextIds target
      modify fun stage => stage.interrupt target fault
      pure (.ok (.bool true))
  | .requestSafepoint => do
      modify World.requestSafepoint
      pure (.ok (.bool true))

end InlineCache
