import InlineCache.Block
import InlineCache.CallSite.Basic
import InlineCache.CallSite.Thunk
import InlineCache.Context
import InlineCache.Coverage
import InlineCache.Demo.Basic
import InlineCache.Demo.Command
import InlineCache.Demo.CommandLine
import InlineCache.Demo.Scenario
import InlineCache.DispatchCell
import InlineCache.Fault
import InlineCache.Global.Site
import InlineCache.Global.Table
import InlineCache.Interning
import InlineCache.Log
import InlineCache.Main
import InlineCache.Method.Basic
import InlineCache.NameMap
import InlineCache.Objects
import InlineCache.Options
import InlineCache.Proofs.Facts
import InlineCache.Proofs.Frames
import InlineCache.Proofs.Hooks
import InlineCache.Proofs.Queues
import InlineCache.Proofs.Steady
import InlineCache.Proofs.Transparency
import InlineCache.Proofs.Variables
import InlineCache.Safepoint
import InlineCache.Scope.Dynamic
import InlineCache.Scope.Local
import InlineCache.Scope.Static
import InlineCache.Send.Block
import InlineCache.Send.Method
import InlineCache.Send.Site
import InlineCache.Send.Specialize
import InlineCache.Send.Uncached
import InlineCache.Session.Answer
import InlineCache.Session.Arity
import InlineCache.Session.Bench
import InlineCache.Session.Blocks
import InlineCache.Session.Cells
import InlineCache.Session.Contexts
import InlineCache.Session.Coverage
import InlineCache.Session.Globals
import InlineCache.Session.Liveness
import InlineCache.Session.Perform
import InlineCache.Session.Play
import InlineCache.Session.Routine
import InlineCache.Session.Run
import InlineCache.Session.Scopes
import InlineCache.Session.Sends
import InlineCache.Session.Step
import InlineCache.Session.Tables
import InlineCache.Session.Tokens
import InlineCache.Session.Types
import InlineCache.Session.Values
import InlineCache.Signature
import InlineCache.Slots
import InlineCache.SwitchPoint
import InlineCache.Text.Blank
import InlineCache.Text.Numeral
import InlineCache.Text.Quoted
import InlineCache.Text.Unprintable
import InlineCache.Types.Basic
import InlineCache.Types.Family
import InlineCache.Types.Lookup
import InlineCache.Value.Basic
import InlineCache.Value.Dict
import InlineCache.Value.Equality
import InlineCache.Value.Feed
import InlineCache.Value.Literal
import InlineCache.Value.Render
import InlineCache.World.Basic
import InlineCache.World.Safepoints
import InlineCache.Proofs.Handover
import InlineCache.Proofs.Reasons
import InlineCache.Proofs.Writers
import InlineCache.Proofs.Counts
import InlineCache.Proofs.Missing
import InlineCache.Proofs.Chains
import InlineCache.Proofs.Renewal
import InlineCache.Proofs.Demotion
import InlineCache.Proofs.SlowPaths
import InlineCache.Proofs.Hashing
import InlineCache.Proofs.SharedSlots
import InlineCache.Proofs.Addresses
import InlineCache.Proofs.Inheritance
import InlineCache.Proofs.Issuer
import InlineCache.Proofs.Legible
import InlineCache.Proofs.Wording
import InlineCache.Proofs.Adaptation
import InlineCache.Proofs.Literals
import InlineCache.Proofs.Borrowing
import InlineCache.Proofs.Dispatch
import InlineCache.Proofs.LineHits
import InlineCache.Proofs.Results
import InlineCache.Proofs.Parameters
import InlineCache.Proofs.Symbols
import InlineCache.Proofs.Bounds
import InlineCache.Proofs.LineReport
