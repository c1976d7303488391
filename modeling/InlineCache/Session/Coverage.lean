/-
# InlineCache.Session.Coverage -- playing steps about coverage
-/
import InlineCache.Session.Bench

namespace InlineCache

set_option autoImplicit false

namespace Coverage

/-- What a record tells about one file.  Files are listed in the order of their names. -/
def portrait (coverage : Coverage) (file : String) : Answer :=
  let files := (coverage.files.map Prod.fst).mergeSort fun a b => decide (a ≤ b)
  let counts := (coverage.lineCounts file).map fun counts => Answer.list (counts.map .ofNat)
  .record [("oneshot", .bool coverage.oneShot), ("files", .list (files.map .text)),
    ("counts", counts.getD .null),
    ("lines", .list ((coverage.coveredLines file).map .ofNat))]

end Coverage

namespace CoverLineSite

def coverTimes : Nat → CoverLineSite → Option Coverage → CoverLineSite × Option Coverage
  | 0, site, coverage? => (site, coverage?)
  | times + 1, site, coverage? =>
      let (site, coverage?) := site.cover coverage?
      coverTimes times site coverage?

end CoverLineSite

def CoverageStep.play : CoverageStep → Play Answer
  | .site keepAs file line => do
      let made : CoverLineSite := { file, line }
      Play.onBench fun bench =>
        { bench with coverSites := NameMap.insert bench.coverSites keepAs made }
      pure (.ok (.number line.toNat))
  | .cover name times => do
      let before ← Play.named Bench.coverSites name
      let (after, coverage) := before.coverTimes times (← getThe Stage).coverage
      modify fun stage => { stage with coverage }
      Play.onBench fun bench =>
        { bench with coverSites := NameMap.insert bench.coverSites name after }
      pure (.ok (.record [("spent", .bool after.spent)]))
  | .create keepAs oneShot => do
      Play.onBench fun bench =>
        { bench with coverages := NameMap.insert bench.coverages keepAs { oneShot } }
      pure (.ok (.bool true))
  | .record name file line => do
      let before ← Play.named Bench.coverages name
      Play.onBench fun bench => { bench with
        coverages := NameMap.insert bench.coverages name (before.record file line.toNat) }
      pure (.ok (.bool true))
  | .info file name? => do
      let asked ← match name? with
        | some name => some <$> Play.named Bench.coverages name
        | none => pure (← getThe Stage).coverage
      pure (.ok ((asked.map fun coverage => coverage.portrait file).getD .null))

end InlineCache
