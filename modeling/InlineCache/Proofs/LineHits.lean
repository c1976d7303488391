/-
# InlineCache.Proofs.LineHits -- what the counts of a file tell

A record of coverage is told here by the reports made to it, each of a file and a line; a
marker in front of a line reports each time, or once only when the record is a one-shot one.

* `LineCounts.Tallies`: the counts of a file are those of the lines reported for it, and
  reach as far as the largest;
* `Coverage.lineCounts_recordAll`: so what a record tells of a file is read off the reports;
* `Markers.reports`: which calls of markers report;
* `line_counts_exact`: so the counts of a file tell how often its lines were covered, or how
  many markers of each were.
-/
import InlineCache.Coverage
import Mathlib.Data.Fin.VecNotation
import Mathlib.Data.Finset.Card
import Mathlib.Data.Finset.Dedup
import Mathlib.Data.List.Dedup

namespace InlineCache

set_option autoImplicit false

/-! ## Reports -/

/-- The counts of a file tally with the lines reported for it. -/
structure LineCounts.Tallies (counts : LineCounts) (lines : List Nat) : Prop where
  extent : counts.extent = (lines.max?.map (· + 1)).getD 0
  count : ∀ line, counts.count line = lines.count line

namespace LineCounts.Tallies

theorem nil : LineCounts.Tallies {} [] where
  extent := rfl
  count _ := rfl

/-- **One more report.** -/
theorem record {counts : LineCounts} {lines : List Nat} (tallies : counts.Tallies lines)
    (line : Nat) : (counts.record line).Tallies (line :: lines) where
  extent := by
    show max counts.extent (line + 1) = _
    rw [tallies.extent, List.max?_cons]
    cases lines.max? with
    | none => simp
    | some largest => simp [Nat.max_comm, Nat.add_max_add_right]
  count other := by
    rw [count_record, tallies.count, List.count_cons]
    simp [beq_iff_eq]

end LineCounts.Tallies

namespace Coverage

/-- A fresh record to which reports were made, the latest first. -/
def recordAll (oneShot : Bool) (reports : List (String × Nat)) : Coverage :=
  reports.foldr (fun report coverage => coverage.record report.1 report.2) { oneShot }

/-- The lines reported for a file. -/
def linesIn (file : String) (reports : List (String × Nat)) : List Nat :=
  (reports.filter fun report => report.1 = file).map Prod.snd

theorem linesIn_cons (file : String) (report : String × Nat) (reports : List (String × Nat)) :
    linesIn file (report :: reports) =
      if report.1 = file then report.2 :: linesIn file reports else linesIn file reports := by
  by_cases here : report.1 = file <;> simp [linesIn, here]

theorem oneShot_recordAll (oneShot : Bool) (reports : List (String × Nat)) :
    (recordAll oneShot reports).oneShot = oneShot := by
  induction reports with
  | nil => rfl
  | cons report earlier ih => exact ih

/-- A file is in the record once something was reported for it, and its counts tally. -/
theorem tallies_recordAll (oneShot : Bool) (reports : List (String × Nat)) (file : String) :
    match NameMap.get? (recordAll oneShot reports).files file with
    | some counts => linesIn file reports ≠ [] ∧ counts.Tallies (linesIn file reports)
    | none => linesIn file reports = [] := by
  induction reports with
  | nil => rfl
  | cons report earlier ih =>
      show match NameMap.get? (NameMap.insert (recordAll oneShot earlier).files report.1
        (((NameMap.get? (recordAll oneShot earlier).files report.1).getD {}).record report.2)) file with
        | some counts => _
        | none => _
      rw [NameMap.get?_insert, linesIn_cons]
      by_cases here : report.1 = file
      · subst here
        simp only [if_true]
        refine ⟨List.cons_ne_nil _ _, ?_⟩
        cases found : NameMap.get? (recordAll oneShot earlier).files report.1 with
        | none =>
            rw [found] at ih
            rw [ih]
            exact LineCounts.Tallies.nil.record report.2
        | some counts =>
            rw [found] at ih
            exact ih.2.record report.2
      · simpa only [here, if_false] using ih

/-- **What a record tells of a file**: nothing if nothing was reported for it, and otherwise
how often each line was, from line zero to the largest. -/
theorem lineCounts_recordAll (oneShot : Bool) (reports : List (String × Nat)) (file : String) :
    (recordAll oneShot reports).lineCounts file =
      (linesIn file reports).max?.map fun largest =>
        (List.range (largest + 1)).map fun line => (linesIn file reports).count line := by
  have tallies := tallies_recordAll oneShot reports file
  unfold lineCounts
  cases found : NameMap.get? (recordAll oneShot reports).files file with
  | none =>
      rw [found] at tallies
      simp [show linesIn file reports = [] from tallies]
  | some counts =>
      rw [found] at tallies
      obtain ⟨some_, tallies⟩ := tallies
      obtain ⟨largest, max⟩ := Option.isSome_iff_exists.1 (List.isSome_max?_of_ne_nil some_)
      have extent : counts.extent = largest + 1 := by rw [tallies.extent, max]; rfl
      have count : counts.count = fun line => (linesIn file reports).count line :=
        funext tallies.count
      simp only [Option.map_some, max, LineCounts.toList, extent, count]

end Coverage

/-! ## Markers -/

namespace CoverLineSite

variable {site : CoverLineSite}

theorem cover_of_spent (spent : site.spent = true) (coverage? : Option Coverage) :
    site.cover coverage? = (site, coverage?) := by
  simp [cover, spent]

theorem cover_of_unspent (unspent : site.spent = false) (coverage : Coverage) :
    site.cover (some coverage) =
      ({ site with spent := coverage.oneShot },
        some (coverage.record site.file site.line.toNat)) := by
  simp [cover, unspent]

end CoverLineSite

/-- Markers in front of lines, and the record that they report to, if there is one. -/
structure Markers (ι : Type) where
  sites : ι → CoverLineSite
  coverage? : Option Coverage

namespace Markers

variable {ι : Type}

def place (sites : ι → CoverLineSite) (marker : ι) : String × Nat :=
  ((sites marker).file, (sites marker).line.toNat)

/-- The lines of a file that were covered, once for each call. -/
def linesCovered (start : ι → CoverLineSite) (calls : List ι) (file : String) : List Nat :=
  Coverage.linesIn file (calls.map (place start))

theorem linesCovered_eq (start : ι → CoverLineSite) (calls : List ι) (file : String) :
    linesCovered start calls file =
      (calls.filter fun marker => (start marker).file = file).map fun marker =>
        (start marker).line.toNat := by
  simp only [linesCovered, Coverage.linesIn, List.filter_map, List.map_map]
  rfl

/-- How often a line was covered is how many calls were of its markers. -/
theorem count_linesCovered (start : ι → CoverLineSite) (calls : List ι) (file : String)
    (line : Nat) :
    (linesCovered start calls file).count line =
      calls.countP fun marker => place start marker = (file, line) := by
  rw [linesCovered_eq, List.count_eq_countP, List.countP_map, List.countP_filter]
  refine List.countP_congr fun marker _ => ?_
  simp [place, Prod.ext_iff, and_comm]

/-- The largest line covered is that of any calls of the same markers. -/
theorem max?_linesCovered {start : ι → CoverLineSite} {calls others : List ι}
    (same : ∀ marker, marker ∈ others ↔ marker ∈ calls)
    (file : String) :
    (linesCovered start others file).max? = (linesCovered start calls file).max? := by
  have members : ∀ line, line ∈ linesCovered start others file ↔
      line ∈ linesCovered start calls file := by
    intro line
    simp only [linesCovered_eq, List.mem_map, List.mem_filter, same]
  cases largest : (linesCovered start calls file).max? with
  | none =>
      rw [List.max?_eq_none_iff] at largest ⊢
      rw [List.eq_nil_iff_forall_not_mem] at largest ⊢
      exact fun line member => largest line ((members line).1 member)
  | some line =>
      rw [List.max?_eq_some_iff] at largest ⊢
      exact ⟨(members line).2 largest.1, fun other member =>
        largest.2 other ((members other).1 member)⟩

variable [DecidableEq ι]

/-- The line of a marker runs, in whatever context. -/
def cover (markers : Markers ι) (marker : ι) : Markers ι :=
  let covered := (markers.sites marker).cover markers.coverage?
  { sites := Function.update markers.sites marker covered.1, coverage? := covered.2 }

/-- The calls that report, of all calls: in a one-shot record the first of each marker. -/
def reports (oneShot : Bool) (calls : List ι) : List ι := if oneShot then calls.dedup else calls

variable {start : ι → CoverLineSite} {oneShot : Bool} {calls : List ι} {markers : Markers ι}

/-- Any number of calls, the latest first, with what they have reported: every marker is
where it was, and in a one-shot record it is spent once it was called. -/
structure Covered (start : ι → CoverLineSite) (oneShot : Bool) (calls : List ι)
    (markers : Markers ι) : Prop where
  sites : ∀ marker, markers.sites marker =
    { start marker with spent := oneShot && decide (marker ∈ calls) }
  coverage : markers.coverage? =
    some (.recordAll oneShot ((reports oneShot calls).map (place start)))

/-- **One more call.** -/
theorem Covered.cover (covered : Covered start oneShot calls markers) (marker : ι) :
    Covered start oneShot (marker :: calls) (markers.cover marker) := by
  by_cases spent : oneShot = true ∧ marker ∈ calls
  · -- a marker that has reported in a one-shot record is left as it is
    obtain ⟨rfl, again⟩ := spent
    have passed : (markers.sites marker).spent = true := by simp [covered.sites marker, again]
    have same : markers.cover marker = markers := by
      rw [Markers.cover, CoverLineSite.cover_of_spent passed]
      simp
    have called : ∀ other, other ∈ marker :: calls ↔ other ∈ calls := fun other =>
      ⟨fun member => (List.mem_cons.1 member).elim (· ▸ again) id, List.mem_cons_of_mem _⟩
    rw [same]
    refine ⟨fun other => ?_, ?_⟩
    · rw [covered.sites other]
      simp only [called]
    · rw [covered.coverage, reports, reports, if_pos rfl, if_pos rfl, List.dedup_cons_of_mem again]
  · have reports_ : reports oneShot (marker :: calls) = marker :: reports oneShot calls := by
      cases oneShot with
      | false => rfl
      | true => exact List.dedup_cons_of_notMem fun again => spent ⟨rfl, again⟩
    have reported : (markers.sites marker).cover markers.coverage? =
        ({ start marker with spent := oneShot },
          some (.recordAll oneShot ((reports oneShot (marker :: calls)).map (place start)))) := by
      have unspent : (markers.sites marker).spent = false := by
        simpa [covered.sites marker] using spent
      rw [covered.coverage, CoverLineSite.cover_of_unspent unspent, covered.sites marker, reports_,
        Coverage.oneShot_recordAll]
      rfl
    refine ⟨fun other => ?_, ?_⟩
    · rw [Markers.cover, reported]
      by_cases here : other = marker
      · subst here
        simp
      · simp [here, covered.sites other]
    · rw [Markers.cover, reported]

/-- Markers that nobody has called. -/
theorem Covered.none (unspent : ∀ marker, (start marker).spent = false) :
    Covered start oneShot [] { sites := start, coverage? := some { oneShot } } where
  sites marker := by
    show start marker = { start marker with spent := oneShot && decide (marker ∈ []) }
    rw [decide_eq_false List.not_mem_nil, Bool.and_false, ← unspent marker]
  coverage := by cases oneShot <;> rfl

def coverAll (markers : Markers ι) (calls : List ι) : Markers ι := calls.foldl cover markers

theorem Covered.coverAll {earlier : List ι} (covered : Covered start oneShot earlier markers)
    (calls : List ι) :
    Covered start oneShot (calls.reverse ++ earlier) (markers.coverAll calls) := by
  induction calls generalizing markers earlier with
  | nil => exact covered
  | cons marker rest ih =>
      rw [List.reverse_cons, List.append_assoc]
      exact ih (covered.cover marker)

theorem coverAll_disabled (start : ι → CoverLineSite) (calls : List ι) :
    Markers.coverAll { sites := start, coverage? := .none } calls =
      { sites := start, coverage? := .none } := by
  induction calls with
  | nil => rfl
  | cons marker rest ih =>
      have passed : Markers.cover { sites := start, coverage? := .none } marker =
          { sites := start, coverage? := .none } := by
        simp [Markers.cover, CoverLineSite.cover_disabled]
      show Markers.coverAll (Markers.cover _ marker) rest = _
      rw [passed, ih]

/-! ## What the counts tell of the calls -/

theorem mem_reports {marker : ι} : marker ∈ reports oneShot calls ↔ marker ∈ calls := by
  cases oneShot
  · exact Iff.rfl
  · exact List.mem_dedup

theorem countP_dedup (calls : List ι) (p : ι → Prop) [DecidablePred p] :
    calls.dedup.countP p = (calls.toFinset.filter p).card := by
  have distinct : (calls.dedup.filter p).Nodup := (List.nodup_dedup calls).filter _
  rw [List.countP_eq_length_filter, ← List.toFinset_card_of_nodup distinct]
  congr 1
  ext marker
  simp

/-- What the record tells of a file after calls. -/
theorem Covered.lineCounts {earlier : List ι} (covered : Covered start oneShot earlier markers) :
    ∃ coverage, markers.coverage? = some coverage ∧ ∀ file, coverage.lineCounts file =
      (linesCovered start earlier file).max?.map fun largest =>
        (List.range (largest + 1)).map fun line =>
          (reports oneShot earlier).countP fun marker => place start marker = (file, line) := by
  refine ⟨_, covered.coverage, fun file => ?_⟩
  rw [Coverage.lineCounts_recordAll]
  show (linesCovered start (reports oneShot earlier) file).max?.map _ = _
  rw [max?_linesCovered fun _ => mem_reports]
  simp only [← count_linesCovered]
  rfl

/-- **Coverage counts are exact.**  Take any markers, several of them in front of one line if
need be, and any calls of them, in any order and whoever makes them.  What the record tells of
a file is nothing if no marker of the file was called, and otherwise one count for each line
from zero to the largest that was covered: the number of calls of markers of that line, or in
a one-shot record the number of markers of that line that were called.  In a one-shot record
a marker is spent exactly if it was called, and otherwise none ever is; and without a record
nothing happens. -/
theorem line_counts_exact (start : ι → CoverLineSite)
    (unspent : ∀ marker, (start marker).spent = false) (calls : List ι) :
    let after := fun coverage? => Markers.coverAll { sites := start, coverage? } calls
    (∃ coverage, (after (some {})).coverage? = some coverage ∧ (after (some {})).sites = start ∧
        ∀ file, coverage.lineCounts file =
          (linesCovered start calls file).max?.map fun largest =>
            (List.range (largest + 1)).map fun line =>
              calls.countP fun marker => place start marker = (file, line)) ∧
      (∃ coverage, (after (some { oneShot := true })).coverage? = some coverage ∧
        (∀ marker, (after (some { oneShot := true })).sites marker =
          { start marker with spent := decide (marker ∈ calls) }) ∧
        ∀ file, coverage.lineCounts file =
          (linesCovered start calls file).max?.map fun largest =>
            (List.range (largest + 1)).map fun line =>
              (calls.toFinset.filter fun marker => place start marker = (file, line)).card) ∧
      after none = { sites := start, coverage? := none } := by
  intro after
  have reversed : ∀ marker, marker ∈ calls.reverse ++ [] ↔ marker ∈ calls := by simp
  have covered : ∀ oneShot : Bool, Covered start oneShot (calls.reverse ++ [])
      (after (some { oneShot })) := fun oneShot => (Covered.none unspent).coverAll calls
  refine ⟨?_, ?_, coverAll_disabled start calls⟩
  · obtain ⟨coverage, is, counts⟩ := (covered false).lineCounts
    refine ⟨coverage, is, funext fun marker => ?_, fun file => ?_⟩
    · rw [(covered false).sites marker, Bool.false_and, ← unspent marker]
    · rw [counts, max?_linesCovered reversed]
      simp only [reports, Bool.false_eq_true, if_false, List.append_nil, List.countP_reverse]
  · obtain ⟨coverage, is, counts⟩ := (covered true).lineCounts
    refine ⟨coverage, is, fun marker => ?_, fun file => ?_⟩
    · rw [(covered true).sites marker, Bool.true_and]
      simp only [reversed]
    · rw [counts, max?_linesCovered reversed]
      simp only [reports, if_true, countP_dedup, List.append_nil, List.toFinset_reverse]

/-- Two markers of one line of a file, one of its first line, and one of another file, called
at various times: line counts tell of three calls for the one line and of none for the line
in between, a one-shot record of two markers; and nothing is told of a third file. -/
theorem line_counts_exact_of_four :
    let start : Fin 4 → CoverLineSite := ![⟨"a.rb", 2, false⟩, ⟨"a.rb", 2, false⟩,
      ⟨"a.rb", 0, false⟩, ⟨"b.rb", 1, false⟩]
    let calls : List (Fin 4) := [1, 0, 1, 3, 2]
    let told := fun (coverage : Coverage) (file : String) =>
      ((Markers.coverAll { sites := start, coverage? := some coverage } calls).coverage?.bind
        fun coverage => coverage.lineCounts file)
    told {} "a.rb" = some [1, 0, 3] ∧ told {} "b.rb" = some [0, 1] ∧ told {} "c.rb" = none ∧
      told { oneShot := true } "a.rb" = some [1, 0, 2] := by
  intro start calls told
  obtain ⟨⟨lines, is, -, counts⟩, ⟨once, is', -, marks⟩, -⟩ :=
    line_counts_exact start (by decide) calls
  simp only [told, is, is', Option.bind_some, counts, marks]
  decide

end Markers

end InlineCache
