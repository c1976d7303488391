/-
# InlineCache.Proofs.LineReport -- which lines a report has

A report of a file has the lines that were reported at least once.  It is read off the counts
of the file, from line zero on, and how far they reach is kept in 32 bits.  Lines have 32 bits
too, and the counts reach one beyond the largest: so the largest line there is takes a length
that wraps to zero.

* `Coverage.coveredLines_recordAll`: what the report of a file is, by the lines reported;
* `Coverage.report_complete_iff`: it has all of them, in ascending order, exactly if the
  largest line there is was not reported;
* `Coverage.last_line_empties_report`: a report that has lost every line.
-/
import InlineCache.Proofs.LineHits

namespace InlineCache

set_option autoImplicit false

namespace Coverage

variable {oneShot : Bool} {reports : List (String × Nat)} {file : String} {line : Nat}

/-! ## How far the counts reach -/

theorem mem_linesIn : line ∈ linesIn file reports ↔ (file, line) ∈ reports := by
  constructor
  · intro member
    obtain ⟨report, reported, rfl⟩ := List.mem_map.1 member
    obtain ⟨there, its⟩ := List.mem_filter.1 reported
    obtain rfl := of_decide_eq_true its
    exact there
  · intro reported
    exact List.mem_map.2 ⟨_, List.mem_filter.2 ⟨reported, decide_eq_true rfl⟩, rfl⟩

/-- How far the counts of a file reach. -/
def reach (file : String) (reports : List (String × Nat)) : Nat :=
  ((linesIn file reports).max?.map (· + 1)).getD 0

theorem lt_reach (reported : (file, line) ∈ reports) : line < reach file reports := by
  have member := mem_linesIn.2 reported
  obtain ⟨largest, max⟩ := Option.isSome_iff_exists.1
    (List.isSome_max?_of_ne_nil (List.ne_nil_of_mem member))
  rw [reach, max]
  exact Nat.lt_succ_of_le ((List.max?_eq_some_iff.1 max).2 line member)

theorem reach_le {bound : Nat} (below : ∀ line, (file, line) ∈ reports → line < bound) :
    reach file reports ≤ bound := by
  rw [reach]
  cases max : (linesIn file reports).max? with
  | none => exact Nat.zero_le _
  | some largest => exact below largest (mem_linesIn.1 (List.max?_eq_some_iff.1 max).1)

/-- The report of a file: the lines reported for it below how far its counts reach, in 32
bits. -/
theorem coveredLines_recordAll (oneShot : Bool) (reports : List (String × Nat)) (file : String) :
    (recordAll oneShot reports).coveredLines file =
      (List.range (reach file reports % UInt32.size)).filter fun line =>
        decide ((file, line) ∈ reports) := by
  have tallies := tallies_recordAll oneShot reports file
  unfold coveredLines
  cases found : NameMap.get? (recordAll oneShot reports).files file with
  | none =>
      rw [found] at tallies
      have unreported : linesIn file reports = [] := tallies
      simp [reach, unreported]
  | some counts =>
      rw [found] at tallies
      show (List.range (counts.extent % UInt32.size)).filter _ = _
      rw [tallies.2.extent]
      refine List.filter_congr fun line _ => ?_
      rw [tallies.2.count]
      exact decide_eq_decide.2 (List.count_pos_iff.trans mem_linesIn)

/-- A report is ascending and has no line twice. -/
theorem pairwise_coveredLines (oneShot : Bool) (reports : List (String × Nat)) (file : String) :
    ((recordAll oneShot reports).coveredLines file).Pairwise (· < ·) := by
  rw [coveredLines_recordAll]
  exact List.pairwise_lt_range.filter _

/-- **A line is in the report if it was reported, provided that the reach fits 32 bits.** -/
theorem mem_coveredLines (fits : reach file reports < UInt32.size) :
    line ∈ (recordAll oneShot reports).coveredLines file ↔ (file, line) ∈ reports := by
  rw [coveredLines_recordAll, Nat.mod_eq_of_lt fits, List.mem_filter, List.mem_range,
    decide_eq_true_iff]
  exact ⟨And.right, fun reported => ⟨lt_reach reported, reported⟩⟩

/-- Of a reach that 32 bits count as zero nothing is left. -/
theorem coveredLines_of_wrapped (wrapped : reach file reports = UInt32.size) :
    (recordAll oneShot reports).coveredLines file = [] := by
  rw [coveredLines_recordAll, wrapped, Nat.mod_self]
  rfl

/-! ## Lines in 32 bits -/

/-- The largest line that can be reported. -/
def lastLine : UInt32 := 4294967295

/-- Reports of lines in 32 bits, by the numbers of the lines. -/
def byNumber (records : List (String × UInt32)) : List (String × Nat) :=
  records.map fun record => (record.1, record.2.toNat)

/-- The report of a file when lines were reported to a fresh record, the latest first. -/
def report (oneShot : Bool) (records : List (String × UInt32)) (file : String) : List Nat :=
  (recordAll oneShot (byNumber records)).coveredLines file

variable {records : List (String × UInt32)}

theorem mem_byNumber :
    (file, line) ∈ byNumber records ↔
      ∃ reported : UInt32, (file, reported) ∈ records ∧ reported.toNat = line := by
  simp [byNumber, Prod.ext_iff]

theorem reach_byNumber_le : reach file (byNumber records) ≤ UInt32.size :=
  reach_le fun _ listed => by
    obtain ⟨reported, -, rfl⟩ := mem_byNumber.1 listed
    exact reported.toNat_lt_size

/-- The counts of a file reach beyond what 32 bits count exactly if its last line was
reported. -/
theorem reach_eq_size_iff :
    reach file (byNumber records) = UInt32.size ↔ (file, lastLine) ∈ records := by
  constructor
  · intro wrapped
    by_contra unreported
    have short : reach file (byNumber records) ≤ lastLine.toNat := by
      refine reach_le fun _ listed => ?_
      obtain ⟨reported, there, rfl⟩ := mem_byNumber.1 listed
      have other : reported.toNat ≠ lastLine.toNat := fun same =>
        unreported (UInt32.toNat_inj.1 same ▸ there)
      have below := reported.toNat_lt_size
      have last : lastLine.toNat + 1 = UInt32.size := rfl
      omega
    rw [wrapped] at short
    exact absurd short (by decide)
  · intro reported
    have reached : lastLine.toNat < reach file _ := lt_reach (mem_byNumber.2 ⟨_, reported, rfl⟩)
    exact Nat.le_antisymm reach_byNumber_le reached

/-- **The report of a file has every line that was reported, unless its last line was.**  Take
any lines of 32 bits, reported for any files in any order.  The report of a file is ascending
and has no line twice, and it has exactly the lines that were reported for the file if and
only if the largest line there is was not among them; if it was, the report is empty, whatever
else was reported.  The report of a file for which nothing was reported is empty too. -/
theorem report_complete_iff (oneShot : Bool) (records : List (String × UInt32)) (file : String) :
    (report oneShot records file).Pairwise (· < ·) ∧
      ((∀ line, line ∈ report oneShot records file ↔
          ∃ reported : UInt32, (file, reported) ∈ records ∧ reported.toNat = line) ↔
        (file, lastLine) ∉ records) ∧
      ((file, lastLine) ∈ records → report oneShot records file = []) ∧
      ((∀ reported, (file, reported) ∉ records) → report oneShot records file = []) := by
  have wrapped : (file, lastLine) ∈ records → report oneShot records file = [] := fun last =>
    coveredLines_of_wrapped (reach_eq_size_iff.2 last)
  have complete : (file, lastLine) ∉ records → ∀ line, line ∈ report oneShot records file ↔
      ∃ reported : UInt32, (file, reported) ∈ records ∧ reported.toNat = line := by
    intro unreported line
    have fits := lt_of_le_of_ne reach_byNumber_le (unreported ∘ reach_eq_size_iff.1)
    exact (mem_coveredLines fits).trans mem_byNumber
  refine ⟨pairwise_coveredLines _ _ _, ⟨fun all last => ?_, complete⟩, wrapped, fun none => ?_⟩
  · have kept := (all lastLine.toNat).2 ⟨_, last, rfl⟩
    rw [wrapped last] at kept
    exact List.not_mem_nil kept
  · refine List.eq_nil_iff_forall_not_mem.2 fun line member => ?_
    obtain ⟨reported, there, -⟩ := (complete (none _) line).1 member
    exact none _ there

/-- Three lines of one file, one of them twice, and the largest line of another: the first
has its three lines in order, the second is emptied, and a third file has none. -/
theorem report_complete_iff_of_three :
    let records : List (String × UInt32) :=
      [("a.rb", 7), ("b.rb", lastLine), ("a.rb", 3), ("b.rb", 1), ("a.rb", 7), ("a.rb", 0)]
    ((∀ line, line ∈ report false records "a.rb" ↔ line = 0 ∨ line = 3 ∨ line = 7) ∧
      (report false records "a.rb").Pairwise (· < ·)) ∧
      (("b.rb", lastLine) ∈ records ∧ report false records "b.rb" = []) ∧
      (∀ reported, ("c.rb", reported) ∉ records) ∧ report false records "c.rb" = [] := by
  intro records
  obtain ⟨ascending, complete, -, -⟩ := report_complete_iff false records "a.rb"
  have last : ("b.rb", lastLine) ∈ records := by decide
  have none : ∀ reported, ("c.rb", reported) ∉ records := by simp [records]
  refine ⟨⟨fun line => ?_, ascending⟩,
    ⟨last, (report_complete_iff false records "b.rb").2.2.1 last⟩, none,
    (report_complete_iff false records "c.rb").2.2.2 none⟩
  rw [complete.2 (by decide) line]
  simp only [records]
  constructor
  · rintro ⟨reported, there, rfl⟩
    have one : reported = 7 ∨ reported = 3 ∨ reported = 0 := by simpa [or_left_comm] using there
    rcases one with rfl | rfl | rfl <;> decide
  · rintro (rfl | rfl | rfl)
    · exact ⟨0, by decide, rfl⟩
    · exact ⟨3, by decide, rfl⟩
    · exact ⟨7, by decide, rfl⟩

/-- **A report that has lost every line.**  Line three was reported, and then the largest line
there is: neither is in the report. -/
theorem last_line_empties_report :
    let records : List (String × UInt32) := [("a.rb", lastLine), ("a.rb", 3)]
    report false records "a.rb" = [] ∧
      ¬ ∀ line : UInt32, ("a.rb", line) ∈ records →
        line.toNat ∈ report false records "a.rb" := by
  intro records
  have empty : report false records "a.rb" = [] :=
    coveredLines_of_wrapped (reach_eq_size_iff.2 (by decide))
  refine ⟨empty, fun all => ?_⟩
  have kept := all 3 (by decide)
  rw [empty] at kept
  exact List.not_mem_nil kept

end Coverage

end InlineCache
