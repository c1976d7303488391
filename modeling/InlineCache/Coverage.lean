/-
# InlineCache.Coverage -- which lines have run

A coverage record counts, for each file, how often each line was reported.  The
counts of a file reach from line zero to the largest line reported; its list of
covered lines is taken over a length in 32 bits.  A line marker of a one-shot record
reports once and is spent.
-/
import InlineCache.NameMap

namespace InlineCache

set_option autoImplicit false

structure LineCounts where
  /-- one more than the largest line reported -/
  extent : Nat := 0
  counts : List (Nat × Nat) := []

namespace LineCounts

def count (lines : LineCounts) (line : Nat) : Nat := (lines.counts.lookup line).getD 0

def bump (line : Nat) : List (Nat × Nat) → List (Nat × Nat)
  | [] => [(line, 1)]
  | (other, count) :: rest =>
      if other = line then (other, count + 1) :: rest else (other, count) :: bump line rest

def record (lines : LineCounts) (line : Nat) : LineCounts :=
  { extent := max lines.extent (line + 1), counts := bump line lines.counts }

/-- The counts of the lines from zero on. -/
def toList (lines : LineCounts) : List Nat := (List.range lines.extent).map lines.count

/-- The lines reported at least once, ascending, below the extent in 32 bits. -/
def covered (lines : LineCounts) : List Nat :=
  (List.range (lines.extent % UInt32.size)).filter fun line => 0 < lines.count line

theorem lookup_bump (line other : Nat) (counts : List (Nat × Nat)) :
    ((bump line counts).lookup other).getD 0 =
      (counts.lookup other).getD 0 + if line = other then 1 else 0 := by
  induction counts with
  | nil =>
      by_cases same : line = other
      · simp [bump, same]
      · have : (other == line) = false := beq_eq_false_iff_ne.2 fun e => same e.symm
        simp [bump, List.lookup_cons, same, this]
  | cons entry rest ih =>
      rcases entry with ⟨key, n⟩
      by_cases here : key = line
      · subst here
        by_cases same : key = other
        · simp [bump, same]
        · have : (other == key) = false := beq_eq_false_iff_ne.2 fun e => same e.symm
          simp [bump, List.lookup_cons, same, this]
      · by_cases asked : other = key
        · subst asked
          have : line ≠ other := fun e => here e.symm
          simp [bump, here, this]
        · have : (other == key) = false := by simp [asked]
          simp [bump, List.lookup_cons, here, this, ih]

/-- **A report adds one to its own line and nothing elsewhere.** -/
theorem count_record (lines : LineCounts) (line other : Nat) :
    (lines.record line).count other = lines.count other + if line = other then 1 else 0 :=
  lookup_bump line other lines.counts

end LineCounts

structure Coverage where
  /-- markers report once only -/
  oneShot : Bool := false
  files : NameMap LineCounts := []

namespace Coverage

def record (coverage : Coverage) (file : String) (line : Nat) : Coverage :=
  let lines := (NameMap.get? coverage.files file).getD {}
  { coverage with files := NameMap.insert coverage.files file (lines.record line) }

def lineCounts (coverage : Coverage) (file : String) : Option (List Nat) :=
  (NameMap.get? coverage.files file).map LineCounts.toList

def coveredLines (coverage : Coverage) (file : String) : List Nat :=
  match NameMap.get? coverage.files file with
  | some lines => lines.covered
  | none => []

end Coverage

/-- A marker in front of a covered line. -/
structure CoverLineSite where
  file : String
  line : UInt32
  /-- a spent marker reports nothing more -/
  spent : Bool := false

namespace CoverLineSite

def cover (site : CoverLineSite) (coverage? : Option Coverage) :
    CoverLineSite × Option Coverage :=
  if site.spent then (site, coverage?)
  else
    match coverage? with
    | none => (site, none)
    | some coverage =>
        ({ site with spent := coverage.oneShot },
          some (coverage.record site.file site.line.toNat))

theorem cover_disabled (site : CoverLineSite) : site.cover none = (site, none) := by
  by_cases spent : site.spent <;> simp [cover, spent]

end CoverLineSite

end InlineCache
