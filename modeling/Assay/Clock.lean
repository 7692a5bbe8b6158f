import Assay.Calendar

/-!
# Clocks

A run has one time, which is written into its report, into the names of its files and into the ids
of its issues.
-/

namespace Assay

/-- The time of a run, in the forms in which it is written down. -/
structure Clock where
  /-- The time of a report. -/
  timestamp : String
  /-- The name of exported files, without an extension. -/
  exportName : String
  /-- Milliseconds, in the ids of issues. -/
  stamp : Nat

/-- The clock at some milliseconds after the start of 1970. -/
def Clock.ofMillis (ms : Nat) : Clock :=
  let m := Moment.ofMillis ms
  { timestamp := m.joined "T"
    exportName := "code-quality-report-" ++ m.day.written ++ "-" ++ padded 2 m.hour ++
      padded 2 m.minute ++ padded 2 m.second
    stamp := ms }

end Assay
