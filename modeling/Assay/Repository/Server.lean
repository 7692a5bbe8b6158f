import Assay.Calendar
import Assay.Web.Connection

/-!
# The server of repositories

* `Connection.document`, `Connection.file`: the two kinds of requests;
* `timeOfDay`: when a limit is lifted.
-/

namespace Assay

open Web (Connection Response)

/-- Requests a document about a repository. -/
def Web.Connection.document (c : Connection) (url : String)
    (query : Option (List (String × String))) : Trail Response :=
  c.get url query "application/vnd.github.v3+json"

/-- Requests a file. -/
def Web.Connection.file (c : Connection) (url : String) : Trail Response :=
  c.get url none "*/*"

/-- The seconds that a clock counts lie below this and not below its negation. -/
def clockLimit : Int := 0x8000000000000000

/-- Years are counted from 1900 in numbers below this and not below its negation. -/
def yearLimit : Int := 0x80000000

/-- The year that a calendar reports, whose numbers go round. -/
def reportedYear (year : Int) : Int :=
  (year + yearLimit) % (2 * yearLimit) - yearLimit

/-- The time of day at a number of seconds since the start of 1970, in years that a calendar shows.
The day before must have such a year too. -/
def timeOfDay (seconds : Int) : Except Failure String :=
  let year := yearOfDay (seconds / 86400)
  let before := yearOfDay (seconds / 86400 - 1)
  if seconds < -clockLimit ∨ clockLimit ≤ seconds then .error (.calendar .beyondClock)
  else if year - 1900 < -yearLimit ∨ yearLimit ≤ year - 1900 then .error (.calendar .beyondCalendar)
  else if year < 1 ∨ 9999 < year then .error (.calendar (.year (reportedYear year)))
  else if before < 1 then .error (.calendar (.year before))
  else
    let s := (seconds % 86400).toNat
    .ok (padded 2 (s / 3600) ++ ":" ++ padded 2 (s / 60 % 60) ++ ":" ++ padded 2 (s % 60))

end Assay
