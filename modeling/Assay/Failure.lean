import Assay.Json.Reader
import Assay.Text.Fault
import Assay.Web.Fault

/-!
# Failures

Everything that can end an operation without a result, as causes. `Failure.message` is the only
place that words them.

* `ReadFault`: why a path cannot be read or written;
* `NumberFault`: why a value is no integer;
* `CalendarFault`: why there is no such day or time;
* `TypeFault`: a value of a kind that an operation cannot work on;
* `Failure`: all causes;
* `Failure.isInput`, `Failure.isFetch`: the two families that callers answer with a message.
-/

namespace Assay

/-- Why a path cannot be read or written. -/
inductive ReadFault where
  | missing
  | occupied
  | notDirectory
  | isDirectory
  deriving DecidableEq, Repr

namespace ReadFault

/-- The number under which the system reports the fault. -/
def number : ReadFault → Nat
  | missing => 2
  | occupied => 17
  | notDirectory => 20
  | isDirectory => 21

def text : ReadFault → String
  | missing => "No such file or directory"
  | occupied => "File exists"
  | notDirectory => "Not a directory"
  | isDirectory => "Is a directory"

/-- The system's report about a path. -/
def report (f : ReadFault) (path : String) : String :=
  s!"[Errno {f.number}] {f.text}: {Text.quoted path}"

end ReadFault

/-- Why a value is no integer. -/
inductive NumberFault where
  /-- A text that spells no integer in the given base. -/
  | spelling (text : String) (base : Nat)
  /-- A text of too many digits. -/
  | digits (n : Nat)
  | infinite
  | undefined
  /-- An integer of too many digits to be written. -/
  | unshowable
  /-- An integer that is too large for a float. -/
  | tooLarge
  deriving DecidableEq, Repr

/-- How much of a text is shown when it spells no integer. -/
def shownSpelling : Nat := 200

def NumberFault.message : NumberFault → String
  | spelling text base =>
    s!"invalid literal for int() with base {base}: " ++
      String.ofList ((Text.quoted text).toList.take shownSpelling)
  | digits n => Json.digitLimitMessage n
  | infinite => "cannot convert float infinity to integer"
  | undefined => "cannot convert float NaN to integer"
  | unshowable =>
    s!"Exceeds the limit ({Json.maxDigits} digits) for integer string conversion; " ++
      "use sys.set_int_max_str_digits() to increase the limit"
  | tooLarge => "int too large to convert to float"

/-- Why there is no such day or time. -/
inductive CalendarFault where
  | year (n : Int)
  | month
  | day
  | hour
  | minute
  | second
  /-- An offset from universal time of a day or more. -/
  | offset (shown : String)
  /-- More seconds than a clock counts. -/
  | beyondClock
  /-- More years than a calendar counts. -/
  | beyondCalendar
  deriving DecidableEq, Repr

def CalendarFault.message : CalendarFault → String
  | year n => s!"year {n} is out of range"
  | month => "month must be in 1..12"
  | day => "day is out of range for month"
  | hour => "hour must be in 0..23"
  | minute => "minute must be in 0..59"
  | second => "second must be in 0..59"
  | offset shown =>
    "offset must be a timedelta strictly between -timedelta(hours=24) and timedelta(hours=24), not "
      ++ shown ++ "."
  | beyondClock => "timestamp out of range for platform time_t"
  | beyondCalendar => "[Errno 75] Value too large for defined data type"

/-- Whether there is no such day or time because a part of it is out of range. -/
def CalendarFault.isRange : CalendarFault → Bool
  | beyondClock | beyondCalendar => false
  | _ => true

/-- A value of a kind that an operation cannot work on; kinds are given by name. -/
inductive TypeFault where
  /-- No integer can be made of it. -/
  | notNumeric (kind : String)
  /-- It cannot count. -/
  | notCountable (kind : String)
  /-- It has no order with an integer. -/
  | unordered (comparison left right : String)
  | noLength (kind : String)
  | notIterable (kind : String)
  /-- It names no path. -/
  | notPath (kind : String)
  /-- It names no address. -/
  | notAddress (kind shown : String)
  /-- It is no text for a header. -/
  | notHeader (kind : String)
  deriving DecidableEq, Repr

def TypeFault.message : TypeFault → String
  | notNumeric kind =>
    s!"int() argument must be a string, a bytes-like object or a real number, not '{kind}'"
  | unordered comparison left right =>
    s!"'{comparison}' not supported between instances of '{left}' and '{right}'"
  | notCountable kind => s!"'{kind}' object cannot be interpreted as an integer"
  | noLength kind => s!"object of type '{kind}' has no len()"
  | notIterable kind => s!"'{kind}' object is not iterable"
  | notPath kind => s!"expected str, bytes or os.PathLike object, not {kind}"
  | notAddress kind shown =>
    s!"Invalid type for url.  Expected str or httpx.URL, got <class '{kind}'>: {shown}"
  | notHeader kind => s!"Header value must be str or bytes, not <class '{kind}'>"

/-- Everything that can end an operation without a result. -/
inductive Failure where
  /-- A file whose extension belongs to no language. -/
  | unsupportedFile (path : String)
  /-- There is nothing to analyse. -/
  | emptyInput
  /-- An issue about a file that was not analysed. -/
  | foreignFile (issue file : String)
  | noSuchPath (path : String)
  /-- A source file that cannot be read. -/
  | unreadable (path : String) (fault : ReadFault)
  /-- A path of the program's own that cannot be read or written. -/
  | system (fault : ReadFault) (path : String)
  | invalidRepository (url : String)
  | requestFailed (message : String)
  | repositoryNotFound
  | rateLimited (until_ : String)
  | serviceStatus (code : Int) (reason : String)
  | downloadStatus (code : Int)
  /-- An address without a scheme. -/
  | unknownScheme (url : String)
  | badAddress (fault : Web.AddressFault)
  /-- A host whose name cannot be shown in all its characters. -/
  | badLabel (fault : Web.LabelFault)
  /-- Directories inside each other without an end. -/
  | nestedTooDeep
  | cancelled
  | sessionNotFound (id : String)
  | unknownProvider (name : String) (available : List String)
  | unknownFormat (name : String) (available : List String)
  | unknownDetector (name : String)
  /-- A value that is none of the names of a kind. -/
  | notMember (shown kind : String)
  | missingField (name : String)
  /-- A table without an entry for some languages. -/
  | missingEntries (table : String) (languages : List String)
  /-- A call that failed with a message of its own. -/
  | callFailed (message : String)
  | number (fault : NumberFault)
  | zeroStep
  | workersTooFew
  | sessionLimitsTooLow
  | calendar (fault : CalendarFault)
  /-- A code that belongs to no character. -/
  | notCharacter
  /-- A code that is too large to be asked about. -/
  | codeTooLarge
  /-- A text with characters that its encoding does not have. -/
  | unencodable (fault : Text.CharFault)
  /-- Bytes that stand for no text. -/
  | undecodable (fault : Text.ByteFault)
  /-- Bytes that cannot be read in the encoding that they are said to have. -/
  | unreadableText (fault : Text.CharsetFault)
  /-- A name that holds the character with the number zero. -/
  | nameWithZero
  | divisionByZero
  | quotientTooLarge
  | wrongType (fault : TypeFault)
  /-- A value without the operation asked of it. -/
  | missingMember (kind member : String)
  | malformedJson (error : Json.ReadError)
  | malformedYaml
  deriving DecidableEq, Repr

namespace Failure

/-- A text that is no address. -/
def ofAddress : Web.AddressFault → Failure
  | .unencodable f => unencodable f
  | f => badAddress f

/-- The wording of a failure. -/
def message : Failure → String
  | unsupportedFile path => s!"Unsupported file type: {path}"
  | emptyInput => "No supported code files provided"
  | foreignFile issue file => s!"Issue {issue} refers to unknown file: {file}"
  | noSuchPath path => s!"Path does not exist: {path}"
  | unreadable path fault => s!"Cannot read {path}: {fault.report path}"
  | system fault path => fault.report path
  | invalidRepository url => s!"Invalid GitHub URL: {url}"
  | requestFailed message => s!"GitHub request failed: {message}"
  | repositoryNotFound =>
    "Repository not found or is private. Make sure the repository exists and is public."
  | rateLimited t => s!"GitHub API rate limit exceeded. Try again after {t}"
  | serviceStatus code reason => s!"GitHub API error: {code} {reason}"
  | downloadStatus code => s!"Failed to fetch file: {code}"
  | unknownScheme url => s!"unknown url type: {Text.quoted url}"
  | badAddress fault => fault.message
  | badLabel fault => fault.message
  | nestedTooDeep => "maximum recursion depth exceeded"
  | cancelled => "Analysis cancelled"
  | sessionNotFound id => s!"Session not found: {id}"
  | unknownProvider name available =>
    s!"Unknown provider: {name}. Available: " ++ ", ".intercalate available
  | unknownFormat name available =>
    s!"Unsupported format: {name}. Available: " ++ ", ".intercalate available
  | unknownDetector name => Text.quoted name
  | notMember shown kind => s!"{shown} is not a valid {kind}"
  | missingField name => Text.quoted name
  | missingEntries table languages =>
    s!"{table} has no entry for: " ++ ", ".intercalate languages
  | callFailed message => message
  | number fault => fault.message
  | zeroStep => "range() arg 3 must not be zero"
  | workersTooFew => "concurrency and ai_concurrency must be at least 1"
  | sessionLimitsTooLow => "sessions.max_sessions and sessions.evict_count must be at least 1"
  | calendar fault => fault.message
  | notCharacter => "chr() arg not in range(0x110000)"
  | codeTooLarge => "Python int too large to convert to C int"
  | unencodable fault => fault.message
  | undecodable fault => fault.message
  | unreadableText fault => fault.message
  | nameWithZero => "embedded null character"
  | divisionByZero => "division by zero"
  | quotientTooLarge => "integer division result too large for a float"
  | wrongType fault => fault.message
  | missingMember kind member => s!"'{kind}' object has no attribute '{member}'"
  | malformedJson error => error.message
  | malformedYaml => ""

/-- The input breaks the contract of an analysis. -/
def isInput : Failure → Bool
  | emptyInput | foreignFile .. | noSuchPath _ | unreadable .. => true
  | _ => false

/-- A repository could not be read. -/
def isFetch : Failure → Bool
  | invalidRepository _ | requestFailed _ | repositoryNotFound | rateLimited _ | serviceStatus ..
  | downloadStatus _ => true
  | _ => false

/-- A value that is refused as it stands. -/
def isValue : Failure → Bool
  | unknownProvider .. | unknownFormat .. | notMember .. | zeroStep | workersTooFew
  | sessionLimitsTooLow | notCharacter | unknownScheme _ | badLabel _ | unencodable _
  | undecodable _ | nameWithZero
  | malformedJson (.malformed ..) | malformedJson (.digitLimit _) => true
  | number .infinite | number .tooLarge => false
  | number _ => true
  | calendar fault => fault.isRange
  | unreadableText fault => fault.isValue
  | _ => false

end Failure

end Assay
