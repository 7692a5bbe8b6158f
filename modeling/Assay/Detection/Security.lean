import Assay.Detection.Rule

/-!
# Security rules

The table of rules for code that an attacker may abuse. Letters match in either case.
-/

namespace Assay.Security

open Pattern

/-- A quote of any of the three kinds. -/
def quote : CharClass :=
  .oneOf "'\x22`"

/-- Everything but the quotes. -/
def unquoted : CharClass :=
  .noneOf "'\x22`"

/-- The words that start a statement of a database. -/
def statements : Pattern :=
  boundary ++ oneOfTexts ["SELECT", "INSERT", "UPDATE", "DELETE"] ++ boundary

/-- The name of a function and its opening parenthesis. -/
def callOf (name : String) : Pattern :=
  lit name ++ blanks ++ lit "("

/-- A call whose argument is put together with a plus. -/
def callWithPlus (name : String) : Pattern :=
  callOf name ++ blanks ++ anything ++ lit "+"

/-- A quoted value of at least `least` characters assigned to a name. -/
def assigned (names : Pattern) (least : Nat) : Pattern :=
  names ++ blanks ++ one (.oneOf ":=") ++ blanks ++ one quote ++ run unquoted least true ++
    one quote

/-- Two words that may be joined by a dash or an underscore. -/
def joined (a b : String) : Pattern :=
  lit a ++ maybe (one (.oneOf "_-")) ++ lit b

def injection : Rule where
  remark :=
    { key := "sql-injection"
      severity := .critical
      title := "Potential SQL Injection"
      description := "Dynamic SQL query construction detected. " ++
        "This could lead to SQL injection vulnerabilities."
      suggestion :=
        "Use parameterized queries or prepared statements instead of string concatenation."
      impact := "Attackers could execute arbitrary SQL commands, " ++
        "potentially accessing or modifying sensitive data."
      effort := .medium }
  patterns := List.map ignoreCase
    [callOf "query" ++ blanks ++ one quote ++ many unquoted ++ lit "$\x7b" ++
        atLeastOne (.noneOf "\x7d") ++ lit "\x7d" ++ many unquoted ++ one quote,
     callOf "execute" ++ blanks ++ one quote ++ many unquoted ++ lit "+" ++ many unquoted ++
        one quote,
     lit "SELECT" ++ gap ++ anything ++ lit "+" ++ anything ++ lit "FROM",
     lit "INSERT" ++ gap ++ anything ++ lit "+" ++ anything ++ lit "VALUES",
     statements ++ many unquoted ++ one quote ++ blanks ++ lit "+",
     oneOfTexts ["execute", "query"] ++ blanks ++ lit "(" ++ blanks ++ lit "f" ++
        one (.oneOf "'\x22") ++ many (.noneOf "'\x22") ++ statements]

def scripting : Rule where
  remark :=
    { key := "xss"
      severity := .high
      title := "Potential XSS Vulnerability"
      description := "Dynamic HTML content insertion detected without proper sanitization."
      suggestion :=
        "Sanitize user input before inserting into DOM or use safe DOM manipulation methods."
      impact := "Attackers could inject malicious scripts that execute in users' browsers."
      effort := .medium }
  patterns := List.map ignoreCase
    [lit "innerHTML" ++ blanks ++ lit "=" ++ blanks ++ anything ++ lit "+",
     callOf "document.write",
     boundary ++ callOf "eval",
     lit "dangerouslySetInnerHTML"]

def secret : Rule where
  remark :=
    { key := "hardcoded-secret"
      severity := .critical
      title := "Hardcoded Secret Detected"
      description := "Sensitive information appears to be hardcoded in the source code."
      suggestion := "Move secrets to environment variables or secure configuration files."
      impact := "Exposed credentials could lead to unauthorized access to systems and data."
      effort := .low }
  patterns := List.map ignoreCase
    [assigned (oneOfTexts ["password", "pwd", "pass"]) 3,
     assigned (either (joined "api" "key") (lit "apikey")) 10,
     assigned (oneOfTexts ["secret", "token"]) 10,
     assigned (joined "private" "key") 20]

def weakRandom : Rule where
  remark :=
    { key := "insecure-random"
      severity := .medium
      title := "Insecure Random Number Generation"
      description := "Cryptographically weak random number generator used for " ++
        "security-sensitive operations."
      suggestion := "Use cryptographically secure random number generators for " ++
        "security-sensitive operations."
      impact := "Predictable random values could be exploited by attackers."
      effort := .low }
  patterns := List.map ignoreCase
    [callOf "Math.random" ++ blanks ++ lit ")",
     boundary ++ lit "new" ++ gap ++ callOf "Random",
     boundary ++ callOf "rand" ++ blanks ++ lit ")",
     boundary ++ lit "random." ++ oneOfTexts ["random", "randint", "choice", "getrandbits"] ++
        blanks ++ lit "("]
  context := some (ignoreCase (oneOfTexts ["password", "token", "key", "salt", "nonce"]))

def traversal : Rule where
  remark :=
    { key := "path-traversal"
      severity := .high
      title := "Potential Path Traversal"
      description := "File path construction using user input without proper validation."
      suggestion := "Validate and sanitize file paths, use allowlists for permitted directories."
      impact := "Attackers could access files outside the intended directory structure."
      effort := .medium }
  patterns := List.map ignoreCase
    [callWithPlus "readFile",
     callWithPlus "writeFile",
     callOf "path.join" ++ blanks ++ anything ++ lit "req.",
     lit "../"]

def command : Rule where
  remark :=
    { key := "command-injection"
      severity := .critical
      title := "Potential Command Injection"
      description := "System command execution with user-controlled input detected."
      suggestion := "Avoid executing system commands with user input. " ++
        "If necessary, use parameterized commands and input validation."
      impact := "Attackers could execute arbitrary system commands on the server."
      effort := .high }
  patterns := List.map ignoreCase
    [boundary ++ callWithPlus "exec",
     boundary ++ callWithPlus "spawn",
     boundary ++ callWithPlus "system",
     callOf "shell_exec",
     lit "subprocess." ++ word ++ lit "(" ++ anything ++ lit "shell" ++ blanks ++ lit "=" ++
        blanks ++ lit "True"]

/-- The rules in the order in which they are applied. -/
def rules : List Rule :=
  [injection, scripting, secret, weakRandom, traversal, command]

end Assay.Security
