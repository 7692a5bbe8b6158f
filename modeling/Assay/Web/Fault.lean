import Assay.Text.Fault

/-!
# Faults of addresses

* `LabelFault`: why a part of a domain name between two dots is none;
* `AddressFault`: why a text is no address.
-/

namespace Assay.Web

/-- Why a part of a domain name is none. Positions count from one. -/
inductive LabelFault where
  | empty
  | tooLong
  | domainTooLong
  /-- A letter and a mark stand apart that one character stands for. -/
  | notComposed
  /-- Hyphens in the places of a prefix. -/
  | hyphenPrefix
  | hyphenAtEnd
  /-- A mark without a letter before it. -/
  | leadingMark
  | character (c : Char) (position : Nat) (label : String)
  /-- A character that is allowed beside others only. -/
  | context (c : Char) (position : Nat) (label : String)
  /-- A joiner that joins nothing. -/
  | joiner (c : Char) (position : Nat) (label : String)
  | firstDirection (label : String)
  | direction (position : Nat) (fromRight : Bool)
  | mixedNumerals
  | lastDirection
  /-- Nothing follows the prefix of an encoded label. -/
  | noContent
  | encodedHyphenAtEnd
  | notEncoded
  deriving DecidableEq, Repr

/-- A code point as standards write it. -/
def codePoint (c : Char) : String :=
  let digits := (Text.hexDigits 6 c.toNat).map Char.toUpper
  "U+" ++ String.ofList (digits.take 2 |>.dropWhile (· == '0')) ++ String.ofList (digits.drop 2)

def LabelFault.message : LabelFault → String
  | empty => "Empty Label"
  | tooLong => "Label too long"
  | domainTooLong => "Domain too long"
  | notComposed => "Label must be in Normalization Form C"
  | hyphenPrefix => "Label has disallowed hyphens in 3rd and 4th position"
  | hyphenAtEnd => "Label must not start or end with a hyphen"
  | leadingMark => "Label begins with an illegal combining character"
  | character c position label =>
    s!"Codepoint {codePoint c} at position {position} of {Text.quoted label} not allowed"
  | context c position label =>
    s!"Codepoint {codePoint c} not allowed at position {position} in {Text.quoted label}"
  | joiner c position label =>
    s!"Unknown codepoint adjacent to joiner {codePoint c} at position {position} " ++
      s!"in {Text.quoted label}"
  | firstDirection label =>
    s!"First codepoint in label {Text.quoted label} must be directionality L, R or AL"
  | direction position fromRight =>
    s!"Invalid direction for codepoint at position {position} in a " ++
      (if fromRight then "right-to-left" else "left-to-right") ++ " label"
  | mixedNumerals => "Can not mix numeral types in a right-to-left label"
  | lastDirection => "Label ends with illegal codepoint directionality"
  | noContent => "Malformed A-label, no Punycode eligible content found"
  | encodedHyphenAtEnd => "A-label must not end with a hyphen"
  | notEncoded => "Invalid A-label"

/-- Why a text is no address. -/
inductive AddressFault where
  | tooLong
  /-- A control character. -/
  | control (c : Char) (position : Nat)
  | partTooLong (part : String)
  | partControl (part : String) (c : Char) (position : Nat)
  /-- Four numbers that are no network address. -/
  | ipv4 (host : String)
  /-- Something between brackets that is no network address. -/
  | ipv6 (host : String)
  /-- A host that is no domain name. -/
  | domain (host : String)
  | port (text : String)
  /-- A path behind a host that does not start with a slash. -/
  | pathStart
  /-- A path that would be read as a host. -/
  | doubleSlash
  /-- A path that would be read as a scheme. -/
  | leadingColon
  /-- A part with half of a pair, which has no bytes in UTF-8. -/
  | unencodable (fault : Text.CharFault)
  deriving DecidableEq, Repr

def AddressFault.message : AddressFault → String
  | tooLong => "URL too long"
  | control c position =>
    s!"Invalid non-printable ASCII character in URL, {Text.quoted (String.singleton c)} " ++
      s!"at position {position}."
  | partTooLong part => s!"URL component '{part}' too long"
  | partControl part c position =>
    s!"Invalid non-printable ASCII character in URL {part} component, " ++
      s!"{Text.quoted (String.singleton c)} at position {position}."
  | ipv4 host => s!"Invalid IPv4 address: {Text.quoted host}"
  | ipv6 host => s!"Invalid IPv6 address: {Text.quoted host}"
  | domain host => s!"Invalid IDNA hostname: {Text.quoted host}"
  | port text => s!"Invalid port: {Text.quoted text}"
  | pathStart => "For absolute URLs, path must be empty or begin with '/'"
  | doubleSlash => "Relative URLs cannot have a path starting with '//'"
  | leadingColon => "Relative URLs cannot have a path starting with ':'"
  | unencodable fault => fault.message

end Assay.Web
