import Assay.Text.Quoted

/-!
# Faults of encodings

* `NarrowEncoding`, `CharFault`: characters that an encoding does not have; `fault?` finds the first
  of a text;
* `ByteFault`: bytes that stand for no character in their encoding, by their place;
* `CharsetFault`: why bytes are no text in an encoding.
-/

namespace Assay.Text

/-- An encoding that does not have all characters. -/
inductive NarrowEncoding where
  | ascii
  /-- It has all characters, but not their halves. -/
  | utf8
  deriving DecidableEq, Repr

def NarrowEncoding.name : NarrowEncoding → String
  | ascii => "ascii"
  | utf8 => "utf-8"

/-- What is wrong with a character that the encoding does not have. -/
def NarrowEncoding.complaint : NarrowEncoding → String
  | ascii => "ordinal not in range(128)"
  | utf8 => "surrogates not allowed"

def NarrowEncoding.has (e : NarrowEncoding) (c : Char) : Bool :=
  match e with
  | ascii => c.toNat < 128
  | utf8 => (half? c).isNone

/-- Some characters in a row that an encoding does not have. -/
structure CharFault where
  encoding : NarrowEncoding
  first : Char
  start : Nat
  stop : Nat
  deriving DecidableEq, Repr

def CharFault.message (f : CharFault) : String :=
  let place :=
    if f.stop = f.start + 1 then
      s!"character '{String.ofList (escapeOf f.first)}' in position {f.start}"
    else s!"characters in position {f.start}-{f.stop - 1}"
  s!"'{f.encoding.name}' codec can't encode {place}: {f.encoding.complaint}"

/-- The first characters of a text that an encoding does not have, if there are any. -/
def NarrowEncoding.fault? (e : NarrowEncoding) (s : List Char) : Option CharFault :=
  let start := (s.takeWhile e.has).length
  match s.dropWhile e.has with
  | [] => none
  | c :: rest => some ⟨e, c, start, start + 1 + (rest.takeWhile fun c => !e.has c).length⟩

/-- Why bytes stand for no character. -/
inductive ByteCause where
  | invalidStart
  | invalidContinuation
  | unexpectedEnd
  | truncated
  | illegalEncoding
  | illegalSurrogate
  | surrogate
  | codeTooLarge
  | illegal
  | incomplete
  | undefined
  | notAscii
  deriving DecidableEq, Repr

def ByteCause.message : ByteCause → String
  | invalidStart => "invalid start byte"
  | invalidContinuation => "invalid continuation byte"
  | unexpectedEnd => "unexpected end of data"
  | truncated => "truncated data"
  | illegalEncoding => "illegal encoding"
  | illegalSurrogate => "illegal UTF-16 surrogate"
  | surrogate => "code point in surrogate code point range(0xd800, 0xe000)"
  | codeTooLarge => "code point not in range(0x110000)"
  | illegal => "illegal multibyte sequence"
  | incomplete => "incomplete multibyte sequence"
  | undefined => "character maps to <undefined>"
  | notAscii => "ordinal not in range(128)"

/-- Some bytes in a row that stand for no character in an encoding. -/
structure ByteFault where
  encoding : String
  first : Nat
  start : Nat
  stop : Nat
  cause : ByteCause
  deriving DecidableEq, Repr

def ByteFault.message (f : ByteFault) : String :=
  let place :=
    if f.stop = f.start + 1 then
      s!"byte 0x{String.ofList (hexDigits 2 f.first)} in position {f.start}"
    else s!"bytes in position {f.start}-{f.stop - 1}"
  s!"'{f.encoding}' codec can't decode {place}: {f.cause.message}"

/-- Why bytes cannot be read as a text in an encoding, even with replacements. -/
inductive CharsetFault where
  /-- A text in units of this many bits does not begin with a mark of their order. -/
  | unmarked (bits : Nat)
  /-- Some bytes stand for no character, and the encoding knows no replacement for them. -/
  | bytes (fault : ByteFault)
  /-- The encoding has no replacements. -/
  | noReplacements
  /-- The encoding gives bytes, not a text. -/
  | givesBytes
  /-- The encoding is one of texts, not of bytes. -/
  | takesText
  /-- The encoding stands for none. -/
  | none
  /-- A sequence without an end is longer than what is kept of one. -/
  | tooMuchKept
  /-- An escape takes a character of a set that has none for it. -/
  | noSingles
  deriving DecidableEq, Repr

def CharsetFault.message : CharsetFault → String
  | unmarked bits => s!"UTF-{bits} stream does not start with BOM"
  | bytes fault => fault.message
  | noReplacements => "Unsupported error handling replace"
  | givesBytes => ""
  | takesText => "descriptor 'translate' for 'str' objects doesn't apply to a 'bytes' object"
  | none => "undefined encoding"
  | tooMuchKept => "pending buffer overflow"
  | noSingles => "internal codec error"

/-- Whether a value is refused: bytes, or their encoding. -/
def CharsetFault.isValue : CharsetFault → Bool
  | givesBytes | takesText | noSingles => false
  | _ => true

end Assay.Text
