import Assay.Text.Fault

/-!
# Encodings

An encoding tells what the bytes at a place stand for. Bytes are read strictly, where the first
fault ends the text, or leniently, where a replacement character stands for every fault.

* `Encoding`, `Encoding.Step`: an encoding by its steps;
* `Encoding.read`: the text up to the first fault;
* `Encoding.strict`, `Encoding.lenient`: all of the text;
* `Encoding.readChunks`: a text whose bytes are taken in by chunks.
-/

namespace Assay.Text

/-- What stands for bytes that belong to no character. -/
def replacement : Char := Char.ofNat 0xFFFD

/-- What the bytes at a place stand for. -/
inductive Encoding.Step where
  | char (c : Char) (size : Nat)
  /-- More than one character, such as a letter and a mark. -/
  | text (cs : List Char) (size : Nat)
  | bad (cause : ByteCause) (size : Nat)
  /-- The start of a character whose end is missing. -/
  | short (cause : ByteCause)
  deriving DecidableEq, Repr

/-- An encoding: its name, and what a byte and those after it start with. -/
structure Encoding where
  name : String
  step : UInt8 → List UInt8 → Encoding.Step

namespace Encoding

/-- Why a reading stops before its end. -/
inductive Stop where
  | bad (cause : ByteCause) (size : Nat)
  | short (cause : ByteCause)
  deriving DecidableEq, Repr

/-- What is read: the text, the bytes after it, how many bytes come before those, and why they are
not read. -/
structure Reading where
  text : List Char
  rest : List UInt8
  place : Nat
  stop : Option Stop
  deriving DecidableEq, Repr

/-- Reads from a place on; `done` is the text before, in reverse. -/
def readFrom (e : Encoding) (done : List Char) (place : Nat) : List UInt8 → Reading
  | [] => ⟨done.reverse, [], place, none⟩
  | b :: rest =>
    match e.step b rest with
    | .char c n => readFrom e (c :: done) (place + (n - 1) + 1) (rest.drop (n - 1))
    | .text cs n => readFrom e (cs.reverse ++ done) (place + (n - 1) + 1) (rest.drop (n - 1))
    | .bad cause n => ⟨done.reverse, b :: rest, place, some (.bad cause n)⟩
    | .short cause => ⟨done.reverse, b :: rest, place, some (.short cause)⟩
termination_by bytes => bytes.length
decreasing_by all_goals simp only [List.length_drop, List.length_cons]; omega

/-- Reads up to the first fault. -/
def read (e : Encoding) (place : Nat) (bytes : List UInt8) : Reading :=
  e.readFrom [] place bytes

/-- The fault before which a reading stops, which is a character without an end where nothing
follows. -/
def Reading.fault? (name : String) (r : Reading) : Option ByteFault :=
  let fault (cause : ByteCause) (size : Nat) : ByteFault :=
    ⟨name, ((r.rest.head?).map UInt8.toNat).getD 0, r.place, r.place + size, cause⟩
  r.stop.map fun
    | .bad cause size => fault cause size
    | .short cause => fault cause r.rest.length

/-- The text of bytes without a fault; places are counted from `place` on. -/
def strict (e : Encoding) (place : Nat) (bytes : List UInt8) : Except ByteFault (List Char) :=
  let r := e.read place bytes
  match r.fault? e.name with
  | some f => .error f
  | none => .ok r.text

/-- The text of bytes with a replacement for every fault; `done` is the text before, in reverse. -/
def lenientFrom (e : Encoding) (done : List Char) : List UInt8 → List Char
  | [] => done.reverse
  | b :: rest =>
    match e.step b rest with
    | .char c n => lenientFrom e (c :: done) (rest.drop (n - 1))
    | .text cs n => lenientFrom e (cs.reverse ++ done) (rest.drop (n - 1))
    | .bad _ n => lenientFrom e (replacement :: done) (rest.drop (n - 1))
    | .short _ => (replacement :: done).reverse
termination_by bytes => bytes.length
decreasing_by all_goals simp only [List.length_drop, List.length_cons]; omega

/-- The text of bytes with a replacement for every fault. -/
def lenient (e : Encoding) (bytes : List UInt8) : List Char :=
  e.lenientFrom [] bytes

/-- The bytes of a chunk. -/
def chunkLength : Nat := 8192

/-- Reads chunk by chunk. A character may go on in the next chunk; places are counted from the
first byte that is not read before. Nothing of a chunk with a fault is read. -/
def readChunksFrom (e : Encoding) (carried bytes : List UInt8) : List Char × Option ByteFault :=
  match bytes with
  | [] =>
    let r := e.read 0 carried
    (r.text, r.fault? e.name)
  | b :: rest =>
    let r := e.read 0 (carried ++ (b :: rest).take chunkLength)
    match r.stop with
    | some (.bad ..) => ([], r.fault? e.name)
    | _ =>
      let (more, fault) := readChunksFrom e r.rest (rest.drop (chunkLength - 1))
      (r.text ++ more, fault)
termination_by bytes.length
decreasing_by simp only [List.length_drop, List.length_cons]; omega

/-- The text of the chunks before the first fault, and the fault. -/
def readChunks (e : Encoding) (bytes : List UInt8) : List Char × Option ByteFault :=
  e.readChunksFrom [] bytes

end Encoding

end Assay.Text
