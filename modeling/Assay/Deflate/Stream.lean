import Assay.Deflate.Code

/-!
# Compressed bytes

Compressed bytes come in blocks. A block holds bytes as they are, or a sequence of words of two
codes: words for bytes, and words for lengths with words for distances after them, which repeat
bytes that came before. The codes are fixed, or they come in front, their lengths being words of a
third code.

Where the compressed bytes are cut short, what can be told so far is their content.

* `inflate`: the content of blocks;
* `inflateWrapped`: the content of blocks between a header and a checksum.
-/

namespace Assay.Deflate

/-- Content so far, and what remains to be read or why reading stops. -/
structure Progress where
  content : Array UInt8
  rest : Except Halt Bits

/-- The lengths that words stand for from 257 on: the least one, and how many bits add to it. -/
def lengthRows : List (Nat × Nat) :=
  [(3, 0), (4, 0), (5, 0), (6, 0), (7, 0), (8, 0), (9, 0), (10, 0), (11, 1), (13, 1), (15, 1),
   (17, 1), (19, 2), (23, 2), (27, 2), (31, 2), (35, 3), (43, 3), (51, 3), (59, 3), (67, 4),
   (83, 4), (99, 4), (115, 4), (131, 5), (163, 5), (195, 5), (227, 5), (258, 0)]

/-- The distances that words stand for. -/
def distanceRows : List (Nat × Nat) :=
  [(1, 0), (2, 0), (3, 0), (4, 0), (5, 1), (7, 1), (9, 2), (13, 2), (17, 3), (25, 3), (33, 4),
   (49, 4), (65, 5), (97, 5), (129, 6), (193, 6), (257, 7), (385, 7), (513, 8), (769, 8),
   (1025, 9), (1537, 9), (2049, 10), (3073, 10), (4097, 11), (6145, 11), (8193, 12), (12289, 12),
   (16385, 13), (24577, 13)]

/-- A number in a row: its least value and the bits that add to it. -/
def readRow (rows : List (Nat × Nat)) (row : Nat) (f : Fault) (s : Bits) :
    Except Halt (Nat × Bits) := do
  match rows[row]? with
  | none => throw (.faulty f)
  | some (least, n) =>
    let (more, s) ← readNumber n s
    return (least + more, s)

/-- Content with some of its bytes again. -/
def repeated (content : Array UInt8) (distance : Nat) : (length : Nat) → Array UInt8
  | 0 => content
  | n + 1 => repeated (content.push (content.getD (content.size - distance) 0)) distance n

/-- The distance that follows a length. -/
def readDistance (distances : Code) (size : Nat) (s : Bits) : Except Halt (Nat × Bits) := do
  match ← distances.read s with
  | (none, _) => throw (.faulty .distance)
  | (some symbol, s) =>
    let (distance, s) ← readRow distanceRows symbol .distance s
    if size < distance then throw (.faulty .farDistance)
    return (distance, s)

/-- What a word says. -/
inductive Word where
  | byte (b : UInt8)
  | blockEnd
  | again (length distance : Nat)

/-- Reads a word of a block. -/
def readWord (literals distances : Code) (size : Nat) (s : Bits) : Except Halt (Word × Bits) := do
  match ← literals.read s with
  | (none, _) => throw (.faulty .literal)
  | (some symbol, s) =>
    if symbol < 256 then return (.byte (UInt8.ofNat symbol), s)
    else if symbol = 256 then return (.blockEnd, s)
    else
      let (length, s) ← readRow lengthRows (symbol - 257) .literal s
      let (distance, s) ← readDistance distances size s
      return (.again length distance, s)

/-- Reads the words of a block; every word takes a bit. -/
def readWords (literals distances : Code) : (fuel : Nat) → Array UInt8 → Bits → Progress
  | 0, content, _ => ⟨content, .error .starved⟩
  | fuel + 1, content, s =>
    match readWord literals distances content.size s with
    | .error h => ⟨content, .error h⟩
    | .ok (.byte b, s) => readWords literals distances fuel (content.push b) s
    | .ok (.blockEnd, s) => ⟨content, .ok s⟩
    | .ok (.again length distance, s) =>
      readWords literals distances fuel (repeated content distance length) s

/-- The bits up to the next byte. -/
def toByte (s : Bits) : Bits :=
  s.drop (s.length % 8)

/-- Reads bytes as they are. -/
def readPlain : (count : Nat) → Array UInt8 → Bits → Progress
  | 0, content, s => ⟨content, .ok s⟩
  | n + 1, content, s =>
    match readNumber 8 s with
    | .error h => ⟨content, .error h⟩
    | .ok (b, s) => readPlain n (content.push (UInt8.ofNat b)) s

/-- Reads a block of bytes as they are: their number, the number turned over, and the bytes. -/
def readStored (content : Array UInt8) (s : Bits) : Progress :=
  match readNumber 32 (toByte s) with
  | .error h => ⟨content, .error h⟩
  | .ok (n, s) =>
    if n % 65536 + n / 65536 = 65535 then readPlain (n % 65536) content s
    else ⟨content, .error (.faulty .storedLengths)⟩

/-- The fixed code of bytes and lengths. -/
def fixedLiterals : Code :=
  .ofLengths (List.replicate 144 8 ++ List.replicate 112 9 ++ List.replicate 24 7 ++
    List.replicate 8 8)

/-- The fixed code of distances. -/
def fixedDistances : Code :=
  .ofLengths (List.replicate 32 5)

/-- The order in which the lengths of the third code come. -/
def lengthOrder : List Nat :=
  [16, 17, 18, 0, 8, 7, 9, 6, 10, 5, 11, 4, 12, 3, 13, 2, 14, 1, 15]

/-- Reads some numbers of three bits. -/
def readTriples : (count : Nat) → Bits → Except Halt (List Nat × Bits)
  | 0, s => .ok ([], s)
  | n + 1, s => do
    let (x, s) ← readNumber 3 s
    let (xs, s) ← readTriples n s
    return (x :: xs, s)

/-- The lengths of the third code in the order of its symbols. -/
def orderedLengths (triples : List Nat) : List Nat :=
  (List.range 19).map fun i => triples.getD (lengthOrder.idxOf i) 0

/-- How a symbol above fifteen repeats lengths: how many bits tell how often, and the least number
of times. -/
def repeatRow (symbol : Nat) : Nat × Nat :=
  if symbol = 16 then (2, 3) else if symbol = 17 then (3, 3) else (7, 11)

/-- Reads lengths up to a number; every symbol takes a bit. -/
def readLengths (c : Code) (count : Nat) :
    (fuel : Nat) → (done : List Nat) → Bits → Except Halt (List Nat × Bits)
  | 0, _, _ => .error .starved
  | fuel + 1, done, s =>
    if count ≤ done.length then .ok (done, s)
    else do
      let (symbol, s) ← c.read s
      let symbol := symbol.getD 0
      if symbol < 16 then readLengths c count fuel (done ++ [symbol]) s
      else
        let (n, least) := repeatRow symbol
        let (more, s) ← readNumber n s
        let times := least + more
        if symbol = 16 ∧ done.isEmpty then throw (.faulty .lengthRepeat)
        if count < done.length + times then throw (.faulty .lengthRepeat)
        let length := if symbol = 16 then done.getLast?.getD 0 else 0
        readLengths c count fuel (done ++ List.replicate times length) s

/-- Reads the two codes of a block. -/
def readCodes (s : Bits) : Except Halt ((Code × Code) × Bits) := do
  let (counts, s) ← readNumber 14 s
  let literalCount := counts % 32 + 257
  let distanceCount := counts / 32 % 32 + 1
  if 286 < literalCount ∨ 30 < distanceCount then throw (.faulty .symbolCount)
  let (triples, s) ← readTriples (counts / 1024 + 4) s
  match Code.ofLengths? true (orderedLengths triples) with
  | none => throw (.faulty .lengthCode)
  | some c =>
    let (lengths, s) ← readLengths c (literalCount + distanceCount) (s.length + 1) [] s
    if lengths.getD 256 0 = 0 then throw (.faulty .noBlockEnd)
    match Code.ofLengths? false (lengths.take literalCount),
      Code.ofLengths? false (lengths.drop literalCount) with
    | none, _ => throw (.faulty .literalCode)
    | some _, none => throw (.faulty .distanceCode)
    | some literals, some distances => return ((literals, distances), s)

/-- Reads a block of a kind. -/
def readBlock (kind : Nat) (content : Array UInt8) (s : Bits) : Progress :=
  match kind with
  | 0 => readStored content s
  | 1 => readWords fixedLiterals fixedDistances (s.length + 1) content s
  | 2 =>
    match readCodes s with
    | .error h => ⟨content, .error h⟩
    | .ok ((literals, distances), s) => readWords literals distances (s.length + 1) content s
  | _ => ⟨content, .error (.faulty .blockKind)⟩

/-- Reads blocks up to the last; every block takes a bit. -/
def readBlocks : (fuel : Nat) → Array UInt8 → Bits → Progress
  | 0, content, _ => ⟨content, .error .starved⟩
  | fuel + 1, content, s =>
    match readNumber 3 s with
    | .error h => ⟨content, .error h⟩
    | .ok (n, s) =>
      let p := readBlock (n / 2) content s
      match p.rest with
      | .error _ => p
      | .ok s => if n % 2 = 1 then p else readBlocks fuel p.content s

/-- The content that was read, unless there is a fault. -/
def Progress.result (p : Progress) : Except Fault (List UInt8) :=
  match p.rest with
  | .error (.faulty f) => .error f
  | _ => .ok p.content.toList

/-- The content of blocks. -/
def inflate (bytes : List UInt8) : Except Fault (List UInt8) :=
  let s := bitsOf bytes
  (readBlocks (s.length + 1) #[] s).result

/-- The sums of the bytes and of the sums before, modulo the largest prime below 65536. -/
def checksum (content : Array UInt8) : Nat :=
  let (a, b) := content.foldl (fun (a, b) c =>
    ((a + c.toNat) % 65521, (b + a + c.toNat) % 65521)) (1, 0)
  65536 * b + a

/-- The number of four bytes, the high one first. -/
def readChecksum (s : Bits) : Except Halt Nat := do
  let (n, _) ← readNumber 32 s
  return n % 256 * 16777216 + n / 256 % 256 * 65536 + n / 65536 % 256 * 256 + n / 16777216

/-- What is wrong with a header of two bytes. -/
def headerFault? (first second : Nat) : Option Fault :=
  if (256 * first + second) % 31 ≠ 0 then some .header
  else if first % 16 ≠ 8 then some .method
  else if 7 < first / 16 then some .window
  else none

/-- The content of blocks between a header and a checksum. -/
def inflateWrapped (bytes : List UInt8) : Except Fault (List UInt8) :=
  match bytes with
  | first :: second :: rest =>
    match headerFault? first.toNat second.toNat with
    | some f => .error f
    | none =>
      if second.toNat.testBit 5 then if rest.length < 4 then .ok [] else .error .needsOthers
      else
        let s := bitsOf rest
        let p := readBlocks (s.length + 1) #[] s
        match p.rest with
        | .error _ => p.result
        | .ok s =>
          match readChecksum (toByte s) with
          | .ok n => if n = checksum p.content then p.result else .error .checksum
          | .error _ => p.result
  | _ => .ok []

end Assay.Deflate
