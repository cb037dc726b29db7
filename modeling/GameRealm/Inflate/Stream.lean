import GameRealm.Inflate.Huffman

/-!
# Compressed streams

A stream is a two-byte header, blocks that are stored as they are or coded with
a fixed or a transmitted code, and a checksum. A match may reach back behind the
start of the output, where a window of zeros lies.

Inflating is asked for a number of bytes and works in whole windows: it stops at
the end of the window that holds the last byte asked for. What is wrong with the
stream up to there is an error; a stream that is cut off is one only if bytes
are missing.
-/

namespace GameRealm.Inflate

/-- How far a match may reach back, and the unit in which output is produced. -/
def windowSize : Nat := 32768

/-- The output so far and the bits still to be read. -/
structure Work where
  output : Array UInt8
  bits : List Bool
  /-- The output at which to stop. -/
  limit : Nat

/-- How a part of the work ends: the work goes on, or it halts with its output. -/
abbrev Step := Except (Halt × Array UInt8) Work

namespace Work

def halt (work : Work) (reason : Halt) : Except (Halt × Array UInt8) α :=
  .error (reason, work.output)

def reading (work : Work) (read : List Bool → Except Halt (α × List Bool))
    (next : α → Work → Except (Halt × Array UInt8) β) : Except (Halt × Array UInt8) β :=
  match read work.bits with
  | .ok (value, bits) => next value { work with bits }
  | .error reason => work.halt reason

/-- Appends a byte, if there is still room. -/
def emit (work : Work) (b : UInt8) : Step :=
  if work.output.size < work.limit then .ok { work with output := work.output.push b }
  else work.halt .full

/-- Appends `length` bytes, each the one `distance` places before it. -/
def copy (distance : Nat) : Nat → Work → Step
  | 0, work => .ok work
  | length + 1, work =>
    let source := work.output.size - distance
    let b := if distance ≤ work.output.size then work.output[source]?.getD 0 else 0
    (work.emit b).bind (copy distance length)

end Work

/-! ## Matches -/

/-- The shortest length of each length symbol from 257 on, with the number of
bits that are added to it. -/
def lengthCodes : Array (Nat × Nat) := #[(3, 0), (4, 0), (5, 0), (6, 0), (7, 0), (8, 0),
  (9, 0), (10, 0), (11, 1), (13, 1), (15, 1), (17, 1), (19, 2), (23, 2), (27, 2), (31, 2),
  (35, 3), (43, 3), (51, 3), (59, 3), (67, 4), (83, 4), (99, 4), (115, 4), (131, 5),
  (163, 5), (195, 5), (227, 5), (258, 0)]

/-- The shortest distance of each distance symbol, with the number of bits that
are added to it. -/
def distanceCodes : Array (Nat × Nat) := #[(1, 0), (2, 0), (3, 0), (4, 0), (5, 1), (7, 1),
  (9, 2), (13, 2), (17, 3), (25, 3), (33, 4), (49, 4), (65, 5), (97, 5), (129, 6), (193, 6),
  (257, 7), (385, 7), (513, 8), (769, 8), (1025, 9), (1537, 9), (2049, 10), (3073, 10),
  (4097, 11), (6145, 11), (8193, 12), (12289, 12), (16385, 13), (24577, 13)]

/-- The value of a symbol with its added bits. -/
def extended (codes : Array (Nat × Nat)) (symbol : Nat) (bits : List Bool) :
    Except Halt (Nat × List Bool) :=
  match codes[symbol]? with
  | none => .error .corrupt
  | some (base, extra) => (takeBits extra bits).map fun (n, rest) => (base + n, rest)

def endOfBlock : Nat := 256

/-- Reads a match of the given length symbol and copies it. -/
def copyMatch (distances : Code) (symbol : Nat) (work : Work) : Step :=
  work.reading (extended lengthCodes (symbol - 257)) fun length work =>
    work.reading distances.decode fun distanceSymbol work =>
      work.reading (extended distanceCodes distanceSymbol) fun distance work =>
        work.copy distance length

/-- Reads the symbols of a block up to its end. Each takes at least one bit. -/
def codedBlock (literals distances : Code) : Nat → Work → Step
  | 0, work => work.halt .truncated
  | fuel + 1, work =>
    work.reading literals.decode fun symbol work =>
      if symbol < endOfBlock then
        (work.emit (UInt8.ofNat symbol)).bind (codedBlock literals distances fuel)
      else if symbol = endOfBlock then .ok work
      else (copyMatch distances symbol work).bind (codedBlock literals distances fuel)

/-! ## The codes of a block -/

def fixedLiterals : Code :=
  .ofLengths (List.replicate 144 8 ++ List.replicate 112 9 ++ List.replicate 24 7
    ++ List.replicate 8 8)

def fixedDistances : Code := .ofLengths (List.replicate 32 5)

/-- The order in which the lengths of the code for lengths are sent. -/
def lengthOrder : List Nat := [16, 17, 18, 0, 8, 7, 9, 6, 10, 5, 11, 4, 12, 3, 13, 2, 14, 1, 15]

/-- Takes `n` numbers of three bits. -/
def takeTriples : Nat → List Bool → Except Halt (List Nat × List Bool)
  | 0, bits => .ok ([], bits)
  | n + 1, bits =>
    match takeBits 3 bits with
    | .error reason => .error reason
    | .ok (value, bits) => (takeTriples n bits).map fun (values, rest) => (value :: values, rest)

/-- The lengths by symbol from the lengths in the order in which they are sent. -/
def lengthsInOrder (sent : List Nat) : List Nat :=
  (List.range 19).map fun symbol =>
    match (lengthOrder.zip sent).find? fun entry => entry.1 = symbol with
    | some entry => entry.2
    | none => 0

/-- Takes the lengths of `wanted` symbols in the code for lengths; `lengths` has
the ones already known, the last of them first. A run may not go past the end. -/
def takeLengths (code : Code) (wanted : Nat) :
    Nat → List Nat → List Bool → Except Halt (List Nat × List Bool)
  | 0, _, _ => .error .truncated
  | fuel + 1, lengths, bits =>
    if wanted < lengths.length then .error .corrupt
    else if lengths.length = wanted then .ok (lengths.reverse, bits)
    else
      match code.decode bits with
      | .error reason => .error reason
      | .ok (symbol, bits) =>
        let run (value base extra : Nat) :=
          match takeBits extra bits with
          | .error reason => .error reason
          | .ok (n, bits) =>
            takeLengths code wanted fuel (List.replicate (base + n) value ++ lengths) bits
        if symbol < 16 then takeLengths code wanted fuel (symbol :: lengths) bits
        else if symbol = 16 then
          match lengths with
          | [] => .error .corrupt
          | last :: _ => run last 3 2
        else if symbol = 17 then run 0 3 3
        else run 0 11 7

/-- Takes the two codes of a block that sends them. -/
def takeCodes (bits : List Bool) : Except Halt ((Code × Code) × List Bool) :=
  match takeBits 5 bits with
  | .error reason => .error reason
  | .ok (literals, bits) =>
  match takeBits 5 bits with
  | .error reason => .error reason
  | .ok (distances, bits) =>
  match takeBits 4 bits with
  | .error reason => .error reason
  | .ok (sent, bits) =>
    let literals := literals + 257
    let distances := distances + 1
    if 286 < literals ∨ 30 < distances then .error .corrupt
    else
      match takeTriples (sent + 4) bits with
      | .error reason => .error reason
      | .ok (sent, bits) =>
        let code := Code.ofLengths (lengthsInOrder sent)
        if code.complete = false then .error .corrupt
        else
          match takeLengths code (literals + distances) (bits.length + 1) [] bits with
          | .error reason => .error reason
          | .ok (lengths, bits) =>
            let literalCode := Code.ofLengths (lengths.take literals)
            let distanceCode := Code.ofLengths (lengths.drop literals)
            if literalCode.usable && distanceCode.usable then
              .ok ((literalCode, distanceCode), bits)
            else .error .corrupt

/-! ## Blocks and streams -/

/-- Drops the bits up to the next whole byte. -/
def align (bits : List Bool) : List Bool := bits.drop (bits.length % 8)

def storedBytes : Nat → Work → Step
  | 0, work => .ok work
  | n + 1, work =>
    if work.output.size < work.limit then
      work.reading (takeBits 8) fun b work =>
        (work.emit (UInt8.ofNat b)).bind (storedBytes n)
    else work.halt .full

/-- Reads a stored block: its length, the complement of it, and the bytes. -/
def storedBlock (work : Work) : Step :=
  { work with bits := align work.bits }.reading (takeBits 16) fun length work =>
    work.reading (takeBits 16) fun complement work =>
      if length + complement = 65535 then storedBytes length work else work.halt .corrupt

def block (kind : Nat) (work : Work) : Step :=
  match kind with
  | 0 => storedBlock work
  | 1 => codedBlock fixedLiterals fixedDistances (work.bits.length + 1) work
  | 2 =>
    work.reading takeCodes fun (literals, distances) work =>
      codedBlock literals distances (work.bits.length + 1) work
  | _ => work.halt .corrupt

def blocks : Nat → Work → Step
  | 0, work => work.halt .truncated
  | fuel + 1, work =>
    work.reading (takeBits 1) fun last work =>
      work.reading (takeBits 2) fun kind work =>
        (block kind work).bind fun work =>
          if last = 1 then .ok work else blocks fuel work

/-- The checksum of a stream's output: the sum of the bytes and the sum of those
sums, each modulo the largest 16-bit prime. -/
def checksum (output : Array UInt8) : Nat :=
  let (low, high) := output.foldl (fun (low, high) b =>
    let low := (low + b.toNat) % 65521
    (low, (high + low) % 65521)) (1, 0)
  65536 * high + low

/-- Takes a number of four bytes, most significant first. -/
def takeChecksum (bits : List Bool) : Except Halt (Nat × List Bool) :=
  let next (step : Except Halt (Nat × List Bool)) : Except Halt (Nat × List Bool) :=
    step.bind fun (value, bits) =>
      (takeBits 8 bits).map fun (b, rest) => (256 * value + b, rest)
  next (next (next (takeBits 8 bits)))

/-- Whether two bytes are the header of a stream that needs no dictionary and no
larger window. -/
def isHeader (method flags : Nat) : Bool :=
  method % 16 = 8 && method / 16 ≤ 7 && flags / 32 % 2 = 0 && (256 * method + flags) % 31 = 0

def stream (work : Work) : Step :=
  work.reading (takeBits 8) fun method work =>
    work.reading (takeBits 8) fun flags work =>
      if isHeader method flags then
        (blocks (work.bits.length + 1) work).bind fun work =>
          { work with bits := align work.bits }.reading takeChecksum fun sum work =>
            if sum = checksum work.output then .ok work else work.halt .corrupt
      else work.halt .corrupt

/-- The end of the window that holds the last of `wanted` bytes. -/
def windowEnd (wanted : Nat) : Nat := (wanted + windowSize - 1) / windowSize * windowSize

/-- At most `wanted` bytes of what a stream inflates to. -/
def inflate? (wanted : Nat) (bytes : Bytes) : Option Bytes :=
  match stream { output := #[], bits := bitsOf bytes, limit := windowEnd wanted } with
  | .ok work => some (work.output.toList.take wanted)
  | .error (.full, output) => some (output.toList.take wanted)
  | .error (.truncated, output) =>
    if output.size < wanted then none else some (output.toList.take wanted)
  | .error (.corrupt, _) => none

end GameRealm.Inflate
