import GameRealm.Bytes.LittleEndian
import GameRealm.Text.Utf8

/-!
# Reading a payload

A payload is read front to back by a `Reader`. Every read checks what is left
and either returns its value with the reader behind it, or says why it could
not; a failed read has no reader, so nothing has moved.
-/

namespace GameRealm

/-- Why the bytes of an envelope could not be read. -/
inductive PayloadError where
  /-- A read of `wanted` bytes ran past the end. -/
  | outOfBounds (pos wanted size : Nat)
  /-- No terminator follows the start of a string. -/
  | unterminatedString (pos : Nat)
  /-- The bytes are there, but cannot be right. -/
  | malformed (reason : String)
  deriving DecidableEq, Repr, Inhabited

namespace PayloadError

def message : PayloadError → String
  | outOfBounds pos wanted size =>
    "read of " ++ toString wanted ++ " bytes at position " ++ toString pos
      ++ " exceeds payload size " ++ toString size
  | unterminatedString pos => "unterminated string starting at position " ++ toString pos
  | malformed reason => "malformed payload: " ++ reason

end PayloadError

/-- The unread part of a payload and where it begins. -/
structure Reader where
  rest : Bytes
  pos : Nat
  size : Nat
  deriving DecidableEq, Repr, Inhabited

namespace Reader

def ofBytes (bytes : Bytes) : Reader := ⟨bytes, 0, bytes.length⟩

def bytes (n : Nat) (r : Reader) : Except PayloadError (Bytes × Reader) :=
  let taken := r.rest.take n
  if taken.length < n then .error (.outOfBounds r.pos n r.size)
  else .ok (taken, { r with rest := r.rest.drop n, pos := r.pos + n })

def skip (n : Nat) (r : Reader) : Except PayloadError Reader :=
  (r.bytes n).map Prod.snd

/-- Takes a number of `width` bytes, least significant first. -/
def word (width : Nat) (r : Reader) : Except PayloadError (Nat × Reader) :=
  (r.bytes width).map fun (taken, r) => (LittleEndian.decode taken, r)

def u8 (r : Reader) : Except PayloadError (UInt8 × Reader) :=
  (r.word 1).map fun (n, r) => (UInt8.ofNat n, r)

def u16 (r : Reader) : Except PayloadError (UInt16 × Reader) :=
  (r.word 2).map fun (n, r) => (UInt16.ofNat n, r)

def u32 (r : Reader) : Except PayloadError (UInt32 × Reader) :=
  (r.word 4).map fun (n, r) => (UInt32.ofNat n, r)

def u64 (r : Reader) : Except PayloadError (UInt64 × Reader) :=
  (r.word 8).map fun (n, r) => (UInt64.ofNat n, r)

/-- The bytes in front of the first NUL, and what comes after it. -/
def splitAtNul : Bytes → Option (Bytes × Bytes)
  | [] => none
  | b :: rest =>
    if b = 0 then some ([], rest)
    else (splitAtNul rest).map fun (front, back) => (b :: front, back)

/-- Takes a string that ends in NUL. Bytes that are not UTF-8 become U+FFFD:
clients still write in older encodings. -/
def cstring (r : Reader) : Except PayloadError (String × Reader) :=
  match splitAtNul r.rest with
  | none => .error (.unterminatedString r.pos)
  | some (front, back) =>
    .ok (Utf8.decodeLossy front, { r with rest := back, pos := r.pos + front.length + 1 })

end Reader

end GameRealm
