import GameRealm.Opcode
import GameRealm.Payload

/-!
# Envelopes

One inbound message: an opcode and a payload with a read cursor. Writes append
at the end of the payload and leave the cursor where it is; reads move the
cursor and leave the payload as it is.
-/

namespace GameRealm

/-- One parsed protocol message. -/
structure Envelope where
  opcode : Opcode
  payload : Bytes
  /-- Where the next read begins. -/
  rpos : Nat
  deriving DecidableEq, Repr, Inhabited

namespace Envelope

/-- An envelope over a payload, to be read from the start. -/
def withPayload (opcode : Opcode) (payload : Bytes) : Envelope := ⟨opcode, payload, 0⟩

def empty (opcode : Opcode) : Envelope := withPayload opcode []

def size (env : Envelope) : Nat := env.payload.length

/-- Where the next write goes: the end of the payload. -/
def wpos (env : Envelope) : Nat := env.payload.length

def remaining (env : Envelope) : Nat := env.payload.length - env.rpos

def unread (env : Envelope) : Bytes := env.payload.drop env.rpos

/-- Moves the cursor, to the end of the payload at most. -/
def setRpos (env : Envelope) (pos : Nat) : Envelope :=
  { env with rpos := min pos env.payload.length }

/-! ## Reads -/

def reader (env : Envelope) : Reader := ⟨env.unread, env.rpos, env.size⟩

/-- Runs a read. The cursor follows a read that succeeds and stays on one that fails. -/
def read (env : Envelope) (take : Reader → Except PayloadError (α × Reader)) :
    Except PayloadError α × Envelope :=
  match take env.reader with
  | .ok (value, r) => (.ok value, { env with rpos := r.pos })
  | .error fault => (.error fault, env)

def readBytes (n : Nat) (env : Envelope) : Except PayloadError Bytes × Envelope :=
  env.read (Reader.bytes n)

def skip (n : Nat) (env : Envelope) : Except PayloadError Unit × Envelope :=
  env.read fun r => (r.skip n).map fun r => ((), r)

def readU8 (env : Envelope) : Except PayloadError UInt8 × Envelope := env.read Reader.u8
def readU16 (env : Envelope) : Except PayloadError UInt16 × Envelope := env.read Reader.u16
def readU32 (env : Envelope) : Except PayloadError UInt32 × Envelope := env.read Reader.u32
def readU64 (env : Envelope) : Except PayloadError UInt64 × Envelope := env.read Reader.u64

/-- Reads the bit pattern of a 32-bit float. -/
def readF32 (env : Envelope) : Except PayloadError UInt32 × Envelope := env.read Reader.u32

def readCString (env : Envelope) : Except PayloadError String × Envelope :=
  env.read Reader.cstring

/-! ## Writes -/

def writeBytes (bytes : Bytes) (env : Envelope) : Envelope :=
  { env with payload := env.payload ++ bytes }

def writeU8 (value : UInt8) : Envelope → Envelope :=
  writeBytes (LittleEndian.encode 1 value.toNat)

def writeU16 (value : UInt16) : Envelope → Envelope :=
  writeBytes (LittleEndian.encode 2 value.toNat)

def writeU32 (value : UInt32) : Envelope → Envelope :=
  writeBytes (LittleEndian.encode 4 value.toNat)

def writeU64 (value : UInt64) : Envelope → Envelope :=
  writeBytes (LittleEndian.encode 8 value.toNat)

def writeF32 (bits : UInt32) : Envelope → Envelope := writeU32 bits

/-- Appends a text and its terminator. -/
def writeCString (text : String) : Envelope → Envelope :=
  writeBytes (Utf8.encode text ++ [0])

end Envelope

end GameRealm
