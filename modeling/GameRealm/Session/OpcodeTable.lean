import GameRealm.Session.Procedure

/-!
# Opcode tables

Every slot of the opcode space has an entry. A slot that nobody registered has a
handler that says so, and is never legal from a client. Registration refuses
combinations that no tick could serve.
-/

namespace GameRealm

/-- Says that an opcode has no implementation. -/
def Handler.unimplemented (env : Envelope) : Act W Handled := do
  let name ← Procedure.op (.opcodeName env.opcode)
  Procedure.op (.log (.unimplemented env.opcode name))
  return ⟨env, none⟩

namespace Descriptor

/-- The entry of a slot that nobody registered. -/
def unknown : Descriptor W :=
  { name := "UNKNOWN", status := .never, mode := .inPlace,
    handler := .session Handler.unimplemented }

end Descriptor

/-- The entries that were registered, the latest first. -/
structure OpcodeTable (W : Type) where
  entries : List (Opcode × Descriptor W) := []

namespace OpcodeTable

def empty : OpcodeTable W := {}

def get (table : OpcodeTable W) (opcode : Opcode) : Descriptor W :=
  match table.entries.find? (·.1 == opcode) with
  | some entry => entry.2
  | none => .unknown

def set (table : OpcodeTable W) (opcode : Opcode) (entry : Descriptor W) :
    Except SessionError (OpcodeTable W) :=
  match opcode.index? with
  | none => .error (.invalidRegistration opcode .outsideSpace)
  | some _ => .ok ⟨(opcode, entry) :: table.entries⟩

/-- Registers a handler that runs on a tick. -/
def register (table : OpcodeTable W) (opcode : Opcode) (name : String)
    (status : AdmissionStatus) (mode : ProcessingMode) (run : Envelope → Act W Handled) :
    Except SessionError (OpcodeTable W) :=
  if mode = .immediate then
    .error (.invalidRegistration opcode .immediateWithSession)
  else if mode = .mapThread ∧ status ≠ .loggedIn then
    .error (.invalidRegistration opcode .mapThreadWithoutPlayer)
  else table.set opcode { name, status, mode, handler := .session run }

/-- Registers a handler that runs where the envelope arrives. -/
def registerImmediate (table : OpcodeTable W) (opcode : Opcode) (name : String)
    (status : AdmissionStatus) (run : AccountId → Envelope → InboxAct W Handled) :
    Except SessionError (OpcodeTable W) :=
  table.set opcode { name, status, mode := .immediate, handler := .immediate run }

end OpcodeTable

/-- What all sessions of a realm share. -/
structure Services (W : Type) where
  collaborators : Collaborators W
  opcodes : OpcodeTable W := {}
  config : SessionConfig := {}
  /-- How deep ticks may run inside one another, and immediate handlers too. Each
  level is at work on an envelope or a callback of its own, so only a run that
  feeds itself without end could come to this depth. -/
  nesting : Nat := 0x100000000

end GameRealm
