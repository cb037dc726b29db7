import GameRealm.Rehearsal.Action
import GameRealm.Session.Handlers

/-!
# The opcodes of a rehearsal

A table that has, beside the session's own handlers, an opcode for every
combination of admission and mode that is worth trying.
-/

namespace GameRealm.Rehearsal

inductive Part where
  | record
  | faulty
  | script
  | unimplemented
  | handshakeOnly
  | serverSide
  | outOfUse

namespace Part

def run (scripts : List (List Cue)) : Part → Envelope → Act Stage Handled
  | record => Rehearsal.record
  | faulty => Rehearsal.faulty
  | script => scripted scripts
  | unimplemented => Handler.unimplemented
  | handshakeOnly => Handler.handshakeOnly
  | serverSide => Handler.serverSide
  | outOfUse => Handler.outOfUse

end Part

/-- The opcodes with their names, tags and parts. -/
def parts : List (UInt16 × String × AdmissionStatus × ProcessingMode × Part) := [
  (0x10, "OP_AUTHED", .authed, .threadUnsafe, .record),
  (0x11, "OP_AUTHED_INPLACE", .authed, .inPlace, .record),
  (0x13, "OP_LOGGED_IN", .loggedIn, .threadUnsafe, .record),
  (0x14, "OP_RECENT", .loggedInOrRecentlyLoggedOut, .threadUnsafe, .record),
  (0x15, "OP_TRANSFER", .transfer, .threadUnsafe, .record),
  (0x16, "OP_NEVER", .never, .threadUnsafe, .record),
  (0x17, "OP_UNHANDLED", .unhandled, .threadUnsafe, .record),
  (0x18, "OP_FAULTY", .loggedIn, .threadUnsafe, .faulty),
  (0x19, "OP_FAULTY_AUTHED", .authed, .threadUnsafe, .faulty),
  (0x1A, "OP_MAP", .loggedIn, .mapThread, .record),
  (0x1B, "OP_SCRIPT_AUTHED", .authed, .threadUnsafe, .script),
  (0x1C, "OP_SCRIPT_LOGGED_IN", .loggedIn, .inPlace, .script),
  (0x1D, "OP_SCRIPT_MAP", .loggedIn, .mapThread, .script),
  (0x1E, "OP_SCRIPT_RECENT", .loggedInOrRecentlyLoggedOut, .inPlace, .script),
  (0x1F, "OP_SCRIPT_TRANSFER", .transfer, .threadUnsafe, .script),
  (0x21, "OP_DEPRECATED", .authed, .inPlace, .outOfUse),
  (0x22, "OP_SERVER_SIDE", .authed, .inPlace, .serverSide),
  (0x23, "OP_EARLY", .authed, .inPlace, .handshakeOnly),
  (0x24, "OP_NULL", .authed, .inPlace, .unimplemented),
  (0x25, "OP_FAULTY_MAP", .loggedIn, .mapThread, .faulty),
  (0x26, "OP_FAULTY_RECENT", .loggedInOrRecentlyLoggedOut, .inPlace, .faulty),
  (0x27, "OP_FAULTY_TRANSFER", .transfer, .inPlace, .faulty),
  (0xEE, "MSG_MOVE_HEARTBEAT", .loggedIn, .mapThread, .record),
  (0xDA, "MSG_MOVE_SET_FACING", .loggedIn, .mapThread, .record)]

/-- Registers the opcodes on top of a table. One that is refused is left out. -/
def registerParts (scripts : List (List Cue)) (table : OpcodeTable Stage) : OpcodeTable Stage :=
  let table := parts.foldl (fun table (opcode, name, status, mode, part) =>
    match table.register ⟨opcode⟩ name status mode (part.run scripts) with
    | .ok table => table
    | .error _ => table) table
  match table.registerImmediate ⟨0x20⟩ "OP_IMMEDIATE" .authed sayLatency with
  | .ok table => table
  | .error _ => table

/-- The table of a rehearsal. -/
def repertoire (scripts : List (List Cue)) : OpcodeTable Stage :=
  registerParts scripts (match OpcodeTable.withCoreHandlers with
    | .ok table => table
    | .error _ => .empty)

def services (config : SessionConfig) (scripts : List (List Cue)) : Services Stage :=
  { collaborators := Stage.collaborators, opcodes := repertoire scripts, config }

end GameRealm.Rehearsal
