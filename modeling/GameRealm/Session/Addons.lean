import GameRealm.Envelope
import GameRealm.Inflate.Stream
import GameRealm.Session.Error
import GameRealm.Session.Notice

/-!
# Addon manifests

At the end of its first frame a client may announce its addons: the size of the
manifest, and the manifest in compressed form. The manifest holds the number of
addons, an entry for each, and a closing word.
-/

namespace GameRealm

structure Addon where
  name : String
  enabled : UInt8
  crc : UInt32
  deriving DecidableEq, Repr, Inhabited

namespace Addon

/-- The sum of the addons that come with the client. All others need the public
key to be verified. -/
def standardCrc : UInt32 := 0x4C1C776D

def acknowledged (addon : Addon) : AddonAck :=
  { name := addon.name, state := 2, needsPublicKey := addon.crc != standardCrc }

/-- Reads one entry: name, flag, sum and a reserved word. -/
def read (r : Reader) : Except PayloadError (Addon × Reader) :=
  match r.cstring with
  | .error fault => .error fault
  | .ok (name, r) =>
  match r.u8 with
  | .error fault => .error fault
  | .ok (enabled, r) =>
  match r.u32 with
  | .error fault => .error fault
  | .ok (crc, r) =>
  match r.u32 with
  | .error fault => .error fault
  | .ok (_, r) => .ok (⟨name, enabled, crc⟩, r)

end Addon

namespace AddonManifest

/-- The largest manifest that is accepted. -/
def maxSize : Nat := 0xFFFFF

/-- How the entries of a manifest end. -/
inductive Ending where
  /-- All entries were there; the reader stands behind the last one. -/
  | closed (r : Reader)
  /-- The bytes end between two entries. -/
  | early
  /-- An entry cannot be read. -/
  | faulty (fault : PayloadError)
  deriving Repr

def entries : Nat → Reader → List Addon × Ending
  | 0, r => ([], .closed r)
  | count + 1, r =>
    if r.rest.isEmpty then ([], .early)
    else match Addon.read r with
      | .error fault => ([], .faulty fault)
      | .ok (addon, r) =>
        let (addons, ending) := entries count r
        (addon :: addons, ending)

/-- What is logged when the manifest does not end with its closing word. -/
def closingNotices (r : Reader) : List Notice :=
  match r.u32 with
  | .error _ => [.addonsUnderRead r.pos r.size]
  | .ok (_, r) => if r.rest.isEmpty then [] else [.addonsUnderRead r.pos r.size]

/-- What a manifest was found to hold, and what is logged about it. -/
structure Reading where
  result : Except SessionError (List Addon)
  notices : List Notice := []

def ofBody (body : Bytes) : Reading :=
  match (Reader.ofBytes body).u32 with
  | .error fault => { result := .error (.payload fault) }
  | .ok (count, r) =>
    let (addons, ending) := entries count.toNat r
    let read := addons.map fun addon => Notice.addonRead addon.crc
    match ending with
    | .closed r => ⟨.ok addons, read ++ closingNotices r⟩
    | .early => ⟨.ok addons, read⟩
    | .faulty fault => ⟨.error (.payload fault), read⟩

/-- Reads the manifest at the cursor of an envelope. No manifest, or one of size
zero, holds no addons. The cursor ends behind what was understood: nothing, the
size, or everything. -/
def read (env : Envelope) : Reading × Envelope :=
  if env.remaining < 4 then (⟨.ok [], []⟩, env)
  else match env.readU32 with
    | (.error fault, env) => (⟨.error (.payload fault), []⟩, env)
    | (.ok size, env) =>
      let size := size.toNat
      if size = 0 then (⟨.ok [], []⟩, env)
      else if maxSize < size then (⟨.error (.addonManifest (.tooBig size)), []⟩, env)
      else match Inflate.inflate? size env.unread with
        | none => (⟨.error (.addonManifest .decompression), []⟩, env)
        | some body => (ofBody body, env.setRpos env.wpos)

end AddonManifest

end GameRealm
