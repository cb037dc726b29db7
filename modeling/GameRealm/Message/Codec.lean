import GameRealm.Envelope
import GameRealm.Identity
import GameRealm.Json.Parser
import GameRealm.Json.Printer
import GameRealm.Json.Record
import GameRealm.Message

/-!
# The frame codec

Frames are JSON. An envelope carries its opcode and payload; its cursor does
not travel and starts at zero. A message is an object whose `type` says which
message it is, and whose other members are the message's fields in order.
-/

namespace GameRealm

namespace Opcode

def toJson (opcode : Opcode) : Json := .nat opcode.val.toNat

def ofJson? (json : Json) : Option Opcode := json.u16?.map Opcode.mk

end Opcode

namespace Bytes

/-- Bytes as an array of numbers. -/
def toJson (bytes : Bytes) : Json := .list (fun b => .nat b.toNat) bytes

def ofJson? (json : Json) : Option Bytes := json.items Json.u8?

end Bytes

namespace SessionKey

def toJson (key : SessionKey) : Json := key.bytes.toJson

def ofJson? (json : Json) : Option SessionKey := (Bytes.ofJson? json).map SessionKey.mk

end SessionKey

namespace AccountSecurity

def toJson (level : AccountSecurity) : Json := .str level.name

def ofJson? (json : Json) : Option AccountSecurity := json.unitValue? name all

end AccountSecurity

namespace Locale

def toJson (locale : Locale) : Json := .str locale.name

def ofJson? (json : Json) : Option Locale := json.unitValue? name all

end Locale

namespace ProcessingMode

def toJson (mode : ProcessingMode) : Json := .str mode.name

def ofJson? (json : Json) : Option ProcessingMode := json.unitValue? name all

end ProcessingMode

namespace AdmissionStatus

def toJson (status : AdmissionStatus) : Json := .str status.name

def ofJson? (json : Json) : Option AdmissionStatus := json.unitValue? name all

end AdmissionStatus

namespace Envelope

def toJson (env : Envelope) : Json :=
  .obj [("opcode", env.opcode.toJson), ("payload", env.payload.toJson)]

def ofJson? (json : Json) : Option Envelope := do
  let r ← json.record? ["opcode", "payload"]
  return .withPayload (← r.field 0 Opcode.ofJson?) (← r.field 1 Bytes.ofJson?)

def encode (env : Envelope) : Bytes := env.toJson.encode

def decode? (frame : Bytes) : Option Envelope := (Json.parse? frame).bind ofJson?

end Envelope

namespace AuthVerdict

def toJson (verdict : AuthVerdict) : Json := .str verdict.name

def ofJson? (json : Json) : Option AuthVerdict := json.bufferedUnitValue? name all

end AuthVerdict

namespace AddonAck

def toJson (ack : AddonAck) : Json :=
  .obj [("name", .str ack.name), ("state", .nat ack.state.toNat),
    ("needs_public_key", .bool ack.needsPublicKey)]

def ofJson? (json : Json) : Option AddonAck := do
  let r ← json.record? ["name", "state", "needs_public_key"]
  return ⟨← r.field 0 Json.string?, ← r.field 1 Json.u8?, ← r.field 2 Json.bool?⟩

end AddonAck

namespace TutorialFlags

def toJson (flags : TutorialFlags) : Json := .list (fun w => .nat w.toNat) flags.toList

def ofJson? (json : Json) : Option TutorialFlags := do
  let words ← json.items Json.u32?
  if h : words.toArray.size = 8 then return ⟨words.toArray, h⟩ else none

end TutorialFlags

namespace Message

/-- The written name of a message's kind. -/
def kind : Message → String
  | authResponse .. => "AuthResponse"
  | logoutComplete => "LogoutComplete"
  | motd .. => "Motd"
  | addonInfo .. => "AddonInfo"
  | timeSyncRequest .. => "TimeSyncRequest"
  | notice .. => "Notification"
  | areaTriggerMessage .. => "AreaTriggerMessage"
  | accountDataTimes .. => "AccountDataTimes"
  | tutorialFlags .. => "TutorialFlags"
  | transferAborted .. => "TransferAborted"
  | setPhaseShift .. => "SetPhaseShift"
  | playSpellVisual .. => "PlaySpellVisual"

def fields : Message → List (String × Json)
  | authResponse verdict position =>
    [("result", verdict.toJson), ("queue_position", .opt (fun p => .nat p.toNat) position)]
  | logoutComplete => []
  | motd lines => [("lines", .list .str lines)]
  | addonInfo addons bannedCount =>
    [("addons", .list AddonAck.toJson addons), ("banned_count", .nat bannedCount.toNat)]
  | timeSyncRequest counter => [("counter", .nat counter.toNat)]
  | notice text => [("text", .str text)]
  | areaTriggerMessage text => [("text", .str text)]
  | accountDataTimes serverTime mask times =>
    [("server_time", .nat serverTime.toNat), ("mask", .nat mask.toNat),
      ("times", .list (fun t => .nat t.toNat) times)]
  | tutorialFlags flags => [("flags", flags.toJson)]
  | transferAborted map reason arg =>
    [("map_id", .nat map.toNat), ("reason", .nat reason.val.toNat),
      ("arg", .opt (fun a => .nat a.toNat) arg)]
  | setPhaseShift phase => [("phase", .nat phase.toNat)]
  | playSpellVisual guid kit => [("guid", .nat guid.toNat), ("kit", .nat kit.toNat)]

def toJson (message : Message) : Json :=
  .obj (("type", .str message.kind) :: message.fields)

def render (message : Message) : String := message.toJson.render

def encode (message : Message) : Bytes := message.toJson.encode

/-- Reads the fields of a message of the given kind. `record` finds them by
their names. -/
def ofFields? (kind : String) (record : List String → Option Json.Record) :
    Option Message :=
  match kind with
  | "AuthResponse" => do
    let r ← record ["result", "queue_position"]
    return .authResponse (← r.field 0 AuthVerdict.ofJson?) (← r.optional 1 Json.u32?)
  | "LogoutComplete" => some .logoutComplete
  | "Motd" => do
    let r ← record ["lines"]
    return .motd (← r.field 0 (Json.items Json.string?))
  | "AddonInfo" => do
    let r ← record ["addons", "banned_count"]
    return .addonInfo (← r.field 0 (Json.items AddonAck.ofJson?)) (← r.field 1 Json.u32?)
  | "TimeSyncRequest" => do
    let r ← record ["counter"]
    return .timeSyncRequest (← r.field 0 Json.u32?)
  | "Notification" => do
    let r ← record ["text"]
    return .notice (← r.field 0 Json.string?)
  | "AreaTriggerMessage" => do
    let r ← record ["text"]
    return .areaTriggerMessage (← r.field 0 Json.string?)
  | "AccountDataTimes" => do
    let r ← record ["server_time", "mask", "times"]
    return .accountDataTimes (← r.field 0 Json.u32?) (← r.field 1 Json.u32?)
      (← r.field 2 (Json.items Json.u32?))
  | "TutorialFlags" => do
    let r ← record ["flags"]
    return .tutorialFlags (← r.field 0 TutorialFlags.ofJson?)
  | "TransferAborted" => do
    let r ← record ["map_id", "reason", "arg"]
    return .transferAborted (← r.field 0 Json.u32?) ⟨← r.field 1 Json.u8?⟩
      (← r.optional 2 Json.u8?)
  | "SetPhaseShift" => do
    let r ← record ["phase"]
    return .setPhaseShift (← r.field 0 Json.u32?)
  | "PlaySpellVisual" => do
    let r ← record ["guid", "kit"]
    return .playSpellVisual (← r.field 0 Json.u64?) (← r.field 1 Json.u32?)
  | _ => none

/-- Reads a message. The kind may stand anywhere in an object and must come
first in an array; the whole document has to be readable, since it is kept
until the kind is known. A message without fields ignores the other members of
an object, but no items of an array. -/
def ofJson? (json : Json) : Option Message :=
  if json.readable Json.maxDepth = false then none
  else match json with
    | .object members => do
      let kind ← (← Json.member? members "type").bind Json.string?
      let others := members.filter fun member => member.1 != some "type"
      ofFields? kind fun names => Json.recordOfMembers? names others
    | .array (tag :: items) => do
      let kind ← tag.string?
      if kind = "LogoutComplete" ∧ items ≠ [] then none
      else ofFields? kind fun names => Json.recordOfItems? names items
    | _ => none

def decode? (frame : Bytes) : Option Message := (Json.parse? frame).bind ofJson?

end Message

end GameRealm
