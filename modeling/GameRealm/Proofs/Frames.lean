import GameRealm.Message.Codec
import GameRealm.Proofs.FiniteDouble
import GameRealm.Proofs.JsonDocuments

/-!
# Frames give back what they carry

Every message and every envelope is read back from its frame. A frame is printed and
parsed as a document first (`Json.parse?_encode`), so what remains is to read the fields
out of the tree that they were written into.

1. `Json.Sound` is what a document needs for that: a literal for all that is in it, and to
   be readable where it is buffered. Every writer of a field keeps it;
2. the readers of scalars, lists, options and records undo their writers;
3. `Message.decode?_encode` and `Envelope.decode?_encode` put the fields together again,
   and `frames_read_back` states both.
-/

namespace GameRealm

namespace Number

/-! ## Integers in a buffered document -/

theorem le_foldl_digits (ds : List Nat) (n : Nat) :
    n ≤ ds.foldl (fun n d => 10 * n + d) n := by
  induction ds generalizing n with
  | nil => exact Nat.le_refl n
  | cons d ds ih => exact Nat.le_trans (by omega) (ih (10 * n + d))

/-- All the digits are collected when their number is a significand. -/
theorem collect_of_le {ds : List Nat} {n : Nat}
    (h : ds.foldl (fun n d => 10 * n + d) n ≤ maxSignificand) :
    collect n ds = (ds.foldl (fun n d => 10 * n + d) n, []) := by
  induction ds generalizing n with
  | nil => rfl
  | cons d ds ih =>
    have fits : 10 * n + d ≤ maxSignificand := Nat.le_trans (le_foldl_digits ds _) h
    rw [collect, if_pos fits, ih h]
    rfl

theorem toFloat?_ofNat {n : Nat} (h : n < 2 ^ 64) : ((ofNat n).toFloat?).isSome := by
  have value : (digits n).foldl (fun n d => 10 * n + d) 0 = n := (digits_spell n).1
  have whole : collect 0 (digits n) = (n, []) := by
    rw [collect_of_le (by rw [value, maxSignificand]; omega), value]
  have finite := Binary64.toFloat_isInf (UInt64.ofNat n)
  have scaled : scaled? n 0 = some ((UInt64.ofNat n).toFloat * tenTo 0) := by
    simp [scaled?, finite]
  simp [toFloat?, ofNat, whole, collect, scaled]

end Number

namespace Json

/-! ## Documents that can be written and buffered -/

/-- The members of an object as they stand in the document. -/
def named (members : List (String × Json)) : List (Option String × Json) :=
  members.map fun member => (some member.1, member.2)

/-- A document that has a frame and can be buffered, nested at most `depth` deep. -/
structure Sound (depth : Nat) (json : Json) : Prop where
  writable : json.Writable
  readable : json.readable depth

theorem sound_null (depth : Nat) : Sound depth .null := ⟨trivial, by cases depth <;> rfl⟩

theorem sound_bool (depth : Nat) (value : Bool) : Sound depth (.bool value) :=
  ⟨trivial, by cases depth <;> rfl⟩

theorem sound_str (depth : Nat) (value : String) : Sound depth (.str value) :=
  ⟨rfl, by cases depth <;> rfl⟩

theorem sound_nat (depth : Nat) {n : Nat} (h : n < 2 ^ 64) : Sound depth (.nat n) :=
  ⟨Number.literal_ofNat n, by cases depth <;> exact Number.toFloat?_ofNat h⟩

theorem sound_opt {depth : Nat} {encode : α → Json} (h : ∀ x, Sound depth (encode x)) :
    (value : Option α) → Sound depth (.opt encode value)
  | none => sound_null depth
  | some value => h value

theorem sound_list {depth : Nat} {encode : α → Json} (h : ∀ x, Sound depth (encode x))
    (items : List α) : Sound (depth + 1) (.list encode items) := by
  refine ⟨?_, ?_⟩
  · change WritableItems (items.map encode)
    induction items with
    | nil => trivial
    | cons item items ih => exact ⟨(h item).writable, ih⟩
  · change readableItems depth (items.map encode) = true
    induction items with
    | nil => cases depth <;> rfl
    | cons item items ih =>
      rw [List.map_cons, readableItems, (h item).readable, ih]
      rfl

theorem sound_obj {depth : Nat} {members : List (String × Json)}
    (h : ∀ member ∈ members, Sound depth member.2) : Sound (depth + 1) (.obj members) := by
  refine ⟨?_, ?_⟩
  · change WritableMembers (named members)
    induction members with
    | nil => trivial
    | cons member members ih =>
      exact ⟨rfl, (h member List.mem_cons_self).writable,
        ih fun m mem => h m (List.mem_cons_of_mem _ mem)⟩
  · change readableMembers depth (named members) = true
    induction members with
    | nil => cases depth <;> rfl
    | cons member members ih =>
      rw [named, List.map_cons, readableMembers, (h member List.mem_cons_self).readable, ← named,
        ih fun m mem => h m (List.mem_cons_of_mem _ mem)]
      rfl

/-! ## Readers of fields -/

theorem natural?_nat {limit n : Nat} (h : n < limit) : (Json.nat n).natural? limit = some n := by
  change ((Number.ofNat n).natural?).filter (· < limit) = some n
  rw [Number.natural?_ofNat]
  simp [h]

theorem u8?_nat (n : UInt8) : (Json.nat n.toNat).u8? = some n := by
  rw [u8?, natural?_nat n.toNat_lt, Option.map_some, UInt8.ofNat_toNat]

theorem u16?_nat (n : UInt16) : (Json.nat n.toNat).u16? = some n := by
  rw [u16?, natural?_nat n.toNat_lt, Option.map_some, UInt16.ofNat_toNat]

theorem u32?_nat (n : UInt32) : (Json.nat n.toNat).u32? = some n := by
  rw [u32?, natural?_nat n.toNat_lt, Option.map_some, UInt32.ofNat_toNat]

theorem u64?_nat (n : UInt64) : (Json.nat n.toNat).u64? = some n := by
  rw [u64?, natural?_nat n.toNat_lt, Option.map_some, UInt64.ofNat_toNat]

theorem string?_str (text : String) : (Json.str text).string? = some text := rfl

theorem items_list {encode : α → Json} {read : Json → Option α}
    (h : ∀ x, read (encode x) = some x) (xs : List α) :
    items read (.list encode xs) = some xs := by
  change (xs.map encode).mapM read = some xs
  induction xs with
  | nil => rfl
  | cons x xs ih => simp [h x, ih]

theorem nullable_opt {encode : α → Json} {read : Json → Option α}
    (h : ∀ x, read (encode x) = some x) (some : ∀ x, encode x ≠ .null) :
    (value : Option α) → nullable read (.opt encode value) = .some value
  | none => rfl
  | .some value => by
    rw [opt, nullable]
    · rw [h, Option.map_some]
    · exact some value

/-! ## Records -/

theorem filter_named_absent {members : List (String × Json)} {name : String}
    (absent : name ∉ members.map Prod.fst) :
    ((named members).filter fun member => member.1 == some name) = [] := by
  rw [named, List.filter_eq_nil_iff]
  intro member mem
  obtain ⟨⟨other, value⟩, mem', rfl⟩ := List.mem_map.mp mem
  have ne : other ≠ name := fun same => absent (same ▸ List.mem_map_of_mem mem')
  simpa using ne

/-- A member of an object is found by its name. -/
theorem member?_named {members : List (String × Json)} {name : String} {value : Json}
    (distinct : (members.map Prod.fst).Nodup) (mem : (name, value) ∈ members) :
    member? (named members) name = some (some value) := by
  have found : ((named members).filter fun member => member.1 == some name) =
      [(some name, value)] := by
    induction members with
    | nil => cases mem
    | cons member members ih =>
      obtain ⟨absent, distinct'⟩ := List.nodup_cons.mp distinct
      rcases List.mem_cons.mp mem with rfl | mem'
      · have rest := filter_named_absent absent
        rw [named] at rest ⊢
        rw [List.map_cons, List.filter_cons_of_pos (by simp), rest]
      · have ne : member.1 ≠ name := fun same => absent (same ▸ List.mem_map_of_mem mem')
        have rest := ih distinct' mem'
        rw [named] at rest ⊢
        rw [List.map_cons, List.filter_cons_of_neg (by simpa using ne), rest]
  rw [member?, found]

theorem recordOfMembers?_named {members : List (String × Json)} {names : List String}
    (own : members.map Prod.fst = names) (distinct : names.Nodup) :
    recordOfMembers? names (named members) =
      some ⟨members.map fun member => some member.2, false⟩ := by
  subst own
  have texts : (named members).all fun member => member.1.isSome := by
    rw [named, List.all_eq_true]
    intro member mem
    obtain ⟨_, -, rfl⟩ := List.mem_map.mp mem
    rfl
  have slots : ∀ part : List (String × Json), (∀ member ∈ part, member ∈ members) →
      (part.map Prod.fst).mapM (member? (named members)) =
        some (part.map fun member => some member.2) := by
    intro part among
    induction part with
    | nil => rfl
    | cons member rest ih =>
      have found := member?_named distinct (among member List.mem_cons_self)
      have more := ih fun m mem => among m (List.mem_cons_of_mem _ mem)
      simp [found, more]
  rw [recordOfMembers?, if_pos texts, slots members fun _ mem => mem]
  rfl

theorem record?_obj {members : List (String × Json)} {names : List String}
    (own : members.map Prod.fst = names) (distinct : names.Nodup) :
    record? names (.obj members) = some ⟨members.map fun member => some member.2, false⟩ :=
  recordOfMembers?_named own distinct

end Json

/-! ## Envelopes -/

namespace Envelope

theorem ofJson?_toJson (env : Envelope) :
    ofJson? env.toJson = some (.withPayload env.opcode env.payload) := by
  have record : env.toJson.record? ["opcode", "payload"] =
      some ⟨[some env.opcode.toJson, some env.payload.toJson], false⟩ :=
    Json.record?_obj rfl (by decide)
  have opcode : Opcode.ofJson? env.opcode.toJson = some env.opcode := by
    rw [Opcode.ofJson?, Opcode.toJson, Json.u16?_nat]
    rfl
  have payload : Bytes.ofJson? env.payload.toJson = some env.payload :=
    Json.items_list Json.u8?_nat env.payload
  simp [ofJson?, record, Json.Record.field, Json.Record.slot, opcode, payload]

/-- An envelope is read back from its frame, to be read from the start. -/
theorem decode?_encode (env : Envelope) :
    decode? env.encode = some (.withPayload env.opcode env.payload) := by
  have sound : Json.Sound 2 env.toJson := Json.sound_obj fun member mem => by
    simp only [List.mem_cons, List.not_mem_nil, or_false] at mem
    rcases mem with rfl | rfl
    · exact Json.sound_nat 1 (Nat.lt_trans env.opcode.val.toNat_lt (by decide))
    · exact Json.sound_list (fun b => Json.sound_nat 0 (Nat.lt_trans b.toNat_lt (by decide))) _
  rw [decode?, encode, Json.parse?_encode sound.writable, Option.bind_some, ofJson?_toJson]

end Envelope

/-! ## Messages -/

namespace AddonAck

theorem sound_toJson (depth : Nat) (ack : AddonAck) : Json.Sound (depth + 1) ack.toJson :=
  Json.sound_obj fun member mem => by
    simp only [List.mem_cons, List.not_mem_nil, or_false] at mem
    rcases mem with rfl | rfl | rfl
    · exact Json.sound_str _ _
    · exact Json.sound_nat _ (Nat.lt_trans ack.state.toNat_lt (by decide))
    · exact Json.sound_bool _ _

theorem ofJson?_toJson (ack : AddonAck) : ofJson? ack.toJson = some ack := by
  have record : ack.toJson.record? ["name", "state", "needs_public_key"] =
      some ⟨[some (.str ack.name), some (.nat ack.state.toNat),
        some (.bool ack.needsPublicKey)], false⟩ :=
    Json.record?_obj rfl (by decide)
  simp [ofJson?, record, Json.Record.field, Json.Record.slot, Json.u8?_nat, Json.str,
    Json.string?, Json.bool?]

end AddonAck

theorem AuthVerdict.ofJson?_toJson (verdict : AuthVerdict) :
    ofJson? verdict.toJson = some verdict := by
  cases verdict <;> rfl

theorem TutorialFlags.ofJson?_toJson (flags : TutorialFlags) :
    ofJson? flags.toJson = some flags := by
  have words : flags.toJson.items Json.u32? = some flags.toList :=
    Json.items_list Json.u32?_nat flags.toList
  have count : flags.toList.toArray = flags.toArray := by
    rw [Vector.toList, Array.toArray_toList]
  simp [ofJson?, words, count]

namespace Message

theorem sound_word (depth : Nat) (n : UInt32) : Json.Sound depth (.nat n.toNat) :=
  Json.sound_nat depth (Nat.lt_trans n.toNat_lt (by decide))

theorem sound_octet (depth : Nat) (n : UInt8) : Json.Sound depth (.nat n.toNat) :=
  Json.sound_nat depth (Nat.lt_trans n.toNat_lt (by decide))

theorem sound_fields (message : Message) {name : String} {value : Json}
    (mem : (name, value) ∈ message.fields) : Json.Sound 126 value := by
  cases message <;>
    simp only [fields, List.mem_cons, List.not_mem_nil, or_false, Prod.mk.injEq] at mem
  case authResponse verdict position =>
    rcases mem with ⟨-, rfl⟩ | ⟨-, rfl⟩
    · exact Json.sound_str _ _
    · exact Json.sound_opt (sound_word _) _
  case motd lines =>
    obtain ⟨-, rfl⟩ := mem
    exact Json.sound_list (Json.sound_str _) _
  case addonInfo addons count =>
    rcases mem with ⟨-, rfl⟩ | ⟨-, rfl⟩
    · exact Json.sound_list (AddonAck.sound_toJson _) _
    · exact sound_word _ _
  case timeSyncRequest counter =>
    obtain ⟨-, rfl⟩ := mem
    exact sound_word _ _
  case notice text =>
    obtain ⟨-, rfl⟩ := mem
    exact Json.sound_str _ _
  case areaTriggerMessage text =>
    obtain ⟨-, rfl⟩ := mem
    exact Json.sound_str _ _
  case accountDataTimes serverTime mask times =>
    rcases mem with ⟨-, rfl⟩ | ⟨-, rfl⟩ | ⟨-, rfl⟩
    · exact sound_word _ _
    · exact sound_word _ _
    · exact Json.sound_list (sound_word _) _
  case tutorialFlags flags =>
    obtain ⟨-, rfl⟩ := mem
    exact Json.sound_list (sound_word _) _
  case transferAborted map reason arg =>
    rcases mem with ⟨-, rfl⟩ | ⟨-, rfl⟩ | ⟨-, rfl⟩
    · exact sound_word _ _
    · exact sound_octet _ _
    · exact Json.sound_opt (sound_octet _) _
  case setPhaseShift phase =>
    obtain ⟨-, rfl⟩ := mem
    exact sound_word _ _
  case playSpellVisual guid kit =>
    rcases mem with ⟨-, rfl⟩ | ⟨-, rfl⟩
    · exact Json.sound_nat _ guid.toNat_lt
    · exact sound_word _ _

/-- The fields of a message make the message of its kind again. -/
theorem ofFields?_fields (message : Message) :
    ofFields? message.kind (fun names => Json.recordOfMembers? names (Json.named message.fields)) =
      some message := by
  have record : ∀ names, message.fields.map Prod.fst = names → names.Nodup →
      Json.recordOfMembers? names (Json.named message.fields) =
        some ⟨message.fields.map fun member => some member.2, false⟩ :=
    fun names own distinct => Json.recordOfMembers?_named own distinct
  cases message
  case authResponse verdict position =>
    have place := Json.nullable_opt Json.u32?_nat (fun _ => Json.noConfusion) position
    simp only [ofFields?, kind, record ["result", "queue_position"] rfl (by decide),
      Option.bind_eq_bind, Option.bind_some]
    simp [fields, Json.Record.field, Json.Record.optional, Json.Record.slot,
      AuthVerdict.ofJson?_toJson, place]
  case logoutComplete => rfl
  case motd lines =>
    have read := Json.items_list Json.string?_str lines
    simp only [ofFields?, kind, record ["lines"] rfl (by decide),
      Option.bind_eq_bind, Option.bind_some]
    simp [fields, Json.Record.field, Json.Record.slot, read]
  case addonInfo addons count =>
    have read := Json.items_list AddonAck.ofJson?_toJson addons
    simp only [ofFields?, kind, record ["addons", "banned_count"] rfl (by decide),
      Option.bind_eq_bind, Option.bind_some]
    simp [fields, Json.Record.field, Json.Record.slot, read, Json.u32?_nat]
  case timeSyncRequest counter =>
    simp only [ofFields?, kind, record ["counter"] rfl (by decide),
      Option.bind_eq_bind, Option.bind_some]
    simp [fields, Json.Record.field, Json.Record.slot, Json.u32?_nat]
  case notice text =>
    simp only [ofFields?, kind, record ["text"] rfl (by decide),
      Option.bind_eq_bind, Option.bind_some]
    simp [fields, Json.Record.field, Json.Record.slot, Json.string?_str]
  case areaTriggerMessage text =>
    simp only [ofFields?, kind, record ["text"] rfl (by decide),
      Option.bind_eq_bind, Option.bind_some]
    simp [fields, Json.Record.field, Json.Record.slot, Json.string?_str]
  case accountDataTimes serverTime mask times =>
    have read := Json.items_list Json.u32?_nat times
    simp only [ofFields?, kind, record ["server_time", "mask", "times"] rfl (by decide),
      Option.bind_eq_bind, Option.bind_some]
    simp [fields, Json.Record.field, Json.Record.slot, read, Json.u32?_nat]
  case tutorialFlags flags =>
    simp only [ofFields?, kind, record ["flags"] rfl (by decide),
      Option.bind_eq_bind, Option.bind_some]
    simp [fields, Json.Record.field, Json.Record.slot, TutorialFlags.ofJson?_toJson]
  case transferAborted map reason arg =>
    have argument := Json.nullable_opt Json.u8?_nat (fun _ => Json.noConfusion) arg
    simp only [ofFields?, kind, record ["map_id", "reason", "arg"] rfl (by decide),
      Option.bind_eq_bind, Option.bind_some]
    simp [fields, Json.Record.field, Json.Record.optional, Json.Record.slot, Json.u32?_nat,
      Json.u8?_nat, argument]
  case setPhaseShift phase =>
    simp only [ofFields?, kind, record ["phase"] rfl (by decide),
      Option.bind_eq_bind, Option.bind_some]
    simp [fields, Json.Record.field, Json.Record.slot, Json.u32?_nat]
  case playSpellVisual guid kit =>
    simp only [ofFields?, kind, record ["guid", "kit"] rfl (by decide),
      Option.bind_eq_bind, Option.bind_some]
    simp [fields, Json.Record.field, Json.Record.slot, Json.u64?_nat, Json.u32?_nat]

theorem names_distinct (message : Message) :
    ((("type", Json.str message.kind) :: message.fields).map Prod.fst).Nodup := by
  cases message <;> simp [fields]

theorem sound_toJson (message : Message) : Json.Sound 127 message.toJson :=
  Json.sound_obj fun (_, _) mem => by
    rcases List.mem_cons.mp mem with same | field
    · cases same
      exact Json.sound_str _ _
    · exact message.sound_fields field

theorem ofJson?_toJson (message : Message) : ofJson? message.toJson = some message := by
  have distinct := message.names_distinct
  have kind := Json.member?_named distinct List.mem_cons_self
  have others : ((Json.named (("type", .str message.kind) :: message.fields)).filter
      fun member => member.1 != some "type") = Json.named message.fields := by
    have absent := (List.nodup_cons.mp distinct).1
    rw [Json.named, List.map_cons, List.filter_cons_of_neg (by simp), List.filter_eq_self.mpr]
    · rfl
    · intro member mem
      obtain ⟨⟨name, value⟩, mem', rfl⟩ := List.mem_map.mp mem
      have ne : name ≠ "type" := by
        rintro rfl
        exact absent (List.mem_map.mpr ⟨_, mem', rfl⟩)
      simpa using ne
  have readable : message.toJson.readable Json.maxDepth ≠ false := by
    rw [Json.maxDepth, message.sound_toJson.readable]
    decide
  have written : message.toJson =
      .object (Json.named (("type", .str message.kind) :: message.fields)) := rfl
  rw [written] at readable ⊢
  simp only [ofJson?, if_neg readable, kind, others, Option.bind_eq_bind, Option.bind_some,
    Json.string?_str]
  exact message.ofFields?_fields

theorem decode?_encode (message : Message) : decode? message.encode = some message := by
  rw [decode?, encode, Json.parse?_encode message.sound_toJson.writable, Option.bind_some,
    ofJson?_toJson]

end Message

/-- Whatever it holds, a message is read back from its frame, and so are the opcode and the
payload of an envelope, whose cursor starts at zero again. -/
theorem frames_read_back :
    (∀ message : Message, Message.decode? message.encode = some message) ∧
      ∀ env : Envelope, Envelope.decode? env.encode =
        some { opcode := env.opcode, payload := env.payload, rpos := 0 } :=
  ⟨Message.decode?_encode, Envelope.decode?_encode⟩

end GameRealm
