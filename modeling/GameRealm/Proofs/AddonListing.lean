import GameRealm.Proofs.Inflation
import GameRealm.Proofs.ReadBack
import GameRealm.Session.Addons
import Mathlib.Algebra.Group.Nat.Defs
import Mathlib.Data.Nat.Find

/-!
# What a client lists, and what is read of it

A client writes its addons one behind the other into a manifest, compresses that, and sends
it with its size in front. This module writes manifests and compares what goes in with what
`AddonManifest.read` gets out:

1. `Listing` is what a client lists, and `Listing.body` its manifest before it is compressed;
2. `Addon.read_encode` reads an entry back, and `Addon.read_cut` says how the read of an entry
   fails of which only the first bytes are there; `entries_encode` goes through entries in a
   row;
3. `read_listing`: whoever sends a whole manifest is understood;
4. `Listing.within` counts the entries that are whole in front of a cut, and
   `cut_kept_iff` says what is read of a manifest that is cut off there: these entries if the
   cut goes through none of the others, and a fault if it goes through one.
-/

namespace GameRealm

/-! ## Readers in front of what was written -/

theorem LittleEndian.take_encode_append (width n kept : Nat) (rest : Bytes) :
    (encode width n ++ rest).take (width + kept) = encode width n ++ rest.take kept := by
  have whole := @List.take_length_add_append _ (encode width n) rest kept
  rwa [length_encode] at whole

namespace Reader

variable {rest : Bytes} {pos size : Nat}

theorem word_encode (width n : Nat) (small : n < Nat.pow 256 width) :
    word width ⟨LittleEndian.encode width n ++ rest, pos, size⟩ =
      .ok (n, ⟨rest, pos + width, size⟩) := by
  have length := LittleEndian.length_encode width n
  have taken := bytes_of_le_length (n := width)
    (r := ⟨LittleEndian.encode width n ++ rest, pos, size⟩) (by simp [length])
  simp only [word, taken, List.take_left' length, List.drop_left' length, Except.map,
    LittleEndian.decode_encode width n small]

theorem u8_encode (value : UInt8) :
    u8 ⟨LittleEndian.encode 1 value.toNat ++ rest, pos, size⟩ =
      .ok (value, ⟨rest, pos + 1, size⟩) := by
  simp only [u8, word_encode 1 value.toNat value.toNat_lt, Except.map, UInt8.ofNat_toNat]

theorem u32_encode (value : UInt32) :
    u32 ⟨LittleEndian.encode 4 value.toNat ++ rest, pos, size⟩ =
      .ok (value, ⟨rest, pos + 4, size⟩) := by
  simp only [u32, word_encode 4 value.toNat value.toNat_lt, Except.map, UInt32.ofNat_toNat]

theorem cstring_encode {text : String} (free : Char.ofNat 0 ∉ text.toList) :
    cstring ⟨Utf8.encode text ++ 0 :: rest, pos, size⟩ =
      .ok (text, ⟨rest, pos + (Utf8.encode text).length + 1, size⟩) := by
  rw [cstring_of_rest rfl (Utf8.zero_not_mem_encode free), Utf8.decodeLossy_encode]

variable {r : Reader}

theorem u8_of_length_lt (short : r.rest.length < 1) :
    r.u8 = .error (.outOfBounds r.pos 1 r.size) := by
  simp only [u8, word, bytes_of_length_lt short, Except.map]

theorem u32_of_length_lt (short : r.rest.length < 4) :
    r.u32 = .error (.outOfBounds r.pos 4 r.size) := by
  simp only [u32, word, bytes_of_length_lt short, Except.map]

end Reader

namespace AddonManifest

/-! ## Writing a manifest -/

/-- An entry of a manifest: an addon and the word behind it, which means nothing. -/
structure Entry where
  addon : Addon
  reserved : UInt32
  deriving DecidableEq, Repr

namespace Entry

def items (entry : Entry) : List Envelope.Item :=
  [.cstring entry.addon.name, .u8 entry.addon.enabled, .u32 entry.addon.crc, .u32 entry.reserved]

def encode (entry : Entry) : Bytes := Envelope.encoding entry.items

/-- The name must not hold what terminates it. -/
def Free (entry : Entry) : Prop := Char.ofNat 0 ∉ entry.addon.name.toList

def nameLength (entry : Entry) : Nat := (Utf8.encode entry.addon.name).length

/-- What stands behind the name and its terminator: the flag, the sum and the word. -/
def tail (entry : Entry) : Bytes :=
  LittleEndian.encode 1 entry.addon.enabled.toNat ++
    (LittleEndian.encode 4 entry.addon.crc.toNat ++ LittleEndian.encode 4 entry.reserved.toNat)

/-- What is wrong with an entry that begins at `start` and of which only `kept` bytes are
there: the name has no end, or the flag, the sum or the word behind it is not all there. -/
def fault (entry : Entry) (start kept : Nat) : PayloadError :=
  let flag := entry.nameLength + 1
  if kept < flag then .unterminatedString start
  else if kept < flag + 1 then .outOfBounds (start + flag) 1 (start + kept)
  else if kept < flag + 5 then .outOfBounds (start + (flag + 1)) 4 (start + kept)
  else .outOfBounds (start + (flag + 5)) 4 (start + kept)

variable (entry : Entry)

theorem encode_eq : entry.encode = Utf8.encode entry.addon.name ++ 0 :: entry.tail := by
  simp [encode, items, Envelope.encoding, Envelope.Item.encode, tail]

@[simp] theorem length_tail : entry.tail.length = 9 := by
  simp [tail, LittleEndian.length_encode]

theorem length_encode : entry.encode.length = entry.nameLength + 10 := by
  rw [encode_eq, List.length_append, List.length_cons, length_tail]
  rfl

end Entry

/-- What a client lists: its addons, and the word that closes the manifest. -/
structure Listing where
  entries : List Entry
  closing : UInt32
  deriving DecidableEq, Repr

namespace Listing

def encoding (entries : List Entry) : Bytes := entries.flatMap Entry.encode

/-- The manifest: the number of entries, the entries, and the closing word. -/
def body (listing : Listing) : Bytes :=
  LittleEndian.encode 4 listing.entries.length ++
    (encoding listing.entries ++ LittleEndian.encode 4 listing.closing.toNat)

def addons (listing : Listing) : List Addon := listing.entries.map (·.addon)

/-- Where in the manifest the first `k` entries end. -/
def ends (listing : Listing) (k : Nat) : Nat := 4 + (encoding (listing.entries.take k)).length

/-- How many entries are whole in the first `n` bytes of the manifest. -/
def within (listing : Listing) (n : Nat) : Nat :=
  Nat.findGreatest (fun k => listing.ends k ≤ n) listing.entries.length

/-- How the entries end when only the first `n` bytes of the manifest are there, of which the
first `whole` entries are read: at the closing word, or what is left of it, at the cut if it is
between two entries, and with a fault if it goes through one. -/
def ending (listing : Listing) (whole n : Nat) : Ending :=
  let start := listing.ends whole
  match listing.entries[whole]? with
  | none => .closed ⟨(LittleEndian.encode 4 listing.closing.toNat).take (n - start), start,
      (listing.body.take n).length⟩
  | some entry => if n = start then .early else .faulty (entry.fault start (n - start))

end Listing

end AddonManifest

/-! ## One entry -/

namespace Addon

open AddonManifest

variable {entry : Entry}

theorem read_encode (free : entry.Free) (rest : Bytes) (pos size : Nat) :
    read ⟨entry.encode ++ rest, pos, size⟩ =
      .ok (entry.addon, ⟨rest, pos + entry.encode.length, size⟩) := by
  have length : pos + (Utf8.encode entry.addon.name).length + 1 + 1 + 4 + 4 =
      pos + entry.encode.length := by
    rw [entry.length_encode, Entry.nameLength]
    omega
  rw [← length, entry.encode_eq, Entry.tail]
  simp only [List.append_assoc, List.cons_append, read, Reader.cstring_encode free,
    Reader.u8_encode, Reader.u32_encode]

/-- An entry of which only the first bytes are there cannot be read. -/
theorem read_cut (free : entry.Free) {kept : Nat} (short : kept < entry.encode.length)
    (pos : Nat) :
    read ⟨entry.encode.take kept, pos, pos + kept⟩ = .error (entry.fault pos kept) := by
  rw [entry.length_encode] at short
  have cut : ∀ (bytes : Bytes) {n limit : Nat}, n < limit → (bytes.take n).length < limit :=
    fun bytes _ _ below => Nat.lt_of_le_of_lt (List.length_take_le _ bytes) below
  unfold Entry.fault
  rcases Nat.lt_or_ge kept (entry.nameLength + 1) with unnamed | named
  · -- Nothing but bytes of the name is there.
    have inside : entry.encode.take kept = (Utf8.encode entry.addon.name).take kept := by
      rw [entry.encode_eq, List.take_append_of_le_length (Nat.le_of_lt_succ unnamed)]
    have bare : 0 ∉ (Utf8.encode entry.addon.name).take kept :=
      fun mem => Utf8.zero_not_mem_encode free (List.mem_of_mem_take mem)
    rw [if_pos unnamed, inside, read, Reader.cstring_of_free bare]
  · -- The name is whole, so the cut is in the flag, in the sum or in the word.
    rw [if_neg (Nat.not_lt.mpr named)]
    obtain ⟨left, rfl⟩ := Nat.exists_eq_add_of_le named
    have whole : entry.encode.take (entry.nameLength + 1 + left) =
        Utf8.encode entry.addon.name ++ 0 :: entry.tail.take left := by
      rw [entry.encode_eq, Nat.add_assoc, Entry.nameLength, List.take_length_add_append,
        Nat.add_comm 1, List.take_succ_cons]
    simp only [read, whole, Reader.cstring_encode free]
    rcases Nat.lt_or_ge left 1 with unflagged | flagged
    · rw [if_pos (by omega), Reader.u8_of_length_lt (cut _ unflagged)]
      rfl
    · rw [if_neg (by omega)]
      obtain ⟨left, rfl⟩ := Nat.exists_eq_add_of_le flagged
      simp only [Entry.tail, LittleEndian.take_encode_append, Reader.u8_encode]
      rcases Nat.lt_or_ge left 4 with unsummed | summed
      · rw [if_pos (by omega), Reader.u32_of_length_lt (cut _ unsummed)]
        rfl
      · rw [if_neg (by omega)]
        obtain ⟨left, rfl⟩ := Nat.exists_eq_add_of_le summed
        simp only [LittleEndian.take_encode_append, Reader.u32_encode]
        rw [Reader.u32_of_length_lt (cut _ (by omega))]
        rfl

end Addon

/-! ## Entries in a row -/

namespace AddonManifest

theorem encode_ne_nil (entry : Entry) : entry.encode ≠ [] := by
  intro none
  have length := entry.length_encode
  rw [none] at length
  cases length

theorem entries_encode (listed : List Entry) (free : ∀ entry ∈ listed, entry.Free)
    (count : Nat) (rest : Bytes) (pos size : Nat) :
    let after : Reader := ⟨rest, pos + (Listing.encoding listed).length, size⟩
    entries (listed.length + count) ⟨Listing.encoding listed ++ rest, pos, size⟩ =
      (listed.map (·.addon) ++ (entries count after).1, (entries count after).2) := by
  induction listed generalizing pos with
  | nil => simp [Listing.encoding]
  | cons entry listed ih =>
    have here : Listing.encoding (entry :: listed) ++ rest =
        entry.encode ++ (Listing.encoding listed ++ rest) := by
      rw [Listing.encoding, List.flatMap_cons, List.append_assoc]
      rfl
    have more : (entry.encode ++ (Listing.encoding listed ++ rest)).isEmpty = false := by
      simp [encode_ne_nil]
    have length : pos + (Listing.encoding (entry :: listed)).length =
        pos + entry.encode.length + (Listing.encoding listed).length := by
      rw [Listing.encoding, List.flatMap_cons, List.length_append, Nat.add_assoc]
      rfl
    rw [List.length_cons, Nat.succ_add, here, length]
    simp only [entries, more, Bool.false_eq_true, if_false,
      Addon.read_encode (free entry List.mem_cons_self),
      ih fun entry mem => free entry (List.mem_cons_of_mem _ mem)]
    rfl

/-- What becomes of a manifest once its entries have been gone through. -/
def conclude : List Addon × Ending → Reading
  | (addons, ending) =>
    let read := addons.map fun addon => Notice.addonRead addon.crc
    match ending with
    | .closed r => ⟨.ok addons, read ++ closingNotices r⟩
    | .early => ⟨.ok addons, read⟩
    | .faulty fault => ⟨.error (.payload fault), read⟩

theorem ofBody_count {count : Nat} (few : count < 2 ^ 32) (rest : Bytes) :
    ofBody (LittleEndian.encode 4 count ++ rest) =
      conclude (entries count ⟨rest, 4, (LittleEndian.encode 4 count ++ rest).length⟩) := by
  have word : (UInt32.ofNat count).toNat = count := UInt32.toNat_ofNat_of_lt' few
  have counted := @Reader.u32_encode rest 0 (LittleEndian.encode 4 count ++ rest).length
    (UInt32.ofNat count)
  rw [word] at counted
  simp only [ofBody, Reader.ofBytes, counted, word]
  rfl

/-! ## An envelope -/

theorem readU32_of_unread {env : Envelope} {size : UInt32} {stream : Bytes}
    (here : env.unread = LittleEndian.encode 4 size.toNat ++ stream) :
    env.readU32 = (.ok size, { env with rpos := env.rpos + 4 }) ∧
      Envelope.unread { env with rpos := env.rpos + 4 } = stream := by
  have taken := @Reader.u32_encode stream env.rpos env.size size
  constructor
  · rw [← here] at taken
    simp only [Envelope.readU32, Envelope.read, Envelope.reader, taken]
  · change env.payload.drop (env.rpos + 4) = stream
    rw [← List.drop_drop]
    change env.unread.drop 4 = stream
    rw [here, List.drop_left' (LittleEndian.length_encode 4 size.toNat)]

theorem read_of_inflated {env : Envelope} {length : Nat} {stream body : Bytes}
    (here : env.unread = LittleEndian.encode 4 length ++ stream) (some : 0 < length)
    (fits : length ≤ maxSize) (inflated : Inflate.inflate? length stream = .some body) :
    read env = (ofBody body, { env with rpos := env.wpos }) := by
  have word : (UInt32.ofNat length).toNat = length :=
    UInt32.toNat_ofNat_of_lt' (Nat.lt_of_le_of_lt fits (by decide))
  have enough : ¬ env.remaining < 4 := by
    rw [← Envelope.length_unread, here, List.length_append, LittleEndian.length_encode]
    omega
  obtain ⟨sized, behind⟩ := readU32_of_unread (word.symm ▸ here)
  simp only [read, if_neg enough, sized, word, if_neg (Nat.ne_of_gt some),
    if_neg (Nat.not_lt.mpr fits), behind, inflated]
  simp [Envelope.setRpos, Envelope.wpos]

/-! ## A whole manifest -/

namespace Listing

variable (listing : Listing)

theorem length_body : listing.body.length = listing.ends listing.entries.length + 4 := by
  simp only [body, ends, List.take_length, List.length_append, LittleEndian.length_encode]
  omega

theorem le_length_encoding (listed : List Entry) :
    10 * listed.length ≤ (encoding listed).length := by
  induction listed with
  | nil => exact Nat.le_refl 0
  | cons entry listed ih =>
    have whole : (encoding (entry :: listed)).length =
        entry.encode.length + (encoding listed).length := by
      rw [encoding, List.flatMap_cons, List.length_append]
      rfl
    rw [whole, entry.length_encode, List.length_cons]
    omega

theorem length_entries_lt : listing.entries.length < listing.body.length := by
  have long := le_length_encoding listing.entries
  rw [length_body, ends, List.take_length]
  omega

end Listing

theorem ofBody_body {listing : Listing} (free : ∀ entry ∈ listing.entries, entry.Free)
    (few : listing.entries.length < 2 ^ 32) :
    ofBody listing.body =
      ⟨.ok listing.addons, listing.addons.map fun addon => .addonRead addon.crc⟩ := by
  have gone := entries_encode listing.entries free 0
    (LittleEndian.encode 4 listing.closing.toNat) 4 listing.body.length
  have closed : ∀ pos size, closingNotices
      ⟨LittleEndian.encode 4 listing.closing.toNat, pos, size⟩ = [] := by
    intro pos size
    have word := @Reader.u32_encode [] pos size listing.closing
    rw [List.append_nil] at word
    simp only [closingNotices, word, List.isEmpty_nil, if_true]
  rw [Listing.body, ofBody_count few]
  simp only [Nat.add_zero, entries, List.append_nil] at gone
  rw [Listing.body] at gone
  rw [gone]
  simp only [conclude, closed, List.append_nil]
  rfl

/-- Take any list of addons whose names do not hold what terminates them, with any words behind
them, whose manifest is not larger than what is accepted; and any envelope with the size of
the manifest at its cursor and behind that a stream in which there is this manifest. Then
exactly these addons are read, in order, nothing is left of the envelope, and nothing is said
but that they were read. -/
theorem read_listing (listing : Listing) (free : ∀ entry ∈ listing.entries, entry.Free)
    (fits : listing.body.length ≤ maxSize) (env : Envelope) (stream : Bytes)
    (here : env.unread = LittleEndian.encode 4 listing.body.length ++ stream)
    (inflates : Inflate.Inflates stream listing.body) :
    let after := { env with rpos := env.wpos }
    read env = (⟨.ok listing.addons, listing.addons.map fun addon => .addonRead addon.crc⟩,
      after) ∧ after.remaining = 0 := by
  intro after
  have fewer := listing.length_entries_lt
  have inflated := Inflate.inflate?_of_inflates inflates listing.body.length
  rw [List.take_length] at inflated
  have whole := read_of_inflated here (Nat.lt_of_le_of_lt (Nat.zero_le _) fewer) fits inflated
  rw [ofBody_body free (Nat.lt_of_lt_of_le fewer (Nat.le_trans fits (by decide)))] at whole
  exact ⟨whole, Nat.sub_self _⟩

/-- A manifest with one addon, in the compressed form in which a client sends it. -/
theorem read_listing_one :
    let listing : Listing := ⟨[⟨⟨"One", 1, 7⟩, 0⟩], 0⟩
    let env : Envelope := ⟨⟨0x1ED⟩, [9, 21, 0, 0, 0, 120, 156, 99, 100, 96, 96, 240, 207, 75, 101,
      96, 100, 103, 64, 0, 0, 18, 149, 1, 44], 1⟩
    listing.addons = [⟨"One", 1, 7⟩] ∧ (read env).1.result = .ok listing.addons ∧
      (read env).2.remaining = 0 := by
  intro listing env
  have inflates : Inflate.Inflates [120, 156, 99, 100, 96, 96, 240, 207, 75, 101, 96, 100, 103,
      64, 0, 0, 18, 149, 1, 44] listing.body := .of_read 21 (by decide +kernel)
  obtain ⟨whole, done⟩ := read_listing listing (by simp [listing, Entry.Free]) (by decide) env _
    (by decide +kernel) inflates
  rw [whole]
  exact ⟨rfl, rfl, done⟩

/-! ## A manifest that is cut off -/

namespace Listing

variable (listing : Listing)

theorem within_le (n : Nat) : listing.within n ≤ listing.entries.length := Nat.findGreatest_le _

theorem ends_within_le {n : Nat} (counted : 4 ≤ n) : listing.ends (listing.within n) ≤ n := by
  have none : listing.ends 0 ≤ n := counted
  exact @Nat.findGreatest_spec 0 (fun k => listing.ends k ≤ n) _ _ (Nat.zero_le _) none

theorem lt_ends_within_succ {n : Nat} (more : listing.within n < listing.entries.length) :
    n < listing.ends (listing.within n + 1) := by
  apply Nat.lt_of_not_le
  exact @Nat.findGreatest_is_greatest _ (fun k => listing.ends k ≤ n) _ _ (Nat.lt_succ_self _) more

theorem ends_succ {k : Nat} {entry : Entry} (here : listing.entries[k]? = some entry) :
    listing.ends (k + 1) = listing.ends k + entry.encode.length := by
  rw [ends, List.take_add_one, here]
  simp only [encoding, Option.toList_some, List.flatMap_append, List.flatMap_singleton,
    List.length_append, ends, Nat.add_assoc]

/-- What comes behind the first `whole` entries. -/
def behind (whole : Nat) : Bytes :=
  encoding (listing.entries.drop whole) ++ LittleEndian.encode 4 listing.closing.toNat

/-- In front of a cut there are the entries that end there, and then what is there of all that
comes behind them. -/
theorem take_body {whole n : Nat} (inside : listing.ends whole ≤ n) :
    listing.body.take n = LittleEndian.encode 4 listing.entries.length ++
      (encoding (listing.entries.take whole) ++
        (listing.behind whole).take (n - listing.ends whole)) := by
  obtain ⟨left, split⟩ := Nat.exists_eq_add_of_le inside
  have parts : encoding listing.entries =
      encoding (listing.entries.take whole) ++ encoding (listing.entries.drop whole) := by
    rw [encoding, encoding, encoding, ← List.flatMap_append, List.take_append_drop]
  calc listing.body.take n
      = listing.body.take (4 + ((encoding (listing.entries.take whole)).length + left)) := by
        rw [split, ends, Nat.add_assoc]
    _ = _ := by
        rw [body, LittleEndian.take_encode_append, parts, List.append_assoc,
          List.take_length_add_append, Nat.sub_eq_of_eq_add' split, behind]

end Listing

/-- Behind the entries that are whole no other is read. -/
theorem entries_behind {listing : Listing} (free : ∀ entry ∈ listing.entries, entry.Free)
    {whole n : Nat} (within : whole ≤ listing.entries.length) (inside : listing.ends whole ≤ n)
    (last : whole < listing.entries.length → n < listing.ends (whole + 1)) :
    entries (listing.entries.length - whole)
        ⟨(listing.behind whole).take (n - listing.ends whole), listing.ends whole,
          (listing.body.take n).length⟩ = ([], listing.ending whole n) := by
  rcases Nat.eq_or_lt_of_le within with rfl | more
  · -- Every entry is in front of the cut.
    rw [Listing.ending, List.getElem?_eq_none (Nat.le_refl _), Listing.behind, List.drop_length,
      Nat.sub_self]
    rfl
  · -- The next entry is cut, so what is there of it is all that the loop still gets to see.
    have here : listing.entries[whole]? = some listing.entries[whole] :=
      List.getElem?_eq_getElem more
    have cut := last more
    rw [listing.ends_succ here] at cut
    obtain ⟨kept, rfl⟩ := Nat.exists_eq_add_of_le inside
    obtain ⟨count, rest⟩ : ∃ count, listing.entries.length - whole = count + 1 :=
      ⟨listing.entries.length - whole - 1, by omega⟩
    have first : (listing.behind whole).take kept = listing.entries[whole].encode.take kept := by
      rw [Listing.behind, List.drop_eq_getElem_cons more, Listing.encoding, List.flatMap_cons,
        List.append_assoc, List.take_append_of_le_length (by omega)]
    have size : (listing.body.take (listing.ends whole + kept)).length =
        listing.ends whole + kept := by
      rw [listing.take_body (Nat.le_add_right _ _), Nat.add_sub_cancel_left, first]
      simp only [List.length_append, LittleEndian.length_encode, Listing.ends, List.length_take]
      omega
    rw [Nat.add_sub_cancel_left, first, size, rest, Listing.ending, here]
    rcases Nat.eq_zero_or_pos kept with rfl | some
    · rw [List.take_zero]
      simp [entries]
    · have begun : (listing.entries[whole].encode.take kept).isEmpty = false := by
        simp [encode_ne_nil, Nat.ne_of_gt some]
      have read := Addon.read_cut (free _ (List.getElem_mem more)) (Nat.lt_of_add_lt_add_left cut)
        (listing.ends whole)
      have through : listing.ends whole + kept ≠ listing.ends whole := by omega
      simp only [entries, begun, Bool.false_eq_true, if_false, read, Nat.add_sub_cancel_left,
        if_neg through]

theorem ofBody_take {listing : Listing} (free : ∀ entry ∈ listing.entries, entry.Free)
    (few : listing.entries.length < 2 ^ 32) {n : Nat} (counted : 4 ≤ n) :
    let whole := listing.within n
    ofBody (listing.body.take n) =
      conclude (listing.addons.take whole, listing.ending whole n) := by
  intro whole
  have within : whole ≤ listing.entries.length := listing.within_le n
  have inside : listing.ends whole ≤ n := listing.ends_within_le counted
  have gone := entries_encode (listing.entries.take whole)
    (fun entry mem => free entry (List.mem_of_mem_take mem)) (listing.entries.length - whole)
    ((listing.behind whole).take (n - listing.ends whole)) 4 (listing.body.take n).length
  have behind := entries_behind free within inside listing.lt_ends_within_succ
  rw [List.length_take_of_le within, Nat.add_sub_of_le within] at gone
  have ends : 4 + (Listing.encoding (listing.entries.take whole)).length = listing.ends whole := rfl
  simp only [ends, behind, List.append_nil] at gone
  rw [listing.take_body inside, ofBody_count few, ← listing.take_body inside, gone,
    Listing.addons, List.map_take]

/-- Take any manifest that is cut off anywhere behind the number of its entries, and any
envelope with a size at its cursor and behind it a stream of which what is left of the manifest
is inflated. Then the entries that are whole in front of the cut are what is read exactly if
the cut goes through none of the others, be it that it is between two of them or behind the
last. If it goes through an entry nothing is kept: what is read is that this entry has a fault.
Either way nothing is left of the envelope. -/
theorem cut_kept_iff (listing : Listing) (free : ∀ entry ∈ listing.entries, entry.Free)
    (few : listing.entries.length < 2 ^ 32) (n : Nat) (counted : 4 ≤ n) (env : Envelope)
    (length : Nat) (stream : Bytes)
    (here : env.unread = LittleEndian.encode 4 length ++ stream) (fits : length ≤ maxSize)
    (inflated : Inflate.inflate? length stream = some (listing.body.take n)) :
    let whole := listing.within n
    let start := listing.ends whole
    ((read env).1.result = .ok (listing.addons.take whole) ↔
      n = start ∨ whole = listing.entries.length) ∧
    (∀ entry, listing.entries[whole]? = some entry → n ≠ start →
      (read env).1.result = .error (.payload (entry.fault start (n - start)))) ∧
    (read env).2.remaining = 0 := by
  intro whole start
  have left : 4 ≤ (listing.body.take n).length := by
    rw [List.length_take, listing.length_body, Listing.ends]
    omega
  -- The count alone takes four bytes, so the declared size is not zero.
  have some : 0 < length := by
    have room := Inflate.length_le_of_inflate? inflated
    omega
  rw [read_of_inflated here some fits inflated, ofBody_take free few counted]
  change ((conclude (listing.addons.take whole, listing.ending whole n)).result = _ ↔ _) ∧
    (∀ _, _ → _ → (conclude (listing.addons.take whole, listing.ending whole n)).result = _) ∧ _
  refine ⟨?_, ?_, Nat.sub_self _⟩
  · rcases Nat.eq_or_lt_of_le (listing.within_le n) with all | more
    · have none : listing.entries[whole]? = none :=
        List.getElem?_eq_none (Nat.le_of_eq all.symm)
      simp only [Listing.ending, none, conclude]
      exact iff_of_true trivial (.inr all)
    · have entry : listing.entries[whole]? = .some listing.entries[whole] :=
        List.getElem?_eq_getElem more
      have missing : whole ≠ listing.entries.length := Nat.ne_of_lt more
      simp only [Listing.ending, entry]
      by_cases between : n = start
      · simp [conclude, between, start]
      · simp [conclude, between, start, missing]
  · intro entry entry_here through
    simp only [Listing.ending, entry_here, if_neg through, conclude, start]

/-- A manifest of two addons is cut off behind the first letters of the second one's name, in
an envelope in which it is sent without being compressed: there is a fault. -/
theorem cut_kept_iff_second_cut :
    let listing : Listing := ⟨[⟨⟨"One", 1, 7⟩, 0⟩, ⟨⟨"Two", 0, 9⟩, 0⟩], 0⟩
    let stream : Bytes := [120, 1, 1, 19, 0, 236, 255, 2, 0, 0, 0, 79, 110, 101, 0, 1, 7, 0, 0, 0,
      0, 0, 0, 0, 84, 119, 17, 111, 1, 248]
    let env : Envelope := ⟨⟨0x1ED⟩, [19, 0, 0, 0] ++ stream, 0⟩
    listing.within 19 = 1 ∧
      (read env).1.result = .error (.payload (.unterminatedString 17)) := by
  intro listing stream env
  have inflates : Inflate.Inflates stream (listing.body.take 19) := .of_read 19 (by decide +kernel)
  have inflated := Inflate.inflate?_of_inflates inflates 19
  rw [List.take_take] at inflated
  obtain ⟨-, faulty, -⟩ := cut_kept_iff listing (by simp [listing, Entry.Free]) (by decide) 19
    (by decide) env 19 stream (by decide +kernel) (by decide) inflated
  have whole : listing.within 19 = 1 := by decide +kernel
  rw [whole] at faulty
  have lost := faulty ⟨⟨"Two", 0, 9⟩, 0⟩ rfl (by decide +kernel)
  have fault : Entry.fault ⟨⟨"Two", 0, 9⟩, 0⟩ (listing.ends 1) (19 - listing.ends 1) =
      .unterminatedString 17 := by decide +kernel
  rw [fault] at lost
  exact ⟨whole, lost⟩

/-- The first addon is whole in front of the cut, and yet it is not kept. -/
theorem whole_entry_lost :
    let listing : Listing := ⟨[⟨⟨"One", 1, 7⟩, 0⟩, ⟨⟨"Two", 0, 9⟩, 0⟩], 0⟩
    let env : Envelope := ⟨⟨0x1ED⟩, [19, 0, 0, 0, 120, 156, 99, 98, 96, 96, 240, 207, 75, 101, 96,
      100, 103, 128, 128, 144, 114, 0, 17, 111, 1, 248], 0⟩
    Inflate.inflate? 19 (env.unread.drop 4) = some (listing.body.take 19) ∧
      listing.addons.take (listing.within 19) = [⟨"One", 1, 7⟩] ∧
      (read env).1.result ≠ .ok [⟨"One", 1, 7⟩] := by
  intro listing env
  refine ⟨by decide +kernel, by decide +kernel, ?_⟩
  intro kept
  have lost : (read env).1.result.toOption = none := by decide +kernel
  rw [kept] at lost
  cases lost

end AddonManifest

end GameRealm
