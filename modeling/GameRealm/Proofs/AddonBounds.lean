import GameRealm.Proofs.AddonListing
import GameRealm.Proofs.Frame

/-!
# How much a manifest can ask for

The bytes of a manifest are a client's, and so are the size in front of it and the number of
entries that it claims. Neither is to be believed: what is inflated and how often the loop over
the entries goes round has to be bounded by what is there. This module says that it is:

1. `LittleEndian.encode_decode` makes a word of any bytes, and `Addon.read_consumes` says what
   one round of the loop takes;
2. `Rounds` are rounds in a row, and `entries_rounds` finds them in the loop, however large the
   number that is claimed;
3. `Outcome` are the ends that the read of a manifest may come to, each with what leads to it, and
   `Tour` is the way through one that was inflated;
4. `readAddons_bounded` puts these together for every envelope, and says what a session does
   with the outcome.
-/

namespace GameRealm

/-! ## Words of any bytes -/

namespace LittleEndian

theorem encode_decode (bytes : Bytes) : encode bytes.length (decode bytes) = bytes := by
  induction bytes with
  | nil => rfl
  | cons byte bytes ih =>
    have small := byte.toNat_lt
    have low : (byte.toNat + 256 * decode bytes) % 256 = byte.toNat := by omega
    have high : (byte.toNat + 256 * decode bytes) / 256 = decode bytes := by omega
    rw [List.length_cons, decode, encode, low, high, ih, UInt8.ofNat_toNat]

theorem decode_lt (bytes : Bytes) : decode bytes < 256 ^ bytes.length := by
  induction bytes with
  | nil => exact Nat.one_pos
  | cons byte bytes ih =>
    have small := byte.toNat_lt
    rw [decode, List.length_cons, Nat.pow_succ]
    omega

theorem exists_encode {bytes : Bytes} (enough : 4 ≤ bytes.length) :
    ∃ (value : UInt32) (rest : Bytes), bytes = encode 4 value.toNat ++ rest := by
  have length : (bytes.take 4).length = 4 := List.length_take_of_le enough
  have word : (UInt32.ofNat (decode (bytes.take 4))).toNat = decode (bytes.take 4) := by
    apply UInt32.toNat_ofNat_of_lt'
    have below := decode_lt (bytes.take 4)
    rwa [length] at below
  have front := encode_decode (bytes.take 4)
  rw [length] at front
  refine ⟨UInt32.ofNat (decode (bytes.take 4)), bytes.drop 4, ?_⟩
  rw [word, front, List.take_append_drop]

end LittleEndian

/-! ## What a round takes -/

namespace Reader

variable {r left : Reader}

theorem bytes_consumes {n : Nat} {taken : Bytes} (ok : r.bytes n = .ok (taken, left)) :
    left.rest.length + n = r.rest.length := by
  rcases Nat.lt_or_ge r.rest.length n with short | enough
  · rw [bytes_of_length_lt short] at ok
    cases ok
  · rw [bytes_of_le_length enough] at ok
    cases ok
    rw [List.length_drop]
    omega

theorem word_consumes {width n : Nat} (ok : r.word width = .ok (n, left)) :
    left.rest.length + width = r.rest.length := by
  cases taken : r.bytes width with
  | error fault => rw [word, taken] at ok; cases ok
  | ok found =>
    rw [word, taken] at ok
    cases ok
    exact bytes_consumes taken

theorem u8_consumes {value : UInt8} (ok : r.u8 = .ok (value, left)) :
    left.rest.length + 1 = r.rest.length := by
  cases taken : r.word 1 with
  | error fault => rw [u8, taken] at ok; cases ok
  | ok found =>
    rw [u8, taken] at ok
    cases ok
    exact word_consumes taken

theorem u32_consumes {value : UInt32} (ok : r.u32 = .ok (value, left)) :
    left.rest.length + 4 = r.rest.length := by
  cases taken : r.word 4 with
  | error fault => rw [u32, taken] at ok; cases ok
  | ok found =>
    rw [u32, taken] at ok
    cases ok
    exact word_consumes taken

/-- A string takes its terminator at least. -/
theorem cstring_consumes {text : String} (ok : r.cstring = .ok (text, left)) :
    left.rest.length + 1 ≤ r.rest.length := by
  cases split : splitAtNul r.rest with
  | none => rw [cstring, split] at ok; cases ok
  | some halves =>
    rw [cstring, split] at ok
    cases ok
    rw [(splitAtNul_eq_some.mp split).1, List.length_append, List.length_cons]
    simp only
    omega

end Reader

/-- An entry takes the terminator of its name, the flag, the sum and the word behind them. -/
theorem Addon.read_consumes {r left : Reader} {addon : Addon}
    (ok : Addon.read r = .ok (addon, left)) : left.rest.length + 10 ≤ r.rest.length := by
  unfold Addon.read at ok
  split at ok
  · cases ok
  next named =>
  split at ok
  · cases ok
  next flagged =>
  split at ok
  · cases ok
  next summed =>
  split at ok
  · cases ok
  next reserved =>
  cases ok
  have name := Reader.cstring_consumes named
  have flag := Reader.u8_consumes flagged
  have sum := Reader.u32_consumes summed
  have word := Reader.u32_consumes reserved
  omega

namespace AddonManifest

/-! ## The loop -/

/-- Rounds in a row, each of which reads an entry and takes ten bytes at least. -/
inductive Rounds : Reader → List Addon → Reader → Prop
  | none (r : Reader) : Rounds r [] r
  | more {r mid last : Reader} {addon : Addon} {addons : List Addon}
      (read : Addon.read r = .ok (addon, mid)) (takes : mid.rest.length + 10 ≤ r.rest.length)
      (rest : Rounds mid addons last) : Rounds r (addon :: addons) last

/-- So there are not more than the bytes can pay for. -/
theorem Rounds.length_le {r last : Reader} {addons : List Addon} (rounds : Rounds r addons last) :
    10 * addons.length + last.rest.length ≤ r.rest.length := by
  induction rounds with
  | none r => simp
  | more read takes rest ih =>
    rw [List.length_cons]
    omega

/-- Why no other round follows: all that are claimed were made, or nothing is left, or the next
entry cannot be read. -/
inductive Over (count : Nat) (addons : List Addon) (last : Reader) : Ending → Prop
  | closed (all : addons.length = count) : Over count addons last (.closed last)
  | early (nothing : last.rest = []) : Over count addons last .early
  | faulty {fault : PayloadError} (failed : Addon.read last = .error fault) :
      Over count addons last (.faulty fault)

/-- Whatever number of entries is claimed, the loop makes rounds until one of these is so. -/
theorem entries_rounds (count : Nat) (r : Reader) :
    ∃ last, Rounds r (entries count r).1 last ∧
      Over count (entries count r).1 last (entries count r).2 ∧
      (entries count r).1.length ≤ count := by
  induction count generalizing r with
  | zero => exact ⟨r, .none r, .closed rfl, Nat.le_refl 0⟩
  | succ count ih =>
    unfold entries
    split
    · next nothing => exact ⟨r, .none r, .early (List.isEmpty_iff.mp nothing), Nat.zero_le _⟩
    · split
      · next failed => exact ⟨r, .none r, .faulty failed, Nat.zero_le _⟩
      · next addon mid read =>
        obtain ⟨last, rounds, ended, few⟩ := ih mid
        refine ⟨last, .more read (Addon.read_consumes read) rounds, ?_, Nat.succ_le_succ few⟩
        generalize entries count mid = gone at ended
        obtain ⟨addons, ending⟩ := gone
        cases ended with
        | closed all => exact .closed (congrArg Nat.succ all)
        | early nothing => exact .early nothing
        | faulty failed => exact .faulty failed

/-! ## A manifest that was inflated -/

/-- The way through an inflated manifest: the number of entries that it claims, and the rounds
that there are. -/
structure Tour (body : Bytes) where
  count : UInt32
  rest : Bytes
  addons : List Addon
  last : Reader
  ending : Ending
  claimed : body = LittleEndian.encode 4 count.toNat ++ rest
  rounds : Rounds ⟨rest, 4, body.length⟩ addons last
  ended : Over count.toNat addons last ending
  /-- There are not more rounds than are claimed. -/
  few : addons.length ≤ count.toNat

/-- Nor are there more than there are bytes for. -/
theorem Tour.length_le {body : Bytes} (tour : Tour body) :
    tour.addons.length ≤ (body.length - 4) / 10 := by
  have paid := tour.rounds.length_le
  have whole := congrArg List.length tour.claimed
  rw [List.length_append, LittleEndian.length_encode] at whole
  simp only at paid
  omega

/-- What is read of a manifest is what its rounds read, if the last entry has no fault. -/
theorem ofBody_tour (body : Bytes) :
    (body.length < 4 ∧ ofBody body = ⟨.error (.payload (.outOfBounds 0 4 body.length)), []⟩) ∨
      ∃ tour : Tour body, ofBody body = conclude (tour.addons, tour.ending) := by
  rcases Nat.lt_or_ge body.length 4 with short | enough
  · left
    refine ⟨short, ?_⟩
    rw [ofBody, Reader.u32_of_length_lt short]
    rfl
  · right
    obtain ⟨count, rest, claimed⟩ := LittleEndian.exists_encode enough
    obtain ⟨last, rounds, ended, few⟩ := entries_rounds count.toNat ⟨rest, 4, body.length⟩
    refine ⟨⟨count, rest, _, last, _, claimed, rounds, ended, few⟩, ?_⟩
    have read := ofBody_count count.toNat_lt rest
    rwa [← claimed] at read

/-! ## An envelope -/

/-- There is no manifest at the cursor: not the bytes of a size, or the size zero. -/
def Missing (env : Envelope) : Prop :=
  env.remaining < 4 ∨ ∃ stream, env.unread = LittleEndian.encode 4 0 ++ stream

/-- Why a manifest is refused that has a size. -/
inductive Refused (size : UInt32) (stream : Bytes) : ManifestFault → Prop
  | tooBig (big : maxSize < size.toNat) : Refused size stream (.tooBig size.toNat)
  | garbled (some : 0 < size.toNat) (accepted : size.toNat ≤ maxSize)
      (nothing : Inflate.inflate? size.toNat stream = none) : Refused size stream .decompression

/-- What the read of a manifest may come to: what is read, and the envelope afterwards. -/
inductive Outcome (env : Envelope) : Reading → Envelope → Prop
  | absent (short : env.remaining < 4) : Outcome env ⟨.ok [], []⟩ env
  | empty {stream : Bytes} (here : env.unread = LittleEndian.encode 4 0 ++ stream) :
      Outcome env ⟨.ok [], []⟩ { env with rpos := env.rpos + 4 }
  | refused {size : UInt32} {stream : Bytes} {fault : ManifestFault}
      (here : env.unread = LittleEndian.encode 4 size.toNat ++ stream)
      (refused : Refused size stream fault) :
      Outcome env ⟨.error (.addonManifest fault), []⟩ { env with rpos := env.rpos + 4 }
  | inflated {size : UInt32} {stream body : Bytes}
      (here : env.unread = LittleEndian.encode 4 size.toNat ++ stream)
      (inflated : Inflate.inflate? size.toNat stream = some body)
      (within : body.length ≤ size.toNat) (accepted : size.toNat ≤ maxSize) :
      Outcome env (ofBody body) { env with rpos := env.wpos }

theorem read_outcome (env : Envelope) : Outcome env (read env).1 (read env).2 := by
  by_cases short : env.remaining < 4
  · rw [read, if_pos short]
    exact .absent short
  · obtain ⟨size, stream, here⟩ : ∃ (size : UInt32) (stream : Bytes),
        env.unread = LittleEndian.encode 4 size.toNat ++ stream := by
      apply LittleEndian.exists_encode
      rw [Envelope.length_unread]
      exact Nat.le_of_not_lt short
    obtain ⟨sized, behind⟩ := readU32_of_unread here
    rcases Nat.eq_zero_or_pos size.toNat with zero | some
    · simp only [read, if_neg short, sized, zero, if_true]
      exact .empty (zero ▸ here)
    · rcases Nat.lt_or_ge maxSize size.toNat with big | accepted
      · simp only [read, if_neg short, sized, if_neg (Nat.ne_of_gt some), if_pos big]
        exact .refused here (.tooBig big)
      · cases inflated : Inflate.inflate? size.toNat stream with
        | none =>
          simp only [read, if_neg short, sized, if_neg (Nat.ne_of_gt some),
            if_neg (Nat.not_lt.mpr accepted), behind, inflated]
          exact .refused here (.garbled some accepted inflated)
        | some body =>
          rw [read_of_inflated here some accepted inflated]
          exact .inflated here inflated (Inflate.length_le_of_inflate? inflated) accepted

theorem Outcome.cursor {env after : Envelope} {reading : Reading}
    (outcome : Outcome env reading after) :
    after = env ∨ after = { env with rpos := env.rpos + 4 } ∨
      after = { env with rpos := env.wpos } := by
  cases outcome with
  | absent short => exact .inl rfl
  | empty here => exact .inr (.inl rfl)
  | refused here refused => exact .inr (.inl rfl)
  | inflated here inflated within accepted => exact .inr (.inr rfl)

/-- Either nothing is inflated, or no more than is declared and accepted, and then there is a way
through it that what is there pays for. -/
theorem Outcome.bounded {env after : Envelope} {reading : Reading}
    (outcome : Outcome env reading after) :
    (Missing env ∧ reading.result = .ok []) ∨
      (∃ (size : UInt32) (stream : Bytes) (fault : ManifestFault),
        env.unread = LittleEndian.encode 4 size.toNat ++ stream ∧ Refused size stream fault ∧
        reading.result = .error (.addonManifest fault)) ∨
      ∃ (size : UInt32) (stream body : Bytes),
        env.unread = LittleEndian.encode 4 size.toNat ++ stream ∧
        Inflate.inflate? size.toNat stream = some body ∧
        body.length ≤ size.toNat ∧ size.toNat ≤ maxSize ∧
        (reading.result = .error (.payload (.outOfBounds 0 4 body.length)) ∨
          ∃ tour : Tour body, reading = conclude (tour.addons, tour.ending) ∧
            tour.addons.length ≤ tour.count.toNat ∧
            tour.addons.length ≤ (body.length - 4) / 10) := by
  cases outcome with
  | absent short => exact .inl ⟨.inl short, rfl⟩
  | empty here => exact .inl ⟨.inr ⟨_, here⟩, rfl⟩
  | refused here refused => exact .inr (.inl ⟨_, _, _, here, refused, rfl⟩)
  | @inflated size stream body here inflated within accepted =>
    refine .inr (.inr ⟨size, stream, body, here, inflated, within, accepted, ?_⟩)
    rcases ofBody_tour body with ⟨-, short⟩ | ⟨tour, through⟩
    · left
      rw [short]
    · right
      exact ⟨tour, through, tour.few, tour.length_le⟩

end AddonManifest

/-! ## A session -/

open AddonManifest in
/-- Take any envelope whatever, and any session. The cursor of the envelope stays, moves by the
size, or goes to the end. Nothing is inflated if there is no manifest, which has no addons then,
or if the manifest is refused. Otherwise what is inflated is not larger than the size that is
declared and that one is not larger than what is accepted, and the loop over it makes rounds of
ten bytes at least, not more than entries are claimed and not more than there are bytes for; its
entries are what is read, unless the next one has a fault. The session remembers what is read
behind what it remembers already and stays as it is otherwise, altogether so if there is an
error. -/
theorem LiveSession.readAddons_bounded (sv : Services W) (env : Envelope) (d : LiveSession W) :
    let reading := (AddonManifest.read env).1
    let after := (AddonManifest.read env).2
    let run := d.readAddons sv env
    (after = env ∨ after = { env with rpos := env.rpos + 4 } ∨
      after = { env with rpos := env.wpos }) ∧
    ((Missing env ∧ reading.result = .ok []) ∨
      (∃ (size : UInt32) (stream : Bytes) (fault : ManifestFault),
        env.unread = LittleEndian.encode 4 size.toNat ++ stream ∧ Refused size stream fault ∧
        reading.result = .error (.addonManifest fault)) ∨
      ∃ (size : UInt32) (stream body : Bytes),
        env.unread = LittleEndian.encode 4 size.toNat ++ stream ∧
        Inflate.inflate? size.toNat stream = some body ∧
        body.length ≤ size.toNat ∧ size.toNat ≤ maxSize ∧
        (reading.result = .error (.payload (.outOfBounds 0 4 body.length)) ∨
          ∃ tour : Tour body, reading = conclude (tour.addons, tour.ending) ∧
            tour.addons.length ≤ tour.count.toNat ∧
            tour.addons.length ≤ (body.length - 4) / 10)) ∧
    run.1.2 = after ∧ run.2.inbox = d.inbox ∧
    match reading.result with
    | .ok addons => run.1.1 = .ok addons.length ∧
      run.2.session = { d.session with addons := d.session.addons ++ addons }
    | .error e => run.1.1 = .error e ∧ run.2.session = d.session := by
  intro reading after run
  have outcome := read_outcome env
  refine ⟨outcome.cursor, outcome.bounded, ?_⟩
  simp only [run, readAddons]
  cases result : (AddonManifest.read env).1.result with
  | ok addons => exact ⟨rfl, rfl, rfl, rfl⟩
  | error e => exact ⟨rfl, rfl, rfl, rfl⟩

end GameRealm
