import GameRealm.Message.Codec

/-!
# The cursor of an envelope

Whoever reads an envelope reads bytes that a client has chosen. All of it goes through a few
reads, and these do with one comparison: what they want against what is left. This module
says what they come to, in whatever state they find the envelope:

1. `Envelope.Field` are the kinds of values that are read and `Envelope.Item` the values;
2. `read_of_remaining_lt` and `read_of_le_remaining` say what becomes of a read that takes a
   number of bytes, `readCString_of_free` and `readCString_of_unread` what of a string;
3. `Envelope.Handling` is whatever else may be done with an envelope, and
   `Envelope.InBounds` what all of it preserves (`InBounds.apply`, `InBounds.handle`);
4. `Envelope.cursor_in_bounds` puts these together for every envelope that there can be.
-/

namespace GameRealm

/-! ## Terminated strings -/

namespace Reader

theorem splitAtNul_eq_some {bytes front rest : Bytes} :
    splitAtNul bytes = some (front, rest) ↔ bytes = front ++ 0 :: rest ∧ 0 ∉ front := by
  induction bytes generalizing front with
  | nil => simp [splitAtNul]
  | cons byte bytes ih =>
    unfold splitAtNul
    split
    · next null =>
      subst null
      cases front with
      | nil => simp
      | cons first front =>
        simp only [Option.some.injEq, Prod.mk.injEq, List.nil_eq, reduceCtorEq, false_and,
          List.cons_append, List.cons.injEq, List.mem_cons, false_iff]
        rintro ⟨⟨rfl, -⟩, none⟩
        exact none (.inl rfl)
    · next other =>
      cases front with
      | nil => simp [other]
      | cons first front =>
        simp only [Option.map_eq_some_iff, Prod.exists, Prod.mk.injEq, List.cons.injEq,
          List.cons_append, List.mem_cons, not_or]
        constructor
        · rintro ⟨front, rest, found, ⟨rfl, rfl⟩, rfl⟩
          obtain ⟨rfl, none⟩ := ih.mp found
          exact ⟨⟨rfl, rfl⟩, fun null => other null.symm, none⟩
        · rintro ⟨⟨rfl, rfl⟩, -, none⟩
          exact ⟨front, rest, ih.mpr ⟨rfl, none⟩, ⟨rfl, rfl⟩, rfl⟩

theorem splitAtNul_eq_none {bytes : Bytes} : splitAtNul bytes = none ↔ 0 ∉ bytes := by
  constructor
  · intro none mem
    obtain ⟨front, rest, whole, free⟩ := List.eq_append_cons_of_mem mem
    rw [splitAtNul_eq_some.mpr ⟨whole, free⟩] at none
    cases none
  · intro free
    cases found : splitAtNul bytes with
    | none => rfl
    | some halves =>
      obtain ⟨whole, -⟩ := splitAtNul_eq_some.mp found
      exact absurd (whole ▸ List.mem_append_right _ List.mem_cons_self) free

/-! ## What a reader takes -/

variable {r : Reader}

theorem bytes_of_length_lt {n : Nat} (short : r.rest.length < n) :
    r.bytes n = .error (.outOfBounds r.pos n r.size) := by
  have few : (r.rest.take n).length < n := by
    rw [List.length_take]
    omega
  exact if_pos few

theorem bytes_of_le_length {n : Nat} (enough : n ≤ r.rest.length) :
    r.bytes n = .ok (r.rest.take n, ⟨r.rest.drop n, r.pos + n, r.size⟩) := by
  have all : ¬ (r.rest.take n).length < n := by
    rw [List.length_take]
    omega
  exact if_neg all

theorem cstring_of_free (free : 0 ∉ r.rest) : r.cstring = .error (.unterminatedString r.pos) := by
  rw [cstring, splitAtNul_eq_none.mpr free]

theorem cstring_of_rest {front rest : Bytes} (here : r.rest = front ++ 0 :: rest)
    (free : 0 ∉ front) :
    r.cstring = .ok (Utf8.decodeLossy front, ⟨rest, r.pos + front.length + 1, r.size⟩) := by
  rw [cstring, splitAtNul_eq_some.mpr ⟨here, free⟩]

end Reader

namespace Envelope

/-! ## Values -/

inductive Item where
  | u8 (value : UInt8)
  | u16 (value : UInt16)
  | u32 (value : UInt32)
  | u64 (value : UInt64)
  /-- A 32-bit float, by its bit pattern. -/
  | f32 (bits : UInt32)
  /-- A text with a terminator. -/
  | cstring (text : String)
  | bytes (block : Bytes)
  deriving DecidableEq, Repr

def Item.write : Item → Envelope → Envelope
  | u8 value => writeU8 value
  | u16 value => writeU16 value
  | u32 value => writeU32 value
  | u64 value => writeU64 value
  | f32 bits => writeF32 bits
  | cstring text => writeCString text
  | bytes block => writeBytes block

/-- What a reader expects next. -/
inductive Field where
  | u8
  | u16
  | u32
  | u64
  | f32
  | cstring
  | bytes (length : Nat)
  deriving DecidableEq, Repr

namespace Field

def read : Field → Envelope → Except PayloadError Item × Envelope
  | u8, env => env.readU8.map (·.map .u8) id
  | u16, env => env.readU16.map (·.map .u16) id
  | u32, env => env.readU32.map (·.map .u32) id
  | u64, env => env.readU64.map (·.map .u64) id
  | f32, env => env.readF32.map (·.map .f32) id
  | cstring, env => env.readCString.map (·.map .cstring) id
  | bytes length, env => (env.readBytes length).map (·.map .bytes) id

/-- The number of bytes that the field takes, whatever they are. -/
def width? : Field → Option Nat
  | u8 => some 1
  | u16 => some 2
  | u32 | f32 => some 4
  | u64 => some 8
  | cstring => none
  | bytes length => some length

/-- What the field says with the bytes that it takes, the terminator left out. -/
def meaning : Field → Bytes → Item
  | u8, taken => .u8 (UInt8.ofNat (LittleEndian.decode taken))
  | u16, taken => .u16 (UInt16.ofNat (LittleEndian.decode taken))
  | u32, taken => .u32 (UInt32.ofNat (LittleEndian.decode taken))
  | u64, taken => .u64 (UInt64.ofNat (LittleEndian.decode taken))
  | f32, taken => .f32 (UInt32.ofNat (LittleEndian.decode taken))
  | cstring, taken => .cstring (Utf8.decodeLossy taken)
  | bytes _, taken => .bytes taken

end Field

/-! ## Reads -/

variable {env : Envelope}

theorem length_unread (env : Envelope) : env.unread.length = env.remaining := List.length_drop

theorem bytes_of_remaining_lt {n : Nat} (short : env.remaining < n) :
    env.reader.bytes n = .error (.outOfBounds env.rpos n env.size) := by
  rw [← length_unread] at short
  exact Reader.bytes_of_length_lt short

theorem bytes_of_le_remaining {n : Nat} (enough : n ≤ env.remaining) :
    env.reader.bytes n =
      .ok (env.unread.take n, ⟨env.unread.drop n, env.rpos + n, env.size⟩) := by
  rw [← length_unread] at enough
  exact Reader.bytes_of_le_length enough

/-- A read that wants more bytes than are left fails, and says where it stood, how many it
wanted and how many there are in all. -/
theorem read_of_remaining_lt {field : Field} {width : Nat} (fixed : field.width? = some width)
    (short : env.remaining < width) :
    field.read env = (.error (.outOfBounds env.rpos width env.size), env) := by
  have fault := bytes_of_remaining_lt short
  cases field with
  | cstring => cases fixed
  | _ =>
    cases fixed
    simp [Field.read, readU8, readU16, readU32, readU64, readF32, readBytes, Envelope.read,
      Reader.u8, Reader.u16, Reader.u32, Reader.u64, Reader.word, fault, Except.map]

/-- Any other one returns what the bytes at the cursor mean and moves the cursor behind them. -/
theorem read_of_le_remaining {field : Field} {width : Nat} (fixed : field.width? = some width)
    (enough : width ≤ env.remaining) :
    field.read env =
      (.ok (field.meaning (env.unread.take width)), { env with rpos := env.rpos + width }) := by
  have taken := bytes_of_le_remaining enough
  cases field with
  | cstring => cases fixed
  | _ =>
    cases fixed
    simp [Field.read, readU8, readU16, readU32, readU64, readF32, readBytes, Envelope.read,
      Reader.u8, Reader.u16, Reader.u32, Reader.u64, Reader.word, taken, Except.map,
      Field.meaning]

theorem skip_of_remaining_lt {n : Nat} (short : env.remaining < n) :
    env.skip n = (.error (.outOfBounds env.rpos n env.size), env) := by
  simp [skip, Envelope.read, Reader.skip, bytes_of_remaining_lt short, Except.map]

theorem skip_of_le_remaining {n : Nat} (enough : n ≤ env.remaining) :
    env.skip n = (.ok (), { env with rpos := env.rpos + n }) := by
  simp [skip, Envelope.read, Reader.skip, bytes_of_le_remaining enough, Except.map]

theorem readCString_of_free (free : 0 ∉ env.unread) :
    env.readCString = (.error (.unterminatedString env.rpos), env) := by
  have fault := Reader.cstring_of_free (show 0 ∉ env.reader.rest from free)
  simp only [readCString, Envelope.read, fault]
  rfl

/-- A string is made of the bytes up to the first NUL, and the cursor moves behind that. -/
theorem readCString_of_unread {front rest : Bytes} (here : env.unread = front ++ 0 :: rest)
    (free : 0 ∉ front) :
    env.readCString =
      (.ok (Utf8.decodeLossy front), { env with rpos := env.rpos + front.length + 1 }) := by
  have taken := Reader.cstring_of_rest (show env.reader.rest = front ++ 0 :: rest from here) free
  simp only [readCString, Envelope.read, taken]
  rfl

/-! ## Whatever is done -/

/-- What may be done with an envelope. -/
inductive Handling where
  | read (field : Field)
  | skip (n : Nat)
  | setRpos (pos : Nat)
  | write (item : Item)
  deriving DecidableEq, Repr

def Handling.apply (env : Envelope) : Handling → Envelope
  | read field => (field.read env).2
  | skip n => (env.skip n).2
  | setRpos pos => env.setRpos pos
  | write item => item.write env

def handle (handlings : List Handling) (env : Envelope) : Envelope :=
  handlings.foldl Handling.apply env

/-- The cursor is within the payload. -/
def InBounds (env : Envelope) : Prop := env.rpos ≤ env.size

namespace InBounds

theorem add_le (bound : env.InBounds) {n : Nat} (enough : n ≤ env.remaining) :
    env.rpos + n ≤ env.size := by
  unfold InBounds size at bound
  unfold remaining at enough
  unfold size
  omega

theorem add_succ_le (bound : env.InBounds) {front rest : Bytes}
    (here : env.unread = front ++ 0 :: rest) : env.rpos + front.length + 1 ≤ env.size := by
  refine bound.add_le (n := front.length + 1) ?_
  rw [← length_unread, here, List.length_append, List.length_cons]
  omega

theorem read (bound : env.InBounds) (field : Field) : (field.read env).2.InBounds := by
  cases fixed : field.width? with
  | some width =>
    rcases Nat.lt_or_ge env.remaining width with short | enough
    · rw [read_of_remaining_lt fixed short]
      exact bound
    · rw [read_of_le_remaining fixed enough]
      exact bound.add_le enough
  | none =>
    -- Only for a string does the width depend on the bytes.
    obtain rfl : field = .cstring := by
      cases field <;> first | rfl | cases fixed
    change env.readCString.2.InBounds
    by_cases free : 0 ∈ env.unread
    · obtain ⟨front, rest, here, free⟩ := List.eq_append_cons_of_mem free
      rw [readCString_of_unread here free]
      exact bound.add_succ_le here
    · rw [readCString_of_free free]
      exact bound

theorem skip (bound : env.InBounds) (n : Nat) : (env.skip n).2.InBounds := by
  rcases Nat.lt_or_ge env.remaining n with short | enough
  · rw [skip_of_remaining_lt short]
    exact bound
  · rw [skip_of_le_remaining enough]
    exact bound.add_le enough

theorem setRpos (env : Envelope) (pos : Nat) : (env.setRpos pos).InBounds := Nat.min_le_right _ _

theorem writeBytes (bound : env.InBounds) (bytes : Bytes) : (env.writeBytes bytes).InBounds := by
  refine Nat.le_trans bound ?_
  rw [size, size, Envelope.writeBytes, List.length_append]
  exact Nat.le_add_right _ _

theorem write (bound : env.InBounds) (item : Item) : (item.write env).InBounds := by
  cases item <;> exact bound.writeBytes _

/-- Nothing that is done with an envelope moves its cursor out of the payload. -/
theorem apply (bound : env.InBounds) (handling : Handling) : (handling.apply env).InBounds := by
  cases handling with
  | read field => exact bound.read field
  | skip n => exact bound.skip n
  | setRpos pos => exact setRpos env pos
  | write item => exact bound.write item

theorem handle (bound : env.InBounds) (handlings : List Handling) :
    (env.handle handlings).InBounds := by
  induction handlings generalizing env with
  | nil => exact bound
  | cons handling handlings ih => exact ih (bound.apply handling)

end InBounds

/-! ## Where envelopes come from -/

theorem eq_withPayload_of_decode? {data : Bytes} {env : Envelope} (read : decode? data = some env) :
    env = .withPayload env.opcode env.payload := by
  obtain ⟨json, -, read⟩ := Option.bind_eq_some_iff.mp read
  simp only [ofJson?, Option.bind_eq_bind, Option.bind_eq_some_iff, Option.pure_def,
    Option.some.injEq] at read
  obtain ⟨-, -, opcode, -, payload, -, rfl⟩ := read
  rfl

/-- The ways in which an envelope comes to be. -/
inductive Made : Envelope → Prop where
  | empty (opcode : Opcode) : Made (.empty opcode)
  | withPayload (opcode : Opcode) (payload : Bytes) : Made (.withPayload opcode payload)
  | decoded {data : Bytes} {env : Envelope} (read : decode? data = some env) : Made env

theorem Made.inBounds (made : env.Made) : env.InBounds := by
  cases made with
  | empty opcode => exact Nat.zero_le _
  | withPayload opcode payload => exact Nat.zero_le _
  | decoded read =>
    rw [eq_withPayload_of_decode? read]
    exact Nat.zero_le _

/-! ## All together -/

theorem payload_read (take : Reader → Except PayloadError (α × Reader)) (env : Envelope) :
    (env.read take).2.payload = env.payload := by
  unfold Envelope.read
  split <;> rfl

theorem Field.payload_read (field : Field) (env : Envelope) :
    (field.read env).2.payload = env.payload := by
  cases field <;> exact Envelope.payload_read _ env

/-- Take any envelope, however it was made, and do with it whatever may be done. Its cursor is
within the payload. A read of a fixed number of bytes fails exactly if fewer are left, leaves
the envelope as it is and says where it stood, what it wanted and what there is; a string is
refused exactly if no NUL is left. A read that succeeds returns what the bytes at the cursor
mean and moves the cursor behind them: that is within the payload again, so that no sum on the
way there is greater than the size of the payload. No read changes the payload. -/
theorem cursor_in_bounds {start : Envelope} (made : start.Made) (handlings : List Handling) :
    let env := start.handle handlings
    env.rpos ≤ env.size ∧
      (∀ (field : Field) (width : Nat), field.width? = some width →
        (env.remaining < width →
          field.read env = (.error (.outOfBounds env.rpos width env.size), env)) ∧
        (width ≤ env.remaining →
          field.read env = (.ok (field.meaning ((env.payload.drop env.rpos).take width)),
            { env with rpos := env.rpos + width }) ∧
          env.rpos + width ≤ env.size)) ∧
      (∀ n,
        (env.remaining < n → env.skip n = (.error (.outOfBounds env.rpos n env.size), env)) ∧
        (n ≤ env.remaining →
          env.skip n = (.ok (), { env with rpos := env.rpos + n }) ∧ env.rpos + n ≤ env.size)) ∧
      (0 ∉ env.payload.drop env.rpos →
        env.readCString = (.error (.unterminatedString env.rpos), env)) ∧
      (∀ front rest, env.payload.drop env.rpos = front ++ 0 :: rest → 0 ∉ front →
        env.readCString =
          (.ok (Utf8.decodeLossy front), { env with rpos := env.rpos + front.length + 1 }) ∧
        env.rpos + front.length + 1 ≤ env.size) ∧
      (∀ field : Field, (field.read env).2.payload = env.payload) ∧
      ∀ n, (env.skip n).2.payload = env.payload := by
  intro env
  have bound : env.InBounds := made.inBounds.handle handlings
  refine ⟨bound, fun field width fixed => ⟨read_of_remaining_lt fixed, fun enough => ?_⟩,
    fun n => ⟨skip_of_remaining_lt, fun enough => ?_⟩, readCString_of_free,
    fun front rest here free => ?_, fun field => field.payload_read env,
    fun n => payload_read _ env⟩
  · exact ⟨read_of_le_remaining fixed enough, bound.add_le enough⟩
  · exact ⟨skip_of_le_remaining enough, bound.add_le enough⟩
  · exact ⟨readCString_of_unread here free, bound.add_succ_le here⟩

/-- A cursor that was to be moved far out of the payload stops at its end, and the next read
fails there. -/
theorem cursor_in_bounds_past_end :
    let start := withPayload ⟨1⟩ [1, 2, 0]
    let env := start.handle [.read .u16, .write (.u8 9), .skip 0xFFFFFFFFFFFFFFFF,
      .setRpos 0xFFFFFFFFFFFFFFFF]
    Field.u32.read env = (.error (.outOfBounds 4 4 4), env) := by
  intro start env
  obtain ⟨-, fixed, -⟩ := cursor_in_bounds (.withPayload ⟨1⟩ [1, 2, 0])
    [.read .u16, .write (.u8 9), .skip 0xFFFFFFFFFFFFFFFF, .setRpos 0xFFFFFFFFFFFFFFFF]
  exact (fixed .u32 4 rfl).1 (by decide)

end Envelope

end GameRealm
