import GameRealm.Proofs.Cursor
import GameRealm.Proofs.Utf8

/-!
# Reading back what was written

Values are appended at the end of a payload and read at its cursor, and nothing in the bytes
says where one value ends and the next begins. That the two sides agree on it is up to their
using the same fields in the same order.

1. `Item.encode` are the bytes of a value, and `read_of_unread` says that its field reads it
   back and stops behind it;
2. `Turn` is a write or a read. `Envelope.play` takes turns and collects what is read;
3. `Envelope.Holds` says which values have been written and not been read yet. That is a
   queue: `Holds.write` puts a value at its end and `Holds.read` takes one from its front;
4. `Envelope.written_read_back`: whatever is written is read back in order, however the reads
   are mixed with the writes, if none comes before its write.
-/

namespace GameRealm.Envelope

/-! ## One value -/

namespace Item

def encode : Item → Bytes
  | u8 value => LittleEndian.encode 1 value.toNat
  | u16 value => LittleEndian.encode 2 value.toNat
  | u32 value | f32 value => LittleEndian.encode 4 value.toNat
  | u64 value => LittleEndian.encode 8 value.toNat
  | cstring text => Utf8.encode text ++ [0]
  | bytes block => block

def field : Item → Field
  | u8 _ => .u8
  | u16 _ => .u16
  | u32 _ => .u32
  | u64 _ => .u64
  | f32 _ => .f32
  | cstring _ => .cstring
  | bytes block => .bytes block.length

/-- A text must not hold what terminates it. -/
def Free : Item → Prop
  | cstring text => Char.ofNat 0 ∉ text.toList
  | _ => True

theorem write_eq (item : Item) (env : Envelope) : item.write env = env.writeBytes item.encode := by
  cases item <;> rfl

variable {item : Item} {width : Nat}

theorem length_encode (fixed : item.field.width? = some width) : item.encode.length = width := by
  cases item with
  | cstring text => cases fixed
  | bytes block => exact Option.some.inj fixed
  | _ =>
    cases fixed
    exact LittleEndian.length_encode ..

theorem meaning_encode (fixed : item.field.width? = some width) :
    item.field.meaning item.encode = item := by
  cases item with
  | u8 value =>
    have back := LittleEndian.decode_encode 1 value.toNat value.toNat_lt
    exact congrArg Item.u8 ((congrArg UInt8.ofNat back).trans value.ofNat_toNat)
  | u16 value =>
    have back := LittleEndian.decode_encode 2 value.toNat value.toNat_lt
    exact congrArg Item.u16 ((congrArg UInt16.ofNat back).trans value.ofNat_toNat)
  | u32 value =>
    have back := LittleEndian.decode_encode 4 value.toNat value.toNat_lt
    exact congrArg Item.u32 ((congrArg UInt32.ofNat back).trans value.ofNat_toNat)
  | u64 value =>
    have back := LittleEndian.decode_encode 8 value.toNat value.toNat_lt
    exact congrArg Item.u64 ((congrArg UInt64.ofNat back).trans value.ofNat_toNat)
  | f32 bits =>
    have back := LittleEndian.decode_encode 4 bits.toNat bits.toNat_lt
    exact congrArg Item.f32 ((congrArg UInt32.ofNat back).trans bits.ofNat_toNat)
  | cstring text => cases fixed
  | bytes block => rfl

end Item

variable {env : Envelope} {item : Item}

/-- The field of a value reads it back, and the cursor stops behind it. -/
theorem read_of_unread (free : item.Free) {rest : Bytes}
    (here : env.unread = item.encode ++ rest) :
    item.field.read env = (.ok item, { env with rpos := env.rpos + item.encode.length }) := by
  cases fixed : item.field.width? with
  | some width =>
    have length := Item.length_encode fixed
    have enough : width ≤ env.remaining := by
      rw [← length_unread, here, List.length_append, length]
      exact Nat.le_add_right _ _
    rw [read_of_le_remaining fixed enough, here, List.take_left' length,
      Item.meaning_encode fixed, length]
  | none =>
    obtain ⟨text, rfl⟩ : ∃ text, item = .cstring text := by
      cases item <;> first | exact ⟨_, rfl⟩ | cases fixed
    rw [Item.encode, List.append_assoc] at here
    have read := readCString_of_unread here (Utf8.zero_not_mem_encode free)
    rw [Utf8.decodeLossy_encode] at read
    rw [Item.field, Field.read, read, Item.encode, List.length_append]
    rfl

/-! ## Taking turns -/

/-- A value is written, or a field read. -/
inductive Turn where
  | write (item : Item)
  | read (field : Field)
  deriving DecidableEq, Repr

namespace Turn

def written? : Turn → Option Item
  | write item => some item
  | read _ => none

def read? : Turn → Option Field
  | write _ => none
  | read field => some field

end Turn

def writes (turns : List Turn) : List Item := turns.filterMap Turn.written?

def reads (turns : List Turn) : List Field := turns.filterMap Turn.read?

section
variable (item : Item) (field : Field) (turns : List Turn)

@[simp] theorem writes_nil : writes [] = [] := rfl

@[simp] theorem reads_nil : reads [] = [] := rfl

@[simp] theorem writes_write : writes (.write item :: turns) = item :: writes turns := rfl

@[simp] theorem writes_read : writes (.read field :: turns) = writes turns := rfl

@[simp] theorem reads_write : reads (.write item :: turns) = reads turns := rfl

@[simp] theorem reads_read : reads (.read field :: turns) = field :: reads turns := rfl

end

/-- Takes turns and returns what is read, or the fault of the first read that fails. -/
def play : List Turn → Envelope → Except PayloadError (List Item) × Envelope
  | [], env => (.ok [], env)
  | .write item :: turns, env => play turns (item.write env)
  | .read field :: turns, env =>
    match field.read env with
    | (.error fault, env) => (.error fault, env)
    | (.ok item, env) => (play turns env).map (·.map (item :: ·)) id

/-! ## What waits to be read -/

def encoding (items : List Item) : Bytes := items.flatMap Item.encode

/-- Some values have been written and not been read yet. -/
structure Holds (env : Envelope) (pending : List Item) : Prop where
  bound : env.InBounds
  unread : env.unread = encoding pending

namespace Holds

variable {pending : List Item}

theorem write (holds : env.Holds pending) (item : Item) :
    (item.write env).Holds (pending ++ [item]) where
  bound := holds.bound.write item
  unread := by
    rw [item.write_eq]
    change (env.payload ++ item.encode).drop env.rpos = _
    rw [List.drop_append_of_le_length holds.bound]
    change env.unread ++ item.encode = _
    rw [holds.unread, encoding, encoding, List.flatMap_append, List.flatMap_singleton]

theorem read (holds : env.Holds (item :: pending)) (free : item.Free) :
    let after := { env with rpos := env.rpos + item.encode.length }
    item.field.read env = (.ok item, after) ∧ after.Holds pending := by
  intro after
  have here : env.unread = item.encode ++ encoding pending := holds.unread
  have found := read_of_unread free here
  refine ⟨found, ⟨?_, ?_⟩⟩
  · have bound := holds.bound.read item.field
    rwa [found] at bound
  · change env.payload.drop (env.rpos + item.encode.length) = _
    rw [← List.drop_drop]
    change env.unread.drop _ = _
    rw [here, List.drop_left]

theorem atEnd (holds : env.Holds []) : env.rpos = env.size := by
  have none : env.remaining = 0 := by
    rw [← length_unread, holds.unread]
    rfl
  exact Nat.le_antisymm holds.bound (Nat.le_of_sub_eq_zero none)

theorem of_atEnd (atEnd : env.rpos = env.size) : env.Holds [] where
  bound := Nat.le_of_eq atEnd
  unread := by
    rw [Envelope.unread, atEnd]
    exact List.drop_length

end Holds

/-! ## All together -/

def writeAll (items : List Item) (env : Envelope) : Envelope :=
  items.foldl (fun env item => item.write env) env

def readAll (fields : List Field) : Envelope → Except PayloadError (List Item) × Envelope :=
  play (fields.map .read)

/-- The envelope with all of it read. -/
def exhausted (env : Envelope) : Envelope := { env with rpos := env.size }

theorem writeAll_eq (items : List Item) (env : Envelope) :
    env.writeAll items = env.writeBytes (encoding items) := by
  induction items generalizing env with
  | nil => simp [writeAll, encoding, writeBytes]
  | cons item items ih =>
    have written : (item.write env).writeAll items = (env.writeBytes item.encode).writeAll items :=
      congrArg (writeAll items) (item.write_eq env)
    refine written.trans ((ih _).trans ?_)
    simp [encoding, writeBytes]

theorem exhausted_writeAll (items : List Item) (env : Envelope) (pos : Nat) :
    (writeAll items { env with rpos := pos }).exhausted = (env.writeAll items).exhausted := by
  rw [writeAll_eq, writeAll_eq]
  rfl

theorem Holds.writeAll {pending : List Item} (holds : env.Holds pending) (items : List Item) :
    (env.writeAll items).Holds (pending ++ items) := by
  induction items generalizing env pending with
  | nil => rwa [List.append_nil]
  | cons item items ih =>
    rw [List.append_cons]
    exact ih (holds.write item)

/-- What waits is read first, then what is written on the way, and nothing is left. -/
theorem Holds.play {turns : List Turn} {pending : List Item} (holds : env.Holds pending)
    (free : ∀ item ∈ pending ++ writes turns, item.Free)
    (own : reads turns = (pending ++ writes turns).map Item.field)
    (late : ∀ n, (reads (turns.take n)).length ≤
      pending.length + (writes (turns.take n)).length) :
    play turns env = (.ok (pending ++ writes turns), (env.writeAll (writes turns)).exhausted) := by
  -- The queue of what waits changes with every turn, so that the induction is for any queue.
  induction turns generalizing env pending with
  | nil =>
    have none : pending ++ writes [] = [] := List.map_eq_nil_iff.mp own.symm
    obtain ⟨rfl, -⟩ := List.append_eq_nil_iff.mp none
    have same : env = env.exhausted := by
      rw [exhausted, ← holds.atEnd]
    exact congrArg (Except.ok [], ·) same
  | cons turn turns ih =>
    cases turn with
    | write item =>
      rw [writes_write, List.append_cons] at free own ⊢
      refine ih (holds.write item) free own fun n => ?_
      have sooner := late (n + 1)
      simp only [List.take_succ_cons, writes_write, reads_write, List.length_cons] at sooner
      rw [List.length_append, List.length_singleton]
      omega
    | read field =>
      rw [writes_read, reads_read] at *
      cases pending with
      -- A read with nothing waiting would come before its write.
      | nil => exact absurd (late 1) (Nat.not_succ_le_zero 0)
      | cons item pending =>
        rw [List.cons_append, List.map_cons, List.cons.injEq] at own
        obtain ⟨rfl, own⟩ := own
        obtain ⟨found, holds⟩ := holds.read (free item List.mem_cons_self)
        have others := ih holds (fun item mem => free item (List.mem_cons_of_mem _ mem)) own
          fun n => by
            have sooner := late (n + 1)
            simp only [List.take_succ_cons, writes_read, reads_read, List.length_cons] at sooner
            omega
        rw [exhausted_writeAll] at others
        simp [Envelope.play, found, others, Except.map]

theorem Holds.readAll {pending : List Item} (holds : env.Holds pending)
    (free : ∀ item ∈ pending, item.Free) :
    env.readAll (pending.map Item.field) = (.ok pending, env.exhausted) := by
  have silent : ∀ fields : List Field, writes (fields.map .read) = [] := fun fields => by
    rw [writes, List.filterMap_map]
    exact List.filterMap_eq_nil_iff.mpr fun _ _ => rfl
  have all : ∀ fields : List Field, reads (fields.map .read) = fields := fun fields => by
    rw [reads, List.filterMap_map]
    exact List.filterMap_some
  have played := @Holds.play env ((pending.map Item.field).map .read) pending holds
  rw [silent, all, List.append_nil] at played
  refine played free rfl fun n => ?_
  rw [← List.map_take, silent, all, ← List.map_take, List.length_map]
  exact Nat.le_trans (List.length_take_le' ..) (Nat.le_add_right ..)

/-- Take an envelope that has been read to its end and any values, whose texts do not hold
their terminator. If they are written and then read with their fields, what is read are the
same values in order, and the cursor is at the end again. It is the same if the reads are
mixed with the writes, as long as each comes after its own write. -/
theorem written_read_back (atEnd : env.rpos = env.size) :
    (∀ items : List Item, (∀ item ∈ items, item.Free) →
      let full := env.writeAll items
      full.readAll (items.map Item.field) = (.ok items, { full with rpos := full.size })) ∧
    ∀ turns : List Turn, (∀ item ∈ writes turns, item.Free) →
      reads turns = (writes turns).map Item.field →
      (∀ n, (reads (turns.take n)).length ≤ (writes (turns.take n)).length) →
      let full := env.writeAll (writes turns)
      play turns env = (.ok (writes turns), { full with rpos := full.size }) := by
  have nothing : env.Holds [] := .of_atEnd atEnd
  constructor
  · intro items free full
    exact (nothing.writeAll items).readAll free
  · intro turns free own late full
    exact nothing.play free own fun n => by simpa using late n

/-- A text and a word, the first of them read before the other is written. -/
theorem written_read_back_mixed :
    let env := empty ⟨1⟩
    let turns := [.write (.cstring "ab"), .read .cstring, .write (.u16 0x0102), .read .u16]
    play turns env = (.ok [.cstring "ab", .u16 0x0102], ⟨⟨1⟩, [97, 98, 0, 2, 1], 5⟩) := by
  intro env turns
  have atEnd : env.rpos = env.size := rfl
  obtain ⟨-, mixed⟩ := written_read_back atEnd
  have late : ∀ n, (reads (turns.take n)).length ≤ (writes (turns.take n)).length := by
    rintro (_ | _ | _ | _ | _ | n) <;> simp [turns]
  exact mixed turns (by simp [turns, Item.Free]) rfl late

end GameRealm.Envelope
