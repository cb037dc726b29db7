import GameRealm.Proofs.Cursor
import GameRealm.Realm.Connection

/-!
# What a first frame comes to

A connection reads its first frame as an envelope with a token at the start of the payload,
and any of this can go wrong. Here the frames for which it does not are described by what
they hold.

1. `Frame.Bears` says what an authentication frame is;
2. `Doorway.admits_iff` and `refuses_iff`: a connection accepts and refuses exactly such
   frames, by what the authenticator says of their tokens.
-/

namespace GameRealm

namespace Frame

/-- A frame that authenticates: its envelope has the opcode for that, and the payload begins
with a token and its NUL. The rest of the payload is left to be read. -/
def Bears (frame : Frame) (token : String) (auth : Envelope) : Prop :=
  ∃ data front rest, frame.data? = some data ∧
    Envelope.decode? data = some (.withPayload .authSession (front ++ 0 :: rest)) ∧
    0 ∉ front ∧ token = Utf8.decodeLossy front ∧
    auth = ⟨.authSession, front ++ 0 :: rest, front.length + 1⟩

end Frame

namespace Doorway

variable {door : Doorway} {frame : Frame} {account : Account} {auth : Envelope}
  {cause : SessionError}

def greeting? (door : Doorway) (frame : Frame) : Option Greeting :=
  frame.data?.map (Greeting.ofFrame door.authenticate)

/-- A frame authenticates with a token that is accepted. -/
def Admits (door : Doorway) (frame : Frame) (account : Account) (auth : Envelope) : Prop :=
  ∃ token, frame.Bears token auth ∧ door.authenticate token = .ok account

def Refuses (door : Doorway) (frame : Frame) (cause : SessionError) : Prop :=
  ∃ token auth, frame.Bears token auth ∧ door.authenticate token = .error cause

/-- What becomes of a frame that authenticates is up to its token. -/
theorem greeting?_of_bears {token : String} (bears : frame.Bears token auth) :
    door.greeting? frame = some (match door.authenticate token with
      | .error cause => .refused cause
      | .ok account => .accepted account auth) := by
  obtain ⟨data, front, rest, here, decoded, none, rfl, rfl⟩ := bears
  have split : Reader.splitAtNul (front ++ 0 :: rest) = some (front, rest) :=
    Reader.splitAtNul_eq_some.mpr ⟨rfl, none⟩
  cases answer : door.authenticate (Utf8.decodeLossy front) <;>
    simp only [greeting?, here, Option.map_some, Greeting.ofFrame, Greeting.envelope, decoded,
      Envelope.withPayload, if_pos, Envelope.readCString, Envelope.read, Reader.cstring,
      Envelope.reader, Envelope.unread, List.drop_zero, split, Nat.zero_add, answer]

theorem exists_bears {greeting : Greeting} (greeted : door.greeting? frame = some greeting)
    (valid : ∀ cause, greeting ≠ .invalid cause) : ∃ token auth, frame.Bears token auth := by
  obtain ⟨data, here, rfl⟩ := Option.map_eq_some_iff.mp greeted
  unfold Greeting.ofFrame at valid
  split at valid
  · next cause _ => exact absurd rfl (valid cause)
  · next env readable =>
    unfold Greeting.envelope at readable
    split at readable
    · cases readable
    · next env decoded =>
      split at readable
      · next authenticates =>
        cases readable
        -- The envelope is read from its start, so the token is what comes before the first NUL.
        have fresh := Envelope.eq_withPayload_of_decode? decoded
        cases split : Reader.splitAtNul env.payload with
        | none =>
          rw [fresh] at valid
          simp [Envelope.readCString, Envelope.read, Reader.cstring, Envelope.reader,
            Envelope.unread, Envelope.withPayload, split] at valid
        | some halves =>
          obtain ⟨whole, none⟩ := Reader.splitAtNul_eq_some.mp split
          rw [authenticates, whole] at fresh
          exact ⟨_, _, data, halves.1, halves.2, here, fresh ▸ decoded, none, rfl, rfl⟩
      · cases readable

theorem admits_iff :
    door.Admits frame account auth ↔ door.greeting? frame = some (.accepted account auth) := by
  constructor
  · rintro ⟨token, bears, accepted⟩
    rw [greeting?_of_bears bears, accepted]
  · intro greeted
    obtain ⟨token, auth', bears⟩ := exists_bears greeted nofun
    rw [greeting?_of_bears bears] at greeted
    cases answer : door.authenticate token with
    | error cause =>
      rw [answer] at greeted
      cases greeted
    | ok account' =>
      rw [answer] at greeted
      cases greeted
      exact ⟨token, bears, answer⟩

theorem refuses_iff : door.Refuses frame cause ↔ door.greeting? frame = some (.refused cause) := by
  constructor
  · rintro ⟨token, auth, bears, refused⟩
    rw [greeting?_of_bears bears, refused]
  · intro greeted
    obtain ⟨token, auth, bears⟩ := exists_bears greeted nofun
    rw [greeting?_of_bears bears] at greeted
    cases answer : door.authenticate token with
    | error cause' =>
      rw [answer] at greeted
      cases greeted
      exact ⟨token, auth, bears, answer⟩
    | ok account =>
      rw [answer] at greeted
      cases greeted

end Doorway

end GameRealm
