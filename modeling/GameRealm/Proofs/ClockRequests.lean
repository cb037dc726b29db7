import Mathlib.Algebra.Group.Nat.Defs
import GameRealm.Session.TimeSync

/-!
# Clock requests and their answers

A session numbers its clock requests from zero since the last reset, keeps those that have no
answer, and averages what the last answers say. A client may answer in any order, twice, or
something that was never asked. This module compares what a session keeps with what has
happened to it:

1. `ClockMove` is one thing that happens, a `ClockHistory` what has happened so far, and
   `TimeSync.after` what a session keeps then;
2. `ClockHistory.asked`, `sentAt?` and `offsets` read off a history how many requests there
   were since the last reset, which of them are open, and what the answers to open ones said;
   `sentAt?_eq_some` says in full what it takes for a request to be open;
3. `TimeSync.Tracks`: the next number, the open requests, the window and its average are what
   the history says. `tracks_move` keeps it, and `tracks_after` has it for every history with
   fewer requests between resets than there are numbers.
-/

namespace GameRealm

/-- One thing that happens to the clock requests of a session. -/
inductive ClockMove where
  /-- Open requests are forgotten, and numbering begins again. -/
  | reset
  /-- The next request is sent, and the one after it is due then. -/
  | request (time : Instant) (due : Option Instant)
  /-- The client answers a request, whether it is open or not. -/
  | answer (time : Instant) (counter clientTicks : UInt32)
  deriving DecidableEq, Repr

/-- Whether the move is an answer to the request of that number. -/
def ClockMove.answers (counter : UInt32) : ClockMove → Bool
  | answer _ answered _ => answered == counter
  | _ => false

/-- What has happened to the clock requests of a session, the last move first. -/
abbrev ClockHistory := List ClockMove

namespace ClockHistory

/-- The age of a session that was born then, in whole milliseconds. -/
def age (birth time : Instant) : Nat := time.since birth / 1000000

/-- The clock of a session: its age, as a 32-bit number. -/
def clock (birth time : Instant) : UInt32 := UInt32.ofNat (age birth time)

/-- The number of requests since the last reset. -/
def asked : ClockHistory → Nat
  | [] | .reset :: _ => 0
  | .request .. :: past => asked past + 1
  | .answer .. :: past => asked past

/-- There were never as many requests since a reset as there are numbers. -/
def Few (past : ClockHistory) : Prop := ∀ earlier, earlier <:+ past → asked earlier < 2 ^ 32

/-- The request of that number was sent then, and neither a reset nor an answer to it has come
since. -/
def Awaits (past : ClockHistory) (counter : UInt32) (sent : Instant) : Prop :=
  ∃ later due earlier, past = later ++ .request sent due :: earlier ∧
    asked earlier = counter.toNat ∧ ∀ move ∈ later, move ≠ .reset ∧ move.answers counter = false

/-- When the request of that number was sent, if it is open. -/
def sentAt? (counter : UInt32) : ClockHistory → Option Instant
  | [] | .reset :: _ => none
  | .request time _ :: past =>
    if asked past = counter.toNat then some time else sentAt? counter past
  | .answer _ answered _ :: past => if answered = counter then none else sentAt? counter past

/-- What the answers to open requests said, resets or not, the last answer first. -/
def offsets (birth : Instant) : ClockHistory → List Int
  | [] => []
  | .answer time counter clientTicks :: past =>
    match sentAt? counter past with
    | none => offsets birth past
    | some sent =>
      (TimeSync.sample (clock birth sent) (clock birth time) clientTicks).delta ::
        offsets birth past
  | _ :: past => offsets birth past

section
variable {past : ClockHistory} {move : ClockMove} {counter : UInt32} {sent : Instant}

theorem Few.asked_lt (few : Few past) : asked past < 2 ^ 32 := few past List.suffix_rfl

theorem Few.tail (few : Few (move :: past)) : Few past :=
  fun earlier suffix => few earlier (suffix.trans (List.suffix_cons move past))

theorem asked_le_length (past : ClockHistory) : asked past ≤ past.length := by
  induction past with
  | nil => exact Nat.le_refl 0
  | cons move past ih =>
    cases move with
    | reset => exact Nat.zero_le _
    | request => exact Nat.succ_le_succ ih
    | answer => exact Nat.le_succ_of_le ih

theorem few_of_length (short : past.length < 2 ^ 32) : Few past :=
  fun earlier suffix =>
    Nat.lt_of_le_of_lt (Nat.le_trans (asked_le_length earlier) suffix.length_le) short

theorem awaits_cons :
    Awaits (move :: past) counter sent ↔
      (∃ due, move = .request sent due ∧ asked past = counter.toNat) ∨
        (move ≠ .reset ∧ move.answers counter = false) ∧ Awaits past counter sent := by
  constructor
  · rintro ⟨later, due, earlier, split, number, quiet⟩
    cases later with
    | nil =>
      obtain ⟨rfl, rfl⟩ := List.cons.inj split
      exact .inl ⟨due, rfl, number⟩
    | cons last later =>
      obtain ⟨rfl, rfl⟩ := List.cons.inj split
      obtain ⟨first, quiet⟩ := List.forall_mem_cons.mp quiet
      exact .inr ⟨first, later, due, earlier, rfl, number, quiet⟩
  · rintro (⟨due, rfl, number⟩ | ⟨first, later, due, earlier, rfl, number, quiet⟩)
    · exact ⟨[], due, past, rfl, number, fun _ mem => absurd mem List.not_mem_nil⟩
    · exact ⟨move :: later, due, earlier, rfl, number, List.forall_mem_cons.mpr ⟨first, quiet⟩⟩

/-- Numbers are given out in order, so what is open was asked. -/
theorem Awaits.lt_asked (awaits : Awaits past counter sent) : counter.toNat < asked past := by
  induction past with
  | nil =>
    obtain ⟨later, due, earlier, split, -⟩ := awaits
    exact absurd split.symm (by simp)
  | cons move past ih =>
    rcases awaits_cons.mp awaits with ⟨due, rfl, number⟩ | ⟨⟨stays, -⟩, before⟩
    · exact number ▸ Nat.lt_succ_self _
    · have older := ih before
      cases move with
      | reset => exact absurd rfl stays
      | request => exact Nat.lt_succ_of_lt older
      | answer => exact older

theorem sentAt?_eq_some : sentAt? counter past = some sent ↔ Awaits past counter sent := by
  induction past with
  | nil => exact iff_of_false nofun fun awaits => absurd awaits.lt_asked (Nat.not_lt_zero _)
  | cons move past ih =>
    rw [awaits_cons, ← ih]
    cases move with
    | reset => simp [sentAt?]
    | request time due =>
      simp only [sentAt?]
      split
      · next number =>
        -- An older request has a smaller number, so the search was right to stop.
        have newest : sentAt? counter past ≠ some sent := by
          intro older
          have lt := (ih.mp older).lt_asked
          omega
        simp [newest, number]
      · next other => simp [other, ClockMove.answers]
    | answer time answered ticks =>
      simp only [sentAt?]
      split
      · next same => simp [same, ClockMove.answers]
      · next other => simp [other, ClockMove.answers]

end

end ClockHistory

namespace TimeSync

open ClockHistory

/-! ## What a session keeps -/

/-- The server's clock when the open request of that number was sent. -/
def sentAt? (sync : TimeSync) (counter : UInt32) : Option UInt32 :=
  (sync.pending.find? (·.1 == counter)).map (·.2)

def move (sync : TimeSync) : ClockMove → TimeSync
  | .reset => sync.reset
  | .request time due => sync.sent time due
  | .answer time counter clientTicks =>
    match sync.answer? time counter clientTicks with
    | none => sync
    | some (_, answered) => answered

def after (sync : TimeSync) (past : ClockHistory) : TimeSync :=
  past.foldr (fun next sync => sync.move next) sync

/-- What a session keeps is what its history says. -/
structure Tracks (sync : TimeSync) (birth : Instant) (past : ClockHistory) : Prop where
  epoch : sync.epoch = birth
  number : sync.nextCounter.toNat = asked past
  opened : ∀ counter, sync.sentAt? counter = (ClockHistory.sentAt? counter past).map (clock birth)
  deltas : sync.deltas = ((offsets birth past).take window).reverse
  clockDelta : sync.clockDelta = average sync.deltas

section
variable (sync : TimeSync) (now : Instant) (counter : UInt32)

theorem sentAt?_filter (gone : UInt32) (pending : List (UInt32 × UInt32)) :
    ((pending.filter (·.1 != gone)).find? (·.1 == counter)).map (·.2) =
      if gone = counter then none else (pending.find? (·.1 == counter)).map (·.2) := by
  split
  · next same => simp [same]
  · next other =>
    have same : (fun entry : UInt32 × UInt32 =>
        decide ((entry.1 != gone) = true ∧ (entry.1 == counter) = true)) = (·.1 == counter) := by
      funext entry
      by_cases here : entry.1 = counter
      · simp [here, Ne.symm other]
      · simp [here]
    rw [List.find?_filter, same]

theorem sentAt?_sent (due : Option Instant) :
    (sync.sent now due).sentAt? counter =
      if sync.nextCounter = counter then some (sync.serverTime now) else sync.sentAt? counter := by
  unfold sentAt? sent
  by_cases next : sync.nextCounter = counter
  · simp [next]
  · rw [if_neg next, List.find?_cons_of_neg (by simpa using next), sentAt?_filter, if_neg next]

/-- An answer to an open request gives a sample and closes the request; any other is refused. -/
theorem answer?_eq (clientTicks : UInt32) :
    sync.answer? now counter clientTicks = (sync.sentAt? counter).map fun sentAt =>
      let taken := sample sentAt (sync.serverTime now) clientTicks
      (taken, { sync with
        pending := sync.pending.filter (·.1 != counter)
        deltas := push sync.deltas taken.delta
        clockDelta := average (push sync.deltas taken.delta) }) := by
  unfold answer? sentAt?
  cases sync.pending.find? (·.1 == counter) <;> rfl

/-- The window keeps the newest of what is pushed, oldest first. -/
theorem push_take (offset : Int) (older : List Int) :
    push (older.take window).reverse offset = ((offset :: older).take window).reverse := by
  have full : (older.take window).reverse.length = window ↔ window ≤ older.length := by
    rw [List.length_reverse, List.length_take]
    omega
  have newest : (offset :: older).take window = offset :: older.take 5 := rfl
  rw [push, newest, List.reverse_cons]
  split
  · next long =>
    have whole : (older.take window).length = window := List.length_reverse.symm.trans long
    rw [List.tail_reverse, List.dropLast_eq_take, whole, List.take_take]
    rfl
  · next short =>
    have few : older.length ≤ 5 := Nat.le_of_lt_succ (Nat.lt_of_not_le (mt full.mpr short))
    have all : older.length ≤ window := Nat.le_succ_of_le few
    rw [List.take_of_length_le few, List.take_of_length_le all]

end

/-! ## One move, and all of them -/

section
variable {sync : TimeSync} {birth : Instant} {past : ClockHistory}

theorem Tracks.serverTime_eq (tracks : sync.Tracks birth past) (now : Instant) :
    sync.serverTime now = clock birth now := by
  rw [serverTime, tracks.epoch]
  rfl

theorem Tracks.sentAt?_of_awaits (tracks : sync.Tracks birth past) {counter : UInt32}
    {sent : Instant} (awaits : Awaits past counter sent) :
    sync.sentAt? counter = some (clock birth sent) := by
  rw [tracks.opened, ClockHistory.sentAt?_eq_some.mpr awaits, Option.map_some]

theorem Tracks.answer?_of_awaits (tracks : sync.Tracks birth past) {counter : UInt32}
    {sent : Instant} (awaits : Awaits past counter sent) (now : Instant) (clientTicks : UInt32) :
    sync.answer? now counter clientTicks =
      some (sample (clock birth sent) (clock birth now) clientTicks,
        sync.move (.answer now counter clientTicks)) := by
  rw [move, answer?_eq, tracks.sentAt?_of_awaits awaits, tracks.serverTime_eq]
  rfl

/-- The offset that an answer to an open request tells enters the window. -/
theorem Tracks.deltas_answer (tracks : sync.Tracks birth past) {counter : UInt32}
    {sent : Instant} (awaits : Awaits past counter sent) (now : Instant) (clientTicks : UInt32) :
    (sync.move (.answer now counter clientTicks)).deltas =
      push sync.deltas (sample (clock birth sent) (clock birth now) clientTicks).delta := by
  rw [move, answer?_eq, tracks.sentAt?_of_awaits awaits, tracks.serverTime_eq]
  rfl

/-- Any other answer is refused. -/
theorem Tracks.answer?_eq_none (tracks : sync.Tracks birth past) {counter : UInt32}
    (closed : ¬∃ sent, Awaits past counter sent) (now : Instant) (clientTicks : UInt32) :
    sync.answer? now counter clientTicks = none := by
  have none : ClockHistory.sentAt? counter past = none :=
    Option.eq_none_iff_forall_ne_some.mpr fun sent opened =>
      closed ⟨sent, ClockHistory.sentAt?_eq_some.mp opened⟩
  rw [answer?_eq, tracks.opened, none]
  rfl

theorem tracks_born (birth : Instant) : Tracks { epoch := birth } birth [] :=
  ⟨rfl, rfl, fun _ => rfl, rfl, rfl⟩

theorem tracks_reset (tracks : sync.Tracks birth past) :
    sync.reset.Tracks birth (.reset :: past) :=
  { tracks with number := rfl, opened := fun _ => rfl }

theorem tracks_sent (tracks : sync.Tracks birth past) (few : asked past + 1 < 2 ^ 32)
    (now : Instant) (due : Option Instant) :
    (sync.sent now due).Tracks birth (.request now due :: past) where
  epoch := tracks.epoch
  number := by
    have next : (sync.nextCounter + 1).toNat = (sync.nextCounter.toNat + 1) % 2 ^ 32 := rfl
    rw [asked, ← tracks.number] at *
    exact next.trans (Nat.mod_eq_of_lt few)
  opened counter := by
    have same : sync.nextCounter = counter ↔ asked past = counter.toNat := by
      rw [← tracks.number, UInt32.toNat_inj]
    rw [sentAt?_sent, ClockHistory.sentAt?, tracks.serverTime_eq, tracks.opened]
    by_cases next : sync.nextCounter = counter
    · simp [next, same.mp next]
    · simp [next, mt same.mpr next]
  deltas := tracks.deltas
  clockDelta := tracks.clockDelta

theorem tracks_answer (tracks : sync.Tracks birth past) (now : Instant)
    (counter clientTicks : UInt32) :
    (sync.move (.answer now counter clientTicks)).Tracks birth
      (.answer now counter clientTicks :: past) := by
  cases sent : ClockHistory.sentAt? counter past with
  | none =>
    -- A refused answer changes nothing, and the history has nothing to close either.
    have refused : sync.move (.answer now counter clientTicks) = sync := by
      rw [move, answer?_eq, tracks.opened, sent]
      rfl
    rw [refused]
    refine { tracks with opened := fun other => ?_, deltas := ?_ }
    · rw [ClockHistory.sentAt?]
      split
      · next same => rw [← same, tracks.opened, sent]
      · exact tracks.opened other
    · rw [offsets, sent]
      exact tracks.deltas
  | some time =>
    have taken : offsets birth (.answer now counter clientTicks :: past) =
        (sample (clock birth time) (sync.serverTime now) clientTicks).delta ::
          offsets birth past := by
      rw [offsets, sent, tracks.serverTime_eq]
    rw [move, answer?_eq, tracks.opened, sent]
    refine ⟨tracks.epoch, tracks.number, fun other => ?_, ?_, rfl⟩
    · have closed := sentAt?_filter other counter sync.pending
      rw [ClockHistory.sentAt?, apply_ite (Option.map (clock birth)), ← tracks.opened]
      exact closed
    · rw [taken, ← push_take, ← tracks.deltas]
      rfl

/-- A move keeps what a session keeps in step with its history. -/
theorem tracks_move (tracks : sync.Tracks birth past) {next : ClockMove}
    (few : asked (next :: past) < 2 ^ 32) : (sync.move next).Tracks birth (next :: past) := by
  cases next with
  | reset => exact tracks_reset tracks
  | request time due => exact tracks_sent tracks few time due
  | answer time counter clientTicks => exact tracks_answer tracks time counter clientTicks

theorem tracks_after (few : Few past) : (after { epoch := birth } past).Tracks birth past := by
  induction past with
  | nil => exact tracks_born birth
  | cons move past ih => exact tracks_move (ih few.tail) few.asked_lt

end

end TimeSync

end GameRealm
