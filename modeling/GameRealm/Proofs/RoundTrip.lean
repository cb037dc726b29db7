import GameRealm.Proofs.ClockHistory

/-!
# Round trips across the turn of the clock

A session notes the time of a clock request and of its answer as 32-bit numbers and takes their
difference, down to zero, for the round trip. Its clock turns over every 2^32 milliseconds. This
module says what becomes of a request and an answer that lie on two sides of a turn:

1. `ClockHistory.elapsed` is the time that has really gone by, in milliseconds of the session's
   age, and `ClockHistory.turn` the number of turns; `elapsed_bounds` ties the former to the
   instants themselves;
2. `roundTrip_sample`: the round trip is the time that has gone by within one turn, and zero
   across the end of one;
3. `LiveSession.round_trip_iff_same_turn` says so of every answer in a run whose requests do not
   use up the numbers between two resets, and `LiveSession.round_trip_lost` shows one that is
   taken for one without any delay.
-/

namespace GameRealm

namespace ClockHistory

/-- The milliseconds that go by between two instants, as a session counts them. -/
def elapsed (birth sent received : Instant) : Nat := age birth received - age birth sent

/-- The number of times that the clock of a session has turned over. -/
def turn (birth time : Instant) : Nat := age birth time / 2 ^ 32

section
variable {birth sent received : Int}

theorem toNat_clock (birth time : Instant) : (clock birth time).toNat = age birth time % 2 ^ 32 :=
  UInt32.toNat_ofNat'

theorem age_le (later : sent ≤ received) : age birth sent ≤ age birth received := by
  simp only [age, Instant.since]
  have span : (sent - birth : Int) ≤ received - birth := Int.sub_le_sub_right later birth
  exact Nat.div_le_div_right (Int.toNat_le_toNat span)

/-- What a session counts is off by less than a millisecond. -/
theorem elapsed_bounds (born : birth ≤ sent) (later : sent ≤ received) :
    elapsed birth sent received * 1000000 < Instant.since received sent + 1000000 ∧
      Instant.since received sent < (elapsed birth sent received + 1) * 1000000 := by
  have span : Instant.since received birth =
      Instant.since received sent + Instant.since sent birth := by
    change (received - birth).toNat = (received - sent).toNat + (sent - birth).toNat
    omega
  have rounded : ∀ between before : Nat,
      ((between + before) / 1000000 - before / 1000000) * 1000000 < between + 1000000 ∧
        between < ((between + before) / 1000000 - before / 1000000 + 1) * 1000000 := by omega
  rw [elapsed, age, age, span]
  exact rounded _ _

end

end ClockHistory

namespace TimeSync

open ClockHistory

/-- The round trip is what has gone by, unless the clock has turned over meanwhile. -/
theorem roundTrip_sample {birth sent received : Instant} (later : sent ≤ received)
    (near : elapsed birth sent received < 2 ^ 32) (clientTicks : UInt32) :
    (sample (clock birth sent) (clock birth received) clientTicks).roundTrip =
      if turn birth sent = turn birth received then (elapsed birth sent received : Int) else 0 := by
  have order : age birth sent ≤ age birth received := age_le later
  have trip : (sample (clock birth sent) (clock birth received) clientTicks).roundTrip =
      (age birth received % 2 ^ 32 - age birth sent % 2 ^ 32 : Nat) := by
    rw [← toNat_clock, ← toNat_clock]
    rfl
  rw [trip]
  unfold elapsed at near ⊢
  unfold turn
  split
  · omega
  · -- The clock of the later instant shows less, so the difference is cut off at zero.
    have less : age birth received % 2 ^ 32 < age birth sent % 2 ^ 32 := by omega
    omega

end TimeSync

namespace LiveSession

open ClockHistory

/-- Take an answer to an open request at any point of a run with fewer than 2^32 clock requests
between any two resets, less than a turn of the clock after the request was sent. It is taken, and
the round trip that is logged for it is the time that has gone by in milliseconds exactly if the
clock has not turned over in between; if it has, the round trip is zero. The offset that enters
the window is that of the two clocks with half of this round trip, rounded down, as lag. -/
theorem round_trip_iff_same_turn (sv : Services W) (account : Account) (socket : SocketId)
    (birth : Instant) (outside : Outside W) (past : List (Event W))
    (few : ((create sv account socket birth outside).clockHistory sv past).Few) :
    let start := create sv account socket birth outside
    let d := start.replay sv past
    let received := d.session.now
    ∀ (counter clientTicks : UInt32) (sent : Instant),
      (start.clockHistory sv past).Awaits counter sent → birth ≤ sent → sent ≤ received →
      elapsed birth sent received < 2 ^ 32 →
      let answered := d.timeSyncResponse sv counter clientTicks
      ∃ roundTrip offset : Int,
        answered.1 = true ∧
        answered.2.outside = (d.log sv (.timeSyncAnswered counter roundTrip offset
          answered.2.session.timeSync.clockDelta)).outside ∧
        answered.2.session.timeSync.deltas = TimeSync.push d.session.timeSync.deltas offset ∧
        offset = (clock birth sent).toNat + roundTrip / 2 - clientTicks.toNat ∧
        (roundTrip = elapsed birth sent received ↔ turn birth sent = turn birth received) ∧
        (turn birth sent ≠ turn birth received → roundTrip = 0) ∧
        elapsed birth sent received * 1000000 < received.since sent + 1000000 ∧
        received.since sent < (elapsed birth sent received + 1) * 1000000 := by
  intro start d received counter clientTicks sent awaits born later near answered
  have tracks : d.session.timeSync.Tracks birth (start.clockHistory sv past) :=
    timeSync_tracks sv account socket birth outside past few
  let taken := TimeSync.sample (clock birth sent) (clock birth received) clientTicks
  have accepted : answered = _ := timeSyncResponse_of_awaits d tracks awaits clientTicks
  have trip : taken.roundTrip = _ := TimeSync.roundTrip_sample later near clientTicks
  have same : taken.roundTrip = elapsed birth sent received ↔
      turn birth sent = turn birth received := by
    rw [trip]
    split
    · next same => exact iff_of_true rfl same
    · next turned =>
      -- A clock that has turned over has moved.
      have moved : elapsed birth sent received ≠ 0 := by
        have order : age birth sent ≤ age birth received := age_le later
        intro none
        refine turned ?_
        rw [turn, turn, Nat.le_antisymm order (Nat.le_of_sub_eq_zero none)]
      exact iff_of_false (fun zero => moved (Int.ofNat_eq_zero.mp zero.symm)) turned
  refine ⟨taken.roundTrip, taken.delta, ?_, ?_, ?_, rfl, same, fun turned => ?_,
    elapsed_bounds born later⟩
  · exact congrArg Prod.fst accepted
  · simp only [answered, accepted]
    rfl
  · have sync : answered.2.session.timeSync =
        d.session.timeSync.move (.answer d.session.now counter clientTicks) :=
      congrArg Session.timeSync (d.frame_timeSyncResponse counter clientTicks).1
    rw [sync]
    exact tracks.deltas_answer awaits _ _
  · rw [trip, if_neg turned]

/-- An answer after 201 ms, to a request that was sent when the session was born. -/
theorem round_trip_iff_same_turn_at_birth :
    let sv := Rehearsal.coreServices {}
    let start := Rehearsal.opening sv
    let past : List (Event Rehearsal.Stage) := [.perform .sendTimeSync, .clock 201000000]
    let d := start.replay sv past
    let answered := d.timeSyncResponse sv 0 5000
    (start.clockHistory sv past).Awaits 0 0 ∧ elapsed 0 0 d.session.now = 201 ∧
      turn 0 0 = turn 0 d.session.now ∧
      ∃ roundTrip offset : Int, roundTrip = 201 ∧ offset = 100 - 5000 ∧
        answered.2.session.timeSync.deltas = [offset] := by
  intro sv start past d answered
  have awaits : (start.clockHistory sv past).Awaits 0 0 := sentAt?_eq_some.mp (by decide)
  have passed : elapsed 0 0 d.session.now = 201 := by decide
  obtain ⟨roundTrip, offset, -, -, window, half, same, -⟩ :=
    round_trip_iff_same_turn sv _ _ _ _ past (few_of_length (by decide)) 0 5000 0 awaits
      (by decide) (by decide) (by decide)
  have trip : roundTrip = 201 := (same.mpr (by decide)).trans (congrArg Int.ofNat passed)
  refine ⟨awaits, passed, by decide, roundTrip, offset, trip, ?_, window⟩
  rw [half, trip]
  decide

/-- A request that is sent half a second before the clock turns over, and answered half a second
after it by a client whose clock agrees. The round trip should be 1000 ms and the offset 296; the
first is taken to be zero, so that no lag enters the second. -/
theorem round_trip_lost :
    let sv := Rehearsal.coreServices {}
    let start := Rehearsal.opening sv
    let past : List (Event Rehearsal.Stage) :=
      [.clock 4294966796000000, .perform .sendTimeSync, .clock 4294967796000000]
    let d := start.replay sv past
    let answered := d.timeSyncResponse sv 0 4294967000
    (start.clockHistory sv past).Awaits 0 4294966796000000 ∧
      elapsed 0 4294966796000000 d.session.now = 1000 ∧ answered.1 = true ∧
      answered.2.outside = (d.log sv
        (.timeSyncAnswered 0 0 (-204) answered.2.session.timeSync.clockDelta)).outside ∧
      answered.2.session.timeSync.deltas = [-204] := by
  intro sv start past d answered
  have few : (start.clockHistory sv past).Few := few_of_length (by decide)
  have awaits : (start.clockHistory sv past).Awaits 0 4294966796000000 :=
    sentAt?_eq_some.mp (by decide)
  have taken : TimeSync.sample (clock 0 4294966796000000) (clock 0 4294967796000000) 4294967000 =
      ⟨0, -204⟩ := by decide
  have accepted : answered = _ :=
    timeSyncResponse_of_awaits d (timeSync_tracks sv _ _ _ _ past few) awaits 4294967000
  refine ⟨awaits, by decide, by decide, ?_, by decide⟩
  simp only [answered, accepted]
  exact congrArg (fun sample : TimeSyncSample => (d.log sv (.timeSyncAnswered 0 sample.roundTrip
    sample.delta _)).outside) taken

end LiveSession

end GameRealm
