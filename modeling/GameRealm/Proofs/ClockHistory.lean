import GameRealm.Proofs.Acknowledgement
import GameRealm.Proofs.ClockRequests
import GameRealm.Proofs.Conduct

/-!
# The clock requests of a session

A session asks for its client's clock when it comes online, when it is told to, and when a step
of the state machine finds it in play and the next request due. This module follows that through
everything a session can do:

1. `Event.clockMoves` is what an event does to the clock requests, and the session keeps no more
   and no less of it (`Event.timeSync_apply`); `LiveSession.clockHistory` are the moves of a whole
   run, and `timeSync_tracks` that they account for what the session keeps at its end;
2. `Outside.clockRequests` are the requests that went out. `outside_of_asks` says what goes out
   where a request is sent, and `clockRequests_of_quiet` that nothing goes out where none is;
3. `LiveSession.clock_answers_matched`: requests are numbered from zero since the last reset,
   exactly the answers to open requests are taken, and the window holds what the last of them
   said.
-/

namespace GameRealm

open Outside

def Event.Asks (sv : Services W) (d : LiveSession W) (event : Event W) : Prop :=
  ∃ time due, .request time due ∈ event.clockMoves sv d

/-- What the events of a run do to the clock requests, the last move first. -/
def LiveSession.clockHistory (sv : Services W) : List (Event W) → LiveSession W → ClockHistory
  | [], _ => []
  | event :: events, d => clockHistory sv events (event.apply sv d) ++ event.clockMoves sv d

namespace LiveSession

section
variable {sv : Services W} (d : LiveSession W)

theorem timeSync_replay (events : List (Event W)) :
    (d.replay sv events).session.timeSync =
      d.session.timeSync.after (d.clockHistory sv events) := by
  induction events generalizing d with
  | nil => rfl
  | cons event events ih =>
    rw [replay_cons, ih, Event.timeSync_apply, TimeSync.after, TimeSync.after, TimeSync.after,
      clockHistory, List.foldr_append]

/-- The history of a run accounts for what a new session keeps at its end. -/
theorem timeSync_tracks (sv : Services W) (account : Account) (socket : SocketId)
    (birth : Instant) (outside : Outside W) (events : List (Event W))
    (few : ((create sv account socket birth outside).clockHistory sv events).Few) :
    ((create sv account socket birth outside).replay sv events).session.timeSync.Tracks birth
      ((create sv account socket birth outside).clockHistory sv events) := by
  rw [timeSync_replay]
  exact TimeSync.tracks_after few

end

end LiveSession

/-! ## What goes out -/

def Effect.clockRequest? : Effect → Option UInt32
  | send _ (.timeSyncRequest counter) => some counter
  | _ => none

def Outside.clockRequests (outside : Outside W) : List UInt32 :=
  outside.record Effect.clockRequest?

/-- Whether an event is an operation that sends something that only looks like the session's own
clock request. -/
def Event.forges : Event W → Bool
  | perform (.send (.timeSyncRequest _)) => true
  | _ => false

namespace Conduct

/-- No clock is asked for, and anything may be done. -/
def unasked : Conduct where
  tells message := ∀ socket, (Effect.send socket message).clockRequest? = none
  does _ := True

theorem clockRequest?_of_unasked {effect : Effect} (allowed : unasked.Allows effect) :
    effect.clockRequest? = none := by
  cases effect <;> first | rfl | exact allowed _

theorem logsOut_unasked : unasked.LogsOut :=
  ⟨fun _ => rfl, fun _ _ => trivial⟩

end Conduct

def Event.mayAsk (s : Session) : Event W → Bool
  | perform .setOnline | perform .sendTimeSync => true
  | advance _ => s.state = .ready
  | _ => false

theorem Event.fits_unasked {event : Event W} {s : Session} (silent : event.mayAsk s = false)
    (own : event.forges = false) (inside : ¬∃ change, event = .perform (.outside change)) :
    event.Fits .unasked s := by
  cases event with
  | perform operation =>
    cases operation with
    | send message =>
      intro socket
      cases message with
      | timeSyncRequest => cases own
      | _ => rfl
    | setOnline | sendTimeSync => cases silent
    | outside change => exact absurd ⟨change, rfl⟩ inside
    | setExpansion level => exact ⟨trivial, fun _ => rfl⟩
    | logoutPlayer | shutdown => exact Conduct.logsOut_unasked
    | kickPlayer save inPlace => exact fun _ => Conduct.logsOut_unasked
    | _ => simp [Event.Fits, Operation.Fits, Conduct.unasked, Effect.clockRequest?]
  | advance now =>
    simp only [Event.Fits]
    cases state : s.state with
    | created => exact ⟨fun _ _ _ => rfl, fun _ _ _ => rfl⟩
    | charSelection | offline => exact Conduct.logsOut_unasked
    | ready => simp [Event.mayAsk, state] at silent
  | handled => exact ⟨trivial, trivial⟩
  | _ => trivial

namespace LiveSession

section
variable {sv : Services W} (d : LiveSession W)

theorem Shows.clockRequests_eq {d e : LiveSession W} (shown : d.Shows sv .unasked e) :
    e.outside.clockRequests = d.outside.clockRequests :=
  shown.emits.record fun _ => Conduct.clockRequest?_of_unasked

theorem setOnline_of_quiet (quiet : ¬(Event.perform .setOnline).Asks sv d) :
    (d.setOnline sv).2 = d := by
  unfold setOnline
  split
  · next granted =>
    have moves : (Event.perform .setOnline).clockMoves sv d =
        [d.goReady.resetTimeSync.session.clockRequest sv.config, .reset] := if_pos granted
    exact absurd ⟨_, _, moves ▸ List.mem_cons_self⟩ quiet
  · rfl

/-- A step of the state machine in play that does not ask may lose the socket or log the
character out, but it sends no request. -/
theorem shows_advanceReady_of_quiet {now : Instant} (ready : d.session.state = .ready)
    (quiet : ¬(Event.advance now : Event W).Asks sv d) :
    d.Shows sv .unasked (d.advanceReady sv now).2 := by
  rw [advanceReady_eq d now ready]
  split
  · next asks =>
    have moves : (Event.advance now).clockMoves sv d = [d.session.clockRequest sv.config] :=
      if_pos asks
    exact absurd ⟨_, _, moves ▸ List.mem_cons_self⟩ quiet
  · split
    · split
      · exact .refl d
      · exact (behaves_setOffline d).shows
    · exact (behaves_logoutIfDue d now Conduct.logsOut_unasked).shows

/-- Where a session does not ask, no clock request goes out. -/
theorem clockRequests_of_quiet {event : Event W} (quiet : ¬event.Asks sv d)
    (own : event.forges = false) :
    (event.apply sv d).outside.clockRequests = d.outside.clockRequests := by
  by_cases silent : event.mayAsk d.session = true
  · -- These could have asked.
    cases event with
    | perform operation =>
      cases operation with
      | setOnline => exact congrArg (·.outside.clockRequests) (setOnline_of_quiet d quiet)
      | sendTimeSync => exact absurd ⟨_, _, List.mem_cons_self⟩ quiet
      | _ => cases silent
    | advance now =>
      have ready : d.session.state = .ready := of_decide_eq_true silent
      have step : (d.advance sv now).2 = (d.advanceReady sv now).2 := by
        simp only [advance, ready]
      rw [Event.apply, step]
      exact (shows_advanceReady_of_quiet d ready quiet).clockRequests_eq
    | _ => cases silent
  · by_cases inside : ∃ change, event = .perform (.outside change)
    · obtain ⟨change, rfl⟩ := inside
      rfl
    · have fits : event.Fits .unasked d.session :=
        Event.fits_unasked (Bool.eq_false_iff.mpr silent) own inside
      exact (shows_apply d fits).clockRequests_eq

theorem outside_sendTimeSync :
    (d.sendTimeSync sv).outside =
      (d.send sv (.timeSyncRequest d.session.timeSync.nextCounter)).outside :=
  rfl

theorem outside_setOnline (granted : (d.session.player.isSome && d.socketOpen sv) = true) :
    (d.setOnline sv).2.outside = (d.send sv (.timeSyncRequest 0)).outside := by
  rw [setOnline, if_pos granted, outside_sendTimeSync, outside_send, outside_send]
  rfl

variable {birth : Instant} {past : ClockHistory}

theorem number_of_next (tracks : d.session.timeSync.Tracks birth past) :
    d.session.timeSync.nextCounter.toNat + 1 =
      ClockHistory.asked ([d.session.clockRequest sv.config] ++ past) :=
  congrArg (· + 1) tracks.number

/-- Where a session asks, the request goes out if there is an open socket, and if it is the n-th
since the last reset its number is n - 1. Nothing else goes out. -/
theorem outside_of_asks {event : Event W} (asks : event.Asks sv d)
    (tracks : d.session.timeSync.Tracks birth past) :
    ∃ counter, counter.toNat + 1 = ClockHistory.asked (event.clockMoves sv d ++ past) ∧
      (event.apply sv d).outside = (d.send sv (.timeSyncRequest counter)).outside := by
  obtain ⟨time, due, mem⟩ := asks
  -- Only going online, the operation that asks and a step in play send the session's own request.
  cases event with
  | perform operation =>
    cases operation with
    | setOnline =>
      simp only [Event.clockMoves, Operation.clockMoves] at mem ⊢
      split at mem
      · next granted =>
        rw [if_pos granted]
        exact ⟨0, rfl, outside_setOnline d granted⟩
      · cases mem
    | sendTimeSync => exact ⟨_, number_of_next d tracks, outside_sendTimeSync d⟩
    | resetTimeSync => simp [Event.clockMoves, Operation.clockMoves] at mem
    | timeSyncResponse => simp [Event.clockMoves, Operation.clockMoves] at mem
    | _ => cases mem
  | advance now =>
    simp only [Event.clockMoves] at mem ⊢
    split at mem
    · next asks =>
      have ready : d.session.state = .ready := by
        by_contra other
        rw [asks_eq_false d other] at asks
        cases asks
      have step : (d.advance sv now).2 = d.sendTimeSync sv := by
        simp only [advance, ready, advanceReady_eq d now ready, if_pos asks]
      rw [if_pos asks, Event.apply, step]
      exact ⟨_, number_of_next d tracks, outside_sendTimeSync d⟩
    · cases mem
  | _ => cases mem

/-! ## What is answered -/

theorem timeSyncResponse_of_awaits (tracks : d.session.timeSync.Tracks birth past)
    {counter : UInt32} {sent : Instant} (awaits : past.Awaits counter sent)
    (clientTicks : UInt32) :
    d.timeSyncResponse sv counter clientTicks =
      let taken := TimeSync.sample (ClockHistory.clock birth sent)
        (ClockHistory.clock birth d.session.now) clientTicks
      let sync := d.session.timeSync.move (.answer d.session.now counter clientTicks)
      (true, (d.modify fun s => { s with timeSync := sync }).log sv
        (.timeSyncAnswered counter taken.roundTrip taken.delta sync.clockDelta)) := by
  rw [timeSyncResponse, tracks.answer?_of_awaits awaits]

/-- An answer to no open request is refused, which is logged and changes nothing. -/
theorem timeSyncResponse_of_closed (tracks : d.session.timeSync.Tracks birth past)
    {counter : UInt32} (closed : ¬∃ sent, past.Awaits counter sent) (clientTicks : UInt32) :
    d.timeSyncResponse sv counter clientTicks = (false, d.log sv (.unknownCounter counter)) := by
  rw [timeSyncResponse, tracks.answer?_eq_none closed]

end

/-- Take a session at any point of a run with fewer than 2^32 clock requests between any two
resets. Where it asks next, the request that goes out carries one less than the number of requests
since the last reset, itself included; where it does not ask nothing goes out that it could be
mistaken for. An answer is taken exactly if the request of its number was sent since the last
reset and has had no answer since, and an answer that is refused is logged and changes nothing.
The window holds what the last six answers said that were taken, oldest first, or all of them if
they are fewer, whatever resets there were. -/
theorem clock_answers_matched (sv : Services W) (account : Account) (socket : SocketId)
    (birth : Instant) (outside : Outside W) (past : List (Event W))
    (few : ((create sv account socket birth outside).clockHistory sv past).Few) :
    let start := create sv account socket birth outside
    let d := start.replay sv past
    let history := start.clockHistory sv past
    (∀ event : Event W,
      (event.Asks sv d → ∃ counter,
        counter.toNat + 1 = ClockHistory.asked (event.clockMoves sv d ++ history) ∧
          (event.apply sv d).outside = (d.send sv (.timeSyncRequest counter)).outside) ∧
      (¬event.Asks sv d → event.forges = false →
        (event.apply sv d).outside.clockRequests = d.outside.clockRequests)) ∧
    (∀ counter clientTicks,
      ((d.timeSyncResponse sv counter clientTicks).1 = true ↔
        ∃ sent, history.Awaits counter sent) ∧
      ((d.timeSyncResponse sv counter clientTicks).1 = false →
        (d.timeSyncResponse sv counter clientTicks).2 = d.log sv (.unknownCounter counter))) ∧
    d.session.timeSync.deltas = ((history.offsets birth).take 6).reverse := by
  intro start d history
  have tracks : d.session.timeSync.Tracks birth history :=
    timeSync_tracks sv account socket birth outside past few
  refine ⟨fun event => ⟨fun asks => outside_of_asks d asks tracks, clockRequests_of_quiet d⟩,
    fun counter clientTicks => ?_, tracks.deltas⟩
  by_cases awaits : ∃ sent, history.Awaits counter sent
  · obtain ⟨sent, opened⟩ := awaits
    rw [timeSyncResponse_of_awaits d tracks opened]
    exact ⟨iff_of_true rfl ⟨sent, opened⟩, nofun⟩
  · rw [timeSyncResponse_of_closed d tracks awaits]
    exact ⟨iff_of_false nofun awaits, fun _ => rfl⟩

/-- Request 0 is answered twice, request 1 only after a reset, from which on numbering begins
again: the first answer counts, the second and the late one are refused, and number 0 is open
again. -/
theorem clock_answers_matched_after_reset :
    let sv := Rehearsal.coreServices {}
    let start := Rehearsal.opening sv
    let past : List (Event Rehearsal.Stage) :=
      [.perform (.attach Rehearsal.lead), .perform .setOnline, .clock 200000000,
        .perform (.timeSyncResponse 0 5000), .perform (.timeSyncResponse 0 5000),
        .perform .sendTimeSync, .perform .resetTimeSync, .perform .sendTimeSync]
    let d := start.replay sv past
    let history := start.clockHistory sv past
    history.Few ∧ (∃ sent, history.Awaits 0 sent) ∧
      (d.timeSyncResponse sv 1 5000).2 = d.log sv (.unknownCounter 1) ∧
      d.session.timeSync.deltas = ((history.offsets 0).take 6).reverse ∧
      history.offsets 0 = [-4900] := by
  intro sv start past d history
  have few : history.Few := ClockHistory.few_of_length (by decide)
  obtain ⟨-, answers, window⟩ := clock_answers_matched sv _ _ _ _ past few
  exact ⟨few, (answers 0 5000).1.mp (by decide), (answers 1 5000).2 (by decide), window, by decide⟩

end LiveSession

end GameRealm
