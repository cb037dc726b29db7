import GameRealm.Proofs.Channel
import GameRealm.Proofs.Greeting

/-!
# What a connection has done by the time that it has read something

A connection ends in about ten ways, and a peer may send anything at any time. Everything
that a connection does to others can be told from the arrivals that it has read.

1. `Connection.Chronicle` is what a connection has done after reading some arrivals, in each
   of its phases: nothing at first, a rejection, or a request for a session and whatever was
   handed to its inbox since;
2. `Connection.Stops` names the events at which a connection stops reading. A connection that
   has asked for a session is over if and only if one of them has happened;
3. `chronicle_step`: every event keeps the chronicle, and `chronicle_run`: so does a run.
-/

namespace GameRealm

/-! ## What arrives -/

namespace Arrival

/-- Whether a connection takes notice; with pings the network layer deals. -/
def noticed : Arrival → Bool
  | frame .control => false
  | _ => true

/-- The peer has left, or the network has failed. -/
def parts : Arrival → Bool
  | frame _ => false
  | _ => true

def envelope? : Arrival → Option Envelope
  | frame sent => sent.data?.bind Envelope.decode?
  | _ => none

end Arrival

/-- A connection has stopped reading for good. -/
def ConnectionPhase.finished : ConnectionPhase → Bool
  | closing _ | ended _ => true
  | _ => false

/-! ## What a connection has done -/

namespace Connection

def arrivals (events : List ConnectionEvent) : List Arrival :=
  events.filterMap fun
    | .arrives arrival => some arrival
    | _ => none

def envelopes (arrivals : List Arrival) : List Envelope := arrivals.filterMap Arrival.envelope?

/-- What is done with envelopes for the inbox: each is recorded and handed on. -/
def handed (envs : List Envelope) : List ConnectionDeed :=
  envs.flatMap fun env => [.record env.opcode, .enqueue env]

/-- The events at which a connection stops reading: the world loop does not let it in; it
finds that the peer has left, or an envelope for a session that is gone; or it notices that
the bridge is closed. -/
inductive Stops (conn : Connection) : ConnectionEvent → Prop
  | unadmitted {answer : AdmissionAnswer} (asks : conn.phase = .asking)
      (refused : answer ≠ .admitted) : Stops conn (.answered answer)
  | parted {arrival : Arrival} {rest : List Arrival} (reads : conn.phase = .reading)
      (next : conn.incoming = arrival :: rest) (parts : arrival.parts) : Stops conn .reads
  | forgotten {arrival : Arrival} {rest : List Arrival} (reads : conn.phase = .reading)
      (next : conn.incoming = arrival :: rest) (holds : arrival.envelope?.isSome)
      (gone : conn.sessionAlive = false) : Stops conn .reads
  | closed {bridge : Bridge} (reads : conn.phase = .reading) (has : conn.bridge = some bridge)
      (closed : bridge.closed) : Stops conn .noticesClose

/-- How far a connection has come since it asked for a session, and what it has done: it
hands on whatever it reads, but for an envelope that comes too late. -/
inductive Progress (conn : Connection) (stopped : Prop) (request : ConnectionDeed)
    (bridge : Bridge) (later : List Arrival) : Prop
  | asking (phase : conn.phase = .asking) (silent : later = []) (deeds : conn.deeds = [request])
      (going : ¬ stopped)
  | reading (phase : conn.phase = .reading) (stays : ∀ arrival ∈ later, arrival.parts = false)
      (deeds : conn.deeds = request :: handed (envelopes later))
      (going : ¬ stopped)
  | finished (phase : conn.phase.finished) (closed : bridge.closed)
      (stays : ∀ arrival ∈ later.dropLast, arrival.parts = false)
      (deeds : conn.deeds = request :: handed (envelopes later))
      (stops : stopped)
  | forgotten {fed : List Envelope} {last : Envelope} (phase : conn.phase.finished)
      (closed : bridge.closed) (stays : ∀ arrival ∈ later, arrival.parts = false)
      (envs : envelopes later = fed ++ [last])
      (deeds : conn.deeds = request :: (handed fed ++ [.record last.opcode]))
      (gone : conn.sessionAlive = false) (stops : stopped)

/-- What a connection has done when it has taken notice of some arrivals. -/
inductive Chronicle (door : Doorway) (stopped : Prop) (heard : List Arrival)
    (conn : Connection) : Prop
  | waiting (phase : conn.phase = .greeting) (silent : heard = []) (deeds : conn.deeds = [])
      (bridge : conn.bridge = none) (going : ¬ stopped)
  | dismissed {cause : RealmError} (phase : conn.phase = .ended (.error cause))
      (invalid : ∀ frame later, heard = .frame frame :: later →
        ∃ cause, door.greeting? frame = some (.invalid cause))
      (deeds : conn.deeds = []) (bridge : conn.bridge = none) (going : ¬ stopped)
  | refused {frame : Frame} {cause : SessionError}
      (phase : conn.phase = .ended (.error (.session cause))) (first : heard = [.frame frame])
      (greeted : door.greeting? frame = some (.refused cause))
      (deeds : conn.deeds = [.answer Greeting.rejection, .hangUp]) (bridge : conn.bridge = none)
      (going : ¬ stopped)
  | asked {frame : Frame} {account : Account} {auth : Envelope} {bridge : Bridge}
      {later : List Arrival} (first : heard = .frame frame :: later)
      (greeted : door.greeting? frame = some (.accepted account auth))
      (has : conn.bridge = some bridge)
      (progress : conn.Progress stopped (.ask account auth) bridge later)

section
variable {door : Doorway} {stopped stopped' : Prop} {heard : List Arrival}
  {conn conn' : Connection} {event : ConnectionEvent}

theorem Chronicle.congr (chronicle : Chronicle door stopped heard conn)
    (phase : conn'.phase = conn.phase) (deeds : conn'.deeds = conn.deeds)
    (bridge : conn'.bridge = conn.bridge)
    (gone : conn.sessionAlive = false → conn'.sessionAlive = false)
    (same : stopped' ↔ stopped) : Chronicle door stopped' heard conn' := by
  obtain rfl : stopped' = stopped := propext same
  cases chronicle with
  | waiting there silent done none going =>
    exact .waiting (phase.trans there) silent (deeds.trans done) (bridge.trans none) going
  | dismissed there invalid done none going =>
    exact .dismissed (phase.trans there) invalid (deeds.trans done) (bridge.trans none) going
  | refused there first greeted done none going =>
    exact .refused (phase.trans there) first greeted (deeds.trans done) (bridge.trans none) going
  | asked first greeted has progress =>
    refine .asked first greeted (bridge.trans has) ?_
    cases progress with
    | asking there silent done going =>
      exact .asking (phase.trans there) silent (deeds.trans done) going
    | reading there stays done going =>
      exact .reading (phase.trans there) stays (deeds.trans done) going
    | finished there closed stays done stops =>
      exact .finished (phase ▸ there) closed stays (deeds.trans done) stops
    | forgotten there closed stays envs done lost stops =>
      exact .forgotten (phase ▸ there) closed stays envs (deeds.trans done) (gone lost) stops

/-! ## What a phase tells -/

theorem Chronicle.of_greeting (chronicle : Chronicle door stopped heard conn)
    (phase : conn.phase = .greeting) :
    heard = [] ∧ conn.deeds = [] ∧ conn.bridge = none ∧ ¬ stopped := by
  cases chronicle with
  | waiting _ silent deeds bridge going => exact ⟨silent, deeds, bridge, going⟩
  | dismissed there => cases phase.symm.trans there
  | refused there => cases phase.symm.trans there
  | asked _ _ _ progress =>
    cases progress with
    | asking there => cases phase.symm.trans there
    | reading there => cases phase.symm.trans there
    | finished there | forgotten there =>
      rw [phase] at there
      cases there

theorem Chronicle.of_asking (chronicle : Chronicle door stopped heard conn)
    (phase : conn.phase = .asking) :
    ∃ frame account auth bridge, heard = [.frame frame] ∧
      door.greeting? frame = some (.accepted account auth) ∧ conn.bridge = some bridge ∧
      conn.deeds = [.ask account auth] ∧ ¬ stopped := by
  cases chronicle with
  | waiting there => cases phase.symm.trans there
  | dismissed there => cases phase.symm.trans there
  | refused there => cases phase.symm.trans there
  | asked first greeted has progress =>
    cases progress with
    | asking _ silent deeds going =>
      subst silent
      exact ⟨_, _, _, _, first, greeted, has, deeds, going⟩
    | reading there => cases phase.symm.trans there
    | finished there | forgotten there =>
      rw [phase] at there
      cases there

theorem Chronicle.of_reading (chronicle : Chronicle door stopped heard conn)
    (phase : conn.phase = .reading) :
    ∃ frame account auth bridge later, heard = .frame frame :: later ∧
      door.greeting? frame = some (.accepted account auth) ∧ conn.bridge = some bridge ∧
      (∀ arrival ∈ later, arrival.parts = false) ∧
      conn.deeds = .ask account auth :: handed (envelopes later) ∧ ¬ stopped := by
  cases chronicle with
  | waiting there => cases phase.symm.trans there
  | dismissed there => cases phase.symm.trans there
  | refused there => cases phase.symm.trans there
  | asked first greeted has progress =>
    cases progress with
    | asking there => cases phase.symm.trans there
    | reading _ stays deeds going =>
      exact ⟨_, _, _, _, _, first, greeted, has, stays, deeds, going⟩
    | finished there | forgotten there =>
      rw [phase] at there
      cases there

/-! ## Events -/

def took (conn : Connection) : ConnectionEvent → List Arrival
  | .reads => if conn.listens then conn.incoming.take 1 else []
  | _ => []

theorem not_stops_reads (other : conn.phase ≠ .reading) : ¬ conn.Stops .reads := by
  intro stops
  cases stops with
  | parted reads => exact other reads
  | forgotten reads => exact other reads

theorem listens_iff : conn.listens = true ↔ conn.phase = .greeting ∨ conn.phase = .reading := by
  unfold listens
  cases conn.phase <;> simp

theorem read_cases (door : Doorway) (conn : Connection) :
    (¬ conn.Stops .reads ∧ conn.took .reads = [] ∧ conn.read door = conn) ∨
    ∃ arrival rest, conn.listens = true ∧ conn.incoming = arrival :: rest ∧
      conn.took .reads = [arrival] ∧
      conn.read door = ({ conn with incoming := rest } : Connection).take door arrival := by
  unfold took read
  cases listens : conn.listens with
  | false =>
    refine .inl ⟨not_stops_reads fun reading => ?_, rfl, rfl⟩
    rw [listens_iff.mpr (.inr reading)] at listens
    cases listens
  | true =>
    cases waits : conn.incoming with
    | nil =>
      refine .inl ⟨fun stops => ?_, rfl, rfl⟩
      cases stops with
      | parted _ next => exact absurd (waits.symm.trans next) nofun
      | forgotten _ next => exact absurd (waits.symm.trans next) nofun
    | cons arrival rest => exact .inr ⟨arrival, rest, rfl, rfl, rfl, rfl⟩

theorem incoming_greet (data : Bytes) : (conn.greet door data).incoming = conn.incoming := by
  unfold greet
  split <;> rfl

theorem incoming_feed (data : Bytes) : (conn.feed data).incoming = conn.incoming := by
  unfold feed
  cases Envelope.decode? data with
  | none => rfl
  | some env =>
    simp only
    split <;> rfl

theorem incoming_take (arrival : Arrival) : (conn.take door arrival).incoming = conn.incoming := by
  unfold take
  cases conn.phase with
  | greeting =>
    cases arrival with
    | frame frame =>
      simp only
      cases frame.data? with
      | none => rfl
      | some data => exact incoming_greet data
    | left => rfl
    | failed reason => rfl
  | reading =>
    cases arrival with
    | frame frame =>
      simp only
      cases frame.data? with
      | none => rfl
      | some data => exact incoming_feed data
    | left => rfl
    | failed reason => rfl
  | _ => rfl

theorem incoming_step (door : Doorway) (conn : Connection) (event : ConnectionEvent) :
    conn.incoming ++ arrivals [event] = conn.took event ++ (conn.step door event).incoming := by
  cases event with
  | reads =>
    change conn.incoming ++ [] = conn.took .reads ++ (conn.read door).incoming
    rw [List.append_nil]
    rcases read_cases door conn with ⟨-, none, same⟩ | ⟨arrival, rest, -, next, took, read⟩
    · rw [none, same, List.nil_append]
    · rw [took, read, incoming_take, next]
      rfl
  | arrives arrival => rfl
  | timesOut =>
    simp only [step]
    split <;> exact List.append_nil _
  | answered answer =>
    simp only [step, hear]
    split <;> exact List.append_nil _
  | noticesClose =>
    simp only [step]
    split
    · split <;> exact List.append_nil _
    · exact List.append_nil _
  | noticesStop =>
    simp only [step]
    split
    · split <;> exact List.append_nil _
    · exact List.append_nil _
  | _ => exact List.append_nil _

theorem closed_close (bridge : Bridge) : bridge.close.closed = true := by
  rw [Bridge.close_eq]

theorem closed_step {bridge : Bridge} (closed : bridge.closed = true) (step : BridgeStep) :
    (bridge.step step).closed = true := by
  rw [(bridge.channel_step step).2, closed, Bool.true_or]

theorem or_stops_iff (not : ¬ conn.Stops event) : stopped ∨ conn.Stops event ↔ stopped :=
  or_iff_left not

theorem chronicle_greet {frame : Frame} {data : Bytes} (deeds : conn.deeds = [])
    (bridge : conn.bridge = none) (going : ¬ stopped) (here : frame.data? = some data) :
    Chronicle door stopped [.frame frame] (conn.greet door data) := by
  have greeted : door.greeting? frame = some (Greeting.ofFrame door.authenticate data) := by
    rw [Doorway.greeting?, here, Option.map_some]
  unfold greet
  cases verdict : Greeting.ofFrame door.authenticate data with
  | invalid cause =>
    rw [verdict] at greeted
    refine .dismissed rfl ?_ deeds bridge going
    rintro _ _ ⟨⟩
    exact ⟨cause, greeted⟩
  | refused cause =>
    have done : (((conn.perform (.answer Greeting.rejection)).perform .hangUp).fail
        (.session cause)).deeds = [.answer Greeting.rejection, .hangUp] := by
      change conn.deeds ++ _ ++ _ = _
      rw [deeds]
      rfl
    exact .refused rfl rfl (verdict ▸ greeted) done bridge going
  | accepted account auth =>
    have done : (conn.perform (.ask account auth)).deeds = [.ask account auth] := by
      change conn.deeds ++ _ = _
      rw [deeds]
      rfl
    exact .asked rfl (verdict ▸ greeted) rfl (.asking rfl rfl done going)

theorem envelopes_concat (before : List Arrival) (last : Arrival) :
    envelopes (before ++ [last]) = envelopes before ++ last.envelope?.toList := by
  rw [envelopes, List.filterMap_append]
  cases held : last.envelope? <;> simp [envelopes, held]

theorem handed_concat (envs : List Envelope) (env : Envelope) :
    handed (envs ++ [env]) = handed envs ++ [.record env.opcode, .enqueue env] := by
  simp only [handed, List.flatMap_append, List.flatMap_singleton]

/-- Dealing with a further frame. An envelope is handed on unless its session is gone. -/
theorem chronicle_feed {frame sent : Frame} {account : Account} {auth : Envelope}
    {bridge : Bridge} {later : List Arrival} {data : Bytes} (first : heard = .frame frame :: later)
    (greeted : door.greeting? frame = some (.accepted account auth))
    (has : conn.bridge = some bridge) (phase : conn.phase = .reading)
    (stays : ∀ arrival ∈ later, arrival.parts = false)
    (deeds : conn.deeds = .ask account auth :: handed (envelopes later))
    (here : sent.data? = some data)
    (stops : stopped ↔ (Envelope.decode? data).isSome ∧ conn.sessionAlive = false) :
    Chronicle door stopped (heard ++ [.frame sent]) (conn.feed data) := by
  have heard' : heard ++ [.frame sent] = .frame frame :: (later ++ [.frame sent]) := by
    rw [first]
    rfl
  have stays' : ∀ arrival ∈ later ++ [.frame sent], arrival.parts = false := by
    simp only [List.mem_append, List.mem_singleton]
    rintro arrival (old | rfl)
    · exact stays arrival old
    · rfl
  have held : Arrival.envelope? (.frame sent) = Envelope.decode? data := by
    simp only [Arrival.envelope?, here, Option.bind_some]
  unfold feed
  cases decoded : Envelope.decode? data with
  | none =>
    -- A frame without an envelope is read, but leaves no trace.
    have envs : envelopes (later ++ [.frame sent]) = envelopes later := by
      rw [envelopes_concat, held, decoded, Option.toList_none, List.append_nil]
    refine .asked heard' greeted has (.reading phase stays' (envs ▸ deeds) ?_)
    rw [stops, decoded]
    simp
  | some env =>
    have envs : envelopes (later ++ [.frame sent]) = envelopes later ++ [env] := by
      rw [envelopes_concat, held, decoded, Option.toList_some]
    simp only
    split
    · next alive =>
      have alive : conn.sessionAlive = true := alive
      refine .asked heard' greeted (congrArg (Option.map (Bridge.record env.opcode)) has)
        (.reading phase stays' ?_ ?_)
      · rw [envs, handed_concat]
        change conn.deeds ++ _ ++ _ = _
        rw [deeds, List.append_assoc]
        rfl
      · rw [stops, alive]
        simp
    · next gone =>
      have gone : conn.sessionAlive = false := eq_false_of_ne_true gone
      refine .asked heard' greeted (congrArg
        (fun bridge => (bridge.map (Bridge.record env.opcode)).map Bridge.close) has)
        (.forgotten rfl (closed_close _) stays' envs ?_ gone ?_)
      · change conn.deeds ++ _ = _
        rw [deeds]
        rfl
      · rw [stops, decoded]
        exact ⟨rfl, gone⟩

theorem noticed_frame (frame : Frame) : (Arrival.frame frame).noticed = frame.data?.isSome := by
  cases frame <;> rfl

theorem chronicle_take_greeting {arrival : Arrival} (phase : conn.phase = .greeting)
    (deeds : conn.deeds = []) (bridge : conn.bridge = none) (going : ¬ stopped) :
    Chronicle door stopped ([arrival].filter (·.noticed)) (conn.take door arrival) := by
  unfold take
  rw [phase]
  cases arrival with
  | left => exact .dismissed rfl nofun deeds bridge going
  | failed reason => exact .dismissed rfl nofun deeds bridge going
  | frame frame =>
    cases here : frame.data? with
    | none =>
      rw [List.filter_cons_of_neg (by rw [noticed_frame, here]; exact Bool.false_ne_true)]
      simp only [here, Option.map_none, Option.getD_none]
      exact .waiting phase rfl deeds bridge going
    | some data =>
      rw [List.filter_cons_of_pos (by rw [noticed_frame, here]; rfl)]
      simp only [here, Option.map_some, Option.getD_some]
      exact chronicle_greet deeds bridge going here

theorem chronicle_take_reading {frame : Frame} {account : Account} {auth : Envelope}
    {bridge : Bridge} {later rest : List Arrival} {arrival : Arrival}
    (first : heard = .frame frame :: later)
    (greeted : door.greeting? frame = some (.accepted account auth))
    (has : conn.bridge = some bridge) (phase : conn.phase = .reading)
    (stays : ∀ arrival ∈ later, arrival.parts = false)
    (deeds : conn.deeds = .ask account auth :: handed (envelopes later))
    (going : ¬ stopped) (next : conn.incoming = arrival :: rest) :
    Chronicle door (stopped ∨ conn.Stops .reads) (heard ++ [arrival].filter (·.noticed))
      (({ conn with incoming := rest } : Connection).take door arrival) := by
  have reads : ({ conn with incoming := rest } : Connection).phase = .reading := phase
  -- What ends the connection is the last thing that it reads.
  have leaves (parts : arrival.parts = true) (silent : arrival.envelope? = none) :
      Chronicle door (stopped ∨ conn.Stops .reads) (heard ++ [arrival])
        (({ conn with incoming := rest } : Connection).windDown (.ok ())) := by
    have heard' : heard ++ [arrival] = .frame frame :: (later ++ [arrival]) := by
      rw [first]
      rfl
    refine .asked heard' greeted (congrArg (Option.map Bridge.close) has)
      (.finished rfl (closed_close _) ?_ ?_ (.inr (.parted phase next parts)))
    · rw [List.dropLast_concat]
      exact stays
    · rw [envelopes_concat, silent, Option.toList_none, List.append_nil]
      exact deeds
  unfold take
  rw [reads]
  cases arrival with
  | left => exact leaves rfl rfl
  | failed reason => exact leaves rfl rfl
  | frame sent =>
    cases here : sent.data? with
    | none =>
      rw [List.filter_cons_of_neg (by rw [noticed_frame, here]; exact Bool.false_ne_true)]
      -- A ping is no reason to stop: the peer is there, and it holds no envelope.
      have goes : ¬ conn.Stops .reads := fun stops => by
        cases stops with
        | parted _ waits parts =>
          cases next.symm.trans waits
          cases parts
        | forgotten _ waits holds =>
          cases next.symm.trans waits
          simp [Arrival.envelope?, here] at holds
      simp only [here, Option.map_none, Option.getD_none]
      refine .asked ((List.append_nil _).trans first) greeted has (.reading rfl stays deeds ?_)
      rwa [or_stops_iff goes]
    | some data =>
      rw [List.filter_cons_of_pos (by rw [noticed_frame, here]; rfl)]
      simp only [here, Option.map_some, Option.getD_some]
      refine chronicle_feed first greeted has rfl stays deeds here ?_
      rw [or_iff_right going]
      have held : Arrival.envelope? (.frame sent) = Envelope.decode? data := by
        simp only [Arrival.envelope?, here, Option.bind_some]
      constructor
      · intro stops
        cases stops with
        | parted _ waits parts =>
          cases next.symm.trans waits
          cases parts
        | forgotten _ waits holds gone =>
          cases next.symm.trans waits
          exact ⟨held ▸ holds, gone⟩
      · rintro ⟨holds, gone⟩
        exact .forgotten phase next (held ▸ holds) gone

theorem chronicle_read (chronicle : Chronicle door stopped heard conn) :
    Chronicle door (stopped ∨ conn.Stops .reads)
      (heard ++ (conn.took .reads).filter (·.noticed)) (conn.read door) := by
  rcases read_cases door conn with ⟨goes, none, same⟩ | ⟨arrival, rest, listens, next, took, read⟩
  · rw [none, same, List.filter_nil, List.append_nil]
    exact chronicle.congr rfl rfl rfl (fun gone => gone) (or_stops_iff goes)
  · rw [took, read]
    rcases listens_iff.mp listens with phase | phase
    · obtain ⟨silent, deeds, bridge, going⟩ := chronicle.of_greeting phase
      have goes : ¬ conn.Stops .reads := not_stops_reads (by rw [phase]; nofun)
      rw [silent, List.nil_append]
      exact chronicle_take_greeting phase deeds bridge (mt (or_stops_iff goes).mp going)
    · obtain ⟨frame, account, auth, bridge, later, first, greeted, has, stays, deeds, going⟩ :=
        chronicle.of_reading phase
      exact chronicle_take_reading first greeted has phase stays deeds going next

theorem chronicle_timesOut (chronicle : Chronicle door stopped heard conn) :
    Chronicle door (stopped ∨ conn.Stops .timesOut) heard (conn.step door .timesOut) := by
  have goes : ¬ conn.Stops .timesOut := nofun
  simp only [step]
  split
  · next phase =>
    obtain ⟨silent, deeds, bridge, going⟩ := chronicle.of_greeting phase
    refine .dismissed rfl ?_ deeds bridge (mt (or_stops_iff goes).mp going)
    rw [silent]
    exact nofun
  · exact chronicle.congr rfl rfl rfl (fun gone => gone) (or_stops_iff goes)

theorem chronicle_answered (answer : AdmissionAnswer)
    (chronicle : Chronicle door stopped heard conn) :
    Chronicle door (stopped ∨ conn.Stops (.answered answer)) heard (conn.hear answer) := by
  by_cases phase : conn.phase = .asking
  · obtain ⟨frame, account, auth, bridge, first, greeted, has, deeds, going⟩ :=
      chronicle.of_asking phase
    cases answer with
    | admitted =>
      have goes : ¬ conn.Stops (.answered .admitted) := fun stops => by
        cases stops with
        | unadmitted _ refused => exact refused rfl
      simp only [hear, phase]
      exact .asked first greeted has
        (.reading rfl nofun deeds (mt (or_stops_iff goes).mp going))
    | refused | nobody =>
      simp only [hear, phase]
      exact .asked first greeted (congrArg (Option.map Bridge.close) has)
        (.finished rfl (closed_close _) nofun deeds (.inr (.unadmitted phase nofun)))
  · have goes : ¬ conn.Stops (.answered answer) := fun stops => by
      cases stops with
      | unadmitted asks => exact phase asks
    have same : conn.hear answer = conn := by
      unfold hear
      split <;> first | rfl | contradiction
    rw [same]
    exact chronicle.congr rfl rfl rfl (fun gone => gone) (or_stops_iff goes)

theorem chronicle_bridge (step : BridgeStep) (chronicle : Chronicle door stopped heard conn) :
    Chronicle door stopped heard { conn with bridge := conn.bridge.map (·.step step) } := by
  have still (none : conn.bridge = none) : conn.bridge.map (·.step step) = Option.none := by
    rw [none, Option.map_none]
  cases chronicle with
  | waiting phase silent deeds bridge going =>
    exact .waiting phase silent deeds (still bridge) going
  | dismissed phase invalid deeds bridge going =>
    exact .dismissed phase invalid deeds (still bridge) going
  | refused phase first greeted deeds bridge going =>
    exact .refused phase first greeted deeds (still bridge) going
  | asked first greeted has progress =>
    refine .asked first greeted (congrArg (Option.map (·.step step)) has) ?_
    cases progress with
    | asking phase silent deeds going => exact .asking phase silent deeds going
    | reading phase stays deeds going => exact .reading phase stays deeds going
    | finished phase closed stays deeds stops =>
      exact .finished phase (closed_step closed step) stays deeds stops
    | forgotten phase closed stays envs deeds gone stops =>
      exact .forgotten phase (closed_step closed step) stays envs deeds gone stops

theorem chronicle_noticesClose (chronicle : Chronicle door stopped heard conn) :
    Chronicle door (stopped ∨ conn.Stops .noticesClose) heard (conn.step door .noticesClose) := by
  have aside (goes : ¬ conn.Stops .noticesClose) :
      Chronicle door (stopped ∨ conn.Stops .noticesClose) heard conn :=
    chronicle.congr rfl rfl rfl (fun gone => gone) (or_stops_iff goes)
  simp only [step]
  split
  · next bridge phase has =>
    split
    · next closed =>
      have stops : conn.Stops .noticesClose := .closed phase has closed
      obtain ⟨frame, account, auth, _, later, first, greeted, has', stays, deeds, -⟩ :=
        chronicle.of_reading phase
      refine .asked first greeted (congrArg (Option.map Bridge.close) has')
        (.finished rfl (closed_close _) (fun arrival mem => ?_) deeds (.inr stops))
      exact stays arrival (List.dropLast_subset _ mem)
    · next still =>
      refine aside fun stops => ?_
      cases stops with
      | closed _ has' closed =>
        cases has.symm.trans has'
        exact still closed
  · next other =>
    refine aside fun stops => ?_
    cases stops with
    | closed reads has' => exact other _ reads has'

theorem chronicle_noticesStop (chronicle : Chronicle door stopped heard conn) :
    Chronicle door (stopped ∨ conn.Stops .noticesStop) heard (conn.step door .noticesStop) := by
  have goes : ¬ conn.Stops .noticesStop := nofun
  have aside : Chronicle door (stopped ∨ conn.Stops .noticesStop) heard conn :=
    chronicle.congr rfl rfl rfl (fun gone => gone) (or_stops_iff goes)
  simp only [step]
  split
  · next outcome bridge phase has =>
    split
    · cases aside with
      | waiting there => cases phase.symm.trans there
      | dismissed there => cases phase.symm.trans there
      | refused there => cases phase.symm.trans there
      | asked first greeted has' progress =>
        refine .asked first greeted has' ?_
        cases progress with
        | asking there => cases phase.symm.trans there
        | reading there => cases phase.symm.trans there
        | finished _ closed stays deeds stops => exact .finished rfl closed stays deeds stops
        | forgotten _ closed stays envs deeds gone stops =>
          exact .forgotten rfl closed stays envs deeds gone stops
    · exact aside
  · exact aside

/-- Every event keeps the chronicle, and adds to it what it reads. -/
theorem chronicle_step (event : ConnectionEvent)
    (chronicle : Chronicle door stopped heard conn) :
    Chronicle door (stopped ∨ conn.Stops event)
      (heard ++ (conn.took event).filter (·.noticed)) (conn.step door event) := by
  -- Only a read takes something in.
  have aside (idle : conn.took event = []) :
      heard ++ (conn.took event).filter (·.noticed) = heard := by
    rw [idle, List.filter_nil, List.append_nil]
  cases event with
  | reads => exact chronicle_read chronicle
  | arrives arrival =>
    rw [aside rfl]
    exact chronicle.congr rfl rfl rfl (fun gone => gone) (or_stops_iff nofun)
  | timesOut =>
    rw [aside rfl]
    exact chronicle_timesOut chronicle
  | answered answer =>
    rw [aside rfl]
    exact chronicle_answered answer chronicle
  | sessionEnds =>
    rw [aside rfl]
    exact chronicle.congr rfl rfl rfl (fun _ => rfl) (or_stops_iff nofun)
  | bridge step =>
    rw [aside rfl]
    exact (chronicle_bridge step chronicle).congr rfl rfl rfl (fun gone => gone)
      (or_stops_iff nofun)
  | noticesClose =>
    rw [aside rfl]
    exact chronicle_noticesClose chronicle
  | noticesStop =>
    rw [aside rfl]
    exact chronicle_noticesStop chronicle

/-! ## Runs -/

/-- At some moment of a run the connection stops reading. -/
def StopsAmid (door : Doorway) (events : List ConnectionEvent) (conn : Connection) : Prop :=
  ∃ before event after, events = before ++ event :: after ∧ (conn.run door before).Stops event

theorem not_stopsAmid_nil : ¬ conn.StopsAmid door [] := by
  rintro ⟨before, event, after, split, -⟩
  exact absurd split.symm (List.append_ne_nil_of_right_ne_nil before nofun)

theorem stopsAmid_cons {events : List ConnectionEvent} :
    conn.StopsAmid door (event :: events) ↔
      conn.Stops event ∨ (conn.step door event).StopsAmid door events := by
  constructor
  · rintro ⟨before, last, after, split, stops⟩
    cases before with
    | nil =>
      obtain ⟨rfl, rfl⟩ := List.cons.inj split
      exact .inl stops
    | cons first before =>
      obtain ⟨rfl, rfl⟩ := List.cons.inj split
      exact .inr ⟨before, last, after, rfl, stops⟩
  · rintro (now | ⟨before, last, after, rfl, stops⟩)
    · exact ⟨[], event, events, rfl, now⟩
    · exact ⟨event :: before, last, after, rfl, stops⟩

/-- Whatever has arrived was read, in order, or still waits, and what was read makes up the
chronicle. -/
theorem chronicle_run (events : List ConnectionEvent)
    (chronicle : Chronicle door stopped heard conn) :
    ∃ read, conn.incoming ++ arrivals events = read ++ (conn.run door events).incoming ∧
      Chronicle door (stopped ∨ conn.StopsAmid door events) (heard ++ read.filter (·.noticed))
        (conn.run door events) := by
  -- What the first event reads stands in front of what the other events read.
  induction events generalizing conn stopped heard with
  | nil =>
    refine ⟨[], List.append_nil _, ?_⟩
    rw [List.filter_nil, List.append_nil]
    exact chronicle.congr rfl rfl rfl (fun gone => gone) (or_iff_left not_stopsAmid_nil)
  | cons event events ih =>
    obtain ⟨read, split, rest⟩ := ih (chronicle_step event chronicle)
    refine ⟨conn.took event ++ read, ?_, ?_⟩
    · calc conn.incoming ++ arrivals (event :: events)
        _ = (conn.incoming ++ arrivals [event]) ++ arrivals events := by
          rw [List.append_assoc, arrivals, arrivals, arrivals, ← List.filterMap_append]
          rfl
        _ = conn.took event ++ ((conn.step door event).incoming ++ arrivals events) := by
          rw [incoming_step door, List.append_assoc]
        _ = conn.took event ++ read ++ (conn.run door (event :: events)).incoming := by
          rw [split, List.append_assoc]
          rfl
    · rw [List.filter_append, ← List.append_assoc]
      refine rest.congr rfl rfl rfl (fun gone => gone) ?_
      rw [stopsAmid_cons, or_assoc]

end

end Connection

end GameRealm
