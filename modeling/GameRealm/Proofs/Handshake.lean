import GameRealm.Proofs.Chronicle
import GameRealm.Proofs.LoginQueue

/-!
# What a connection does with what it reads

A connection asks for a session only for a peer with a token that is accepted, feeds it what
the peer sends, and leaves no bridge open behind it.

1. `Connection.remembers_run`: a bridge remembers the opcodes that its connection recorded;
2. the lemmas about `Connection.Chronicle` tell from it when there was a request, when a
   rejection, and whether the bridge is closed;
3. `handshake_contract` sums this up for every run;
4. `Registry.answer_heard` joins a connection that asks to the realm that answers it.
-/

namespace GameRealm

def ConnectionDeed.feeds : ConnectionDeed → Bool
  | record _ | enqueue _ => true
  | _ => false

namespace Connection

section
variable {door : Doorway} {stopped : Prop} {heard : List Arrival}
  {conn conn' : Connection} {event : ConnectionEvent}

/-! ## The history of opcodes -/

def recorded (deeds : List ConnectionDeed) : List Opcode :=
  deeds.filterMap fun
    | .record opcode => some opcode
    | _ => none

/-- The bridge remembers what was recorded. -/
def Remembers (door : Doorway) (conn : Connection) : Prop :=
  ∀ bridge, conn.bridge = some bridge → bridge.history =
    (recorded conn.deeds).foldl OpcodeHistory.record { capacity := door.historyCapacity }

theorem history_close (bridge : Bridge) : bridge.close.history = bridge.history := by
  rw [Bridge.close_eq]

theorem history_step {step : BridgeStep} (other : ∀ opcode, step ≠ .record opcode)
    (bridge : Bridge) : (bridge.step step).history = bridge.history := by
  cases step with
  | send message =>
    simp only [Bridge.step, Bridge.send]
    split <;> rfl
  | close => exact history_close bridge
  | finalize => exact history_close { bridge with finalized := true }
  | record opcode => exact absurd rfl (other opcode)
  | write arrives =>
    simp only [Bridge.step, Bridge.write]
    split
    · split <;> rfl
    · rfl
    · rfl
    · exact history_close bridge
    · rfl

theorem Remembers.of_map (kept : conn.Remembers door) {change : Bridge → Bridge}
    (bridge : conn'.bridge = conn.bridge.map change)
    (same : ∀ bridge, (change bridge).history = bridge.history)
    (deeds : recorded conn'.deeds = recorded conn.deeds) : conn'.Remembers door := by
  intro after has
  obtain ⟨before, had, rfl⟩ := Option.map_eq_some_iff.mp (bridge.symm.trans has)
  rw [same, deeds]
  exact kept before had

theorem Remembers.congr (kept : conn.Remembers door) (bridge : conn'.bridge = conn.bridge)
    (deeds : recorded conn'.deeds = recorded conn.deeds) : conn'.Remembers door :=
  kept.of_map (bridge.trans Option.map_id_apply.symm) (fun _ => rfl) deeds

theorem Remembers.windDown (kept : conn.Remembers door) (outcome : Except RealmError Unit) :
    (conn.windDown outcome).Remembers door :=
  kept.of_map rfl history_close rfl

theorem recorded_concat (deeds : List ConnectionDeed) (deed : ConnectionDeed) :
    recorded (deeds ++ [deed]) = recorded deeds ++ recorded [deed] :=
  List.filterMap_append

theorem Remembers.feed (kept : conn.Remembers door) (data : Bytes) :
    (conn.feed data).Remembers door := by
  unfold Connection.feed
  cases Envelope.decode? data with
  | none => exact kept
  | some env =>
    -- The opcode comes last in the record and in the history. Handing on and closing change
    -- neither.
    have noted : (({ conn with bridge := conn.bridge.map (Bridge.record env.opcode) } :
        Connection).perform (.record env.opcode)).Remembers door := by
      intro after has
      obtain ⟨before, had, rfl⟩ := Option.map_eq_some_iff.mp has
      change before.history.record env.opcode = (recorded (conn.deeds ++ [_])).foldl _ _
      rw [recorded_concat, List.foldl_append, kept before had]
      rfl
    simp only
    split
    · refine noted.congr rfl ?_
      change recorded (_ ++ [_]) = _
      rw [recorded_concat]
      exact List.append_nil _
    · exact noted.windDown _

theorem Remembers.greet (kept : conn.Remembers door) (deeds : conn.deeds = []) (data : Bytes) :
    (conn.greet door data).Remembers door := by
  unfold Connection.greet
  split
  · exact kept
  · refine kept.congr rfl ?_
    change recorded (conn.deeds ++ [_] ++ [_]) = _
    rw [deeds]
    rfl
  · rintro bridge ⟨⟩
    change _ = (recorded (conn.deeds ++ [_])).foldl _ _
    rw [deeds]
    rfl

theorem Remembers.take (kept : conn.Remembers door)
    (deeds : conn.phase = .greeting → conn.deeds = []) (arrival : Arrival) :
    (conn.take door arrival).Remembers door := by
  unfold Connection.take
  cases phase : conn.phase with
  | greeting =>
    cases arrival with
    | frame frame =>
      simp only
      cases frame.data? with
      | none => exact kept
      | some data => exact kept.greet (deeds phase) data
    | left => exact kept
    | failed reason => exact kept
  | reading =>
    cases arrival with
    | frame frame =>
      simp only
      cases frame.data? with
      | none => exact kept
      | some data => exact kept.feed data
    | left => exact kept.windDown _
    | failed reason => exact kept.windDown _
  | _ => exact kept

/-- The bridge remembers what was recorded, if none of its users records anything. -/
theorem Remembers.step (kept : conn.Remembers door)
    (chronicle : Chronicle door stopped heard conn)
    (own : ∀ opcode, event ≠ .bridge (.record opcode)) :
    (conn.step door event).Remembers door := by
  cases event with
  | reads =>
    change (conn.read door).Remembers door
    rcases read_cases door conn with ⟨-, -, same⟩ | ⟨arrival, rest, -, -, -, read⟩
    · rw [same]
      exact kept
    · have waits : ({ conn with incoming := rest } : Connection).Remembers door := kept
      rw [read]
      exact waits.take (fun phase => (chronicle.of_greeting phase).2.1) arrival
  | bridge step =>
    exact kept.of_map rfl (history_step fun opcode same => own opcode (congrArg _ same)) rfl
  | timesOut =>
    simp only [Connection.step]
    split <;> exact kept
  | answered answer =>
    simp only [Connection.step, hear]
    split <;> first | exact kept | exact kept.windDown _
  | noticesClose =>
    simp only [Connection.step]
    split
    · split
      · exact kept.windDown _
      · exact kept
    · exact kept
  | noticesStop =>
    simp only [Connection.step]
    split
    · split <;> exact kept
    · exact kept
  | _ => exact kept

theorem remembers_run {events : List ConnectionEvent} (kept : conn.Remembers door)
    (chronicle : Chronicle door stopped heard conn)
    (own : ∀ opcode, .bridge (.record opcode) ∉ events) :
    (conn.run door events).Remembers door := by
  induction events generalizing conn stopped heard with
  | nil => exact kept
  | cons event events ih =>
    refine ih (kept.step chronicle fun opcode same => ?_) (chronicle_step event chronicle)
      fun opcode mem => own opcode (.tail _ mem)
    exact own opcode (same ▸ .head _)

/-! ## What a chronicle tells -/

theorem not_mem_handed {envs : List Envelope} {deed : ConnectionDeed} (other : deed.feeds = false) :
    deed ∉ handed envs := by
  intro mem
  obtain ⟨env, -, mem⟩ := List.mem_flatMap.mp mem
  rcases List.mem_cons.mp mem with rfl | mem
  · cases other
  · cases List.mem_singleton.mp mem
    cases other

/-- Since its request a connection has done nothing but to record and to hand on. -/
theorem Progress.mem_deeds {request deed : ConnectionDeed} {bridge : Bridge}
    {later : List Arrival} (progress : conn.Progress stopped request bridge later)
    (other : deed.feeds = false) : deed ∈ conn.deeds ↔ deed = request := by
  have none : ∀ envs, deed ∉ handed envs := fun _ => not_mem_handed other
  cases progress with
  | asking _ _ deeds => rw [deeds, List.mem_singleton]
  | reading _ _ deeds => rw [deeds, List.mem_cons, or_iff_left (none _)]
  | finished _ _ _ deeds => rw [deeds, List.mem_cons, or_iff_left (none _)]
  | @forgotten _ last _ _ _ _ deeds =>
    have late : deed ≠ .record last.opcode := by
      rintro rfl
      cases other
    rw [deeds, List.mem_cons, List.mem_append, List.mem_singleton, or_iff_right (none _),
      or_iff_left late]

theorem Chronicle.ask_mem_iff (chronicle : Chronicle door stopped heard conn)
    {account : Account} {auth : Envelope} :
    .ask account auth ∈ conn.deeds ↔
      ∃ frame later, heard = .frame frame :: later ∧ door.Admits frame account auth := by
  simp only [Doorway.admits_iff]
  cases chronicle with
  | waiting _ silent deeds => simp [silent, deeds]
  | dismissed _ invalid deeds =>
    simp only [deeds, List.not_mem_nil, false_iff, not_exists, not_and]
    intro frame later first admitted
    obtain ⟨cause, turned⟩ := invalid frame later first
    cases turned.symm.trans admitted
  -- A frame has one verdict only, so a refused one was not admitted.
  | refused _ first greeted deeds =>
    simp only [deeds, List.mem_cons, reduceCtorEq, List.not_mem_nil, or_self, false_iff,
      not_exists, not_and]
    rintro frame later first' admitted
    cases first.symm.trans first'
    cases greeted.symm.trans admitted
  | asked first greeted has progress =>
    rw [progress.mem_deeds rfl]
    constructor
    · rintro ⟨⟩
      exact ⟨_, _, first, greeted⟩
    · rintro ⟨frame, later, first', admitted⟩
      cases first.symm.trans first'
      cases greeted.symm.trans admitted
      rfl

theorem Chronicle.answer_mem (chronicle : Chronicle door stopped heard conn) {message : Message}
    (mem : .answer message ∈ conn.deeds) :
    ∃ frame later cause, heard = .frame frame :: later ∧ door.Refuses frame cause := by
  cases chronicle with
  | waiting _ _ deeds => simp [deeds] at mem
  | dismissed _ _ deeds => simp [deeds] at mem
  | refused _ first greeted => exact ⟨_, [], _, first, Doorway.refuses_iff.mpr greeted⟩
  | asked _ _ _ progress => cases (progress.mem_deeds rfl).mp mem

theorem Chronicle.of_refuses (chronicle : Chronicle door stopped heard conn) {frame : Frame}
    {later : List Arrival} {cause : SessionError} (first : heard = .frame frame :: later)
    (refuses : door.Refuses frame cause) :
    later = [] ∧ conn.deeds = [.answer Greeting.rejection, .hangUp] ∧
      conn.phase = .ended (.error (.session cause)) ∧ conn.bridge = none := by
  have refused := Doorway.refuses_iff.mp refuses
  cases chronicle with
  | waiting _ silent => cases silent.symm.trans first
  | dismissed _ invalid =>
    obtain ⟨cause, turned⟩ := invalid frame later first
    cases turned.symm.trans refused
  | refused phase first' greeted deeds bridge =>
    cases first'.symm.trans first
    cases greeted.symm.trans refused
    exact ⟨rfl, deeds, phase, bridge⟩
  | asked first' greeted =>
    cases first'.symm.trans first
    cases greeted.symm.trans refused

theorem Chronicle.of_admits (chronicle : Chronicle door stopped heard conn) {frame : Frame}
    {later : List Arrival} {account : Account} {auth : Envelope}
    (first : heard = .frame frame :: later) (admits : door.Admits frame account auth) :
    (conn.deeds = .ask account auth :: handed (envelopes later) ∨
      ∃ fed last, envelopes later = fed ++ [last] ∧
        conn.deeds = .ask account auth :: (handed fed ++ [.record last.opcode]) ∧
        conn.sessionAlive = false ∧ conn.phase.finished) ∧
    (∀ arrival ∈ later.dropLast, arrival.parts = false) ∧ (conn.phase.finished ↔ stopped) := by
  have admitted := Doorway.admits_iff.mp admits
  -- The first frame is admitted, which rules out all phases but those after the request.
  cases chronicle with
  | waiting _ silent => cases silent.symm.trans first
  | dismissed _ invalid =>
    obtain ⟨cause, turned⟩ := invalid frame later first
    cases turned.symm.trans admitted
  | refused _ first' greeted =>
    cases first'.symm.trans first
    cases greeted.symm.trans admitted
  | asked first' greeted _ progress =>
    cases first'.symm.trans first
    cases greeted.symm.trans admitted
    cases progress with
    | asking phase silent deeds going =>
      subst silent
      exact ⟨.inl deeds, nofun, by simp [phase, ConnectionPhase.finished, going]⟩
    | reading phase stays deeds going =>
      exact ⟨.inl deeds, fun arrival mem => stays arrival (List.dropLast_subset _ mem),
        by simp [phase, ConnectionPhase.finished, going]⟩
    | finished phase _ stays deeds stops => exact ⟨.inl deeds, stays, iff_of_true phase stops⟩
    | forgotten phase _ stays envs deeds gone stops =>
      exact ⟨.inr ⟨_, _, envs, deeds, gone, phase⟩,
        fun arrival mem => stays arrival (List.dropLast_subset _ mem), iff_of_true phase stops⟩

theorem Chronicle.isSome_bridge_iff (chronicle : Chronicle door stopped heard conn) :
    conn.bridge.isSome ↔ ∃ account auth, .ask account auth ∈ conn.deeds := by
  cases chronicle with
  | waiting _ _ deeds bridge => simp [deeds, bridge]
  | dismissed _ _ deeds bridge => simp [deeds, bridge]
  | refused _ _ _ deeds bridge => simp [deeds, bridge]
  | @asked _ account auth _ _ _ _ has progress =>
    refine iff_of_true (by rw [has]; rfl) ⟨account, auth, ?_⟩
    exact (progress.mem_deeds rfl).mpr rfl

theorem Chronicle.closed (chronicle : Chronicle door stopped heard conn) {bridge : Bridge}
    (has : conn.bridge = some bridge) (finished : conn.phase.finished = true) :
    bridge.closed = true := by
  cases chronicle with
  | waiting _ _ _ none => cases none.symm.trans has
  | dismissed _ _ _ none => cases none.symm.trans has
  | refused _ _ _ _ none => cases none.symm.trans has
  | asked _ _ has' progress =>
    cases has'.symm.trans has
    cases progress with
    | asking phase | reading phase =>
      rw [phase] at finished
      cases finished
    | finished _ closed => exact closed
    | forgotten _ closed => exact closed

end

/-! ## The main result -/

/-- Take any connection, whatever arrives, however its session and its bridge fare and whenever
it looks at them. It reads what arrives in order, and of that it takes notice of all but
pings. Then:

* it asks for a session exactly if the first thing is a frame with an accepted token; whatever
  it reads later it records and hands on, as long as that holds an envelope, but for one that
  comes when the session is gone; and it stops exactly at the events that `Stops` names;
* it rejects the peer exactly if the first thing is a frame with a refused token, tries once
  and hangs up, and that is all that it does;
* it has a bridge exactly if it has asked for a session, and the bridge is closed when the
  connection reads no more;
* unless somebody else records something, the bridge remembers what the connection recorded. -/
theorem handshake_contract (door : Doorway) (id : ConnectionId) (peer : String)
    (events : List ConnectionEvent) :
    let start : Connection := { id, peer }
    let conn := start.run door events
    ∃ read, arrivals events = read ++ conn.incoming ∧
      let heard := read.filter (·.noticed)
      (∀ account auth, .ask account auth ∈ conn.deeds ↔
        ∃ frame later, heard = .frame frame :: later ∧ door.Admits frame account auth) ∧
      (∀ frame later account auth, heard = .frame frame :: later →
        door.Admits frame account auth →
        (conn.deeds = .ask account auth :: handed (envelopes later) ∨
          ∃ fed last, envelopes later = fed ++ [last] ∧
            conn.deeds = .ask account auth :: (handed fed ++ [.record last.opcode]) ∧
            conn.sessionAlive = false ∧ conn.phase.finished) ∧
        (∀ arrival ∈ later.dropLast, arrival.parts = false) ∧
        (conn.phase.finished ↔ start.StopsAmid door events)) ∧
      (∀ frame later cause, heard = .frame frame :: later → door.Refuses frame cause →
        later = [] ∧ conn.deeds = [.answer Greeting.rejection, .hangUp] ∧
          conn.phase = .ended (.error (.session cause)) ∧ conn.bridge = none) ∧
      (∀ message, .answer message ∈ conn.deeds →
        ∃ frame later cause, heard = .frame frame :: later ∧ door.Refuses frame cause) ∧
      (conn.bridge.isSome ↔ ∃ account auth, .ask account auth ∈ conn.deeds) ∧
      (∀ bridge, conn.bridge = some bridge → conn.phase.finished → bridge.closed) ∧
      ((∀ opcode, .bridge (.record opcode) ∉ events) → conn.Remembers door) := by
  intro start conn
  have fresh : Chronicle door False [] start := .waiting rfl rfl rfl rfl not_false
  obtain ⟨read, split, told⟩ := chronicle_run events fresh
  rw [List.nil_append, false_or] at told
  refine ⟨read, split, ?_⟩
  intro heard
  exact ⟨fun account auth => told.ask_mem_iff,
    fun frame later account auth first admits => told.of_admits first admits,
    fun frame later cause first refuses => told.of_refuses first refuses,
    fun message mem => told.answer_mem mem, told.isSome_bridge_iff,
    fun bridge has finished => told.closed has finished,
    remembers_run (fun _ none => nomatch none) fresh⟩

/-- A realm that knows one token. -/
def porch : Doorway :=
  { authenticate := fun token =>
      if token = "key" then .ok ⟨⟨1⟩, .player, 2, .enUs, ⟨[]⟩⟩
      else .error (.authFailed "unknown token")
    historyCapacity := 4 }

/-- The envelope with that token. -/
def hello : Envelope := .withPayload .authSession [107, 101, 121, 0, 5]

def wish : Envelope := .withPayload ⟨7⟩ [1]

/-- A peer with the right token pings, sends something that is no envelope, and an envelope,
and leaves. -/
def visit : List ConnectionEvent :=
  [.arrives (.frame .control), .arrives (.frame (.binary hello.encode)), .reads, .reads,
    .answered .admitted, .arrives (.frame (.binary [0])),
    .arrives (.frame (.binary wish.encode)), .reads, .reads, .arrives .left, .reads]

/-- The session gets the one envelope, and the bridge is closed when the peer has left. -/
theorem handshake_contract_visit :
    let start : Connection := { id := ⟨3⟩, peer := "here" }
    let conn := start.run porch visit
    conn.deeds = [.ask ⟨⟨1⟩, .player, 2, .enUs, ⟨[]⟩⟩ { hello with rpos := 4 },
        .record ⟨7⟩, .enqueue wish] ∧
      start.StopsAmid porch visit ∧
      ∀ bridge, conn.bridge = some bridge → bridge.closed ∧ bridge.history.recent = [⟨7⟩] := by
  have deeds : (({ id := ⟨3⟩, peer := "here" } : Connection).run porch visit).deeds =
      [.ask ⟨⟨1⟩, .player, 2, .enUs, ⟨[]⟩⟩ { hello with rpos := 4 }, .record ⟨7⟩,
        .enqueue wish] := rfl
  have finished :
      (({ id := ⟨3⟩, peer := "here" } : Connection).run porch visit).phase.finished = true := rfl
  obtain ⟨read, -, asks, feeds, -, -, -, closed, memory⟩ :=
    handshake_contract porch ⟨3⟩ "here" visit
  obtain ⟨frame, later, first, admits⟩ :=
    (asks ⟨⟨1⟩, .player, 2, .enUs, ⟨[]⟩⟩ { hello with rpos := 4 }).mp (by rw [deeds]; exact .head _)
  obtain ⟨-, -, stops⟩ := feeds frame later _ _ first admits
  refine ⟨deeds, stops.mp finished, fun bridge has => ⟨closed bridge has finished, ?_⟩⟩
  have own : ∀ opcode, ConnectionEvent.bridge (.record opcode) ∉ visit := by
    simp [visit]
  rw [memory own bridge has, deeds]
  rfl

end Connection

/-! ## The realm that is asked -/

/-- A connection that asks reads on if its login is taken, and the realm is then what the login
made of it. It is refused only for a session with a socket that waits already. Its bridge is
closed in that case, and the realm does nothing but to close its socket. -/
theorem Registry.answer_heard (sv : Services W) (registry : Registry W) (account : Account)
    (socket : SocketId) (auth : Envelope) (now : Instant) (door : Doorway) {conn : Connection}
    (asks : conn.phase = .asking) :
    let login := registry.login sv account socket auth now
    let answer := registry.answer sv account socket auth now
    let conn' := conn.step door (.answered answer.1)
    match login.1 with
    | .ok _ => answer.2 = login.2 ∧ conn' = { conn with phase := .reading }
    | .error _ =>
      (∃ seat, registry.roster.get? account.id = some seat ∧ seat.session.pending.isSome) ∧
      answer.2 = { registry with
        roster := { registry.roster with
          outside := registry.roster.outside.emit sv.collaborators (.close socket) } } ∧
      conn' = conn.windDown (.ok ()) ∧ ∀ bridge, conn'.bridge = some bridge → bridge.closed := by
  intro login answer conn'
  rcases tried : registry.login sv account socket auth now with ⟨result, after⟩
  cases result with
  | ok taken =>
    simp only [login, answer, conn', Registry.answer, tried]
    exact ⟨trivial, by simp only [Connection.step, Connection.hear, asks]⟩
  | error cause =>
    obtain ⟨-, same, seat, found, waits⟩ := eq_of_login_error tried
    simp only [login, answer, conn', Registry.answer, tried, same]
    have heard : conn.step door (.answered .refused) = conn.windDown (.ok ()) := by
      simp only [Connection.step, Connection.hear, asks]
    refine ⟨⟨seat, found, ?_⟩, trivial, heard, ?_⟩
    · by_contra free
      rw [requestNewSocket_of_free socket (d := seat.live registry.roster.outside) free] at waits
      cases congrArg Prod.fst waits
    · rw [heard]
      intro bridge has
      obtain ⟨before, -, rfl⟩ := Option.map_eq_some_iff.mp has
      exact Connection.closed_close before

end GameRealm
