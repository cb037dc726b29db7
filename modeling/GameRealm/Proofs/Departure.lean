import GameRealm.Proofs.Attachment
import GameRealm.Proofs.Conduct
import GameRealm.Proofs.Handover

/-!
# How characters leave their session

A character is attached to a session, and one day the session lets go of it. Whatever
the way there, it is a logout:

1. `LiveSession.Leaves` says of two moments that the session had a character at the first and
   has logged it out by the second, and `leaves_or_keeps` that nothing else can have
   become of a character in between;
2. `LiveSession.Welcomes` is all that is asked of those who attach characters: not while there
   is another one, and not after the shutdown;
3. then the characters that were attached are those that were released and the one that
   is attached (`balanced_replay`), and once the session is dropped all of them have
   been released (`players_leave_by_logout`).
-/

namespace GameRealm

def Effect.released? : Effect → Option Character
  | release who => some who
  | _ => none

def Outside.releases (outside : Outside W) : List Character := outside.record Effect.released?

section
variable {co : Collaborators W} {outside : Outside W} {effect : Effect}

theorem releases_emit (silent : effect.released? = none) :
    (outside.emit co effect).releases = outside.releases := by
  rw [Outside.releases, Outside.record_emit, silent, Option.toList_none, List.append_nil]
  rfl

end

namespace LiveSession

/-! ## One logout -/

section
variable {sv : Services W} {d e : LiveSession W} {c : Character}

theorem releases_logoutPlayer (attached : d.session.player = some c) :
    (d.logoutPlayer sv).outside.releases = d.outside.releases ++ [c] := by
  obtain ⟨parting, teardown, effects, parts, clears, -⟩ := effects_logoutPlayer sv attached
  have silent : parting.filterMap Effect.released? = [] := by
    refine List.filterMap_eq_nil_iff.mpr fun effect mem => ?_
    have part := parts effect mem
    cases effect <;> first | rfl | exact part.elim
  have quiet : teardown.filterMap Effect.released? = [] := by
    refine List.filterMap_eq_nil_iff.mpr fun effect mem => ?_
    rcases clears effect mem with clear | rfl
    · cases effect <;> first | rfl | exact clear.elim
    · rfl
  rw [Outside.releases, Outside.record, Outside.trace, effects]
  simp only [List.filterMap_reverse, List.filterMap_append, List.filterMap_cons, silent, quiet,
    Effect.released?]
  simp [Outside.releases, Outside.record, Outside.trace]

theorem releases_discard? (socket : Option SocketId) (d : LiveSession W) :
    (d.discard? sv socket).outside.releases = d.outside.releases := by
  cases socket with
  | none => rfl
  | some socket =>
    change (d.discard sv socket).outside.releases = d.outside.releases
    unfold discard
    split
    · exact releases_emit rfl
    · exact (releases_emit rfl).trans (releases_emit rfl)

/-! ## What becomes of a character -/

/-- The session has the character that it had, and has released none. -/
structure Keeps (before after : LiveSession W) : Prop where
  player : after.session.player = before.session.player
  releases : after.outside.releases = before.outside.releases

/-- The session has logged its character out: it kept it up to the logout, and what
followed was nobody's release. -/
structure Leaves (sv : Services W) (before : LiveSession W) (c : Character)
    (after : LiveSession W) : Prop where
  attached : before.session.player = some c
  logout : ∃ d, Moves sv before d ∧ before.Keeps d ∧
    Moves sv (d.logoutPlayer sv) after ∧ (d.logoutPlayer sv).Keeps after

theorem Keeps.refl (d : LiveSession W) : d.Keeps d := ⟨rfl, rfl⟩

theorem Keeps.trans {d e f : LiveSession W} (h : d.Keeps e) (h' : e.Keeps f) : d.Keeps f :=
  ⟨h'.player.trans h.player, h'.releases.trans h.releases⟩

theorem keeps_emit {effect : Effect}
    (permitted : d.session.Permits sv.collaborators d.outside.world effect) :
    d.Keeps (d.emit sv effect) := by
  refine ⟨rfl, releases_emit ?_⟩
  cases effect <;> first | rfl | exact permitted.elim

theorem player_of_holding {s t : Session} (h : t.holding = s.holding) : t.player = s.player :=
  congrArg Prod.fst h

theorem keeps_dropSocket (d : LiveSession W) : d.Keeps (d.dropSocket sv) :=
  ⟨by simp [dropSocket], releases_discard? _ _⟩

theorem keeps_dropPending (d : LiveSession W) : d.Keeps (d.dropPending sv) :=
  ⟨by simp [dropPending], releases_discard? _ _⟩

theorem Leaves.gone (h : d.Leaves sv c e) : e.session.player = none := by
  obtain ⟨-, middle, -, -, -, after⟩ := h
  rw [after.player, (frame_logoutPlayer _).1]
  rfl

theorem Leaves.releases (h : d.Leaves sv c e) :
    e.outside.releases = d.outside.releases ++ [c] := by
  obtain ⟨attached, middle, -, before, -, after⟩ := h
  rw [after.releases, releases_logoutPlayer (before.player.trans attached), before.releases]

theorem Leaves.then {f : LiveSession W} (h : d.Leaves sv c e) (moves : Moves sv e f)
    (keeps : e.Keeps f) :
    d.Leaves sv c f := by
  obtain ⟨attached, middle, early, before, late, after⟩ := h
  exact ⟨attached, middle, early, before, late.trans moves, after.trans keeps⟩

/-- What follows moves that kept the character, or logged it out, and keeps it itself. -/
theorem leaves_or_keeps_then {f : LiveSession W} (h : d.Keeps e ∨ ∃ c, d.Leaves sv c e)
    (moves : Moves sv e f) (keeps : e.Keeps f) : d.Keeps f ∨ ∃ c, d.Leaves sv c f :=
  h.imp (·.trans keeps) fun ⟨c, left⟩ => ⟨c, left.then moves keeps⟩

/-- Moves keep the character of a session or log it out. -/
theorem leaves_or_keeps (moves : Moves sv d e) : d.Keeps e ∨ ∃ c, d.Leaves sv c e := by
  induction moves with
  | refl => exact .inl (.refl d)
  | emit _ permitted ih =>
    exact leaves_or_keeps_then ih (.emit .refl permitted) (keeps_emit permitted)
  | modify _ kept ih =>
    exact leaves_or_keeps_then ih (.modify .refl kept) ⟨player_of_holding kept, rfl⟩
  | inbox _ inbox ih => exact leaves_or_keeps_then ih (.inbox .refl inbox) ⟨rfl, rfl⟩
  | dropSocket _ ih => exact leaves_or_keeps_then ih (.dropSocket .refl) (keeps_dropSocket _)
  | dropPending _ ih => exact leaves_or_keeps_then ih (.dropPending .refl) (keeps_dropPending _)
  | takeOver _ free waits ih =>
    exact leaves_or_keeps_then ih (.takeOver .refl free waits) ⟨rfl, rfl⟩
  | @logout e moves ih =>
    cases attached : e.session.player with
    | none =>
      refine leaves_or_keeps_then ih (.logout .refl) ⟨?_, ?_⟩
      · rw [(frame_logoutPlayer _).1, attached]
        rfl
      · rw [outside_logoutPlayer_of_none attached]
    | some c =>
      rcases ih with kept | ⟨c', left⟩
      · exact .inr ⟨c, kept.player ▸ attached, e, moves, kept, .refl, .refl _⟩
      · exact absurd (left.gone.symm.trans attached) (Option.some_ne_none c).symm

/-- Whatever attaches no character keeps the one there is or logs it out. -/
theorem leaves_or_keeps_apply (sv : Services W) (event : Event W) (d : LiveSession W)
    (attaches : event.attached? = none) :
    d.Keeps (event.apply sv d) ∨ ∃ c, d.Leaves sv c (event.apply sv d) := by
  cases own : event.bringsIn with
  | false => exact leaves_or_keeps (moves_apply d own)
  | true =>
    refine .inl ?_
    cases event with
    | perform operation =>
      cases operation with
      | attach => cases attaches
      | requestNewSocket socket =>
        simp only [Event.apply, Operation.run, requestNewSocket]
        split
        · exact .refl d
        · exact ⟨rfl, releases_emit rfl⟩
      | outside change => exact ⟨rfl, rfl⟩
      | _ => cases own
    | _ => cases own

/-! ## Everyone who was attached -/

/-- The characters attached so far are those released and the one that is attached; and a
session that has been shut down has none. -/
structure Balanced (attached : List Character) (d : LiveSession W) : Prop where
  books : attached = d.outside.releases ++ d.session.player.toList
  ended : d.session.hasShutDown = true → d.session.player = none

theorem Balanced.keep {attached : List Character} (balanced : d.Balanced attached)
    (keeps : d.Keeps e) (ended : e.session.hasShutDown = true → d.session.hasShutDown = true ∨
      e.session.player = none) : e.Balanced attached := by
  refine ⟨?_, fun shut => ?_⟩
  · rw [keeps.releases, keeps.player]
    exact balanced.books
  · rcases ended shut with before | gone
    · rw [keeps.player]
      exact balanced.ended before
    · exact gone

theorem Balanced.leave {attached : List Character} (balanced : d.Balanced attached)
    (leaves : d.Leaves sv c e) : e.Balanced attached := by
  refine ⟨?_, fun _ => leaves.gone⟩
  rw [leaves.releases, leaves.gone, balanced.books, leaves.attached]
  simp

/-- After the shutdown a session that was in order has no character. -/
theorem Balanced.shutdown (sv : Services W) {attached : List Character}
    (balanced : d.Balanced attached) :
    (d.shutdown sv).session.player = none := by
  rw [(frame_shutdown _).1]
  unfold Session.afterShutdown
  split
  · next shut => exact balanced.ended shut
  · cases attached : d.session.player with
    | none => simp [attached]
    | some c => rfl

theorem Balanced.apply {attached : List Character} {event : Event W}
    (balanced : d.Balanced attached)
    (welcome : event.attached?.isSome →
      d.session.player = none ∧ d.session.hasShutDown = false) :
    (event.apply sv d).Balanced (attached ++ event.attached?.toList) := by
  cases attaches : event.attached? with
  | none =>
    rw [Option.toList_none, List.append_nil]
    -- Nobody comes, so the books stay or the one who is there moves to the released.
    rcases leaves_or_keeps_apply sv event d attaches with keeps | ⟨c, leaves⟩
    · refine balanced.keep keeps fun shut => ?_
      by_cases shutting : event = .perform .shutdown
      · subst shutting
        exact .inr (balanced.shutdown sv)
      · exact .inl (hasShutDown_apply event d shutting ▸ shut)
    · exact balanced.leave leaves
  | some c =>
    obtain ⟨free, still⟩ := welcome (by rw [attaches]; rfl)
    obtain rfl : event = .perform (.attach c) := by
      cases event with
      | perform operation => cases operation <;> cases attaches; rfl
      | _ => cases attaches
    -- Nobody was there, so the attachment replaces nobody.
    have joined : (d.attach sv c).outside = d.outside := by
      simp only [attach, free]
      rfl
    constructor
    · change _ = (d.attach sv c).outside.releases ++ (d.attach sv c).session.player.toList
      rw [joined, (frame_attach _ _).1, balanced.books, free, Option.toList_none, List.append_nil]
      rfl
    · intro shut
      rw [hasShutDown_apply _ d (by simp), still] at shut
      exact absurd shut Bool.false_ne_true

end

/-- Characters are attached only while there is none, and not after the shutdown. -/
def Welcomes (sv : Services W) : List (Event W) → LiveSession W → Prop
  | [], _ => True
  | event :: events, d =>
    (event.attached?.isSome → d.session.player = none ∧ d.session.hasShutDown = false) ∧
      Welcomes sv events (event.apply sv d)

instance decidableWelcomes (sv : Services W) :
    (events : List (Event W)) → (d : LiveSession W) → Decidable (Welcomes sv events d)
  | [], _ => inferInstanceAs (Decidable True)
  | event :: events, d =>
    have := decidableWelcomes sv events (event.apply sv d)
    inferInstanceAs (Decidable ((_ → _ ∧ _) ∧ _))

section
variable {sv : Services W} {d : LiveSession W}

theorem Welcomes.append {first second : List (Event W)} (h : Welcomes sv (first ++ second) d) :
    Welcomes sv first d := by
  induction first generalizing d with
  | nil => trivial
  | cons event events ih => exact ⟨h.1, ih h.2⟩

/-- The characters that were attached are those that were released and the one that is
attached. -/
theorem balanced_replay {attached : List Character} {events : List (Event W)}
    (balanced : d.Balanced attached) (welcome : Welcomes sv events d) :
    (d.replay sv events).Balanced (attached ++ attachments events) := by
  induction events generalizing d attached with
  | nil =>
    rw [attachments, List.filterMap_nil, List.append_nil]
    exact balanced
  | cons event events ih =>
    have rest := ih (balanced.apply welcome.1) welcome.2
    rw [List.append_assoc] at rest
    have whole : attachments (event :: events) =
        event.attached?.toList ++ attachments events := by
      rw [attachments, List.filterMap_cons, attachments]
      cases event.attached? <;> rfl
    rw [whole]
    exact rest

theorem balanced_create (sv : Services W) (account : Account) (socket : SocketId)
    (birth : Instant) (world : W) : (create sv account socket birth { world }).Balanced [] :=
  ⟨rfl, fun _ => rfl⟩

end

/-- Whatever happens to a session to which characters are attached one at a time and before
its shutdown, in any run and amid any producers: the characters that were attached so far
are those that were released and the one that is attached, and each event but an
attachment keeps that one, or logs it out. Its release comes after whatever the logout
does to it. When the session is dropped all have been released; a last one is logged out
by the shutdown. -/
theorem players_leave_by_logout (sv : Services W) (account : Account) (socket : SocketId)
    (birth : Instant) (world : W) (events : List (Event W))
    (welcome : Welcomes sv events (create sv account socket birth { world })) :
    let start := create sv account socket birth { world }
    (∀ past event later, events = past ++ event :: later →
      let d := start.replay sv past
      let after := event.apply sv d
      attachments past = d.outside.releases ++ d.session.player.toList ∧
      (event.attached? = none → d.Keeps after ∨ ∃ c, d.Leaves sv c after)) ∧
    (∀ (d : LiveSession W) (c : Character), d.session.player = some c →
      ∃ parting teardown, (d.logoutPlayer sv).outside.effects =
          parting ++ .release c :: (teardown ++ d.outside.effects) ∧
        (∀ effect ∈ parting, effect.Parts d.session.socket) ∧
        ∀ effect ∈ teardown, effect.Clears c ∨ effect = .character c .save) ∧
    let last := start.replay sv events
    (last.Keeps (last.shutdown sv) ∨ ∃ c, last.Leaves sv c (last.shutdown sv)) ∧
      (last.drop sv).outside = (last.shutdown sv).outside ∧
      (last.drop sv).outside.releases = attachments events := by
  intro start
  have books : ∀ past, Welcomes sv past start →
      (start.replay sv past).Balanced (attachments past) :=
    fun past => balanced_replay (balanced_create sv account socket birth world)
  refine ⟨?_, ?_, ?_⟩
  · rintro past event later rfl d after
    exact ⟨(books past welcome.append).books, leaves_or_keeps_apply sv event d⟩
  · intro d c attached
    obtain ⟨parting, teardown, effects, parts, clears, -⟩ :=
      effects_logoutPlayer sv attached
    exact ⟨parting, teardown, effects, parts, clears⟩
  · intro last
    have balanced : last.Balanced (attachments events) := books events welcome
    have gone := balanced.shutdown sv
    have same : (last.drop sv).outside = (last.shutdown sv).outside := by
      simp only [drop, gone]
    have moves : Moves sv last (last.shutdown sv) :=
      (behaves_shutdown last Conduct.logsOut_any).moves
    have ended := leaves_or_keeps moves
    refine ⟨ended, same, ?_⟩
    rw [same]
    -- The shutdown releases whoever is still there, and leaves nobody behind.
    rcases ended with keeps | ⟨c, leaves⟩
    · rw [balanced.books, ← keeps.player, gone, keeps.releases]
      simp
    · rw [leaves.releases, balanced.books, leaves.attached]
      rfl

/-- A character that is kicked at once, and another one that is there when the session is
dropped: both are released, one after the other. -/
theorem players_leave_by_logout_two :
    let sv := Rehearsal.coreServices {}
    let start := Rehearsal.opening sv
    let events := start.history sv [Rehearsal.just (.attach Rehearsal.lead),
      Rehearsal.just .setOnline, Rehearsal.just (.kickPlayer true false), .tick (.world 0),
      Rehearsal.just (.attach Rehearsal.understudy)]
    ((start.replay sv events).drop sv).outside.releases =
      [Rehearsal.lead, Rehearsal.understudy] := by
  intro sv start events
  have welcome : Welcomes sv events start := by decide
  exact (players_leave_by_logout sv _ _ _ _ events welcome).2.2.2.2

end LiveSession

end GameRealm
