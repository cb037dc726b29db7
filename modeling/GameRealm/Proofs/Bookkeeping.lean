import GameRealm.Proofs.Ledger

/-!
# What the books of a queue show

Whoever keeps the books needs to see of them what waits, what the open drains hold
and whose handler is due, and nothing else. `Ledger.Shows` is this view, and there is
one lemma for every kind of traffic that says when it can be booked and what the books
show then.
-/

namespace GameRealm

open Traffic

namespace Ledger

/-- What is held by each open drain, the innermost one first. -/
def stack (l : Ledger) : List (Nat × List Envelope) :=
  l.drains.map fun drain => (drain, l.heldBy drain)

/-- The books have been kept, all tickets are for envelopes of a kind, and this is what
waits, what the drains hold and whose handler is due. -/
structure Shows (kind : Envelope → Prop) (waiting : List Envelope)
    (stack : List (Nat × List Envelope)) (turn : Option Envelope) (l : Ledger) : Prop where
  kept : ∃ past, Kept past l
  kind : ∀ ticket ∈ l.tickets, kind ticket.env
  waiting : l.waiting = waiting
  stack : l.stack = stack
  turn : l.turn.map Prod.snd = turn

theorem shows_nil (kind : Envelope → Prop) : Shows kind [] [] none {} :=
  ⟨⟨[], kept_nil⟩, nofun, rfl, rfl, rfl⟩

def envs (fate : Fate) (tickets : List Ticket) : List Envelope :=
  (tickets.filter (·.fate = fate)).map (·.env)

section
variable {fate : Fate} {tickets : List Ticket}

@[simp] theorem envs_append (more : List Ticket) :
    envs fate (tickets ++ more) = envs fate tickets ++ envs fate more := by
  simp [envs]

@[simp] theorem envs_cons (ticket : Ticket) :
    envs fate (ticket :: tickets) =
      if ticket.fate = fate then ticket.env :: envs fate tickets else envs fate tickets := by
  unfold envs
  rw [List.filter_cons]
  by_cases same : ticket.fate = fate <;> simp [same]

@[simp] theorem envs_nil : envs fate [] = [] := rfl

theorem envs_eq_nil (none : ∀ ticket ∈ tickets, ticket.fate ≠ fate) : envs fate tickets = [] := by
  rw [envs, List.filter_eq_nil_iff.mpr (by simpa using none)]
  rfl

theorem envs_map {f : Ticket → Ticket} {fate' : Fate}
    (moves : ∀ ticket ∈ tickets, ((f ticket).fate = fate' ↔ ticket.fate = fate) ∧
      (f ticket).env = ticket.env) :
    envs fate' (tickets.map f) = envs fate tickets := by
  induction tickets with
  | nil => rfl
  | cons ticket rest ih =>
    obtain ⟨⟨fates, same⟩, others⟩ := List.forall_mem_cons.mp moves
    simp only [List.map_cons, envs_cons, fates, same, ih others]

theorem envs_purge (time : Nat) :
    envs .waiting (tickets.map (·.purge time)) =
      (envs .waiting tickets).filter fun env => !env.opcode.isMovement := by
  induction tickets with
  | nil => rfl
  | cons ticket rest ih =>
    rw [List.map_cons, envs_cons, envs_cons, ih]
    unfold Ticket.purge
    by_cases waits : ticket.fate = .waiting
    · cases movement : ticket.env.opcode.isMovement <;> simp [waits, movement]
    · simp [waits]

end

/-! ## Calls -/

section
variable (time : Nat) (made : List Call) (tickets : List Ticket)

theorem envs_waiting_calls :
    envs .waiting (made.foldl (Call.enter time) tickets) =
      made.foldl Call.enterBacklog (envs .waiting tickets) := by
  induction made generalizing tickets with
  | nil => rfl
  | cons call rest ih =>
    rw [List.foldl_cons, ih, List.foldl_cons]
    cases call with
    | arrive env => simp [Call.enter, Call.enterBacklog]
    | purge => rw [Call.enter, envs_purge, Call.enterBacklog]

theorem envs_held_calls (drain : Nat) :
    envs (.held drain) (made.foldl (Call.enter time) tickets) = envs (.held drain) tickets := by
  induction made generalizing tickets with
  | nil => rfl
  | cons call rest ih =>
    rw [List.foldl_cons, ih]
    cases call with
    | arrive env => simp [Call.enter]
    | purge =>
      refine envs_map fun ticket _ => ?_
      unfold Ticket.purge
      split
      · next waits => exact ⟨by simp [waits.1], rfl⟩
      · exact ⟨Iff.rfl, rfl⟩

theorem kind_calls {kind : Envelope → Prop} (known : ∀ ticket ∈ tickets, kind ticket.env)
    (arriving : ∀ env, Call.arrive env ∈ made → kind env) :
    ∀ ticket ∈ made.foldl (Call.enter time) tickets, kind ticket.env := by
  induction made generalizing tickets with
  | nil => exact known
  | cons call rest ih =>
    refine ih _ ?_ fun env member => arriving env (List.mem_cons_of_mem _ member)
    cases call with
    | arrive env =>
      exact List.forall_mem_append.mpr ⟨known, by simpa using arriving env List.mem_cons_self⟩
    | purge =>
      refine List.forall_mem_map.mpr fun ticket member => ?_
      rw [(ticket.movesTo_purge time).env]
      exact known ticket member

end

namespace Shows

variable {kind : Envelope → Prop} {waiting : List Envelope} {stack : List (Nat × List Envelope)}
  {turn : Option Envelope} {l : Ledger}

theorem calls (shown : Shows kind waiting stack turn l) {made : List Call}
    (arriving : ∀ env, Call.arrive env ∈ made → kind env) :
    ∃ m, Step (.calls made) l m ∧
      Shows kind (made.foldl Call.enterBacklog waiting) stack turn m := by
  obtain ⟨past, kept⟩ := shown.kept
  have step := Step.calls made l
  refine ⟨_, step, ⟨_, kept.step step⟩, kind_calls _ _ _ shown.kind arriving, ?waiting, ?stack,
    shown.turn⟩
  case waiting => rw [← shown.waiting]; exact envs_waiting_calls _ _ _
  case stack =>
    rw [← shown.stack]
    exact List.map_congr_left fun drain _ => by
      rw [heldBy, heldBy]
      exact congrArg (Prod.mk drain) (envs_held_calls _ _ _ drain)

theorem work (shown : Shows kind waiting stack none l) :
    ∃ m, Step .work l m ∧ Shows kind waiting stack none m := by
  obtain ⟨past, kept⟩ := shown.kept
  have step := Step.work l (Option.map_eq_none_iff.mp shown.turn)
  exact ⟨_, step, ⟨_, kept.step step⟩, shown.kind, shown.waiting, shown.stack, shown.turn⟩

/-- A drain can begin while no handler is due. It holds what waited. -/
theorem take (shown : Shows kind waiting stack none l) :
    ∃ m, Step .take l m ∧ Shows kind [] ((l.clock, waiting) :: stack) none m := by
  obtain ⟨past, kept⟩ := shown.kept
  have step := Step.take l (Option.map_eq_none_iff.mp shown.turn)
  have fresh : ∀ drain ∈ l.drains, drain ≠ l.clock := by
    intro drain member
    rw [kept.clock]
    exact Nat.ne_of_lt (lt_of_get (kept.books.opened drain member))
  refine ⟨_, step, ⟨_, kept.step step⟩, ?kind, ?waiting, ?stack, shown.turn⟩
  case kind =>
    refine List.forall_mem_map.mpr fun ticket member => ?_
    rw [(ticket.movesTo_take l.clock).env]
    exact shown.kind ticket member
  case waiting =>
    refine envs_eq_nil (List.forall_mem_map.mpr fun ticket _ => ?_)
    unfold Ticket.take
    split
    · exact nofun
    · assumption
  case stack =>
    -- Those that waited are now held by the new drain, and the others as before.
    have mine : envs (.held l.clock) (l.tickets.map (·.take l.clock)) = waiting := by
      rw [← shown.waiting]
      refine envs_map fun ticket member => ?_
      have other : ticket.fate ≠ .held l.clock :=
        fun held => fresh _ (kept.books.held ticket member _ held) rfl
      unfold Ticket.take
      split
      · next waits => exact ⟨by simp [waits], rfl⟩
      · next waits => exact ⟨by simp [waits, other], rfl⟩
    have others : ∀ drain ∈ l.drains,
        envs (.held drain) (l.tickets.map (·.take l.clock)) = l.heldBy drain := by
      intro drain member
      refine envs_map fun ticket _ => ?_
      unfold Ticket.take
      split
      · next waits => exact ⟨by simp [waits, (fresh drain member).symm], rfl⟩
      · exact ⟨Iff.rfl, rfl⟩
    rw [← shown.stack]
    exact List.cons_eq_cons.mpr ⟨congrArg (Prod.mk l.clock) mine,
      List.map_congr_left fun drain member => congrArg (Prod.mk drain) (others drain member)⟩

theorem innermost {drain : Nat} {held : List Envelope}
    (shown : Shows kind waiting ((drain, held) :: stack) turn l) :
    ∃ outer, l.drains = drain :: outer ∧ l.heldBy drain = held ∧
      stack = outer.map (fun other => (other, l.heldBy other)) ∧ drain ∉ outer := by
  obtain ⟨past, kept⟩ := shown.kept
  have stacked := shown.stack
  unfold Ledger.stack at stacked
  cases drains : l.drains with
  | nil => rw [drains] at stacked; contradiction
  | cons first outer =>
    rw [drains, List.map_cons, List.cons.injEq, Prod.mk.injEq] at stacked
    obtain ⟨⟨rfl, rfl⟩, rfl⟩ := stacked
    have nested := kept.books.nested
    rw [drains] at nested
    exact ⟨outer, rfl, rfl, rfl, fun again =>
      Nat.lt_irrefl _ ((List.pairwise_cons.mp nested).1 first again)⟩

theorem kind_of_held {drain : Nat} {held : List Envelope}
    (shown : Shows kind waiting ((drain, held) :: stack) turn l) : ∀ env ∈ held, kind env := by
  obtain ⟨_, _, rfl, _, _⟩ := shown.innermost
  refine List.forall_mem_map.mpr fun ticket member => ?_
  exact shown.kind ticket (List.mem_filter.mp member).1

/-- A drain comes to the first envelope that it holds. -/
theorem pop {drain : Nat} {env : Envelope} {rest : List Envelope}
    (shown : Shows kind waiting ((drain, env :: rest) :: stack) none l) (granted : Bool) :
    ∃ m, Step (.pop env granted) l m ∧
      Shows kind waiting ((drain, rest) :: stack) (if granted then some env else none) m := by
  obtain ⟨past, kept⟩ := shown.kept
  obtain ⟨outer, drains, held, stacked, fresh⟩ := shown.innermost
  obtain ⟨ticket, later, found, rfl, rest_eq⟩ := List.map_eq_cons_iff.mp held
  obtain ⟨before, after, split, first, mine, later_eq⟩ := List.filter_eq_cons_iff.mp found
  have mine : ticket.fate = .held drain := of_decide_eq_true mine
  have ticket_eq : ticket = ⟨ticket.env, ticket.arrived, .held drain⟩ := by rw [← mine]
  have first : ∀ ticket ∈ before, ticket.fate ≠ .held drain := fun ticket member =>
    of_decide_eq_false (Bool.eq_false_iff.mpr (first ticket member))
  have step := Step.pop granted (Option.map_eq_none_iff.mp shown.turn) drains
    (split.trans (by rw [← ticket_eq])) first
  -- No other fate sees the ticket, before or after.
  have unseen : ∀ fate, fate ≠ .held drain → fate ≠ .popped drain l.clock →
      envs fate (before ++ ⟨ticket.env, ticket.arrived, .popped drain l.clock⟩ :: after) =
        envs fate l.tickets := by
    intro fate notHeld notPopped
    rw [split]
    simp [mine, notHeld.symm, notPopped.symm]
  refine ⟨_, step, ⟨_, kept.step step⟩, ?kind, ?waiting, ?stack, ?turn⟩
  case kind =>
    have known := shown.kind
    rw [split] at known
    obtain ⟨early, late⟩ := List.forall_mem_append.mp known
    exact List.forall_mem_append.mpr
      ⟨early, List.forall_mem_cons.mpr (List.forall_mem_cons.mp late)⟩
  case waiting => rw [← shown.waiting]; exact unseen .waiting nofun nofun
  case stack =>
    have left : envs (.held drain)
        (before ++ ⟨ticket.env, ticket.arrived, .popped drain l.clock⟩ :: after) = rest := by
      rw [envs_append, envs_eq_nil first, envs_cons, if_neg nofun, ← rest_eq, ← later_eq]
      rfl
    have others : ∀ other ∈ outer, envs (.held other)
        (before ++ ⟨ticket.env, ticket.arrived, .popped drain l.clock⟩ :: after) =
          l.heldBy other := by
      intro other member
      refine unseen (.held other) (fun same => ?_) nofun
      cases same
      exact fresh member
    rw [Ledger.stack, stacked]
    simp only [drains, List.map_cons, heldBy]
    exact List.cons_eq_cons.mpr ⟨congrArg (Prod.mk drain) left,
      List.map_congr_left fun other member => congrArg (Prod.mk other) (others other member)⟩
  case turn => cases granted <;> rfl

theorem invoke {env : Envelope} (shown : Shows kind waiting stack (some env) l) :
    ∃ m, Step (.invoke env) l m ∧ Shows kind waiting stack none m := by
  obtain ⟨past, kept⟩ := shown.kept
  obtain ⟨⟨pop, _⟩, due, rfl⟩ := Option.map_eq_some_iff.mp shown.turn
  have step := Step.invoke due
  exact ⟨_, step, ⟨_, kept.step step⟩, shown.kind, shown.waiting, shown.stack, rfl⟩

/-- A drain ends that holds nothing any more or that the closed socket stops. -/
theorem leave {drain : Nat} {left : List Envelope}
    (shown : Shows kind waiting ((drain, left) :: stack) none l) (isOpen : Bool)
    (finished : left = [] ∨ isOpen = false) :
    ∃ m, Step (.leave left isOpen) l m ∧ Shows kind waiting stack none m := by
  obtain ⟨past, kept⟩ := shown.kept
  obtain ⟨outer, drains, rfl, stacked, fresh⟩ := shown.innermost
  have step := Step.leave isOpen (Option.map_eq_none_iff.mp shown.turn) drains finished
  have unseen : ∀ fate, fate ≠ .held drain → fate ≠ .dropped drain l.clock →
      envs fate (l.tickets.map (·.drop drain l.clock)) = envs fate l.tickets := by
    intro fate notHeld notDropped
    refine envs_map fun ticket _ => ?_
    unfold Ticket.drop
    split
    · next held => exact ⟨by simp [held, notHeld.symm, notDropped.symm], rfl⟩
    · exact ⟨Iff.rfl, rfl⟩
  refine ⟨_, step, ⟨_, kept.step step⟩, ?kind, ?waiting, ?stack, shown.turn⟩
  case kind =>
    refine List.forall_mem_map.mpr fun ticket member => ?_
    rw [(ticket.movesTo_drop l.clock drain).env]
    exact shown.kind ticket member
  case waiting => rw [← shown.waiting]; exact unseen .waiting nofun nofun
  case stack =>
    rw [stacked]
    refine List.map_congr_left fun other member => congrArg (Prod.mk other) ?_
    refine unseen (.held other) (fun same => ?_) nofun
    cases same
    exact fresh member

end Shows

end Ledger

end GameRealm
