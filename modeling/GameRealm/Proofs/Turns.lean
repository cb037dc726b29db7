import GameRealm.Proofs.Reckoning

/-!
# Turns of callbacks

Callbacks wait in a mailbox until an update takes all that wait as its batch. It runs
the batch, one callback after another, and then takes its envelopes; a callback may run
an update itself, so batches are open inside one another. Which callback runs when is a
question about this alone:

1. `Mark` is what happens to the mailbox at a time, and `Mark.openBatches` are the batches
   that are open after some marks;
2. `Slip` says of a callback when it was accepted and what has become of it, and `Turns`
   is what the slips of all callbacks come to: each one has one turn, in the first batch
   after it was accepted, and no turn is out of order but for batches inside one another;
3. the slips are kept mark by mark (`Rota.posts`, `take`, `run`, `backlog`).

All times are places among the marks, as they are places in the traffic of a queue.
-/

namespace GameRealm

/-! ## Marks -/

/-- What happens to a mailbox at a time. -/
inductive Mark (C : Type) where
  /-- Callbacks are accepted, if any. -/
  | posts (callbacks : List C)
  /-- An update takes what waits as its batch. -/
  | take
  /-- A callback begins. -/
  | run (callback : C)
  /-- An update takes its envelopes. -/
  | backlog
  deriving DecidableEq

namespace Mark

variable {C : Type}

/-- The mark with names for the callbacks. -/
def name (title : C → D) : Mark C → Mark D
  | posts callbacks => posts (callbacks.map title)
  | take => take
  | run callback => run (title callback)
  | backlog => backlog

def accepted : Mark C → List C
  | posts callbacks => callbacks
  | _ => []

/-- All callbacks that are accepted, in order, each with its time. -/
def allAccepted (marks : List (Mark C)) : List (Nat × C) :=
  marks.zipIdx.flatMap fun mark => mark.1.accepted.map (mark.2, ·)

/-- The open batches after a mark, if the mark comes at a time. -/
def opens (time : Nat) (batches : List Nat) : Mark C → List Nat
  | take => time :: batches
  | backlog => batches.tail
  | _ => batches

/-- When the batches that are open after some marks were taken, the innermost first. An
update is done with its batch when it takes its envelopes. -/
def openBatches (marks : List (Mark C)) : List Nat :=
  marks.zipIdx.foldl (fun batches mark => mark.1.opens mark.2 batches) []

/-- The mailbox is emptied then, for the first time after another time. -/
structure FirstTake (marks : List (Mark C)) (posted taken : Nat) : Prop where
  later : posted < taken
  take : marks[taken]? = some .take
  first : ∀ time, posted < time → time < taken → marks[time]? ≠ some .take

variable {marks : List (Mark C)} {mark : Mark C}

@[simp] theorem allAccepted_concat :
    allAccepted (marks ++ [mark]) =
      allAccepted marks ++ mark.accepted.map (marks.length, ·) := by
  simp [allAccepted, List.zipIdx_append]

theorem allAccepted_eq_nil (none : ∀ mark ∈ marks, mark.accepted = []) :
    allAccepted marks = [] := by
  refine List.flatMap_eq_nil_iff.mpr fun placed member => ?_
  rw [none placed.1 (List.fst_mem_of_mem_zipIdx member), List.map_nil]

@[simp] theorem openBatches_concat :
    openBatches (marks ++ [mark]) = mark.opens marks.length (openBatches marks) := by
  simp [openBatches, List.zipIdx_append]

theorem FirstTake.concat {posted taken : Nat} (taking : FirstTake marks posted taken) :
    FirstTake (marks ++ [mark]) posted taken := by
  refine ⟨taking.later, concat_of_get taking.take, fun time after before again => ?_⟩
  have inside := lt_of_get taking.take
  rcases get_of_concat again with early | ⟨last, _⟩
  · exact taking.first time after before early
  · omega

end Mark

open Mark

/-! ## Slips -/

/-- What becomes of a callback. -/
inductive Slip.Turn where
  | waiting
  /-- A batch has it, and will come to it. -/
  | held (taken : Nat)
  | ran (taken time : Nat)
  deriving DecidableEq, Repr

/-- A callback that has been accepted. -/
structure Slip (C : Type) where
  callback : C
  posted : Nat
  turn : Slip.Turn := .waiting

/-- The marks bear out what has become of the callback. -/
def Slip.Timely (marks : List (Mark C)) (slip : Slip C) : Prop :=
  match slip.turn with
  | .waiting => ∀ time, slip.posted < time → marks[time]? ≠ some .take
  | .held taken => FirstTake marks slip.posted taken
  | .ran taken time =>
    FirstTake marks slip.posted taken ∧ taken < time ∧ marks[time]? = some (.run slip.callback)

/-- What the turn of a callback says about one that was accepted later: it runs first,
unless a batch that began while it was still held has the later one. -/
def Slip.Turn.Before : Slip.Turn → Slip.Turn → Prop
  | ran taken time, ran taken' time' => time < time' ∨ taken < taken' ∧ taken' < time ∧ time' < time
  | held taken, ran taken' _ => taken < taken'
  | held taken, held taken' => taken ≤ taken'
  | waiting, ran _ _ => False
  | waiting, held _ => False
  | _, _ => True

/-- An update that takes its envelopes at a time is done with all that was accepted before
it took its batch, but for what the batches around it hold. -/
def Slip.Done (outer : List Nat) (time : Nat) (slip : Slip C) : Prop :=
  match slip.turn with
  | .waiting => False
  | .held taken => taken ∈ outer
  | .ran taken ran => ran < time ∨ taken ∈ outer

/-- All callbacks that were ever accepted have their turns. -/
structure Turns (marks : List (Mark C)) (slips : List (Slip C)) : Prop where
  accepted : slips.map (fun slip => (slip.posted, slip.callback)) = allAccepted marks
  timely : ∀ slip ∈ slips, slip.Timely marks
  order : slips.Pairwise fun earlier later => earlier.turn.Before later.turn
  /-- Nothing runs that was not accepted. -/
  runs : ∀ time callback, marks[time]? = some (.run callback) →
    ∃ slip ∈ slips, slip.callback = callback ∧ ∃ taken, slip.turn = .ran taken time
  /-- Only open batches hold callbacks. -/
  held : ∀ slip ∈ slips, ∀ taken, slip.turn = .held taken → taken ∈ openBatches marks
  /-- Callbacks come before envelopes. -/
  first : ∀ time, marks[time]? = some .backlog → ∃ taken outer,
    openBatches (marks.take time) = taken :: outer ∧ marks[taken]? = some .take ∧
      ∀ slip ∈ slips, slip.posted < taken → slip.Done outer time

/-! ## Keeping the slips -/

/-- The slips after some marks, with what is needed to go on. -/
structure Rota (marks : List (Mark C)) (slips : List (Slip C)) : Prop
    extends Turns marks slips where
  past : ∀ slip ∈ slips, slip.posted < marks.length
  sorted : slips.Pairwise (·.posted ≤ ·.posted)
  opened : ∀ taken ∈ openBatches marks, marks[taken]? = some .take
  nested : (openBatches marks).Pairwise (· > ·)

theorem rota_nil : Rota ([] : List (Mark C)) [] where
  accepted := rfl
  timely := nofun
  order := .nil
  runs := nofun
  held := nofun
  first := nofun
  past := nofun
  sorted := .nil
  opened := nofun
  nested := .nil

section
variable {C : Type} {marks : List (Mark C)} {mark : Mark C} {slips : List (Slip C)}

theorem Slip.Timely.concat {slip : Slip C} (timely : slip.Timely marks)
    (kept : slip.turn = .waiting → mark ≠ .take) : slip.Timely (marks ++ [mark]) := by
  unfold Slip.Timely at timely ⊢
  cases turn : slip.turn with
  | waiting =>
    simp only [turn] at timely ⊢
    intro time after taken
    rcases get_of_concat taken with early | ⟨_, last⟩
    · exact timely time after early
    · exact kept turn last
  | held taken =>
    simp only [turn] at timely ⊢
    exact timely.concat
  | ran taken time =>
    simp only [turn] at timely ⊢
    exact ⟨timely.1.concat, timely.2.1, concat_of_get timely.2.2⟩

theorem first_concat (other : mark ≠ .backlog)
    {slips' : List (Slip C)}
    (first : ∀ time, marks[time]? = some .backlog → ∃ taken outer,
      openBatches (marks.take time) = taken :: outer ∧ marks[taken]? = some .take ∧
        ∀ slip ∈ slips, slip.posted < taken → slip.Done outer time)
    (stays : ∀ time taken outer, taken < marks.length → time < marks.length →
      (∀ slip ∈ slips, slip.posted < taken → slip.Done outer time) →
      ∀ slip ∈ slips', slip.posted < taken → slip.Done outer time) :
    ∀ time, (marks ++ [mark])[time]? = some .backlog → ∃ taken outer,
      openBatches ((marks ++ [mark]).take time) = taken :: outer ∧
        (marks ++ [mark])[taken]? = some .take ∧
        ∀ slip ∈ slips', slip.posted < taken → slip.Done outer time := by
  intro time found
  rcases get_of_concat found with early | ⟨_, last⟩
  · obtain ⟨taken, outer, open', take, done⟩ := first time early
    have inside := lt_of_get early
    have done := stays time taken outer (lt_of_get take) inside done
    refine ⟨taken, outer, ?_, concat_of_get take, done⟩
    rw [List.take_append_of_le_length (Nat.le_of_lt inside), open']
  · exact absurd last other

namespace Slip

/-- Taken by a batch, if it waits. -/
def take (time : Nat) (slip : Slip C) : Slip C :=
  if slip.turn = .waiting then { slip with turn := .held time } else slip

@[simp] theorem callback_take (time : Nat) (slip : Slip C) :
    (slip.take time).callback = slip.callback := by
  unfold take
  split <;> rfl

@[simp] theorem posted_take (time : Nat) (slip : Slip C) :
    (slip.take time).posted = slip.posted := by
  unfold take
  split <;> rfl

end Slip

namespace Rota

theorem posts (rota : Rota marks slips) (callbacks : List C) :
    Rota (marks ++ [.posts callbacks])
      (slips ++ callbacks.map fun callback => { callback, posted := marks.length }) where
  accepted := by simp [rota.accepted, Mark.accepted]
  timely := by
    refine List.forall_mem_append.mpr ⟨fun slip member => ?_, ?_⟩
    · exact (rota.timely slip member).concat fun _ => nofun
    · refine List.forall_mem_map.mpr fun callback _ time after taken => ?_
      have inside := lt_of_get taken
      simp only [List.length_append, List.length_singleton] at inside after
      omega
  order := by
    refine List.pairwise_append.mpr ⟨rota.order, ?_, fun slip _ => ?_⟩
    · exact List.pairwise_map.mpr (List.pairwise_of_forall fun _ _ => trivial)
    · refine List.forall_mem_map.mpr fun callback _ => ?_
      cases slip.turn <;> trivial
  runs := by
    intro time callback found
    rcases get_of_concat found with early | ⟨_, last⟩
    · obtain ⟨slip, member, rest⟩ := rota.runs time callback early
      exact ⟨slip, List.mem_append_left _ member, rest⟩
    · contradiction
  held := by
    rw [openBatches_concat]
    refine List.forall_mem_append.mpr ⟨rota.held, List.forall_mem_map.mpr fun _ _ taken held => ?_⟩
    contradiction
  first := by
    refine first_concat (by nofun) rota.first fun time taken outer before _ done => ?_
    refine List.forall_mem_append.mpr ⟨done, List.forall_mem_map.mpr fun callback _ sooner => ?_⟩
    simp only at sooner
    omega
  past := by
    rw [List.length_append, List.length_singleton]
    refine List.forall_mem_append.mpr ⟨fun slip member => ?_, ?_⟩
    · exact Nat.lt_succ_of_lt (rota.past slip member)
    · exact List.forall_mem_map.mpr fun _ _ => Nat.lt_succ_self _
  sorted := by
    refine List.pairwise_append.mpr ⟨rota.sorted, ?_, fun slip member => ?_⟩
    · exact List.pairwise_map.mpr (List.pairwise_of_forall fun _ _ => Nat.le_refl _)
    · exact List.forall_mem_map.mpr fun _ _ => Nat.le_of_lt (rota.past slip member)
  opened := by
    rw [openBatches_concat]
    exact fun taken member => concat_of_get (rota.opened taken member)
  nested := by
    rw [openBatches_concat]
    exact rota.nested

theorem take (rota : Rota marks slips) :
    Rota (marks ++ [.take]) (slips.map (·.take marks.length)) where
  accepted := by simp [rota.accepted, Mark.accepted, Function.comp_def]
  timely := by
    refine List.forall_mem_map.mpr fun slip member => ?_
    have timely := rota.timely slip member
    unfold Slip.take
    split
    · next waits =>
      simp only [Slip.Timely, waits] at timely ⊢
      refine ⟨rota.past slip member, List.getElem?_concat_length .., ?_⟩
      intro time after before again
      rcases get_of_concat again with early | ⟨rfl, _⟩
      · exact timely time after early
      · exact Nat.lt_irrefl _ before
    · next taken => exact timely.concat fun waits => absurd waits taken
  order := by
    refine List.pairwise_map.mpr (rota.order.imp_of_mem ?_)
    intro earlier later known known' before
    have fresh : ∀ slip ∈ slips, ∀ taken, slip.turn = .held taken → taken < marks.length :=
      fun slip member taken held => lt_of_get (rota.opened taken (rota.held slip member taken held))
    cases turn : earlier.turn <;> cases turn' : later.turn <;>
      simp only [Slip.take, turn, turn', Slip.Turn.Before, if_true, if_false, reduceCtorEq]
        at before ⊢
    · exact Nat.le_refl _
    · exact Nat.le_of_lt (fresh earlier known _ turn)
    · exact before
    · exact before
    · exact before
  runs := by
    intro time callback found
    rcases get_of_concat found with early | ⟨_, last⟩
    · obtain ⟨slip, member, same, taken, ran⟩ := rota.runs time callback early
      refine ⟨_, List.mem_map_of_mem member, by rw [Slip.callback_take, same], taken, ?_⟩
      rw [Slip.take, if_neg (by rw [ran]; nofun), ran]
    · contradiction
  held := by
    rw [openBatches_concat]
    refine List.forall_mem_map.mpr fun slip member taken => ?_
    unfold Slip.take
    split
    · intro held
      cases held
      exact List.mem_cons_self
    · exact fun held => List.mem_cons_of_mem _ (rota.held slip member taken held)
  first := by
    refine first_concat (by nofun) rota.first fun time taken outer before _ done => ?_
    refine List.forall_mem_map.mpr fun slip member sooner => ?_
    rw [Slip.posted_take] at sooner
    have seen := done slip member sooner
    unfold Slip.take
    split
    · next waits => simp only [Slip.Done, waits] at seen
    · exact seen
  past := by
    refine List.forall_mem_map.mpr fun slip member => ?_
    rw [Slip.posted_take, List.length_append]
    exact Nat.lt_succ_of_lt (rota.past slip member)
  sorted := List.pairwise_map.mpr (rota.sorted.imp fun before => by
    rwa [Slip.posted_take, Slip.posted_take])
  opened := by
    rw [openBatches_concat]
    intro taken member
    rcases List.mem_cons.mp member with rfl | older
    · exact List.getElem?_concat_length ..
    · exact concat_of_get (rota.opened taken older)
  nested := by
    rw [openBatches_concat]
    refine List.pairwise_cons.mpr ⟨fun taken member => ?_, rota.nested⟩
    exact lt_of_get (rota.opened taken member)

/-- What is before a callback that a batch still holds is before it when it runs. -/
theorem ran_before {slip : Slip C} {taken : Nat} (rota : Rota marks slips) (known : slip ∈ slips)
    (before : (Slip.Turn.held taken).Before slip.turn) :
    (Slip.Turn.ran taken marks.length).Before slip.turn := by
  have timely := rota.timely slip known
  cases turn : slip.turn with
  | ran taken' time =>
    simp only [Slip.Timely, turn] at timely
    rw [turn] at before
    exact .inr ⟨before, lt_of_get timely.1.take, lt_of_get timely.2.2⟩
  | _ => trivial

/-- What was accepted earlier than a callback that the innermost batch runs has run, or an
outer batch holds it. -/
theorem before_ran {slip : Slip C} {posted taken : Nat} {outer : List Nat}
    (rota : Rota marks slips) (innermost : openBatches marks = taken :: outer)
    (known : slip ∈ slips) (taking : FirstTake marks posted taken) (sooner : slip.posted ≤ posted)
    (done : slip.turn ≠ .held taken) : slip.turn.Before (.ran taken marks.length) := by
  have timely := rota.timely slip known
  cases turn : slip.turn with
  | waiting =>
    simp only [Slip.Timely, turn] at timely
    exact timely taken (Nat.lt_of_le_of_lt sooner taking.later) taking.take
  | held other =>
    have isOpen := rota.held slip known other turn
    have nested := rota.nested
    rw [innermost] at isOpen nested
    rcases List.mem_cons.mp isOpen with rfl | older
    · exact absurd turn done
    · exact (List.pairwise_cons.mp nested).1 other older
  | ran other time =>
    simp only [Slip.Timely, turn] at timely
    exact .inl (lt_of_get timely.2.2)

theorem run {callback : C} {posted taken : Nat} {outer : List Nat} {before after : List (Slip C)}
    (rota : Rota marks (before ++ ⟨callback, posted, .held taken⟩ :: after))
    (innermost : openBatches marks = taken :: outer)
    (foremost : ∀ slip ∈ before, slip.turn ≠ .held taken) :
    Rota (marks ++ [.run callback])
      (before ++ ⟨callback, posted, .ran taken marks.length⟩ :: after) := by
  have now : (marks ++ [Mark.run callback])[marks.length]? = some (.run callback) :=
    List.getElem?_concat_length ..
  have mine : ⟨callback, posted, .held taken⟩ ∈
      before ++ (⟨callback, posted, .held taken⟩ : Slip C) :: after :=
    List.mem_append_right _ List.mem_cons_self
  have taking : FirstTake marks posted taken := rota.timely _ mine
  -- Nothing changes but the turn of the one slip.
  have others : ∀ {P : Slip C → Prop},
      (∀ slip ∈ before ++ ⟨callback, posted, .held taken⟩ :: after, P slip) →
      P ⟨callback, posted, .ran taken marks.length⟩ →
      ∀ slip ∈ before ++ ⟨callback, posted, .ran taken marks.length⟩ :: after, P slip := by
    intro P all ran slip member
    rcases List.mem_append.mp member with member | member
    · exact all slip (List.mem_append_left _ member)
    · rcases List.mem_cons.mp member with rfl | member
      · exact ran
      · exact all slip (List.mem_append_right _ (List.mem_cons_of_mem _ member))
  obtain ⟨early, late, across⟩ := List.pairwise_append.mp rota.order
  have late := List.pairwise_cons.mp late
  obtain ⟨sortedEarly, sortedLate, sortedAcross⟩ := List.pairwise_append.mp rota.sorted
  have sortedLate := List.pairwise_cons.mp sortedLate
  refine ⟨⟨?accepted, ?timely, ?order, ?runs, ?held, ?first⟩, ?past, ?sorted, ?opened, ?nested⟩
  case accepted =>
    have accepted := rota.accepted
    simp only [List.map_append, List.map_cons] at accepted
    simp [accepted, Mark.accepted]
  case timely =>
    refine others (fun slip member => ?_) ⟨taking.concat, lt_of_get taking.take, now⟩
    exact (rota.timely slip member).concat fun _ => nofun
  case order =>
    refine List.pairwise_append.mpr ⟨early, List.pairwise_cons.mpr ⟨?later, late.2⟩, ?earlier⟩
    case later =>
      intro slip member
      refine rota.ran_before ?_ (late.1 slip member)
      exact List.mem_append_right _ (List.mem_cons_of_mem _ member)
    case earlier =>
      intro slip member
      obtain ⟨-, toRest⟩ := List.forall_mem_cons.mp (across slip member)
      have sooner := (List.forall_mem_cons.mp (sortedAcross slip member)).1
      refine List.forall_mem_cons.mpr ⟨?_, toRest⟩
      exact rota.before_ran innermost (List.mem_append_left _ member) taking sooner
        (foremost slip member)
  case runs =>
    intro time other found
    rcases get_of_concat found with seen | ⟨rfl, last⟩
    · obtain ⟨slip, member, same, batch, ran⟩ := rota.runs time other seen
      refine ⟨slip, ?_, same, batch, ran⟩
      rcases List.mem_append.mp member with member | member
      · exact List.mem_append_left _ member
      · rcases List.mem_cons.mp member with rfl | member
        · contradiction
        · exact List.mem_append_right _ (List.mem_cons_of_mem _ member)
    · cases last
      exact ⟨_, List.mem_append_right _ List.mem_cons_self, rfl, taken, rfl⟩
  case held =>
    rw [openBatches_concat]
    exact others rota.held nofun
  case first =>
    refine first_concat (by nofun) rota.first fun time batch outer _ _ done => ?_
    refine others done fun sooner => ?_
    have seen : Slip.Done outer time ⟨callback, posted, .held taken⟩ := done _ mine sooner
    exact .inr seen
  case past =>
    rw [List.length_append]
    have waited : posted < marks.length := rota.past _ mine
    exact others (fun slip member => Nat.lt_succ_of_lt (rota.past slip member))
      (Nat.lt_succ_of_lt waited)
  case sorted =>
    refine List.pairwise_append.mpr ⟨sortedEarly, List.pairwise_cons.mpr sortedLate, ?_⟩
    intro slip member
    exact List.forall_mem_cons.mpr (List.forall_mem_cons.mp (sortedAcross slip member))
  case opened =>
    rw [openBatches_concat]
    exact fun batch member => concat_of_get (rota.opened batch member)
  case nested =>
    rw [openBatches_concat]
    exact rota.nested

/-- The innermost batch is done, and its update takes its envelopes. -/
theorem backlog {taken : Nat} {outer : List Nat} (rota : Rota marks slips)
    (innermost : openBatches marks = taken :: outer)
    (finished : ∀ slip ∈ slips, slip.turn ≠ .held taken) :
    Rota (marks ++ [.backlog]) slips where
  accepted := by simp [rota.accepted, Mark.accepted]
  timely slip member := (rota.timely slip member).concat fun _ => nofun
  order := rota.order
  runs := by
    intro time callback found
    rcases get_of_concat found with early | ⟨_, last⟩
    · exact rota.runs time callback early
    · contradiction
  held := by
    rw [openBatches_concat, innermost]
    intro slip member other held
    have isOpen := rota.held slip member other held
    rw [innermost] at isOpen
    rcases List.mem_cons.mp isOpen with rfl | older
    · exact absurd held (finished slip member)
    · exact older
  first := by
    intro time found
    rcases get_of_concat found with early | ⟨rfl, _⟩
    · obtain ⟨taken, outer, open', take, done⟩ := rota.first time early
      have inside := lt_of_get early
      refine ⟨taken, outer, ?_, concat_of_get take, done⟩
      rw [List.take_append_of_le_length (Nat.le_of_lt inside), open']
    · -- The innermost batch has run out: whatever was posted before it is done or further out.
      have take : marks[taken]? = some .take :=
        rota.opened taken (by rw [innermost]; exact List.mem_cons_self)
      refine ⟨taken, outer, by rw [List.take_left' rfl, innermost], concat_of_get take, ?_⟩
      intro slip member sooner
      have timely := rota.timely slip member
      cases turn : slip.turn with
      | waiting =>
        simp only [Slip.Timely, turn] at timely
        exact absurd take (timely taken sooner)
      | held other =>
        have isOpen := rota.held slip member other turn
        rw [innermost] at isOpen
        simp only [Slip.Done, turn]
        rcases List.mem_cons.mp isOpen with rfl | older
        · exact absurd turn (finished slip member)
        · exact older
      | ran other time =>
        simp only [Slip.Timely, turn] at timely
        simp only [Slip.Done, turn]
        exact .inl (lt_of_get timely.2.2)
  past := by
    rw [List.length_append]
    exact fun slip member => Nat.lt_succ_of_lt (rota.past slip member)
  sorted := rota.sorted
  opened := by
    rw [openBatches_concat, innermost]
    intro other member
    exact concat_of_get (rota.opened other (by rw [innermost]; exact List.mem_cons_of_mem _ member))
  nested := by
    have nested := rota.nested
    rw [innermost] at nested
    rw [openBatches_concat, innermost]
    exact (List.pairwise_cons.mp nested).2

end Rota

/-! ## What the slips show -/

/-- The callbacks of the slips with a turn. -/
def Slip.callbacks (turn : Slip.Turn) (slips : List (Slip C)) : List C :=
  (slips.filter (·.turn = turn)).map (·.callback)

@[simp] theorem callbacks_append (turn : Slip.Turn) (slips more : List (Slip C)) :
    Slip.callbacks turn (slips ++ more) =
      Slip.callbacks turn slips ++ Slip.callbacks turn more := by
  simp [Slip.callbacks]

@[simp] theorem callbacks_cons (turn : Slip.Turn) (slip : Slip C) (slips : List (Slip C)) :
    Slip.callbacks turn (slip :: slips) =
      if slip.turn = turn then slip.callback :: Slip.callbacks turn slips
      else Slip.callbacks turn slips := by
  unfold Slip.callbacks
  rw [List.filter_cons]
  by_cases same : slip.turn = turn <;> simp [same]

theorem callbacks_eq_nil {turn : Slip.Turn} (none : ∀ slip ∈ slips, slip.turn ≠ turn) :
    Slip.callbacks turn slips = [] := by
  rw [Slip.callbacks, List.filter_eq_nil_iff.mpr (by simpa using none)]
  rfl

theorem ne_of_callbacks_eq_nil {turn : Slip.Turn} (none : Slip.callbacks turn slips = []) :
    ∀ slip ∈ slips, slip.turn ≠ turn := by
  rw [Slip.callbacks, List.map_eq_nil_iff, List.filter_eq_nil_iff] at none
  simpa using none

/-- The slips have been kept, these callbacks wait, and these are held by the open
batches, the innermost one first. -/
def Booked (marks : List (Mark C)) (pending : List C) (stack : List (List C)) : Prop :=
  ∃ slips, Rota marks slips ∧ Slip.callbacks .waiting slips = pending ∧
    (openBatches marks).map (fun taken => Slip.callbacks (.held taken) slips) = stack

theorem booked_nil : Booked ([] : List (Mark C)) [] [] := ⟨[], rota_nil, rfl, rfl⟩

namespace Booked

variable {pending : List C} {stack : List (List C)}

theorem posts (booked : Booked marks pending stack) (callbacks : List C) :
    Booked (marks ++ [.posts callbacks]) (pending ++ callbacks) stack := by
  obtain ⟨slips, rota, rfl, rfl⟩ := booked
  refine ⟨_, rota.posts callbacks, ?_, ?_⟩
  · rw [callbacks_append]
    congr 1
    induction callbacks with
    | nil => rfl
    | cons callback rest ih => simp [ih]
  · rw [openBatches_concat]
    refine List.map_congr_left fun taken _ => ?_
    have none : Slip.callbacks (.held taken)
        (callbacks.map fun callback => { callback, posted := marks.length }) = [] :=
      callbacks_eq_nil (List.forall_mem_map.mpr fun _ _ => nofun)
    rw [callbacks_append, none, List.append_nil]

theorem take (booked : Booked marks pending stack) :
    Booked (marks ++ [.take]) [] (pending :: stack) := by
  obtain ⟨slips, rota, rfl, rfl⟩ := booked
  have fresh : ∀ taken ∈ openBatches marks, taken ≠ marks.length :=
    fun taken member => Nat.ne_of_lt (lt_of_get (rota.opened taken member))
  have turns : ∀ turn turn', (∀ slip ∈ slips, (slip.take marks.length).turn = turn' ↔
      slip.turn = turn) →
      Slip.callbacks turn' (slips.map (·.take marks.length)) = Slip.callbacks turn slips := by
    intro turn turn' moved
    clear rota fresh
    induction slips with
    | nil => rfl
    | cons slip slips ih =>
      obtain ⟨now, later⟩ := List.forall_mem_cons.mp moved
      simp only [List.map_cons, callbacks_cons, now, Slip.callback_take, ih later]
  refine ⟨_, rota.take, ?_, ?_⟩
  · refine callbacks_eq_nil (List.forall_mem_map.mpr fun slip _ => ?_)
    unfold Slip.take
    split
    · nofun
    · assumption
  · rw [openBatches_concat]
    refine List.cons_eq_cons.mpr ⟨turns _ _ fun slip member => ?_,
      List.map_congr_left fun taken member => turns _ _ fun slip _ => ?_⟩
    · have other : slip.turn ≠ .held marks.length :=
        fun held => fresh _ (rota.held slip member _ held) rfl
      unfold Slip.take
      split
      · next waits => simp [waits]
      · next waits => simp [waits, other]
    · unfold Slip.take
      split
      · next waits => simp [waits, (fresh taken member).symm]
      · exact Iff.rfl

theorem innermost {held : List C} {outer : List (List C)} {slips : List (Slip C)}
    (shown : (openBatches marks).map (fun taken => Slip.callbacks (.held taken) slips) =
      held :: outer) :
    ∃ taken older, openBatches marks = taken :: older ∧ Slip.callbacks (.held taken) slips = held ∧
      older.map (fun taken => Slip.callbacks (.held taken) slips) = outer := by
  cases batches : openBatches marks with
  | nil => rw [batches] at shown; contradiction
  | cons taken older =>
    rw [batches, List.map_cons, List.cons.injEq] at shown
    exact ⟨taken, older, rfl, shown⟩

theorem run {callback : C} {rest : List C} {outer : List (List C)}
    (booked : Booked marks pending ((callback :: rest) :: outer)) :
    Booked (marks ++ [.run callback]) pending (rest :: outer) := by
  obtain ⟨slips, rota, rfl, shown⟩ := booked
  obtain ⟨taken, older, batches, held, rfl⟩ := innermost shown
  obtain ⟨slip, later, found, rfl, rest_eq⟩ := List.map_eq_cons_iff.mp held
  obtain ⟨before, after, rfl, foremost, mine, later_eq⟩ := List.filter_eq_cons_iff.mp found
  obtain ⟨callback, posted, turn⟩ := slip
  obtain rfl : turn = .held taken := of_decide_eq_true mine
  have foremost : ∀ slip ∈ before, slip.turn ≠ .held taken := fun slip member =>
    of_decide_eq_false (Bool.eq_false_iff.mpr (foremost slip member))
  -- No other turn sees the slip, before or after.
  have unseen : ∀ turn, turn ≠ .held taken → turn ≠ .ran taken marks.length →
      Slip.callbacks turn (before ++ ⟨callback, posted, .ran taken marks.length⟩ :: after) =
        Slip.callbacks turn (before ++ ⟨callback, posted, .held taken⟩ :: after) := by
    intro turn notHeld notRan
    simp [notHeld.symm, notRan.symm]
  have fresh : ∀ other ∈ older, other ≠ taken := by
    have nested := rota.nested
    rw [batches] at nested
    exact fun other member => Nat.ne_of_lt ((List.pairwise_cons.mp nested).1 other member)
  refine ⟨_, rota.run batches foremost, unseen _ nofun nofun, ?_⟩
  rw [openBatches_concat, batches]
  refine List.cons_eq_cons.mpr ⟨?_, List.map_congr_left fun other member => ?_⟩
  · simp only [callbacks_append, callbacks_eq_nil foremost, callbacks_cons, reduceCtorEq, if_false,
      List.nil_append, ← rest_eq, ← later_eq]
    rfl
  · exact unseen _ (fun same => fresh other member (Slip.Turn.held.inj same)) nofun

theorem backlog {outer : List (List C)} (booked : Booked marks pending ([] :: outer)) :
    Booked (marks ++ [.backlog]) pending outer := by
  obtain ⟨slips, rota, rfl, shown⟩ := booked
  obtain ⟨taken, older, batches, held, rfl⟩ := innermost shown
  refine ⟨slips, rota.backlog batches (ne_of_callbacks_eq_nil held), rfl, ?_⟩
  rw [openBatches_concat, Mark.opens, batches]
  rfl

theorem turns (booked : Booked marks pending []) :
    ∃ slips, Turns marks slips ∧ (∀ slip ∈ slips, ∀ taken, slip.turn ≠ .held taken) ∧
      Slip.callbacks .waiting slips = pending := by
  obtain ⟨slips, rota, waiting, closed⟩ := booked
  refine ⟨slips, rota.toTurns, fun slip member taken held => ?_, waiting⟩
  have isOpen := rota.held slip member taken held
  rw [List.map_eq_nil_iff.mp closed] at isOpen
  contradiction

end Booked

end

end GameRealm
