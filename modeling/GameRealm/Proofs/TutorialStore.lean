import GameRealm.Proofs.Frame
import GameRealm.Rehearsal.Stage

/-!
# Tutorial progress and its row

Eight words are loaded from a row, changed word by word, and stored as a whole. A load
empties the cache before it asks the database, and leaves it so, or filled in part, if the
answer is a failure; but it does not note that the cache is no image of the row any more.
This module follows the cache beside the row, in runs in which any call may fail:

1. `TutorialStore` is what a database does for the row, failures and unreadable rows
   included.
2. `load_of_faithful`, `flags_setFlag` and `setFlag_of_unchanged`: what the operations do
   to the cache.
3. `Tally` remembers which words have been changed since cache and row were last brought
   together, and what a load left that failed since. `Tally.Fits` says what the cache holds
   then, step by step (`Tally.Fits.step`) and so in every run (`Tally.Fits.run`).
4. `LiveSession.progress_kept_iff`: so a save keeps the words that nobody changed exactly if no
   load has failed since, or what it left is what is stored.
5. `LiveSession.progress_lost`: a failed load, one change and a save, and seven words are gone.
-/

namespace GameRealm

/-! ## The row -/

/-- The row holds these words. -/
def Row.Holds (row : Row) (words : TutorialFlags) : Prop :=
  ∀ i : Fin 8, Row.u32 row i = .ok (words.get i)

/-- One of the words cannot be read off the row. -/
def Row.Unreadable (row : Row) : Prop :=
  ∃ (i : Fin 8) (error : PersistenceError), Row.u32 row i = .error error

/-- No words at all. -/
def noProgress : TutorialFlags := Vector.replicate 8 0

namespace Tutorials

/-- What a database may answer that has stored these words, if any: it may fail, or hand
out rows that cannot be read, but rows that can be read are as stored. -/
def Faithful (stored : Option TutorialFlags) : Except PersistenceError (Option (List Row)) → Prop
  | .error _ => True
  | .ok none => stored = none
  | .ok (some rows) =>
    (rows = [] ∧ stored = none) ∨
    (∃ row words, rows = [row] ∧ stored = some words ∧ Row.Holds row words) ∨
    ∃ row ∈ rows, Row.Unreadable row

/-- A save of the cache has a row to write, or writes the first one. -/
def Writes (tutorials : Tutorials) (stored : Option TutorialFlags) : Prop :=
  tutorials.state = .new ∨ tutorials.state = .changed ∧ stored.isSome

instance (tutorials : Tutorials) (stored : Option TutorialFlags) :
    Decidable (tutorials.Writes stored) :=
  inferInstanceAs (Decidable (_ ∨ _ ∧ _))

end Tutorials

/-- The row of an account in a character database. Any call may fail, and then it leaves
the row as it is; nobody but the session writes the row. -/
structure TutorialStore (co : Collaborators W) (account : AccountId) where
  words? : W → Option TutorialFlags
  answered : ∀ world,
    Tutorials.Faithful (words? world) (co.rows world .character (.selectTutorials account))
  queried : ∀ world,
    words? (co.react world (.database .character (.query (.selectTutorials account)))) =
      words? world
  failed : ∀ world statement error,
    co.calling world .character (.execute statement) = .error error →
    words? (co.react world (.database .character (.execute statement))) = words? world
  updated : ∀ world flags,
    co.calling world .character (.execute (.updateTutorials account flags)) = .ok () →
    words? (co.react world (.database .character (.execute (.updateTutorials account flags)))) =
      (words? world).map fun _ => flags
  inserted : ∀ world flags, words? world = none →
    co.calling world .character (.execute (.insertTutorials account flags)) = .ok () →
    words? (co.react world (.database .character (.execute (.insertTutorials account flags)))) =
      some flags

namespace TutorialStore

variable {co : Collaborators W} {account : AccountId}

/-- The words that are stored; without a row there is no progress. -/
def words (store : TutorialStore co account) (world : W) : TutorialFlags :=
  (store.words? world).getD noProgress

end TutorialStore

/-! ## The cache -/

namespace Tutorials

theorem loadRow_of_holds {row : Row} {words : TutorialFlags} (holds : Row.Holds row words)
    (columns : List (Fin 8)) (flags : TutorialFlags) :
    loadRow row columns flags =
      (columns.foldl (fun flags i => flags.set i words[i] i.isLt) flags, .ok ()) := by
  induction columns generalizing flags with
  | nil => rfl
  | cons i rest ih =>
    rw [loadRow, holds i]
    exact ih _

theorem get_foldl_set (words : TutorialFlags) (columns : List (Fin 8)) (flags : TutorialFlags)
    (i : Fin 8) (h : i ∈ columns ∨ flags[i] = words[i]) :
    (columns.foldl (fun flags i => flags.set i words[i] i.isLt) flags)[i] = words[i] := by
  induction columns generalizing flags with
  | nil => exact h.resolve_left List.not_mem_nil
  | cons first rest ih =>
    rw [List.foldl_cons]
    refine ih _ ?_
    by_cases now : i = first
    · subst now
      simp
    · have other : first.val ≠ i.val := fun same => now (Fin.ext same.symm)
      simpa [now, other] using h

theorem foldl_set_finRange (words flags : TutorialFlags) :
    (List.finRange 8).foldl (fun flags i => flags.set i words[i] i.isLt) flags = words := by
  refine Vector.ext fun i inside => ?_
  exact get_foldl_set words _ flags ⟨i, inside⟩ (.inl (List.mem_finRange _))

theorem loadRow_of_error {row : Row} {i : Fin 8} {error : PersistenceError}
    (unreadable : Row.u32 row i = .error error) {columns : List (Fin 8)} (member : i ∈ columns)
    (flags : TutorialFlags) : ∃ error, (loadRow row columns flags).2 = .error error := by
  induction columns generalizing flags with
  | nil => exact absurd member List.not_mem_nil
  | cons first rest ih =>
    rw [loadRow]
    cases read : Row.u32 row first with
    | error e => exact ⟨e, rfl⟩
    | ok word =>
      rcases List.mem_cons.mp member with rfl | later
      · rw [unreadable] at read
        contradiction
      · exact ih later _

theorem loadRows_of_unreadable {rows : List Row} {row : Row} (member : row ∈ rows)
    (unreadable : Row.Unreadable row) (flags : TutorialFlags) :
    ∃ error, (loadRows rows flags).2 = .error error := by
  obtain ⟨i, e, unreadable⟩ := unreadable
  induction rows generalizing flags with
  | nil => exact absurd member List.not_mem_nil
  | cons first rest ih =>
    rw [loadRows]
    split
    · next error _ => exact ⟨error, rfl⟩
    · next flags' read =>
      rcases List.mem_cons.mp member with rfl | later
      · obtain ⟨error, failed⟩ := loadRow_of_error unreadable (List.mem_finRange i) flags
        rw [read] at failed
        contradiction
      · exact ih later _

/-- A load that succeeds has the cache as stored. One that fails leaves the state of the
cache alone, whatever it does to the words. -/
theorem load_of_faithful {stored : Option TutorialFlags}
    {answer : Except PersistenceError (Option (List Row))} (faithful : Faithful stored answer)
    (tutorials : Tutorials) :
    match (tutorials.load answer).2 with
    | .ok () => (tutorials.load answer).1 =
        ⟨stored.getD noProgress, if stored.isSome then .unchanged else .new⟩
    | .error _ => (tutorials.load answer).1.state = tutorials.state := by
  match answer, faithful with
  | .error e, _ => rfl
  | .ok none, absent => simp only [Faithful] at absent; subst absent; rfl
  | .ok (some rows), known =>
    rcases known with ⟨rfl, rfl⟩ | ⟨row, words, rfl, rfl, holds⟩ | ⟨row, member, unreadable⟩
    · rfl
    · have read : loadRows [row] (Vector.replicate 8 0) = (words, .ok ()) := by
        rw [loadRows, loadRow_of_holds holds, foldl_set_finRange]
        rfl
      simp only [load, read, Option.getD_some, Option.isSome_some, if_true]
    · obtain ⟨error, failed⟩ := loadRows_of_unreadable member unreadable (Vector.replicate 8 0)
      cases rows with
      | nil => exact absurd member List.not_mem_nil
      | cons first rest =>
        obtain ⟨flags, read⟩ : ∃ flags, loadRows (first :: rest) (Vector.replicate 8 0) =
            (flags, .error error) := ⟨_, Prod.ext rfl failed⟩
        simp only [load, read]

theorem flags_setFlag (tutorials : Tutorials) (index : Nat) (value : UInt32) {i : Fin 8}
    (other : i.val ≠ index) : (tutorials.setFlag index value).flags[i] = tutorials.flags[i] := by
  unfold setFlag
  split
  · split
    · rfl
    · simp [other.symm]
  · rfl

theorem new_setFlag_iff (tutorials : Tutorials) (index : Nat) (value : UInt32) :
    (tutorials.setFlag index value).state = .new ↔ tutorials.state = .new := by
  unfold setFlag
  split
  · split
    · rfl
    · cases tutorials.state <;> simp
  · rfl

/-- A change is noted, unless it changes nothing. -/
theorem setFlag_of_unchanged {tutorials : Tutorials} {index : Nat} {value : UInt32}
    (unchanged : (tutorials.setFlag index value).state = .unchanged) :
    tutorials.setFlag index value = tutorials := by
  unfold setFlag at unchanged ⊢
  split
  · next inside =>
    split
    · rfl
    · next differs =>
      simp only [inside, differs, dite_true, if_false] at unchanged
      split at unchanged
      · contradiction
      · contradiction
  · rfl

end Tutorials

/-! ## Runs -/

/-- One of the operations on the words, or something that happens to the surroundings and
leaves the row alone. -/
inductive TutorialStep {co : Collaborators W} {account : AccountId}
    (store : TutorialStore co account) where
  | load
  | set (index : Nat) (value : UInt32)
  | save
  | outside (change : W → W) (keeps : ∀ world, store.words? (change world) = store.words? world)

/-- Since cache and row were last brought together. -/
structure Tally where
  /-- The indexes of the words that were to be changed since the last load or save that
  succeeded. -/
  touched : List Nat := []
  /-- The words that a load left that has failed since, if one has. Only a load that
  succeeds, or a save that writes the row, brings the two together again. -/
  left : Option TutorialFlags := none

section
variable {sv : Services W} {account : AccountId}
  {store : TutorialStore sv.collaborators account}

namespace TutorialStep

def run (d : LiveSession W) : TutorialStep store → LiveSession W
  | load => (d.loadTutorials sv).2
  | set index value => ((Operation.setTutorialFlag index value).run sv d).2
  | save => (d.saveTutorials sv).2
  | outside change _ => ((Operation.outside change).run sv d).2

/-- The tally after the step. -/
def count (d : LiveSession W) (tally : Tally) : TutorialStep store → Tally
  | load =>
    match (d.loadTutorials sv).1 with
    | .ok () => {}
    | .error _ => { tally with left := some (d.loadTutorials sv).2.session.tutorials.flags }
  | set index _ => { tally with touched := index :: tally.touched }
  | save =>
    match (d.saveTutorials sv).1 with
    | .ok () =>
      { touched := []
        left := if d.session.tutorials.Writes (store.words? d.outside.world) then none
          else tally.left }
    | .error _ => tally
  | outside _ _ => tally

/-- Some steps, and the tally beside them. -/
def runAll (steps : List (TutorialStep store)) (start : LiveSession W × Tally) :
    LiveSession W × Tally :=
  steps.foldl (fun now step => (step.run now.1, step.count now.1 now.2)) start

end TutorialStep

/-! ## What the cache holds -/

/-- The words that are in the cache, but for those that have been changed. -/
def Tally.basis (tally : Tally) (stored : Option TutorialFlags) : TutorialFlags :=
  tally.left.getD (stored.getD noProgress)

/-- The cache as the tally has it. -/
structure Tally.Fits (store : TutorialStore sv.collaborators account) (d : LiveSession W)
    (tally : Tally) : Prop where
  own : d.session.account = account
  /-- What nobody changed is as the last load left it, or as it is stored. -/
  untouched : d.session.tutorials.state = .new ∨ (store.words? d.outside.world).isSome →
    ∀ i : Fin 8, i.val ∉ tally.touched →
      d.session.tutorials.flags[i] = (tally.basis (store.words? d.outside.world))[i]
  /-- That is all of it, if nothing has to be stored. -/
  idle : d.session.tutorials.state = .unchanged → (store.words? d.outside.world).isSome →
    d.session.tutorials.flags = tally.basis (store.words? d.outside.world)
  /-- A row that has to be inserted is not there, and one that was loaded is. -/
  new : d.session.tutorials.state = .new → store.words? d.outside.world = none
  there : tally.left = none → d.session.tutorials.state ≠ .new →
    (store.words? d.outside.world).isSome

/-- What a load does to cache and row. -/
theorem loadTutorials_spec (store : TutorialStore sv.collaborators account) {d : LiveSession W}
    (own : d.session.account = account) :
    let loaded := (d.loadTutorials sv).2
    let stored := store.words? d.outside.world
    loaded.session.account = account ∧ store.words? loaded.outside.world = stored ∧
      match (d.loadTutorials sv).1 with
      | .ok () => loaded.session.tutorials =
          ⟨stored.getD noProgress, if stored.isSome then .unchanged else .new⟩
      | .error _ => loaded.session.tutorials.state = d.session.tutorials.state := by
  subst own
  exact ⟨rfl, store.queried _, Tutorials.load_of_faithful (store.answered _) _⟩

/-- What a save does to cache and row, when a row that has to be inserted is not there. -/
theorem saveTutorials_spec (store : TutorialStore sv.collaborators account) {d : LiveSession W}
    (own : d.session.account = account)
    (new : d.session.tutorials.state = .new → store.words? d.outside.world = none) :
    let saved := (d.saveTutorials sv).2
    let stored := store.words? d.outside.world
    saved.session.account = account ∧
      match (d.saveTutorials sv).1 with
      | .ok () =>
        saved.session.tutorials = { d.session.tutorials with state := .unchanged } ∧
          store.words? saved.outside.world =
            if d.session.tutorials.Writes stored then some d.session.tutorials.flags else stored
      | .error _ =>
        saved.session.tutorials = d.session.tutorials ∧
          store.words? saved.outside.world = stored := by
  subst own
  unfold LiveSession.saveTutorials
  cases state : d.session.tutorials.state with
  | unchanged =>
    have idle : ¬ d.session.tutorials.Writes (store.words? d.outside.world) := by
      simp [Tutorials.Writes, state]
    simp only [Tutorials.statement?, state, if_neg idle, and_true, true_and]
    rw [← state]
  | changed =>
    simp only [Tutorials.statement?, state, LiveSession.call, Outside.call, Outside.emit]
    cases called : sv.collaborators.calling d.outside.world .character
        (.execute (.updateTutorials d.session.account d.session.tutorials.flags)) with
    | error e => exact ⟨rfl, rfl, store.failed _ _ e called⟩
    | ok =>
      refine ⟨rfl, rfl, (store.updated _ _ called).trans ?_⟩
      simp only [Tutorials.Writes, state]
      cases store.words? d.outside.world <;> simp
  | new =>
    simp only [Tutorials.statement?, state, LiveSession.call, Outside.call, Outside.emit]
    cases called : sv.collaborators.calling d.outside.world .character
        (.execute (.insertTutorials d.session.account d.session.tutorials.flags)) with
    | error e => exact ⟨rfl, rfl, store.failed _ _ e called⟩
    | ok =>
      refine ⟨rfl, rfl, (store.inserted _ _ (new state) called).trans ?_⟩
      simp [Tutorials.Writes, state]

namespace Tally

theorem Fits.load {d : LiveSession W} {tally : Tally} (fits : tally.Fits store d) :
    ((TutorialStep.load : TutorialStep store).count d tally).Fits store
      ((TutorialStep.load : TutorialStep store).run d) := by
  obtain ⟨own, row, cache⟩ := loadTutorials_spec store fits.own
  simp only [TutorialStep.count, TutorialStep.run]
  cases loaded : (d.loadTutorials sv).1 with
  | ok =>
    rw [loaded] at cache
    constructor
    case own => exact own
    case untouched => simp [cache, row, basis]
    case idle => simp [cache, row, basis]
    case new =>
      rw [cache, row]
      cases store.words? d.outside.world <;> simp
    case there =>
      rw [cache, row]
      cases store.words? d.outside.world <;> simp
  | error e =>
    rw [loaded] at cache
    constructor
    case own => exact own
    case untouched => exact fun _ _ _ => rfl
    case idle => exact fun _ _ => rfl
    case new =>
      rw [cache, row]
      exact fits.new
    case there => exact nofun

theorem Fits.set {d : LiveSession W} {tally : Tally} (fits : tally.Fits store d) (index : Nat)
    (value : UInt32) :
    ((TutorialStep.set index value : TutorialStep store).count d tally).Fits store
      ((TutorialStep.set index value : TutorialStep store).run d) := by
  have new : (d.session.tutorials.setFlag index value).state = .new ↔ _ :=
    d.session.tutorials.new_setFlag_iff index value
  constructor
  case own => exact fits.own
  case untouched =>
    intro written i fresh
    obtain ⟨other, fresh⟩ := not_or.mp fun touched => fresh (List.mem_cons.mpr touched)
    exact (d.session.tutorials.flags_setFlag index value other).trans
      (fits.untouched (written.imp_left new.mp) i fresh)
  case idle =>
    intro unchanged there
    have same := Tutorials.setFlag_of_unchanged unchanged
    simp only [TutorialStep.run, Operation.run, LiveSession.modify] at unchanged ⊢
    rw [same] at unchanged ⊢
    exact fits.idle unchanged there
  case new => exact fun state => fits.new (new.mp state)
  case there => exact fun together state => fits.there together fun was => state (new.mpr was)

theorem Fits.save {d : LiveSession W} {tally : Tally} (fits : tally.Fits store d) :
    ((TutorialStep.save : TutorialStep store).count d tally).Fits store
      ((TutorialStep.save : TutorialStep store).run d) := by
  obtain ⟨own, cache⟩ := saveTutorials_spec store fits.own fits.new
  simp only [TutorialStep.count, TutorialStep.run]
  cases saved : (d.saveTutorials sv).1 with
  | error e =>
    rw [saved] at cache
    obtain ⟨cache, row⟩ := cache
    constructor
    case own => exact own
    all_goals rw [cache, row]
    case untouched => exact fits.untouched
    case idle => exact fits.idle
    case new => exact fits.new
    case there => exact fits.there
  | ok =>
    rw [saved] at cache
    obtain ⟨cache, row⟩ := cache
    by_cases writes : d.session.tutorials.Writes (store.words? d.outside.world)
    · simp only [if_pos writes] at row ⊢
      constructor
      case own => exact own
      all_goals rw [cache, row]
      case untouched => exact fun _ _ _ => rfl
      case idle => exact fun _ _ => rfl
      case new => exact nofun
      case there => exact fun _ _ => rfl
    · simp only [if_neg writes] at row ⊢
      have loaded : d.session.tutorials.state ≠ .new := fun new => writes (.inl new)
      -- With a row there is nothing that had to be stored, so the cache is as it was loaded.
      have whole : (store.words? d.outside.world).isSome →
          d.session.tutorials.flags = tally.basis (store.words? d.outside.world) := by
        intro there
        refine fits.idle ?_ there
        cases state : d.session.tutorials.state with
        | unchanged => rfl
        | changed => exact absurd (.inr ⟨state, there⟩) writes
        | new => exact absurd state loaded
      constructor
      case own => exact own
      all_goals rw [cache, row]
      case untouched =>
        intro written i _
        exact congrArg (·[i]) (whole (written.resolve_left nofun))
      case idle => exact fun _ => whole
      case new => exact nofun
      case there => exact fun together _ => fits.there together loaded

theorem Fits.outside {d : LiveSession W} {tally : Tally} (fits : tally.Fits store d)
    (change : W → W) (keeps : ∀ world, store.words? (change world) = store.words? world) :
    ((TutorialStep.outside change keeps).count d tally).Fits store
      ((TutorialStep.outside change keeps).run d) := by
  have row : store.words? ((TutorialStep.outside change keeps).run d).outside.world =
      store.words? d.outside.world := keeps _
  constructor
  case own => exact fits.own
  all_goals rw [row]
  case untouched => exact fits.untouched
  case idle => exact fits.idle
  case new => exact fits.new
  case there => exact fits.there

theorem Fits.step {d : LiveSession W} {tally : Tally} (fits : tally.Fits store d)
    (step : TutorialStep store) : (step.count d tally).Fits store (step.run d) := by
  cases step with
  | load => exact fits.load
  | set index value => exact fits.set index value
  | save => exact fits.save
  | outside change keeps => exact fits.outside change keeps

theorem Fits.run {now : LiveSession W × Tally} (fits : now.2.Fits store now.1)
    (steps : List (TutorialStep store)) :
    (TutorialStep.runAll steps now).2.Fits store (TutorialStep.runAll steps now).1 := by
  induction steps generalizing now with
  | nil => exact fits
  | cons step steps ih => exact ih (fits.step step)

/-- A session begins with nothing to be stored, and the tally fits once a load was tried. -/
theorem fits_first_load (store : TutorialStore sv.collaborators account) {d : LiveSession W}
    (own : d.session.account = account) (fresh : d.session.tutorials = {}) :
    ((TutorialStep.load : TutorialStep store).count d {}).Fits store
      ((TutorialStep.load : TutorialStep store).run d) := by
  -- The words of a fresh session are as a load leaves them that has just failed.
  have failed : Tally.Fits store d { left := some noProgress } := by
    constructor
    case own => exact own
    all_goals rw [fresh]
    case untouched => exact fun _ _ _ => rfl
    case idle => exact fun _ _ => rfl
    case new => exact nofun
    case there => exact nofun
  have loaded := failed.load
  simp only [TutorialStep.count] at loaded ⊢
  cases answer : (d.loadTutorials sv).1 with
  | ok =>
    rw [answer] at loaded
    exact loaded
  | error e =>
    rw [answer] at loaded
    exact loaded

end Tally

end

/-! ## What a save keeps -/

namespace LiveSession

/-- In every run that begins with an attempt to load, whatever calls fail and whatever rows
cannot be read: a save that succeeds keeps every word that was not to be changed since the
last load or save that succeeded, exactly unless it writes the row, a load has failed since
cache and row were last brought together, and what that load left of such a word is not
what is stored. -/
theorem progress_kept_iff (sv : Services W) (account : Account)
    (store : TutorialStore sv.collaborators account.id) (socket : SocketId) (birth : Instant)
    (outside : Outside W) (steps : List (TutorialStep store)) :
    let start := create sv account socket birth outside
    let now := TutorialStep.runAll (.load :: steps) (start, {})
    let d := now.1
    let tally := now.2
    let saved := d.saveTutorials sv
    saved.1 = .ok () →
    ((∀ i : Fin 8, i.val ∉ tally.touched →
        (store.words saved.2.outside.world)[i] = (store.words d.outside.world)[i]) ↔
      ¬ ∃ left, tally.left = some left ∧
        d.session.tutorials.Writes (store.words? d.outside.world) ∧
        ∃ i : Fin 8, i.val ∉ tally.touched ∧ left[i] ≠ (store.words d.outside.world)[i]) := by
  intro start now d tally saved succeeded
  have fits : tally.Fits store d := (Tally.fits_first_load store rfl rfl).run steps
  obtain ⟨-, cache⟩ := saveTutorials_spec store fits.own fits.new
  have answer : (d.saveTutorials sv).1 = .ok () := succeeded
  rw [answer] at cache
  have row : store.words? saved.2.outside.world = _ := cache.2
  -- A save that writes nothing loses nothing.
  by_cases writes : d.session.tutorials.Writes (store.words? d.outside.world)
  · have written : d.session.tutorials.state = .new ∨ (store.words? d.outside.world).isSome :=
      writes.imp_right And.right
    rw [if_pos writes] at row
    have after : store.words saved.2.outside.world = d.session.tutorials.flags := by
      rw [TutorialStore.words, row, Option.getD_some]
    rw [after]
    -- What is written of untouched words is what a failed load has left, if one has.
    have basis := fits.untouched written
    cases left : tally.left with
    | none =>
      simp only [Tally.basis, left, Option.getD_none] at basis
      exact iff_of_true basis nofun
    | some words =>
      simp only [Tally.basis, left, Option.getD_some] at basis
      constructor
      · rintro keeps ⟨_, same, _, i, fresh, differs⟩
        cases same
        exact differs ((basis i fresh).symm.trans (keeps i fresh))
      · intro kept i fresh
        refine Decidable.byContradiction fun differs => kept ⟨words, rfl, writes, i, fresh, ?_⟩
        rwa [← basis i fresh]
  · rw [if_neg writes] at row
    have same : store.words saved.2.outside.world = store.words d.outside.world :=
      congrArg (·.getD noProgress) row
    rw [same]
    exact iff_of_true (fun _ _ => rfl) fun ⟨_, _, written, _⟩ => writes written

end LiveSession

namespace Rehearsal

/-- A character database with nothing but the row of one account. It can be cut off. -/
structure Shelf where
  words? : Option TutorialFlags := none
  cutOff : Bool := false
  deriving DecidableEq

namespace Shelf

def react (shelf : Shelf) : Effect → Shelf
  | .database .character (.execute (.updateTutorials _ flags)) =>
    if shelf.cutOff then shelf else { shelf with words? := shelf.words?.map fun _ => flags }
  | .database .character (.execute (.insertTutorials _ flags)) =>
    if shelf.cutOff then shelf else { shelf with words? := some flags }
  | _ => shelf

/-- Surroundings with such a database. -/
def collaborators : Collaborators Shelf :=
  { socket := fun _ _ => ⟨false, ⟨[]⟩, "", []⟩
    character := fun _ _ => Probe.view {}
    regionOf := fun _ _ => none
    unixTime := fun _ => 0
    saving := fun _ _ => .ok ()
    calling := fun shelf _ _ => if shelf.cutOff then .error (.unavailable "cut off") else .ok ()
    rows := fun shelf _ _ =>
      if shelf.cutOff then .error (.unavailable "cut off")
      else .ok (shelf.words?.map fun words => [words.toList.map .u32])
    react }

/-- What sessions in such surroundings share. -/
def services : Services Shelf := { collaborators }

theorem holds_toList (words : TutorialFlags) : Row.Holds (words.toList.map .u32) words := by
  intro i
  simp only [Row.u32, List.getElem?_map, Vector.getElem?_toList, Fin.is_lt, getElem?_pos,
    Option.map_some]
  rfl

/-- The shelf is a store. -/
def store (account : AccountId) : TutorialStore services.collaborators account where
  words? := Shelf.words?
  answered := by
    intro shelf
    cases off : shelf.cutOff with
    | true => simp only [services, collaborators, off, if_true, Tutorials.Faithful]
    | false =>
      simp only [services, collaborators, off, Bool.false_eq_true, if_false]
      cases shelf.words? with
      | none => rfl
      | some words => exact .inr (.inl ⟨_, words, rfl, rfl, holds_toList words⟩)
  queried := fun _ => rfl
  failed := by
    intro shelf statement error failed
    have off : shelf.cutOff = true := by
      cases on : shelf.cutOff with
      | true => rfl
      | false => simp [services, collaborators, on] at failed
    cases statement <;> simp [services, collaborators, react, off]
  updated := by
    intro shelf flags called
    have on : ¬ shelf.cutOff = true := by
      intro off
      simp [services, collaborators, off] at called
    simp [services, collaborators, react, on]
  inserted := by
    intro shelf flags _ called
    have on : ¬ shelf.cutOff = true := by
      intro off
      simp [services, collaborators, off] at called
    simp [services, collaborators, react, on]

/-- Whoever cuts the database off, or reconnects it, leaves the row alone. -/
def switch (cutOff : Bool) : TutorialStep (store ⟨1⟩) :=
  .outside (fun shelf => { shelf with cutOff }) fun _ => rfl

/-- A session of the account, in surroundings where all words are stored. -/
def opening (cutOff : Bool) : LiveSession Shelf :=
  .create services ⟨⟨1⟩, .player, 2, .enUs, ⟨[]⟩⟩ ⟨0⟩ 0
    ⟨⟨some #v[1, 2, 3, 4, 5, 6, 7, 8], cutOff⟩, []⟩

end Shelf

end Rehearsal

namespace LiveSession

open Rehearsal

/-- A load, a load that fails when the words have been changed, a load that succeeds again,
one change and a save: seven words are kept. -/
theorem progress_kept_iff_reloaded :
    let steps : List (TutorialStep (Shelf.store ⟨1⟩)) :=
      [.set 3 30, Shelf.switch true, .load, Shelf.switch false, .load, .set 0 9]
    let now := TutorialStep.runAll (.load :: steps) (Shelf.opening false, {})
    let saved := now.1.saveTutorials Shelf.services
    saved.1 = .ok () ∧ now.2.touched = [0] ∧
      ∀ i : Fin 8, i.val ∉ now.2.touched →
        ((Shelf.store ⟨1⟩).words saved.2.outside.world)[i] =
          ((Shelf.store ⟨1⟩).words now.1.outside.world)[i] := by
  intro steps now saved
  have succeeded : saved.1 = .ok () := rfl
  have exact_iff := progress_kept_iff Shelf.services ⟨⟨1⟩, .player, 2, .enUs, ⟨[]⟩⟩
    (Shelf.store ⟨1⟩) ⟨0⟩ 0 ⟨⟨some #v[1, 2, 3, 4, 5, 6, 7, 8], false⟩, []⟩ steps succeeded
  have together : now.2.left = none := by decide +kernel
  refine ⟨succeeded, by decide +kernel, exact_iff.mpr ?_⟩
  rintro ⟨left, failed, _⟩
  exact absurd (failed.symm.trans together) (Option.some_ne_none left)

/-- A load that fails, one change and a save: seven words are gone. -/
theorem progress_lost :
    let steps : List (TutorialStep (Shelf.store ⟨1⟩)) := [Shelf.switch false, .set 0 9]
    let now := TutorialStep.runAll (.load :: steps) (Shelf.opening true, {})
    let saved := now.1.saveTutorials Shelf.services
    saved.1 = .ok () ∧ now.2.touched = [0] ∧
      now.1.outside.world.words? = some #v[1, 2, 3, 4, 5, 6, 7, 8] ∧
      saved.2.outside.world.words? = some #v[9, 0, 0, 0, 0, 0, 0, 0] := by
  refine ⟨rfl, ?_⟩
  decide +kernel

end LiveSession

end GameRealm
