import GameRealm.Persistence

/-!
# Tutorial progress

Eight words of flags, stored in one row per account. The cache remembers whether
that row has to be updated, to be inserted, or neither.
-/

namespace GameRealm

/-- How the cached flags relate to the stored row. -/
inductive TutorialState where
  | unchanged
  | changed
  /-- No row is stored yet. -/
  | new
  deriving DecidableEq, Repr, Inhabited

structure Tutorials where
  flags : TutorialFlags := Vector.replicate 8 0
  state : TutorialState := .unchanged
  deriving DecidableEq, Repr, Inhabited

namespace Tutorials

/-- Fills the words from the columns of a row, up to the first that cannot be read. -/
def loadRow (row : Row) : List (Fin 8) → TutorialFlags →
    TutorialFlags × Except PersistenceError Unit
  | [], flags => (flags, .ok ())
  | i :: rest, flags =>
    match Row.u32 row i with
    | .error e => (flags, .error e)
    | .ok word => loadRow row rest (flags.set i word i.isLt)

/-- Fills the words from every row in turn, up to the first column that cannot
be read. -/
def loadRows : List Row → TutorialFlags → TutorialFlags × Except PersistenceError Unit
  | [], flags => (flags, .ok ())
  | row :: rows, flags =>
    match loadRow row (List.finRange 8) flags with
    | (flags, .error e) => (flags, .error e)
    | (flags, .ok ()) => loadRows rows flags

/-- The cache after a load that was answered as given. The words are reset in any
case; the state is only known after an answer that can be read. -/
def load (tutorials : Tutorials) (answer : Except PersistenceError (Option (List Row))) :
    Tutorials × Except PersistenceError Unit :=
  let cleared := { tutorials with flags := Vector.replicate 8 0 }
  match answer with
  | .error e => (cleared, .error e)
  | .ok none => ({ cleared with state := .new }, .ok ())
  | .ok (some []) => ({ cleared with state := .new }, .ok ())
  | .ok (some rows) =>
    match loadRows rows cleared.flags with
    | (flags, .error e) => ({ cleared with flags }, .error e)
    | (flags, .ok ()) => ({ flags, state := .unchanged }, .ok ())

/-- Changes one word. A word that is not there or that stays as it is changes nothing. -/
def setFlag (tutorials : Tutorials) (index : Nat) (value : UInt32) : Tutorials :=
  if h : index < 8 then
    if tutorials.flags[index] = value then tutorials
    else {
      flags := tutorials.flags.set index value h
      state := if tutorials.state = .unchanged then .changed else tutorials.state }
  else tutorials

/-- The statement that stores the words, if they have to be stored. -/
def statement? (tutorials : Tutorials) (account : AccountId) : Option Statement :=
  match tutorials.state with
  | .unchanged => none
  | .changed => some (.updateTutorials account tutorials.flags)
  | .new => some (.insertTutorials account tutorials.flags)

end Tutorials

end GameRealm
