import GameRealm.Proofs.LogoutOrder
import GameRealm.Proofs.Subject

/-!
# Transactions around account data

A blob of account data is stored in a transaction: the old row is deleted and the new one
inserted. Any call to the database may fail. This module follows what a session says to the
character database and what it is answered:

1. `Dialogue` pairs every call with its answer, and `Dialogue.leavesOpen` tells from a
   dialogue whether a transaction is open after it;
2. `Transaction` lists the ways in which two statements in a transaction may go, and
   `leads_of_transact` says that there are no others;
3. `BlobOwner` is whose a blob is, and `setAccountData_of_owned` says what becomes of a blob
   that is somebody's;
4. `leavesOpen_blobDialogue`: over a run of any length, it is only ever a commit that fails
   which leaves a transaction open;
5. `transactions_closed_iff`: a transaction that begins is ended before anything else
   happens, with one exception. When everything succeeds but the commit, the transaction is
   not rolled back (`transaction_left_open`).
-/

namespace GameRealm

/-! ## Dialogues -/

/-- What a call that returns no rows is answered. -/
abbrev Reply := Except PersistenceError Unit

/-- Calls to the character database, one after the other, each with its answer. -/
abbrev Dialogue := List (DatabaseCall × Reply)

namespace Dialogue

/-- What is said by an effect: a call that returns no rows, and its answer. -/
def ofEffect (co : Collaborators W) (world : W) : Effect → Dialogue
  | .database .character (.query _) => []
  | .database .character call => [(call, co.calling world .character call)]
  | _ => []

/-- What is said by effects. Each call is answered in the state in which it is made. -/
def ofEffects (co : Collaborators W) : W → List Effect → Dialogue
  | _, [] => []
  | world, effect :: effects =>
    ofEffect co world effect ++ ofEffects co (co.react world effect) effects

/-- What has been said when effects have led from one state to another. -/
def between (co : Collaborators W) (before after : Outside W) : Dialogue :=
  ofEffects co before.world (after.trace.drop before.trace.length)

/-- Whether a transaction is open after one more call. Once it is to be rolled back it counts
as ended. -/
def isOpen (before : Bool) : DatabaseCall × Reply → Bool
  | (.begin, .ok ()) => true
  | (.commit, .ok ()) => false
  | (.rollback, _) => false
  | _ => before

/-- Whether a transaction is open when all is said. -/
def leavesOpen (dialogue : Dialogue) : Bool := dialogue.foldl isOpen false

/-- A transaction was to be committed, and that failed. -/
def CommitFails (dialogue : Dialogue) : Prop := ∃ error, (.commit, .error error) ∈ dialogue

theorem ofEffects_append (co : Collaborators W) (world : W) (first second : List Effect) :
    ofEffects co world (first ++ second) =
      ofEffects co world first ++ ofEffects co (co.reactAll world first) second := by
  induction first generalizing world with
  | nil => rfl
  | cons effect effects ih =>
    rw [List.cons_append, ofEffects, ofEffects, ih, List.append_assoc]
    rfl

end Dialogue

open Dialogue

/-- One state of the surroundings leads to another by effects that say this. -/
def Outside.Leads (co : Collaborators W) (before : Outside W) (said : Dialogue)
    (after : Outside W) : Prop :=
  ∃ effects, after = before.emitAll co effects ∧ ofEffects co before.world effects = said

namespace Outside.Leads

variable {co : Collaborators W} {before after later : Outside W} {said more : Dialogue}

theorem between_eq (leads : Leads co before said after) : between co before after = said := by
  obtain ⟨effects, rfl, rfl⟩ := leads
  rw [between, Outside.trace_emitAll, List.drop_left]

theorem trans (first : Leads co before said after) (second : Leads co after more later) :
    Leads co before (said ++ more) later := by
  obtain ⟨effects, rfl, rfl⟩ := first
  obtain ⟨others, rfl, rfl⟩ := second
  refine ⟨effects ++ others, (emitAll_append ..).symm, ?_⟩
  rw [ofEffects_append, Outside.world_emitAll]

theorem refl : Leads co before [] before := ⟨[], rfl, rfl⟩

end Outside.Leads

/-! ## One transaction -/

/-- What may be said for two statements in a transaction, and what is answered then. -/
inductive Transaction (first second : Statement) : Dialogue → Reply → Prop where
  /-- It does not begin. -/
  | refused (error : PersistenceError) :
      Transaction first second [(.begin, .error error)] (.error error)
  /-- The first statement fails: the second is not tried. -/
  | firstFails (error : PersistenceError) (rollback : Reply) :
      Transaction first second
        [(.begin, .ok ()), (.execute first, .error error), (.rollback, rollback)] (.error error)
  | secondFails (error : PersistenceError) (rollback : Reply) :
      Transaction first second
        [(.begin, .ok ()), (.execute first, .ok ()), (.execute second, .error error),
          (.rollback, rollback)] (.error error)
  /-- Both statements are executed, but they cannot be committed. Nothing else is tried. -/
  | commitFails (error : PersistenceError) :
      Transaction first second
        [(.begin, .ok ()), (.execute first, .ok ()), (.execute second, .ok ()),
          (.commit, .error error)] (.error error)
  | committed :
      Transaction first second
        [(.begin, .ok ()), (.execute first, .ok ()), (.execute second, .ok ()),
          (.commit, .ok ())] (.ok ())

namespace Transaction

variable {first second : Statement} {said : Dialogue} {reply : Reply}

theorem of_ok (transaction : Transaction first second said (.ok ())) :
    said = [(.begin, .ok ()), (.execute first, .ok ()), (.execute second, .ok ()),
      (.commit, .ok ())] := by
  cases transaction
  rfl

/-- One that has begun is ended, exactly if it is not the commit that fails. -/
theorem ended_iff (transaction : Transaction first second said reply)
    (begun : (.begin, .ok ()) ∈ said) :
    ((.commit, .ok ()) ∈ said ∨ ∃ rollback, (.rollback, rollback) ∈ said) ↔
      ¬ said.CommitFails := by
  cases transaction with
  | refused error => simp at begun
  | firstFails error rollback =>
    exact iff_of_true (.inr ⟨rollback, by simp⟩) (by simp [CommitFails])
  | secondFails error rollback =>
    exact iff_of_true (.inr ⟨rollback, by simp⟩) (by simp [CommitFails])
  | commitFails error =>
    exact iff_of_false (by simp) (not_not_intro ⟨error, by simp⟩)
  | committed => exact iff_of_true (.inl (by simp)) (by simp [CommitFails])

/-- If none was open before, one is afterwards exactly if the commit fails. -/
theorem leavesOpen_iff (transaction : Transaction first second said reply) :
    said.leavesOpen = true ↔ said.CommitFails := by
  cases transaction with
  | commitFails error => exact iff_of_true rfl ⟨error, by simp⟩
  | _ => exact iff_of_false Bool.false_ne_true (by simp [CommitFails])

end Transaction

namespace LiveSession

variable {sv : Services W}

theorem leads_log (d : LiveSession W) (notice : Notice) :
    d.outside.Leads sv.collaborators [] (d.log sv notice).outside :=
  ⟨[.log notice], rfl, rfl⟩

theorem leads_of_call {d e : LiveSession W} {call : DatabaseCall} {reply : Reply}
    (called : d.call sv .character call = (reply, e))
    (command : ∀ statement, call ≠ .query statement) :
    d.outside.Leads sv.collaborators [(call, reply)] e.outside := by
  cases called
  refine ⟨[.database .character call], rfl, ?_⟩
  cases call with
  | query statement => exact absurd rfl (command statement)
  | _ => rfl

/-- The second statement is tried only if the first one succeeds. -/
theorem leads_of_executeBoth {d e : LiveSession W} {first second : Statement} {reply : Reply}
    (executed : d.executeBoth sv first second = (reply, e)) :
    ∃ said, d.outside.Leads sv.collaborators said e.outside ∧
      ((∃ error, reply = .error error ∧ said = [(.execute first, reply)]) ∨
        said = [(.execute first, .ok ()), (.execute second, reply)]) := by
  unfold executeBoth at executed
  split at executed
  · next error _ called =>
    cases executed
    exact ⟨_, leads_of_call called nofun, .inl ⟨error, rfl, rfl⟩⟩
  · next called =>
    exact ⟨_, (leads_of_call called nofun).trans (leads_of_call executed nofun), .inr rfl⟩

theorem leads_of_transact {d e : LiveSession W} {first second : Statement} {reply : Reply}
    (done : d.transact sv first second = (reply, e)) :
    ∃ said, d.outside.Leads sv.collaborators said e.outside ∧
      Transaction first second said reply := by
  unfold transact at done
  split at done
  · next error _ opened =>
    cases done
    exact ⟨_, leads_of_call opened nofun, .refused error⟩
  · next opened =>
    have begun := leads_of_call opened nofun
    split at done
    · next executed =>
      obtain ⟨_, executing, ⟨_, ⟨⟩, _⟩ | rfl⟩ := leads_of_executeBoth executed
      have leads := begun.trans (executing.trans (leads_of_call done nofun))
      cases reply with
      | ok => exact ⟨_, leads, .committed⟩
      | error error => exact ⟨_, leads, .commitFails error⟩
    · next error d executed =>
      -- Whatever the rollback is answered, it has been tried.
      obtain ⟨rfl, rollback, rolled⟩ : reply = .error error ∧ ∃ rollback,
          d.outside.Leads sv.collaborators [(.rollback, rollback)] e.outside := by
        split at done
        · next called =>
          cases done
          exact ⟨rfl, _, leads_of_call called nofun⟩
        · next called =>
          cases done
          exact ⟨rfl, _, (leads_of_call called nofun).trans (leads_log _ _)⟩
      obtain ⟨_, executing, ⟨_, _, rfl⟩ | rfl⟩ := leads_of_executeBoth executed
      · exact ⟨_, begun.trans (executing.trans rolled), .firstFails error rollback⟩
      · exact ⟨_, begun.trans (executing.trans rolled), .secondFails error rollback⟩

end LiveSession

/-! ## Whose a blob is -/

/-- Whom a blob is stored for. -/
inductive BlobOwner where
  | account (id : AccountId)
  | character (guid : PlayerGuid)
  deriving DecidableEq, Repr

namespace BlobOwner

/-- The blobs of the types 0, 2 and 4 are the account's. The others are the character's, and
nobody's if no character is known. -/
def of? (account : AccountId) (last : Option PlayerGuid) (type : Nat) : Option BlobOwner :=
  if type = 0 ∨ type = 2 ∨ type = 4 then some (.account account) else last.map .character

def delete (type : Nat) : BlobOwner → Statement
  | account id => .deleteAccountData id (UInt32.ofNat type)
  | character guid => .deleteCharacterAccountData guid (UInt32.ofNat type)

def insert (type : Nat) (time : UInt64) (data : String) : BlobOwner → Statement
  | account id => .insertAccountData id (UInt32.ofNat type) time data
  | character guid => .insertCharacterAccountData guid (UInt32.ofNat type) time data

end BlobOwner

theorem inMask_globalMask {type : Nat} (valid : type < 8) :
    AccountDataCache.inMask AccountDataCache.globalMask type =
      decide (type = 0 ∨ type = 2 ∨ type = 4) := by
  decide +revert

theorem LiveSession.replaceStatements?_eq (session : Session) {type : Nat} (valid : type < 8)
    (time : UInt64) (data : String) :
    LiveSession.replaceStatements? session type time data =
      (BlobOwner.of? session.account session.characterGuid type).map fun owner =>
        (owner.delete type, owner.insert type time data) := by
  unfold LiveSession.replaceStatements? BlobOwner.of?
  simp only [inMask_globalMask valid, decide_eq_true_eq]
  split
  · rfl
  · cases session.characterGuid <;> rfl

/-! ## One blob -/

namespace LiveSession

variable (sv : Services W) (d : LiveSession W) {type : Nat} (time : UInt64) (data : String)

theorem setAccountData_of_invalid (invalid : 8 ≤ type) :
    d.setAccountData sv type time data = (.error (.invalidAccountDataType type), d) :=
  dif_neg (Nat.not_lt.mpr invalid)

theorem setAccountData_of_unowned (valid : type < 8)
    (unowned : BlobOwner.of? d.session.account d.session.characterGuid type = none) :
    d.setAccountData sv type time data = (.ok (), d.log sv (.noCharacterForAccountData type)) := by
  have statements := replaceStatements?_eq d.session valid time data
  rw [unowned] at statements
  unfold setAccountData
  rw [dif_pos valid, statements]
  rfl

/-- The blob of an owner is cached, and its row replaced in a transaction. -/
theorem setAccountData_of_owned {owner : BlobOwner} (valid : type < 8)
    (owned : BlobOwner.of? d.session.account d.session.characterGuid type = some owner) :
    let stored := d.setAccountData sv type time data
    ∃ said reply, d.outside.Leads sv.collaborators said stored.2.outside ∧
      Transaction (owner.delete type) (owner.insert type time data) said reply ∧
      stored.1 = reply.mapError .persistence ∧
      stored.2.own =
        ({ d.session with accountData := d.session.accountData.set type ⟨time, data⟩ valid },
          d.inbox) := by
  intro stored
  have statements := replaceStatements?_eq d.session valid time data
  rw [owned] at statements
  -- The cache is changed before the database is asked, whatever that answers.
  let cached : LiveSession W := d.modify fun s =>
    { s with accountData := s.accountData.set type ⟨time, data⟩ valid }
  let done := cached.transact sv (owner.delete type) (owner.insert type time data)
  obtain ⟨said, leads, transaction⟩ := leads_of_transact (rfl : done = (done.1, done.2))
  have answer : stored = (done.1.mapError .persistence, done.2) := by
    simp only [stored, setAccountData, dif_pos valid, statements, Option.map_some]
    split <;> next transacted =>
      rw [show done = _ from transacted]
      rfl
  refine ⟨said, done.1, ?_, transaction, congrArg Prod.fst answer, ?_⟩
  · rw [answer]
    exact leads
  · rw [answer]
    exact Prod.ext_iff.mpr (frame_transact sv cached _ _)

end LiveSession

/-! ## The blobs of a run -/

namespace Dialogue

theorem leavesOpen_append (first second : Dialogue) :
    (first ++ second).leavesOpen = second.foldl isOpen first.leavesOpen :=
  List.foldl_append

theorem commitFails_append (first second : Dialogue) :
    (first ++ second).CommitFails ↔ first.CommitFails ∨ second.CommitFails := by
  simp only [CommitFails, List.mem_append, exists_or]

end Dialogue

/-- What is said by an event, if that is the storing of a blob. -/
def Event.blobDialogue (sv : Services W) (d : LiveSession W) : Event W → Dialogue
  | perform (.setAccountData type time data) =>
    between sv.collaborators d.outside (d.setAccountData sv type time data).2.outside
  | _ => []

/-- What is said in the course of events to store blobs. -/
def LiveSession.blobDialogue (sv : Services W) : List (Event W) → LiveSession W → Dialogue
  | [], _ => []
  | event :: events, d =>
    event.blobDialogue sv d ++ blobDialogue sv events (event.apply sv d)

section
variable {sv : Services W}

theorem Event.leavesOpen_blobDialogue (event : Event W) (d : LiveSession W) :
    (event.blobDialogue sv d).leavesOpen = true ↔ (event.blobDialogue sv d).CommitFails := by
  have silent : ∀ {before after : Outside W}, before.Leads sv.collaborators [] after →
      ((between sv.collaborators before after).leavesOpen = true ↔
        (between sv.collaborators before after).CommitFails) := by
    intro before after leads
    rw [leads.between_eq]
    exact iff_of_false Bool.false_ne_true (by simp [CommitFails])
  unfold blobDialogue
  split
  · next type time data =>
    by_cases valid : type < 8
    · cases owned : BlobOwner.of? d.session.account d.session.characterGuid type with
      | none =>
        rw [d.setAccountData_of_unowned sv time data valid owned]
        exact silent (LiveSession.leads_log _ _)
      | some owner =>
        obtain ⟨said, reply, leads, transaction, _⟩ :=
          d.setAccountData_of_owned sv time data valid owned
        rw [leads.between_eq]
        exact transaction.leavesOpen_iff
    · rw [d.setAccountData_of_invalid sv time data (Nat.not_lt.mp valid)]
      exact silent .refl
  · exact iff_of_false Bool.false_ne_true (by simp [CommitFails])

/-- No transaction is open between two blobs exactly if no commit fails. -/
theorem LiveSession.leavesOpen_blobDialogue (events : List (Event W)) (d : LiveSession W) :
    (∀ n, (blobDialogue sv (events.take n) d).leavesOpen = false) ↔
      ¬ (blobDialogue sv events d).CommitFails := by
  induction events generalizing d with
  | nil =>
    refine iff_of_true (fun n => ?_) ?_
    · rw [List.take_nil]
      rfl
    · simp [blobDialogue, CommitFails]
  | cons event events ih =>
    rw [blobDialogue, commitFails_append, ← event.leavesOpen_blobDialogue, not_or, ← ih]
    cases head : (event.blobDialogue sv d).leavesOpen with
    | true =>
      -- The first event alone is a run that leaves a transaction open.
      refine iff_of_false (fun closed => ?_) (by simp)
      have first := closed 1
      rw [List.take_succ_cons, List.take_zero, blobDialogue, blobDialogue, List.append_nil,
        head] at first
      exact Bool.noConfusion first
    | false =>
      -- What follows begins as if nothing had been said before.
      have tail : ∀ n, (blobDialogue sv ((event :: events).take (n + 1)) d).leavesOpen =
          (blobDialogue sv (events.take n) (event.apply sv d)).leavesOpen := by
        intro n
        rw [List.take_succ_cons, blobDialogue, leavesOpen_append, head]
        rfl
      constructor
      · exact fun closed => ⟨Bool.false_ne_true, fun n => (tail n).symm.trans (closed (n + 1))⟩
      · rintro ⟨_, closed⟩ (_ | n)
        · rfl
        · exact (tail n).trans (closed n)

end

namespace LiveSession

/-- In every run, whatever fails: a blob of a type that there is, and whose owner is known,
is cached and stored in a transaction, by deleting the row of that owner and type and
inserting the new one. The owner is the account for the types 0, 2 and 4, and the character
that was attached last for the others. The answer is success only if both statements and the
commit have succeeded. A transaction that has begun is committed or rolled back, exactly if
it is not the commit that fails. So no transaction is open between two blobs of the run
exactly if no commit fails. A type that there is not, and an owner that is not known, leave
the cache and the database alone. -/
theorem transactions_closed_iff (sv : Services W) (account : Account) (socket : SocketId)
    (birth : Instant) (outside : Outside W) (steps : List (SessionStep W)) :
    let start := create sv account socket birth outside
    let events := start.history sv steps
    ((∀ n, (blobDialogue sv (events.take n) start).leavesOpen = false) ↔
      ¬ (blobDialogue sv events start).CommitFails) ∧
    ∀ n type time data, events[n]? = some (.perform (.setAccountData type time data)) →
      let d := start.replay sv (events.take n)
      let stored := d.setAccountData sv type time data
      let said := between sv.collaborators d.outside stored.2.outside
      let last := (attachments (events.take n)).getLast?.map (·.guid)
      (8 ≤ type → stored = (.error (.invalidAccountDataType type), d)) ∧
      ∀ valid : type < 8,
        match BlobOwner.of? account.id last type with
        | none => stored = (.ok (), d.log sv (.noCharacterForAccountData type))
        | some owner =>
          let delete := owner.delete type
          let insert := owner.insert type time data
          ∃ reply, Transaction delete insert said reply ∧
            stored.1 = reply.mapError .persistence ∧
            (stored.1 = .ok () → said = [(.begin, .ok ()), (.execute delete, .ok ()),
              (.execute insert, .ok ()), (.commit, .ok ())]) ∧
            ((.begin, .ok ()) ∈ said →
              (((.commit, .ok ()) ∈ said ∨ ∃ rollback, (.rollback, rollback) ∈ said) ↔
                ¬ said.CommitFails)) ∧
            stored.2.own =
              ({ d.session with
                  accountData := d.session.accountData.set type ⟨time, data⟩ valid },
                d.inbox) := by
  intro start events
  refine ⟨leavesOpen_blobDialogue events start, fun n type time data _ => ?_⟩
  intro d stored said last
  refine ⟨d.setAccountData_of_invalid sv time data, fun valid => ?_⟩
  have own : d.session.account = account.id := account_replay _ start
  have attached : d.session.characterGuid = last :=
    (characterGuid_replay _ start).trans (Option.or_none ..)
  -- A blob belongs to the account, or to the character that was attached last.
  rw [← own, ← attached]
  cases owned : BlobOwner.of? d.session.account d.session.characterGuid type with
  | none => exact d.setAccountData_of_unowned sv time data valid owned
  | some owner =>
    obtain ⟨_, reply, leads, transaction, answer, kept⟩ :=
      d.setAccountData_of_owned sv time data valid owned
    rw [← leads.between_eq] at transaction
    refine ⟨reply, transaction, answer, fun succeeded => ?_, transaction.ended_iff, kept⟩
    cases reply with
    | ok => exact transaction.of_ok
    | error error => rw [answer] at succeeded; cases succeeded

end LiveSession

namespace LiveSession

open Rehearsal

/-- The insertion of a blob of a character fails: the deletion is rolled back with it. -/
theorem transactions_closed_iff_rolled_back :
    let sv := services {} []
    let start := opening sv
    let failure := PersistenceError.unavailable "database is down"
    let events := start.history sv [just (.attach lead),
      just (.outside (·.rig .character "insert_character_account_data" (some failure))),
      just (.setAccountData 1 7 "macros")]
    let d := start.replay sv (events.take 2)
    let stored := d.setAccountData sv 1 7 "macros"
    let said := between sv.collaborators d.outside stored.2.outside
    events[2]? = some (.perform (.setAccountData 1 7 "macros")) ∧
      (.begin, .ok ()) ∈ said ∧ ¬ said.CommitFails ∧
      ((.commit, .ok ()) ∈ said ∨ ∃ rollback, (.rollback, rollback) ∈ said) := by
  intro sv start failure events d stored said
  have stores : events[2]? = some (.perform (.setAccountData 1 7 "macros")) := rfl
  have all : said = [(.begin, .ok ()),
      (.execute (.deleteCharacterAccountData ⟨7⟩ 1), .ok ()),
      (.execute (.insertCharacterAccountData ⟨7⟩ 1 7 "macros"), .error failure),
      (.rollback, .ok ())] := rfl
  have begun : (.begin, .ok ()) ∈ said := by simp [all]
  have commits : ¬ said.CommitFails := by simp [all, CommitFails]
  obtain ⟨_, blobs⟩ := transactions_closed_iff sv _ _ _ _ _
  obtain ⟨_, _, _, _, ended, _⟩ := (blobs 2 1 7 "macros" stores).2 (by decide)
  exact ⟨stores, begun, commits, (ended begun).mpr commits⟩

/-- The commit of a blob fails: nothing is rolled back, and the transaction stays open. -/
theorem transaction_left_open :
    let sv := services {} []
    let start := opening sv
    let failure := PersistenceError.unavailable "database is down"
    let events := start.history sv
      [just (.outside (·.rig .character "commit" (some failure))),
        just (.setAccountData 0 9 "windows")]
    let d := start.replay sv (events.take 1)
    let stored := d.setAccountData sv 0 9 "windows"
    let said := between sv.collaborators d.outside stored.2.outside
    events[1]? = some (.perform (.setAccountData 0 9 "windows")) ∧
      (.begin, .ok ()) ∈ said ∧ (.commit, .ok ()) ∉ said ∧
      (∀ rollback, (.rollback, rollback) ∉ said) ∧
      (blobDialogue sv events start).leavesOpen = true := by
  intro sv start failure events d stored said
  have all : said = [(.begin, .ok ()), (.execute (.deleteAccountData ⟨1⟩ 0), .ok ()),
      (.execute (.insertAccountData ⟨1⟩ 0 9 "windows"), .ok ()), (.commit, .error failure)] :=
    rfl
  exact ⟨rfl, by simp [all], by simp [all], by simp [all], by decide +kernel⟩

end LiveSession

end GameRealm
