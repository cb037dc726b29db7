import GameRealm.Session.Lifecycle

/-!
# Account data, tutorials and addons of a session

The caches of a session, filled from the character database and written back to
it.
-/

namespace GameRealm.LiveSession

def call (sv : Services W) (db : Database) (call : DatabaseCall) (d : LiveSession W) :
    Except PersistenceError Unit × LiveSession W :=
  let (result, outside) := d.outside.call sv.collaborators db call
  (result, { d with outside })

/-- Queries the character database. -/
def query (sv : Services W) (statement : Statement) (d : LiveSession W) :
    Except PersistenceError (Option (List Row)) × LiveSession W :=
  let (result, outside) := d.outside.query sv.collaborators .character statement
  (result, { d with outside })

/-! ## Account data -/

/-- Empties the slots of a mask and fills them from rows. -/
def loadAccountData (sv : Services W) (mask : UInt32) (rows : List Row) (d : LiveSession W) :
    LiveSession W :=
  let (cache, notices) := d.session.accountData.load mask rows
  (d.modify fun s => { s with accountData := cache }).logAll sv notices

/-- Loads the slots of a mask with a query. -/
def fetchAccountData (sv : Services W) (mask : UInt32) (statement : Statement) (d : LiveSession W) :
    Except PersistenceError Unit × LiveSession W :=
  match d.query sv statement with
  | (.error e, d) => (.error e, d)
  | (.ok rows, d) => (.ok (), d.loadAccountData sv mask (rows.getD []))

def loadGlobalAccountData (sv : Services W) (d : LiveSession W) :
    Except PersistenceError Unit × LiveSession W :=
  d.fetchAccountData sv AccountDataCache.globalMask (.selectAccountData d.session.account)

/-- Loads the slots of the last attached character, if there has been one. -/
def loadCharacterAccountData (sv : Services W) (d : LiveSession W) :
    Except PersistenceError Unit × LiveSession W :=
  match d.session.characterGuid with
  | none => (.ok (), d)
  | some guid =>
    d.fetchAccountData sv AccountDataCache.perCharacterMask
      (.selectCharacterAccountData guid)

/-- Runs two statements, the second only if the first succeeds. -/
def executeBoth (sv : Services W) (first second : Statement) (d : LiveSession W) :
    Except PersistenceError Unit × LiveSession W :=
  match d.call sv .character (.execute first) with
  | (.error e, d) => (.error e, d)
  | (.ok (), d) => d.call sv .character (.execute second)

/-- Runs two statements in a transaction. When one fails the transaction is
rolled back, and the first failure is the answer. -/
def transact (sv : Services W) (first second : Statement) (d : LiveSession W) :
    Except PersistenceError Unit × LiveSession W :=
  match d.call sv .character .begin with
  | (.error e, d) => (.error e, d)
  | (.ok (), d) =>
    match d.executeBoth sv first second with
    | (.ok (), d) => d.call sv .character .commit
    | (.error e, d) =>
      match d.call sv .character .rollback with
      | (.ok (), d) => (.error e, d)
      | (.error _, d) => (.error e, d.log sv .rollbackFailed)

/-- The statements that replace a blob: of the account, or of the last attached
character. -/
def replaceStatements? (session : Session) (type : Nat) (time : UInt64) (data : String) :
    Option (Statement × Statement) :=
  let word := UInt32.ofNat type
  if AccountDataCache.inMask AccountDataCache.globalMask type then
    some (.deleteAccountData session.account word,
      .insertAccountData session.account word time data)
  else
    session.characterGuid.map fun guid =>
      (.deleteCharacterAccountData guid word,
        .insertCharacterAccountData guid word time data)

/-- Caches one blob and stores it. A blob of a character that is not known is
passed over. -/
def setAccountData (sv : Services W) (type : Nat) (time : UInt64) (data : String)
    (d : LiveSession W) : Except SessionError Unit × LiveSession W :=
  if h : type < 8 then
    match replaceStatements? d.session type time data with
    | none => (.ok (), d.log sv (.noCharacterForAccountData type))
    | some (delete, insert) =>
      let d := d.modify fun s =>
        { s with accountData := s.accountData.set type { time, data } h }
      match d.transact sv delete insert with
      | (.ok (), d) => (.ok (), d)
      | (.error e, d) => (.error (.persistence e), d)
  else (.error (.invalidAccountDataType type), d)

/-- Sends the write times of the slots of a mask. -/
def sendAccountDataTimes (sv : Services W) (mask : UInt32) (d : LiveSession W) : LiveSession W :=
  d.send sv (.accountDataTimes (sv.collaborators.unixTime d.outside.world) mask
    (d.session.accountData.times mask))

/-! ## Tutorials -/

/-- Loads the words of tutorial progress. -/
def loadTutorials (sv : Services W) (d : LiveSession W) :
    Except PersistenceError Unit × LiveSession W :=
  let (answer, d) := d.query sv (.selectTutorials d.session.account)
  let (tutorials, result) := d.session.tutorials.load answer
  (result, d.modify fun s => { s with tutorials })

/-- Stores the words of tutorial progress, if they have to be stored. -/
def saveTutorials (sv : Services W) (d : LiveSession W) :
    Except PersistenceError Unit × LiveSession W :=
  match d.session.tutorials.statement? d.session.account with
  | none => (.ok (), d)
  | some statement =>
    match d.call sv .character (.execute statement) with
    | (.error e, d) => (.error e, d)
    | (.ok (), d) =>
      (.ok (), d.modify fun s => { s with tutorials := { s.tutorials with state := .unchanged } })

/-! ## Addons -/

/-- Reads the manifest in an envelope. Its addons are remembered until they are
acknowledged; the answer is how many there are. -/
def readAddons (sv : Services W) (env : Envelope) (d : LiveSession W) :
    (Except SessionError Nat × Envelope) × LiveSession W :=
  let (reading, env) := AddonManifest.read env
  let d := d.logAll sv reading.notices
  match reading.result with
  | .ok addons =>
    ((.ok addons.length, env), d.modify fun s => { s with addons := s.addons ++ addons })
  | .error e => ((.error e, env), d.log sv .addonsRefused)

/-- Acknowledges every remembered addon, and forgets them. -/
def sendAddonsInfo (sv : Services W) (d : LiveSession W) : LiveSession W :=
  let addons := d.session.addons
  (d.modify fun s => { s with addons := [] }).send sv
    (.addonInfo (addons.map Addon.acknowledged) 0)

end GameRealm.LiveSession
