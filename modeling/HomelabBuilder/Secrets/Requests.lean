import HomelabBuilder.Foundation.Rows
import HomelabBuilder.Secrets.AssistantSettings
import HomelabBuilder.Secrets.Integration

/-! # Requests on stored secrets

The SQL statements of the settings and integration requests, one at a time. `Save`
updates all columns and inserts the row when it is gone; `Delete` of an integration is
seen as a whole once it commits.
-/

namespace HomelabBuilder.Secrets

open Services (UUID)

inductive Call
  | updateSettings (userID : UUID) (input : UpdateAssistantSettingsInput)
  | deleteKey (userID : UUID)
  | reset (userID : UUID)
  | resolveCredentials (userID : UUID) (forChat : Bool)
  | createIntegration (userID : UUID) (input : IntegrationInput)
  | updateIntegration (userID id : UUID) (input : IntegrationInput)
  | test (userID : UUID) (input : IntegrationTestInput)
  | sync (userID id : UUID)
  | deleteIntegration (userID id : UUID)

inductive Owner
  | settings (userID : UUID)
  | integration (id : UUID)
  deriving DecidableEq

/-- For the record: how many removals of a secret and of its row were committed when a
request read the row. -/
structure Seen where
  removals : Nat
  deletions : Nat
  deriving DecidableEq

inductive Request
  | starting (call : Call)
  | savingSettings (userID : UUID) (loaded : AssistantSettings) (edit : SettingsEdit) (seen : Seen)
  /-- `DeleteKey` before its `Save`. -/
  | deletingKey (userID : UUID) (loaded : AssistantSettings)
  /-- `resolve` before it notes that the key was used. -/
  | notingUse (userID : UUID) (credentials : AssistantSettings.Credentials) (now : Int)
  | inserting (id : UUID) (edit : IntegrationEdit)
  | savingIntegration (id : UUID) (loaded : Integration) (edit : IntegrationEdit) (seen : Seen)
  /-- `Sync` while it reads the cluster. -/
  | fetching (id : UUID)

structure KeyUse where
  userID : UUID
  provider : String
  baseURL : String
  key : String

structure SecretUse where
  userID : UUID
  integrationID : UUID
  baseURL : String
  tokenID : String
  secret : String
  deriving DecidableEq

structure World where
  settings : List (UUID × AssistantSettings) := []
  integrations : List (UUID × Integration) := []
  requests : List (Nat × Request) := []
  /-- Ids of integrations that were inserted; none is made twice. -/
  issued : List UUID := []
  -- For the record: the secrets users entered and those that were decrypted for use.
  keysEntered : List KeyUse := []
  keysReturned : List KeyUse := []
  secretsEntered : List SecretUse := []
  secretsHanded : List SecretUse := []
  -- For the record: what was removed and not entered again, and the removals.
  removed : List (Owner × Sealed) := []
  removals : List Owner := []
  deleted : List UUID := []
  deletions : List UUID := []

inductive Event
  | receive (call : Call)
  /-- The first statement of a request and what follows it in memory. -/
  | start (now : Int) (nonce : List UInt8) (newID : UUID) (allowed : Bool)
  | write
  /-- The note that a key was used is written or fails. -/
  | noteUse (written : Bool)
  | fetched (result : Except String Json) (now : Int)
  /-- A statement fails, or the request is cancelled. -/
  | fail

namespace World

variable (server : Instance) (world : World)

def continueWith (client : Nat) (request : Request) : World :=
  { world with requests := Table.set world.requests client request }

def finish (client : Nat) : World :=
  { world with requests := Table.erase world.requests client }

def seen : Owner → Seen
  | .settings userID => ⟨world.removals.count (.settings userID), 0⟩
  | .integration id => ⟨world.removals.count (.integration id), world.deletions.count id⟩

/-- A removal is committed of the secret that was stored and the one that was read. -/
def recordRemoval (owner : Owner) (stored read : Option Sealed) : World :=
  { world with
    removed := (stored.toList ++ read.toList).map (owner, ·) ++ world.removed
    removals := owner :: world.removals }

def recordEntry (owner : Owner) (entered : Option Sealed) : World :=
  { world with removed := world.removed.filter fun entry => some entry ≠ entered.map (owner, ·) }

/-! ## Assistant settings -/

def settingsOf (userID : UUID) : AssistantSettings := (world.settings.lookup userID).getD {}

/-- The keyring of an instance with the assistant. -/
def assistantKeyring : Option Keyring := server.keyring.filter fun _ => server.assistant

def startUpdate (client : Nat) (userID : UUID) (input : UpdateAssistantSettingsInput) (now : Int)
    (nonce : List UInt8) : World :=
  let loaded := world.settingsOf userID
  match (assistantKeyring server).map fun keyring =>
      loaded.update server keyring userID input now nonce with
  | some (.ok edit) =>
      world.continueWith client (.savingSettings userID loaded edit (world.seen (.settings userID)))
  | _ => world.finish client

def saveSettings (client : Nat) (userID : UUID) (loaded : AssistantSettings) (edit : SettingsEdit) :
    World :=
  let stored := (world.settingsOf userID).key
  let noted :=
    if edit.keyDropped then world.recordRemoval (.settings userID) stored loaded.key
    else if edit.newKey.isSome then world.recordEntry (.settings userID) edit.edited.key
    else world
  World.finish { noted with
    settings := Table.set noted.settings userID edit.edited
    keysEntered := (edit.newKey.map (⟨userID, edit.edited.provider, edit.edited.baseURL, ·⟩)).toList
      ++ noted.keysEntered } client

/-- The `Save` of `DeleteKey`. -/
def saveDeletedKey (client : Nat) (userID : UUID) (loaded : AssistantSettings) : World :=
  let noted := world.recordRemoval (.settings userID) (world.settingsOf userID).key loaded.key
  World.finish { noted with settings := Table.set noted.settings userID loaded.wipeKey } client

def reset (client : Nat) (userID : UUID) : World :=
  let noted := world.recordRemoval (.settings userID) (world.settingsOf userID).key none
  World.finish { noted with settings := Table.erase noted.settings userID } client

/-- Credentials are returned if the address is still allowed. -/
def returnCredentials (client : Nat) (userID : UUID) (credentials : AssistantSettings.Credentials) :
    World :=
  let returned := if credentials.isAllowed server then credentials.apiKey else none
  World.finish { world with
    keysReturned := (returned.map (⟨userID, credentials.provider, credentials.baseURL, ·⟩)).toList
      ++ world.keysReturned } client

def resolve (client : Nat) (userID : UUID) (forChat : Bool) (now : Int) : World :=
  let settings := world.settingsOf userID
  match (assistantKeyring server).map fun keyring => settings.credentials keyring userID forChat with
  | some (.ok credentials) =>
      if settings.notesUse now then world.continueWith client (.notingUse userID credentials now)
      else world.returnCredentials server client userID credentials
  | _ => world.finish client

def noteUse (client : Nat) (userID : UUID) (credentials : AssistantSettings.Credentials) (now : Int)
    (written : Bool) : World :=
  let settings :=
    if written then
      Table.modify world.settings userID fun row => { row with keyLastUsedAt := some now }
    else world.settings
  World.returnCredentials server { world with settings := settings } client userID credentials

/-! ## Integrations -/

/-- `First(&row, "id = ? AND user_id = ?", …)`. -/
def integrationOf (userID id : UUID) : Option Integration :=
  (world.integrations.lookup id).filter fun row => row.userID = userID

/-- `Create` up to its `INSERT`. -/
def startCreate (client : Nat) (userID : UUID) (input : IntegrationInput) (now : Int)
    (nonce : List UInt8) (newID : UUID) : World :=
  let owned := world.integrations.filter fun entry => entry.2.userID = userID
  if server.integrations = false ∨ maxIntegrations ≤ owned.length then world.finish client
  else
    match Integration.create server userID newID input now nonce with
    | .error _ => world.finish client
    | .ok edit => world.continueWith client (.inserting newID edit)

def entered (id : UUID) (edit : IntegrationEdit) : List SecretUse :=
  (edit.newSecret.map
    (⟨edit.edited.userID, id, edit.edited.baseURL, edit.edited.tokenID, ·⟩)).toList

/-- The `INSERT` of `Create`. -/
def insert (client : Nat) (id : UUID) (edit : IntegrationEdit) : Option World :=
  if id ∈ world.issued then none
  else
    let noted := world.recordEntry (.integration id) edit.edited.secret
    some (World.finish { noted with
      integrations := Table.set noted.integrations id edit.edited
      issued := id :: noted.issued
      secretsEntered := entered id edit ++ noted.secretsEntered } client)

def startUpdateIntegration (client : Nat) (userID id : UUID) (input : IntegrationInput) (now : Int)
    (nonce : List UInt8) : World :=
  match (if server.integrations then world.integrationOf userID id else none) with
  | none => world.finish client
  | some loaded =>
      match loaded.apply server id input now nonce with
      | .error _ => world.finish client
      | .ok edit =>
          world.continueWith client
            (.savingIntegration id loaded edit (world.seen (.integration id)))

def secretOf (id : UUID) : Option Sealed := (world.integrations.lookup id).bind (·.secret)

def saveIntegration (client : Nat) (id : UUID) (loaded : Integration) (edit : IntegrationEdit) :
    World :=
  let noted :=
    if edit.secretDropped then
      world.recordRemoval (.integration id) (world.secretOf id) loaded.secret
    else if edit.newSecret.isSome then
      { world.recordEntry (.integration id) edit.edited.secret with
        deleted := world.deleted.filter (· ≠ id) }
    else world
  World.finish { noted with
    integrations := Table.set noted.integrations id edit.edited
    secretsEntered := entered id edit ++ noted.secretsEntered } client

/-- `Test` of a stored secret. A secret that comes with the request is tried as it is. -/
def test (client : Nat) (userID : UUID) (input : IntegrationTestInput) (allowed : Bool) : World :=
  let handed : Option SecretUse := do
    guard (server.integrations ∧ trimSpace input.secret = "" ∧ allowed)
    let baseURL ← (server.normalizeBaseURL input.baseURL).toOption
    let tokenID ← normalizeTokenID input.tokenID
    let id ← input.integrationID
    let row ← world.integrationOf userID id
    guard (row.baseURL = baseURL ∧ row.tokenID = tokenID)
    let secret ← row.openSecret server id
    some ⟨userID, id, baseURL, tokenID, secret⟩
  World.finish { world with secretsHanded := handed.toList ++ world.secretsHanded } client

/-- What `Sync` hands to its client: the secret, for the address normalized again. -/
def syncUse (userID id : UUID) (allowed : Bool) : Option SecretUse := do
  guard (server.integrations ∧ allowed)
  let row ← world.integrationOf userID id
  guard (row.source = .api)
  let secret ← row.openSecret server id
  let baseURL ← (server.normalizeBaseURL row.baseURL).toOption
  some ⟨userID, id, baseURL, row.tokenID, secret⟩

def startSync (client : Nat) (userID id : UUID) (allowed : Bool) : World :=
  match world.syncUse server userID id allowed with
  | none => world.finish client
  | some handed =>
      World.continueWith { world with secretsHanded := handed :: world.secretsHanded } client
        (.fetching id)

/-- The columns `Sync` writes. -/
def fetched (client : Nat) (id : UUID) (result : Except String Json) (now : Int) : World :=
  World.finish { world with
    integrations := Table.modify world.integrations id fun row =>
      match result with
      | .error message => { row with lastError := message }
      | .ok snapshot =>
          { row with snapshot := some snapshot, syncedAt := some now, lastError := "" } } client

def deleteIntegration (client : Nat) (userID id : UUID) : World :=
  match world.integrationOf userID id with
  | none => world.finish client
  | some row =>
      let noted := world.recordRemoval (.integration id) row.secret none
      World.finish { noted with
        integrations := Table.erase noted.integrations id
        deleted := id :: noted.deleted
        deletions := id :: noted.deletions } client

/-! ## Steps -/

def start (client : Nat) (call : Call) (now : Int) (nonce : List UInt8) (newID : UUID)
    (allowed : Bool) : World :=
  match call with
  | .updateSettings userID input => world.startUpdate server client userID input now nonce
  | .deleteKey userID => world.continueWith client (.deletingKey userID (world.settingsOf userID))
  | .reset userID => world.reset client userID
  | .resolveCredentials userID forChat => world.resolve server client userID forChat now
  | .createIntegration userID input => world.startCreate server client userID input now nonce newID
  | .updateIntegration userID id input =>
      world.startUpdateIntegration server client userID id input now nonce
  | .test userID input => world.test server client userID input allowed
  | .sync userID id => world.startSync server client userID id allowed
  | .deleteIntegration userID id => world.deleteIntegration client userID id

def next (client : Nat) (event : Event) : Option World :=
  match event, world.requests.lookup client with
  | .receive call, none => some (world.continueWith client (.starting call))
  | .start now nonce newID allowed, some (.starting call) =>
      some (world.start server client call now nonce newID allowed)
  | .write, some (.savingSettings userID loaded edit _) =>
      some (world.saveSettings client userID loaded edit)
  | .write, some (.deletingKey userID loaded) => some (world.saveDeletedKey client userID loaded)
  | .write, some (.inserting id edit) => world.insert client id edit
  | .write, some (.savingIntegration id loaded edit _) =>
      some (world.saveIntegration client id loaded edit)
  | .noteUse written, some (.notingUse userID credentials now) =>
      some (world.noteUse server client userID credentials now written)
  | .fetched result now, some (.fetching id) => some (world.fetched client id result now)
  | .fail, some _ => some (world.finish client)
  | _, _ => none

variable {world}

theorem lookup_of_integrationOf {userID id : UUID} {row : Integration}
    (found : world.integrationOf userID id = some row) :
    world.integrations.lookup id = some row ∧ row.userID = userID := by
  rcases Option.filter_eq_some_iff.mp found with ⟨stored, owned⟩
  exact ⟨stored, of_decide_eq_true owned⟩

end World

end HomelabBuilder.Secrets
