import HomelabBuilder.Foundation.Keyed
import HomelabBuilder.Secrets.Instance

/-! # Integrations

The rows and edits of `integration_service.go`. Times are nanoseconds.
-/

namespace HomelabBuilder.Secrets

open Services (UUID)

inductive Source
  | api
  | paste
  deriving DecidableEq

/-- A row of `integrations` under its id. -/
structure Integration where
  userID : UUID
  kind : String := "proxmox"
  name : String := "Proxmox"
  source : Source := .api
  baseURL : String := ""
  tokenID : String := ""
  secret : Option Sealed := none
  secretStoredAt : Option Int := none
  tlsFingerprint : String := ""
  snapshot : Option Json := none
  syncedAt : Option Int := none
  lastError : String := ""

structure IntegrationInput where
  name : Option String := none
  baseURL : Option String := none
  tokenID : Option String := none
  secret : Option String := none
  tlsFingerprint : Option String := none
  /-- Pasted output of `pvesh`. -/
  pasted : Option String := none

inductive IntegrationIssue
  | unavailable
  | nameTooLong
  | exportOfConnection
  | unreadableExport
  | address (issue : AddressIssue)
  | invalidToken
  | invalidFingerprint
  | invalidSecret
  | noStore
  | incomplete

structure IntegrationEdit where
  edited : Integration
  /-- The secret that came with the request, if one did. -/
  newSecret : Option String := none
  secretDropped : Bool := false

def maxIntegrations : Nat := 5

def cleanIntegrationName (value fallback : String) : Except IntegrationIssue String :=
  let name := if trimSpace value = "" then fallback else trimSpace value
  if name.toList.any (· = Char.ofNat 0) ∨ 80 < name.toList.length then .error .nameTooLong
  else .ok name

namespace Integration

variable (server : Instance) (row : Integration)

def wipeSecret : Integration := { row with secret := none, secretStoredAt := none }

def setName : Option String → Except IntegrationIssue Integration
  | none => .ok row
  | some given => do
      let name ← cleanIntegrationName given "Proxmox"
      .ok { row with name := name }

/-- A pasted export, for a source without a connection. -/
def paste (input : IntegrationInput) (now : Int) : Except IntegrationIssue Integration :=
  match input.pasted with
  | none => .ok row
  | some pasted =>
      if input.baseURL.isSome ∨ input.tokenID.isSome ∨ input.secret.isSome ∨ row.baseURL ≠ "" then
        .error .exportOfConnection
      else
        match server.parseExport pasted now with
        | none => .error .unreadableExport
        | some snapshot =>
            .ok { row with
              snapshot := some snapshot
              syncedAt := some now
              lastError := ""
              source := .paste }

/-- The given address. Another one loses the trusted certificate. -/
def setBaseURL : Option String → Except IntegrationIssue (Integration × Bool)
  | none => .ok (row, false)
  | some given => do
      let baseURL ← (server.normalizeBaseURL given).mapError .address
      if baseURL = row.baseURL then .ok ({ row with source := .api }, false)
      else .ok ({ row with baseURL := baseURL, tlsFingerprint := "", source := .api }, true)

def setTokenID : Option String → Except IntegrationIssue (Integration × Bool)
  | none => .ok (row, false)
  | some given =>
      match normalizeTokenID given with
      | none => .error .invalidToken
      | some tokenID =>
          if tokenID = row.tokenID then .ok (row, false)
          else .ok ({ row with tokenID := tokenID }, true)

def setFingerprint : Option String → Except IntegrationIssue Integration
  | none => .ok row
  | some given =>
      if trimSpace given = "" then .ok { row with tlsFingerprint := "" }
      else
        match normalizeFingerprint given with
        | none => .error .invalidFingerprint
        | some fingerprint => .ok { row with tlsFingerprint := fingerprint }

/-- The secret entered with a request; none when it is blank. -/
def enteredSecret (input : IntegrationInput) : Except IntegrationIssue (Option String) :=
  match input.secret with
  | none => .ok none
  | some given =>
      if trimSpace given = "" then .ok none
      else
        match normalizeSecret given with
        | none => .error .invalidSecret
        | some secret => .ok (some secret)

/-- A new secret, for the address and token of the row. -/
def storeSecret (id : UUID) (newSecret : String) (now : Int) (nonce : List UInt8) :
    Except IntegrationIssue Integration :=
  match server.keyring with
  | none => .error .noStore
  | some keyring =>
      if row.baseURL = "" ∨ row.tokenID = "" then .error .incomplete
      else
        .ok { row with
          secret := some (keyring.sealText newSecret (integrationSecretAAD row.userID id) nonce)
          secretStoredAt := some now }

def apply (id : UUID) (input : IntegrationInput) (now : Int) (nonce : List UInt8) :
    Except IntegrationIssue IntegrationEdit := do
  let named ← row.setName input.name
  let pasted ← named.paste server input now
  let (addressed, addressChanged) ← pasted.setBaseURL server input.baseURL
  let (identified, tokenChanged) ← addressed.setTokenID input.tokenID
  let trusted ← identified.setFingerprint input.tlsFingerprint
  let newSecret ← enteredSecret input
  let dropped := (addressChanged || tokenChanged) && newSecret.isNone && row.secret.isSome
  match newSecret with
  | none =>
      .ok { edited := if dropped then trusted.wipeSecret else trusted, secretDropped := dropped }
  | some entered => do
      let stored ← trusted.storeSecret server id entered now nonce
      .ok { edited := stored, newSecret := some entered }

/-- What `Create` inserts. -/
def create (userID id : UUID) (input : IntegrationInput) (now : Int) (nonce : List UInt8) :
    Except IntegrationIssue IntegrationEdit := do
  let edit ← ({ userID := userID } : Integration).apply server id input now nonce
  let row := edit.edited
  if row.source = .api ∧ (row.baseURL = "" ∨ row.tokenID = "" ∨ edit.newSecret.isNone) then
    .error .incomplete
  else .ok edit

def openSecret (id : UUID) : Option String := do
  let keyring ← server.keyring
  let stored ← row.secret
  keyring.openSealed stored (integrationSecretAAD row.userID id)

/-! ## What edits do to the secret -/

/-- The part of a row that a secret belongs to, with the secret. -/
structure SameDestination (row other : Integration) : Prop where
  userID : row.userID = other.userID
  baseURL : row.baseURL = other.baseURL
  tokenID : row.tokenID = other.tokenID
  secret : row.secret = other.secret

variable {server row} {after : Integration} {changed : Bool}

theorem SameDestination.refl : SameDestination row row := ⟨rfl, rfl, rfl, rfl⟩

theorem setName_spec {given : Option String} (done : row.setName given = .ok after) :
    after.SameDestination row := by
  unfold setName at done
  split at done
  · cases done
    exact .refl
  · rcases Fallible.bind_eq_ok.mp done with ⟨name, _, done⟩
    cases done
    exact ⟨rfl, rfl, rfl, rfl⟩

theorem paste_spec {input : IntegrationInput} {now : Int}
    (done : row.paste server input now = .ok after) : after.SameDestination row := by
  unfold paste at done
  split at done
  · cases done
    exact .refl
  · split at done
    · cases done
    · split at done
      · cases done
      · cases done
        exact ⟨rfl, rfl, rfl, rfl⟩

theorem setBaseURL_spec {given : Option String}
    (done : row.setBaseURL server given = .ok (after, changed)) :
    after.userID = row.userID ∧ after.secret = row.secret ∧
      (changed = false → after.SameDestination row) := by
  unfold setBaseURL at done
  split at done
  · cases done
    exact ⟨rfl, rfl, fun _ => .refl⟩
  · rcases Fallible.bind_eq_ok.mp done with ⟨baseURL, _, done⟩
    split at done
    · cases done
      exact ⟨rfl, rfl, fun _ => ⟨rfl, rfl, rfl, rfl⟩⟩
    · cases done
      exact ⟨rfl, rfl, nofun⟩

theorem setTokenID_spec {given : Option String} (done : row.setTokenID given = .ok (after, changed)) :
    after.userID = row.userID ∧ after.secret = row.secret ∧
      (changed = false → after.SameDestination row) := by
  unfold setTokenID at done
  split at done
  · cases done
    exact ⟨rfl, rfl, fun _ => .refl⟩
  · split at done
    · cases done
    · split at done
      · cases done
        exact ⟨rfl, rfl, fun _ => .refl⟩
      · cases done
        exact ⟨rfl, rfl, nofun⟩

theorem setFingerprint_spec {given : Option String} (done : row.setFingerprint given = .ok after) :
    after.SameDestination row := by
  unfold setFingerprint at done
  split at done
  · cases done
    exact .refl
  · split at done
    · cases done
      exact ⟨rfl, rfl, rfl, rfl⟩
    · split at done
      · cases done
      · cases done
        exact ⟨rfl, rfl, rfl, rfl⟩

theorem storeSecret_spec {id : UUID} {newSecret : String} {now : Int} {nonce : List UInt8}
    (done : row.storeSecret server id newSecret now nonce = .ok after) :
    ∃ keyring, server.keyring = some keyring ∧ after.userID = row.userID ∧
      after.secret = some (keyring.sealText newSecret (integrationSecretAAD row.userID id) nonce) := by
  unfold storeSecret at done
  split at done
  · cases done
  · rename_i keyring has
    split at done
    · cases done
    · cases done
      exact ⟨keyring, has, rfl, rfl⟩

/-- An edit enters a new secret, or it keeps the secret and its destination, or it
leaves no secret. -/
inductive Keeps (server : Instance) (id : UUID) (nonce : List UInt8) (row : Integration)
    (edit : IntegrationEdit) : Prop
  | enters (newSecret : String) (keyring : Keyring) : edit.newSecret = some newSecret →
      server.keyring = some keyring →
      edit.edited.secret =
        some (keyring.sealText newSecret (integrationSecretAAD row.userID id) nonce) →
      edit.secretDropped = false → Keeps server id nonce row edit
  | keeps : edit.newSecret = none → edit.edited.SameDestination row →
      edit.secretDropped = false → Keeps server id nonce row edit
  | drops : edit.newSecret = none → edit.edited.secret = none →
      edit.secretDropped = row.secret.isSome → Keeps server id nonce row edit

theorem apply_spec {id : UUID} {input : IntegrationInput} {now : Int} {nonce : List UInt8}
    {edit : IntegrationEdit} (done : row.apply server id input now nonce = .ok edit) :
    edit.edited.userID = row.userID ∧ Keeps server id nonce row edit := by
  unfold apply at done
  rcases Fallible.bind_eq_ok.mp done with ⟨named, naming, done⟩
  rcases Fallible.bind_eq_ok.mp done with ⟨pasted, pasting, done⟩
  rcases Fallible.bind_eq_ok.mp done with ⟨⟨addressed, addressChanged⟩, addressing, done⟩
  rcases Fallible.bind_eq_ok.mp done with ⟨⟨identified, tokenChanged⟩, identifying, done⟩
  rcases Fallible.bind_eq_ok.mp done with ⟨trusted, trusting, done⟩
  rcases Fallible.bind_eq_ok.mp done with ⟨newSecret, _, done⟩
  have first := setName_spec naming
  have second := paste_spec pasting
  rcases setBaseURL_spec addressing with ⟨addressedUser, addressedSecret, addressKept⟩
  rcases setTokenID_spec identifying with ⟨identifiedUser, identifiedSecret, tokenKept⟩
  have last := setFingerprint_spec trusting
  have sameUser : trusted.userID = row.userID := by
    rw [last.userID, identifiedUser, addressedUser, second.userID, first.userID]
  have sameSecret : trusted.secret = row.secret := by
    rw [last.secret, identifiedSecret, addressedSecret, second.secret, first.secret]
  dsimp only at done
  cases newSecret with
  | some entered =>
      rcases Fallible.bind_eq_ok.mp done with ⟨stored, storing, done⟩
      cases done
      rcases storeSecret_spec storing with ⟨keyring, has, storedUser, storedSecret⟩
      refine ⟨storedUser.trans sameUser, .enters entered keyring rfl has ?_ rfl⟩
      rw [← sameUser]
      exact storedSecret
  | none =>
      cases done
      rw [Option.isNone_none, Bool.and_true]
      by_cases moved : (addressChanged || tokenChanged) = true
      · rw [moved, Bool.true_and]
        refine ⟨?_, .drops rfl ?_ rfl⟩
        · split <;> exact sameUser
        · cases stored : row.secret with
          | none => exact sameSecret.trans stored
          | some _ => rfl
      · have unmoved := Bool.eq_false_iff.mpr moved
        rcases Bool.or_eq_false_iff.mp unmoved with ⟨stayed, stayedToken⟩
        have addressStays := addressKept stayed
        have tokenStays := tokenKept stayedToken
        rw [unmoved, Bool.false_and]
        refine ⟨sameUser, .keeps rfl ⟨sameUser, ?_, ?_, sameSecret⟩ rfl⟩
        · change trusted.baseURL = row.baseURL
          rw [last.baseURL, tokenStays.baseURL, addressStays.baseURL, second.baseURL, first.baseURL]
        · change trusted.tokenID = row.tokenID
          rw [last.tokenID, tokenStays.tokenID, addressStays.tokenID, second.tokenID, first.tokenID]

theorem create_spec {userID id : UUID} {input : IntegrationInput} {now : Int}
    {nonce : List UInt8} {edit : IntegrationEdit}
    (done : create server userID id input now nonce = .ok edit) :
    edit.edited.userID = userID ∧ Keeps server id nonce { userID := userID } edit := by
  unfold create at done
  rcases Fallible.bind_eq_ok.mp done with ⟨applied, applying, done⟩
  dsimp only at done
  split at done
  · cases done
  · cases done
    exact apply_spec applying

end Integration

/-- A connection to try before it is saved. -/
structure IntegrationTestInput where
  integrationID : Option UUID := none
  baseURL : String
  tokenID : String
  secret : String := ""

end HomelabBuilder.Secrets
