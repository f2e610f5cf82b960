import HomelabBuilder.Secrets.Removals

/-! # Where secrets go

A key or token secret is only used with the provider or host it was entered for.
-/

namespace HomelabBuilder.Secrets

open Runs (Reaches follow)
open Services (UUID)

namespace World

variable (server : Instance) (world : World)

/-- Every secret that was decrypted for use was entered by that user, for that row and
destination. -/
structure GoesWhereEntered : Prop where
  keys : ∀ use ∈ world.keysReturned, use ∈ world.keysEntered
  secrets : ∀ use ∈ world.secretsHanded, use ∈ world.secretsEntered

/-- A `Sync` finds a stored address that normalizing gives back, or refuses. -/
def findsNormalized (client : Nat) (event : Event) : Bool :=
  match event, world.requests.lookup client with
  | .start _ _ _ _, some (.starting (.sync userID id)) =>
      (world.integrationOf userID id).all fun row =>
        (server.normalizeBaseURL row.baseURL).toOption.all fun baseURL => baseURL = row.baseURL
  | _, _ => true

end World

/-! ## The invariant -/

section

variable (server : Instance)

/-- The key of a row was entered by its user, for its provider and address. -/
structure KeyBound (entered : List KeyUse) (userID : UUID) (row : AssistantSettings) : Prop where
  addressed : row.Addressed
  key : ∀ sealed_, row.key = some sealed_ → ∃ keyring use nonce, server.keyring = some keyring ∧
    use ∈ entered ∧ use.userID = userID ∧ use.provider = row.provider ∧
      use.baseURL = row.baseURL ∧ sealed_ = keyring.sealText use.key (keyAAD userID) nonce

/-- The secret of a row was entered by its user, for its address and token. -/
def SecretBound (entered : List SecretUse) (id : UUID) (row : Integration) : Prop :=
  ∀ sealed_, row.secret = some sealed_ → ∃ keyring use nonce, server.keyring = some keyring ∧
    use ∈ entered ∧ use.userID = row.userID ∧ use.integrationID = id ∧
      use.baseURL = row.baseURL ∧ use.tokenID = row.tokenID ∧
        sealed_ = keyring.sealText use.secret (integrationSecretAAD row.userID id) nonce

/-- The row of an edit is bound once what it enters counts as entered. -/
def Request.Bound (world : World) : Request → Prop
  | .savingSettings userID _ edit _ =>
      KeyBound server ((edit.newKey.map
        (⟨userID, edit.edited.provider, edit.edited.baseURL, ·⟩)).toList ++ world.keysEntered)
          userID edit.edited
  | .deletingKey _ loaded => loaded.Addressed
  | .notingUse userID credentials _ => ∀ key, credentials.apiKey = some key →
      ⟨userID, credentials.provider, credentials.baseURL, key⟩ ∈ world.keysEntered
  | .inserting id edit | .savingIntegration id _ edit _ =>
      SecretBound server (World.entered id edit ++ world.secretsEntered) id edit.edited
  | .starting _ | .fetching _ => True

structure World.Bound (world : World) : Prop extends world.GoesWhereEntered where
  settings : ∀ userID row, world.settings.lookup userID = some row →
    KeyBound server world.keysEntered userID row
  integrations : ∀ id row, world.integrations.lookup id = some row →
    SecretBound server world.secretsEntered id row
  requests : ∀ client request, world.requests.lookup client = some request →
    request.Bound server world

variable {server} {world after : World}

theorem World.bound_empty : World.Bound server {} where
  keys _ member := by cases member
  secrets _ member := by cases member
  settings _ _ found := by cases found
  integrations _ _ found := by cases found
  requests _ _ found := by cases found

theorem KeyBound.mono {entered more : List KeyUse} (grows : entered ⊆ more) {userID : UUID}
    {row : AssistantSettings} (bound : KeyBound server entered userID row) :
    KeyBound server more userID row where
  addressed := bound.addressed
  key sealed_ given := by
    rcases bound.key sealed_ given with ⟨keyring, use, nonce, has, member, rest⟩
    exact ⟨keyring, use, nonce, has, grows member, rest⟩

theorem SecretBound.mono {entered more : List SecretUse} (grows : entered ⊆ more) {id : UUID}
    {row : Integration} (bound : SecretBound server entered id row) :
    SecretBound server more id row := by
  intro sealed_ given
  rcases bound sealed_ given with ⟨keyring, use, nonce, has, member, rest⟩
  exact ⟨keyring, use, nonce, has, grows member, rest⟩

theorem Request.Bound.mono {request : Request} (keys : world.keysEntered ⊆ after.keysEntered)
    (secrets : world.secretsEntered ⊆ after.secretsEntered) (bound : request.Bound server world) :
    request.Bound server after := by
  cases request with
  | savingSettings userID loaded edit seen =>
      exact KeyBound.mono (List.append_subset.mpr
        ⟨List.subset_append_left _ _, List.subset_append_of_subset_right _ keys⟩) bound
  | deletingKey userID loaded => exact bound
  | notingUse userID credentials now => exact fun key given => keys (bound key given)
  | inserting id edit | savingIntegration id loaded edit seen =>
      exact SecretBound.mono (List.append_subset.mpr
        ⟨List.subset_append_left _ _, List.subset_append_of_subset_right _ secrets⟩) bound
  | starting call | fetching id => trivial

theorem World.Bound.settingsOf (bound : world.Bound server) (userID : UUID) :
    KeyBound server world.keysEntered userID (world.settingsOf userID) := by
  unfold World.settingsOf
  cases found : world.settings.lookup userID with
  | none => exact ⟨AssistantSettings.addressed_empty, nofun⟩
  | some row => exact bound.settings userID row found

/-! ## Edits -/

theorem KeyBound.update {entered : List KeyUse} {userID : UUID} {settings : AssistantSettings}
    {keyring : Keyring} {input : UpdateAssistantSettingsInput} {now : Int} {nonce : List UInt8}
    {edit : SettingsEdit} (bound : KeyBound server entered userID settings)
    (has : server.keyring = some keyring)
    (done : settings.update server keyring userID input now nonce = .ok edit) :
    KeyBound server ((edit.newKey.map
      (⟨userID, edit.edited.provider, edit.edited.baseURL, ·⟩)).toList ++ entered)
        userID edit.edited := by
  rcases AssistantSettings.update_spec done with ⟨keeps, addressed⟩
  refine ⟨addressed bound.addressed, fun sealed_ given => ?_⟩
  rcases keeps with ⟨newKey, enters, stores, _⟩ | ⟨_, ⟨provider, baseURL, key⟩, _⟩ | ⟨_, wiped, _⟩
  · rw [stores] at given
    cases given
    refine ⟨keyring, ⟨userID, edit.edited.provider, edit.edited.baseURL, newKey⟩, nonce, has, ?_,
      rfl, rfl, rfl, rfl⟩
    rw [enters]
    exact List.mem_cons_self
  · rcases bound.key sealed_ (key.symm.trans given) with
      ⟨ring, use, used, has', member, user, sameProvider, sameBaseURL, sealing⟩
    exact ⟨ring, use, used, has', List.mem_append_right _ member, user,
      sameProvider.trans provider.symm, sameBaseURL.trans baseURL.symm, sealing⟩
  · rw [wiped] at given
    cases given

theorem SecretBound.edit {entered : List SecretUse} {id : UUID} {row : Integration}
    {nonce : List UInt8} {edit : IntegrationEdit} (bound : SecretBound server entered id row)
    (user : edit.edited.userID = row.userID) (keeps : Integration.Keeps server id nonce row edit) :
    SecretBound server (World.entered id edit ++ entered) id edit.edited := by
  intro sealed_ given
  rcases keeps with ⟨newSecret, keyring, enters, has, stores, _⟩ | ⟨_, same, _⟩ | ⟨_, wiped, _⟩
  · rw [stores] at given
    cases given
    refine ⟨keyring, ⟨edit.edited.userID, id, edit.edited.baseURL, edit.edited.tokenID, newSecret⟩,
      nonce, has, ?_, rfl, rfl, rfl, rfl, ?_⟩
    · rw [World.entered, enters]
      exact List.mem_cons_self
    · rw [user]
  · rcases bound sealed_ (same.secret.symm.trans given) with
      ⟨ring, use, used, has, member, sameUser, sameID, sameBaseURL, sameTokenID, sealing⟩
    exact ⟨ring, use, used, has, List.mem_append_right _ member, sameUser.trans same.userID.symm,
      sameID, sameBaseURL.trans same.baseURL.symm, sameTokenID.trans same.tokenID.symm,
      by rw [user]; exact sealing⟩
  · rw [wiped] at given
    cases given

/-! ## Uses -/

theorem KeyBound.credentials {entered : List KeyUse} {userID : UUID} {settings : AssistantSettings}
    {keyring : Keyring} {forChat : Bool} {credentials : AssistantSettings.Credentials}
    (bound : KeyBound server entered userID settings) (has : server.keyring = some keyring)
    (done : settings.credentials keyring userID forChat = .ok credentials) {key : String}
    (given : credentials.apiKey = some key) :
    ⟨userID, credentials.provider, credentials.baseURL, key⟩ ∈ entered := by
  rcases AssistantSettings.credentials_spec done bound.addressed with ⟨provider, baseURL, opens⟩
  rcases opens key given with ⟨stored, stores, opened⟩
  rcases bound.key stored stores with
    ⟨ring, use, nonce, has', member, user, sameProvider, sameBaseURL, rfl⟩
  rw [has] at has'
  cases has'
  have same := keyring.open_seal _ _ _ _ opened
  rw [provider, baseURL, ← sameProvider, ← sameBaseURL, ← user, same]
  exact member

theorem SecretBound.opened {entered : List SecretUse} {id : UUID} {row : Integration}
    (bound : SecretBound server entered id row) {secret : String}
    (opened : row.openSecret server id = some secret) :
    ⟨row.userID, id, row.baseURL, row.tokenID, secret⟩ ∈ entered := by
  unfold Integration.openSecret at opened
  rcases Option.bind_eq_some_iff.mp opened with ⟨keyring, has, opened⟩
  rcases Option.bind_eq_some_iff.mp opened with ⟨stored, stores, opened⟩
  rcases bound stored stores with
    ⟨ring, use, nonce, has', member, user, sameID, sameBaseURL, sameTokenID, rfl⟩
  rw [has] at has'
  cases has'
  have same := keyring.open_seal _ _ _ _ opened
  rw [← user, ← sameID, ← sameBaseURL, ← sameTokenID, same]
  exact member

end

/-! ## Steps -/

namespace World

variable (world : World)

/-- Apart from what is recorded of removals, a `Save` writes the edited row. -/
theorem saveSettings_eq (client : Nat) (userID : UUID) (loaded : AssistantSettings)
    (edit : SettingsEdit) : ∃ removed removals,
    world.saveSettings client userID loaded edit = World.finish { world with
      settings := Table.set world.settings userID edit.edited
      keysEntered := (edit.newKey.map
        (⟨userID, edit.edited.provider, edit.edited.baseURL, ·⟩)).toList ++ world.keysEntered
      removed := removed
      removals := removals } client := by
  unfold saveSettings
  dsimp only
  by_cases dropped : edit.keyDropped = true
  · rw [if_pos dropped]
    exact ⟨_, _, rfl⟩
  · by_cases enters : edit.newKey.isSome = true
    · rw [if_neg dropped, if_pos enters]
      exact ⟨_, _, rfl⟩
    · rw [if_neg dropped, if_neg enters]
      exact ⟨_, _, rfl⟩

theorem saveIntegration_eq (client : Nat) (id : UUID) (loaded : Integration)
    (edit : IntegrationEdit) : ∃ removed removals deleted,
    world.saveIntegration client id loaded edit = World.finish { world with
      integrations := Table.set world.integrations id edit.edited
      secretsEntered := entered id edit ++ world.secretsEntered
      removed := removed
      removals := removals
      deleted := deleted } client := by
  unfold saveIntegration
  dsimp only
  by_cases dropped : edit.secretDropped = true
  · rw [if_pos dropped]
    exact ⟨_, _, _, rfl⟩
  · by_cases enters : edit.newSecret.isSome = true
    · rw [if_neg dropped, if_pos enters]
      exact ⟨_, _, _, rfl⟩
    · rw [if_neg dropped, if_neg enters]
      exact ⟨_, _, _, rfl⟩

end World

namespace World.Bound

variable {server : Instance} {world : World} (bound : world.Bound server) (client : Nat)

include bound

theorem finish_of {after : World} (keys : world.keysEntered ⊆ after.keysEntered)
    (secrets : world.secretsEntered ⊆ after.secretsEntered)
    (same : after.requests = world.requests) (goes : after.GoesWhereEntered)
    (settings : ∀ userID row, after.settings.lookup userID = some row →
      KeyBound server after.keysEntered userID row)
    (integrations : ∀ id row, after.integrations.lookup id = some row →
      SecretBound server after.secretsEntered id row) : (after.finish client).Bound server where
  keys := goes.keys
  secrets := goes.secrets
  settings := settings
  integrations := integrations
  requests := by
    intro other request found
    rw [World.finish, Table.lookup_erase, same] at found
    split at found
    · cases found
    · exact (bound.requests other request found).mono keys secrets

theorem finish : (world.finish client).Bound server :=
  bound.finish_of client (List.Subset.refl _) (List.Subset.refl _) rfl bound.toGoesWhereEntered
    bound.settings bound.integrations

theorem continueWith {request : Request} (fits : request.Bound server world) :
    (world.continueWith client request).Bound server where
  keys := bound.keys
  secrets := bound.secrets
  settings := bound.settings
  integrations := bound.integrations
  requests := by
    intro other running found
    rw [World.continueWith, Table.lookup_set] at found
    split at found
    · cases found
      exact fits.mono (List.Subset.refl _) (List.Subset.refl _)
    · exact (bound.requests other running found).mono (List.Subset.refl _) (List.Subset.refl _)

theorem hand {handed : List SecretUse} (goes : ∀ use ∈ handed, use ∈ world.secretsEntered) :
    World.Bound server { world with secretsHanded := handed ++ world.secretsHanded } where
  keys := bound.keys
  secrets := by
    intro use member
    rcases List.mem_append.mp member with here | earlier
    · exact goes use here
    · exact bound.secrets use earlier
  settings := bound.settings
  integrations := bound.integrations
  requests client request found :=
    (bound.requests client request found).mono (List.Subset.refl _) (List.Subset.refl _)

/-! ### Assistant settings -/

theorem startUpdate (userID : UUID) (input : UpdateAssistantSettingsInput) (now : Int)
    (nonce : List UInt8) : (world.startUpdate server client userID input now nonce).Bound server := by
  unfold World.startUpdate
  dsimp only
  split
  · rename_i edit updated
    rcases Option.map_eq_some_iff.mp updated with ⟨keyring, available, done⟩
    apply bound.continueWith
    exact (bound.settingsOf userID).update (Option.filter_eq_some_iff.mp available).1 done
  · exact bound.finish client

theorem saveSettings {userID : UUID} {loaded : AssistantSettings} {edit : SettingsEdit} {seen : Seen}
    (running : world.requests.lookup client = some (.savingSettings userID loaded edit seen)) :
    (world.saveSettings client userID loaded edit).Bound server := by
  have written := bound.requests client _ running
  rcases world.saveSettings_eq client userID loaded edit with ⟨removed, removals, same⟩
  rw [same]
  apply bound.finish_of client
  · exact List.subset_append_right _ _
  · exact List.Subset.refl _
  · rfl
  · exact ⟨fun use member => List.mem_append_right _ (bound.keys use member), bound.secrets⟩
  · intro other row found
    rw [Table.lookup_set] at found
    split at found
    · rename_i here
      cases found
      rw [here]
      exact written
    · exact (bound.settings other row found).mono (List.subset_append_right _ _)
  · exact bound.integrations

theorem saveDeletedKey {userID : UUID} {loaded : AssistantSettings}
    (running : world.requests.lookup client = some (.deletingKey userID loaded)) :
    (world.saveDeletedKey client userID loaded).Bound server := by
  have addressed := bound.requests client _ running
  apply bound.finish_of client
  · exact List.Subset.refl _
  · exact List.Subset.refl _
  · rfl
  · exact ⟨bound.keys, bound.secrets⟩
  · intro other row found
    change (Table.set world.settings userID loaded.wipeKey).lookup other = some row at found
    rw [Table.lookup_set] at found
    split at found
    · cases found
      exact ⟨addressed, nofun⟩
    · exact bound.settings other row found
  · exact bound.integrations

theorem reset (userID : UUID) : (world.reset client userID).Bound server := by
  apply bound.finish_of client
  · exact List.Subset.refl _
  · exact List.Subset.refl _
  · rfl
  · exact ⟨bound.keys, bound.secrets⟩
  · intro other row found
    change (Table.erase world.settings userID).lookup other = some row at found
    rw [Table.lookup_erase] at found
    split at found
    · cases found
    · exact bound.settings other row found
  · exact bound.integrations

theorem returnCredentials {userID : UUID} {credentials : AssistantSettings.Credentials}
    (entered : ∀ key, credentials.apiKey = some key →
      ⟨userID, credentials.provider, credentials.baseURL, key⟩ ∈ world.keysEntered) :
    (world.returnCredentials server client userID credentials).Bound server := by
  apply bound.finish_of client
  · exact List.Subset.refl _
  · exact List.Subset.refl _
  · rfl
  · refine ⟨fun use member => ?_, bound.secrets⟩
    rcases List.mem_append.mp member with here | earlier
    · rcases Option.map_eq_some_iff.mp (Option.mem_toList.mp here) with ⟨key, given, rfl⟩
      split at given
      · exact entered key given
      · cases given
    · exact bound.keys use earlier
  · exact bound.settings
  · exact bound.integrations

theorem resolve (userID : UUID) (forChat : Bool) (now : Int) :
    (world.resolve server client userID forChat now).Bound server := by
  unfold World.resolve
  dsimp only
  split
  · rename_i credentials resolved
    rcases Option.map_eq_some_iff.mp resolved with ⟨keyring, available, done⟩
    have has := (Option.filter_eq_some_iff.mp available).1
    have entered : ∀ key, credentials.apiKey = some key →
        ⟨userID, credentials.provider, credentials.baseURL, key⟩ ∈ world.keysEntered :=
      fun key given => (bound.settingsOf userID).credentials has done given
    split
    · exact bound.continueWith client entered
    · exact bound.returnCredentials client entered
  · exact bound.finish client

theorem noteUse {userID : UUID} {credentials : AssistantSettings.Credentials} {now : Int}
    (running : world.requests.lookup client = some (.notingUse userID credentials now))
    (written : Bool) : (world.noteUse server client userID credentials now written).Bound server := by
  have entered := bound.requests client _ running
  have noted : World.Bound server { world with
      settings := if written then
        Table.modify world.settings userID fun row => { row with keyLastUsedAt := some now }
        else world.settings } := by
    refine ⟨⟨bound.keys, bound.secrets⟩, ?_, bound.integrations, fun other request found =>
      (bound.requests other request found).mono (List.Subset.refl _) (List.Subset.refl _)⟩
    intro other row found
    dsimp only at found
    split at found
    · rw [Table.lookup_modify] at found
      split at found
      · rename_i here
        rcases Option.map_eq_some_iff.mp found with ⟨stored, before, rfl⟩
        have kept := bound.settings userID stored before
        rw [here]
        exact ⟨kept.addressed, kept.key⟩
      · exact bound.settings other row found
    · exact bound.settings other row found
  exact noted.returnCredentials client entered

/-! ### Integrations -/

theorem startCreate (userID : UUID) (input : IntegrationInput) (now : Int) (nonce : List UInt8)
    (newID : UUID) :
    (world.startCreate server client userID input now nonce newID).Bound server := by
  unfold World.startCreate
  dsimp only
  split
  · exact bound.finish client
  · split
    · exact bound.finish client
    · rename_i edit done
      rcases Integration.create_spec done with ⟨user, keeps⟩
      apply bound.continueWith
      have unset : SecretBound server world.secretsEntered newID { userID := userID } := nofun
      exact unset.edit user keeps

theorem writeIntegration {id : UUID} {edit : IntegrationEdit}
    (written : SecretBound server (World.entered id edit ++ world.secretsEntered) id edit.edited)
    {removed : List (Owner × Sealed)} {removals : List Owner} {issued deleted : List UUID} :
    (World.finish { world with
      integrations := Table.set world.integrations id edit.edited
      issued := issued
      secretsEntered := World.entered id edit ++ world.secretsEntered
      removed := removed
      removals := removals
      deleted := deleted } client).Bound server := by
  apply bound.finish_of client
  · exact List.Subset.refl _
  · exact List.subset_append_right _ _
  · rfl
  · exact ⟨bound.keys, fun use member => List.mem_append_right _ (bound.secrets use member)⟩
  · exact bound.settings
  · intro other row found
    rw [Table.lookup_set] at found
    split at found
    · rename_i here
      cases found
      rw [here]
      exact written
    · exact (bound.integrations other row found).mono (List.subset_append_right _ _)

theorem insert {id : UUID} {edit : IntegrationEdit} {after : World}
    (running : world.requests.lookup client = some (.inserting id edit))
    (done : world.insert client id edit = some after) : after.Bound server := by
  unfold World.insert at done
  split at done
  · cases done
  · cases done
    exact bound.writeIntegration client (bound.requests client _ running)

theorem startUpdateIntegration (userID id : UUID) (input : IntegrationInput) (now : Int)
    (nonce : List UInt8) :
    (world.startUpdateIntegration server client userID id input now nonce).Bound server := by
  unfold World.startUpdateIntegration
  split
  · exact bound.finish client
  · rename_i loaded found
    split
    · exact bound.finish client
    · rename_i edit done
      have stored : world.integrations.lookup id = some loaded := by
        split at found
        · exact (World.lookup_of_integrationOf found).1
        · cases found
      rcases Integration.apply_spec done with ⟨user, keeps⟩
      apply bound.continueWith
      exact (bound.integrations id loaded stored).edit user keeps

theorem saveIntegration {id : UUID} {loaded : Integration} {edit : IntegrationEdit} {seen : Seen}
    (running : world.requests.lookup client = some (.savingIntegration id loaded edit seen)) :
    (world.saveIntegration client id loaded edit).Bound server := by
  rcases world.saveIntegration_eq client id loaded edit with ⟨removed, removals, deleted, same⟩
  rw [same]
  exact bound.writeIntegration client (bound.requests client _ running)

theorem test (userID : UUID) (input : IntegrationTestInput) (allowed : Bool) :
    (world.test server client userID input allowed).Bound server := by
  apply World.Bound.finish
  apply bound.hand
  intro use member
  rcases Option.bind_eq_some_iff.mp (Option.mem_toList.mp member) with ⟨_, _, handed⟩
  rcases Option.bind_eq_some_iff.mp handed with ⟨baseURL, _, handed⟩
  rcases Option.bind_eq_some_iff.mp handed with ⟨tokenID, _, handed⟩
  rcases Option.bind_eq_some_iff.mp handed with ⟨id, _, handed⟩
  rcases Option.bind_eq_some_iff.mp handed with ⟨row, found, handed⟩
  rcases Option.bind_eq_some_iff.mp handed with ⟨_, guarded, handed⟩
  rcases Option.bind_eq_some_iff.mp handed with ⟨secret, opened, handed⟩
  cases handed
  rcases World.lookup_of_integrationOf found with ⟨stored, owned⟩
  have same : row.baseURL = baseURL ∧ row.tokenID = tokenID := by
    by_contra different
    rw [guard, if_neg different] at guarded
    cases guarded
  rw [← owned, ← same.1, ← same.2]
  exact (bound.integrations id row stored).opened opened

theorem startSync {userID id : UUID} {allowed : Bool}
    (normalized : ∀ row, world.integrationOf userID id = some row →
      ∀ baseURL, (server.normalizeBaseURL row.baseURL).toOption = some baseURL →
        baseURL = row.baseURL) :
    (world.startSync server client userID id allowed).Bound server := by
  unfold World.startSync
  split
  · exact bound.finish client
  · rename_i use handed
    have entered : use ∈ world.secretsEntered := by
      rcases Option.bind_eq_some_iff.mp handed with ⟨_, _, handed⟩
      rcases Option.bind_eq_some_iff.mp handed with ⟨row, found, handed⟩
      rcases Option.bind_eq_some_iff.mp handed with ⟨_, _, handed⟩
      rcases Option.bind_eq_some_iff.mp handed with ⟨secret, opened, handed⟩
      rcases Option.bind_eq_some_iff.mp handed with ⟨baseURL, back, handed⟩
      cases handed
      rcases World.lookup_of_integrationOf found with ⟨stored, owned⟩
      rw [normalized row found baseURL back, ← owned]
      exact (bound.integrations id row stored).opened opened
    apply World.Bound.continueWith
    · refine @World.Bound.hand server world bound [use] ?_
      rintro _ member
      rw [List.mem_singleton.mp member]
      exact entered
    · trivial

theorem fetched (id : UUID) (result : Except String Json) (now : Int) :
    (world.fetched client id result now).Bound server := by
  apply bound.finish_of client
  · exact List.Subset.refl _
  · exact List.Subset.refl _
  · rfl
  · exact ⟨bound.keys, bound.secrets⟩
  · exact bound.settings
  · intro other row found
    rw [Table.lookup_modify] at found
    split at found
    · rename_i here
      rcases Option.map_eq_some_iff.mp found with ⟨stored, before, same⟩
      have kept := bound.integrations id stored before
      rw [here]
      cases result with
      | error message =>
          cases same
          exact kept
      | ok snapshot =>
          cases same
          exact kept
    · exact bound.integrations other row found

theorem deleteIntegration (userID id : UUID) :
    (world.deleteIntegration client userID id).Bound server := by
  unfold World.deleteIntegration
  split
  · exact bound.finish client
  · apply bound.finish_of client
    · exact List.Subset.refl _
    · exact List.Subset.refl _
    · rfl
    · exact ⟨bound.keys, bound.secrets⟩
    · exact bound.settings
    · intro other row found
      change (Table.erase world.integrations id).lookup other = some row at found
      rw [Table.lookup_erase] at found
      split at found
      · cases found
      · exact bound.integrations other row found

theorem start {call : Call} {now : Int} {nonce : List UInt8} {newID : UUID} {allowed : Bool}
    (running : world.requests.lookup client = some (.starting call))
    (finds : world.findsNormalized server client (.start now nonce newID allowed) = true) :
    (world.start server client call now nonce newID allowed).Bound server := by
  cases call with
  | updateSettings userID input => exact bound.startUpdate client userID input now nonce
  | deleteKey userID => exact bound.continueWith client (bound.settingsOf userID).addressed
  | reset userID => exact bound.reset client userID
  | resolveCredentials userID forChat => exact bound.resolve client userID forChat now
  | createIntegration userID input => exact bound.startCreate client userID input now nonce newID
  | updateIntegration userID id input =>
      exact bound.startUpdateIntegration client userID id input now nonce
  | test userID input => exact bound.test client userID input allowed
  | sync userID id =>
      apply bound.startSync client
      intro row found baseURL back
      unfold World.findsNormalized at finds
      rw [running] at finds
      dsimp only at finds
      rw [found, Option.all_some, back, Option.all_some] at finds
      exact of_decide_eq_true finds
  | deleteIntegration userID id => exact bound.deleteIntegration client userID id

theorem next {event : Event} {after : World} (finds : world.findsNormalized server client event = true)
    (done : world.next server client event = some after) : after.Bound server := by
  unfold World.next at done
  split at done
  · cases done
    exact bound.continueWith client trivial
  · rename_i running
    cases done
    exact bound.start client running finds
  · rename_i running
    cases done
    exact bound.saveSettings client running
  · rename_i running
    cases done
    exact bound.saveDeletedKey client running
  · rename_i running
    exact bound.insert client running done
  · rename_i running
    cases done
    exact bound.saveIntegration client running
  · rename_i running
    cases done
    exact bound.noteUse client running _
  · cases done
    exact bound.fetched client _ _ _
  · cases done
    exact bound.finish client
  · cases done

end World.Bound

/-! ## Runs -/

/-- Secrets go where they were entered for as long as normalizing a stored address
again does not change it. -/
theorem secrets_go_where_entered {server : Instance} {world : World}
    (run : Run server (fun world client event => world.findsNormalized server client event = true)
      world) : world.GoesWhereEntered :=
  have bound : world.Bound server := run.invariant World.bound_empty fun _ step _ bound finds done =>
    bound.next step.1 finds done
  bound.toGoesWhereEntered

/-! ## Addresses for examples -/

def isHex (char : Char) : Bool := char ∈ "0123456789abcdefABCDEF".toList

def escapesRight : List Char → Bool
  | '%' :: first :: second :: rest => isHex first && isHex second && escapesRight rest
  | '%' :: _ => false
  | _ :: rest => escapesRight rest
  | [] => true

/-- A character that needs no escape in a host. -/
def isHostChar (char : Char) : Bool :=
  0x80 ≤ char.toNat || char.isAlphanum || char ∈ "-_.~!$&'()*+,;=:<>\"".toList

/-- The text before the first of a character and the text behind it. -/
def cut (char : Char) (text : List Char) : List Char × List Char :=
  (text.takeWhile (· ≠ char), (text.dropWhile (· ≠ char)).drop 1)

/-- `url.Parse` of an address with a scheme, whose host has neither escapes nor brackets. -/
def parsePlainURL (raw : String) : Option ParsedURL := do
  let (address, fragment) := cut '#' raw.toList
  guard (address.all fun char => 0x20 ≤ char.toNat && char.toNat ≠ 0x7F)
  let (scheme, rest) := cut ':' address
  guard (scheme.head?.any Char.isAlpha && scheme.all fun char =>
    char.isAlphanum || char ∈ ['+', '-', '.'])
  let (hierarchy, query) := cut '?' rest
  let rest ← ['/', '/'].isPrefixOf? hierarchy
  let authority := rest.takeWhile (· ≠ '/')
  let path := rest.dropWhile (· ≠ '/')
  let host := (authority.reverse.takeWhile (· ≠ '@')).reverse
  guard (host.all isHostChar && escapesRight path && escapesRight fragment)
  let portColon := host.reverse.dropWhile Char.isDigit
  guard (':' ∉ host || portColon.head? = some ':')
  let hostname := if ':' ∈ host then (portColon.drop 1).reverse else host
  some
    { scheme := String.ofList (scheme.map Char.toLower)
      hasUser := authority.contains '@'
      host := String.ofList host
      hostname := String.ofList hostname
      rawQuery := String.ofList query
      fragment := String.ofList fragment
      text := raw }

/-- A host is entered with an address and read with its secret. -/
def createAndSync (address : String) : List (Nat × Event) :=
  let user : UUID := .numbered 1
  let id : UUID := .numbered 2
  [(0, .receive (.createIntegration user
      { baseURL := some address, tokenID := some "hlbuilder@pve!hlbuilder"
        secret := some "token-secret" })),
    (0, .start 0 [7] id true), (0, .write),
    (1, .receive (.sync user id)), (1, .start 10 [] id true)]

theorem secrets_go_where_entered_synced : ∃ world : World,
    world.secretsHanded = [{
      userID := .numbered 1, integrationID := .numbered 2, baseURL := "https://pve.lan:8006"
      tokenID := "hlbuilder@pve!hlbuilder", secret := "token-secret" }] ∧
      world.GoesWhereEntered := by
  have facts : ((follow (fun (world : World) (step : Nat × Event) =>
      world.next (.selfHosted parsePlainURL) step.1 step.2)
      (fun world step => world.findsNormalized (.selfHosted parsePlainURL) step.1 step.2) {}
      (createAndSync "https://pve.lan:8006/#v1")).any fun world =>
        world.secretsHanded = [{
          userID := .numbered 1, integrationID := .numbered 2, baseURL := "https://pve.lan:8006"
          tokenID := "hlbuilder@pve!hlbuilder", secret := "token-secret" }]) = true := by
    decide +kernel
  rcases (Option.any_eq_true _ _).mp facts with ⟨world, done, facts⟩
  exact ⟨world, of_decide_eq_true facts, secrets_go_where_entered (Runs.reaches_of_follow .nil done)⟩

/-- A no-break space behind the host is part of the stored address. `Sync` trims it and
sends the secret to another host. -/
theorem secret_sent_elsewhere : ∃ server world, Run server (fun _ _ _ => True) world ∧
    ¬world.GoesWhereEntered := by
  have facts : ((follow (fun (world : World) (step : Nat × Event) =>
      world.next (.selfHosted parsePlainURL) step.1 step.2) (fun _ _ => true) {}
      (createAndSync "https://pve.lan\u00a0/api2/json")).any fun world =>
        world.secretsHanded.any fun use => use ∉ world.secretsEntered) = true := by
    decide
  rcases (Option.any_eq_true _ _).mp facts with ⟨world, done, facts⟩
  rcases List.any_eq_true.mp facts with ⟨use, member, elsewhere⟩
  refine ⟨_, world, (Runs.reaches_of_follow .nil done).mono fun _ _ _ => trivial,
    fun goes => ?_⟩
  exact of_decide_eq_true elsewhere (goes.secrets use member)

end HomelabBuilder.Secrets
