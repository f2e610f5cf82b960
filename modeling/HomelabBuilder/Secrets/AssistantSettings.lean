import HomelabBuilder.Foundation.Keyed
import HomelabBuilder.Secrets.Instance

/-! # Assistant settings

The rows and edits of `assistant_settings_service.go`. Times are nanoseconds.
-/

namespace HomelabBuilder.Secrets

open Services (UUID)

/-- A provider of `presets.go`. -/
structure Preset where
  id : String
  defaultModel : String := ""
  baseURL : String := ""
  customBaseURL : Bool := false
  keyRequired : Bool := false

def presets : List Preset :=
  [{ id := "anthropic", defaultModel := "claude-opus-5", baseURL := "https://api.anthropic.com"
     keyRequired := true },
    { id := "openai", baseURL := "https://api.openai.com/v1", keyRequired := true },
    { id := "gemini", baseURL := "https://generativelanguage.googleapis.com/v1beta/openai/"
      keyRequired := true },
    { id := "openrouter", baseURL := "https://openrouter.ai/api/v1", keyRequired := true },
    { id := "ollama", baseURL := "http://host.docker.internal:11434/v1", customBaseURL := true },
    { id := "openai_compatible", customBaseURL := true }]

def presetByID (id : String) : Option Preset := presets.find? (·.id = id)

/-- A row of `assistant_settings` under its user. -/
structure AssistantSettings where
  enabled : Bool := false
  provider : String := ""
  model : String := ""
  baseURL : String := ""
  key : Option Sealed := none
  keyHint : List UInt8 := []
  keyStoredAt : Option Int := none
  keyLastUsedAt : Option Int := none

structure UpdateAssistantSettingsInput where
  enabled : Option Bool := none
  provider : Option String := none
  model : Option String := none
  baseURL : Option String := none
  apiKey : Option String := none

inductive AssistantIssue
  | unavailable
  | invalidKey
  | unknownProvider (provider : String)
  | endpoint (issue : AddressIssue)
  | modelTooLong
  | noProvider
  | disabled
  | notConfigured
  | keyUnusable

structure SettingsEdit where
  edited : AssistantSettings
  /-- The key that came with the request, if one did. -/
  newKey : Option String := none
  keyDropped : Bool := false

namespace AssistantSettings

variable (server : Instance) (keyring : Keyring) (settings : AssistantSettings)

def wipeKey : AssistantSettings :=
  { settings with
    key := none
    keyHint := []
    keyStoredAt := none
    keyLastUsedAt := none }

/-- The given provider. Another one brings its own model and address. -/
def setProvider : Option String → Except AssistantIssue (AssistantSettings × Bool)
  | none => .ok (settings, false)
  | some given =>
      let provider := trimSpace given
      match presetByID provider with
      | none => .error (.unknownProvider provider)
      | some preset =>
          if provider = settings.provider then .ok (settings, false)
          else
            let suggested :=
              if preset.customBaseURL ∧ preset.baseURL ≠ "" then
                (server.validateBaseURL preset.baseURL).toOption.getD ""
              else ""
            .ok ({ settings with
              provider := provider
              model := preset.defaultModel
              baseURL := suggested }, true)

/-- The address a provider is asked for. Fixed providers use their own. -/
def requestedBaseURL (preset : Preset) (given : String) : Except AssistantIssue String :=
  let requested := if preset.customBaseURL then trimSpace given else ""
  if requested = "" then .ok ""
  else (server.validateBaseURL requested).mapError .endpoint

def setBaseURL (given : Option String) : Except AssistantIssue (AssistantSettings × Bool) :=
  match given, presetByID settings.provider with
  | some given, some preset => do
      let requested ← requestedBaseURL server preset given
      if requested = settings.baseURL then .ok (settings, false)
      else .ok ({ settings with baseURL := requested }, true)
  | _, _ => .ok (settings, false)

def setModel : Option String → Except AssistantIssue AssistantSettings
  | none => .ok settings
  | some given =>
      if 200 < (trimSpace given).utf8ByteSize then .error .modelTooLong
      else .ok { settings with model := trimSpace given }

/-- The key entered with a request; none when it is blank. -/
def enteredKey (input : UpdateAssistantSettingsInput) : Except AssistantIssue (Option String) :=
  let newKey := trimSpace (input.apiKey.getD "")
  if 500 < newKey.utf8ByteSize ∨ newKey.toList.any (· ∈ [' ', '\t', '\r', '\n']) then
    .error .invalidKey
  else if newKey = "" then .ok none
  else .ok (some newKey)

/-- The key columns with a new key, if one was entered. -/
def storeKey (userID : UUID) (newKey : Option String) (now : Int) (nonce : List UInt8) :
    Except AssistantIssue AssistantSettings :=
  match newKey with
  | none => .ok settings
  | some newKey =>
      let bytes := newKey.toUTF8.toList
      if (presetByID settings.provider).isNone then .error .noProvider
      else
        .ok { settings with
          key := some (keyring.sealText newKey (keyAAD userID) nonce)
          keyStoredAt := some now
          keyLastUsedAt := none
          keyHint := if 12 ≤ bytes.length then bytes.drop (bytes.length - 4) else [] }

/-- The edit of `Update`. -/
def update (userID : UUID) (input : UpdateAssistantSettingsInput) (now : Int)
    (nonce : List UInt8) : Except AssistantIssue SettingsEdit := do
  let newKey ← enteredKey input
  let (provided, providerChanged) ← settings.setProvider server input.provider
  let (addressed, addressChanged) ← provided.setBaseURL server input.baseURL
  let modelled ← addressed.setModel input.model
  let destinationChanged := providerChanged || addressChanged
  let kept := if destinationChanged ∧ newKey = none then modelled.wipeKey else modelled
  let keyed ← kept.storeKey keyring userID newKey now nonce
  .ok
    { edited := { keyed with enabled := input.enabled.getD keyed.enabled }
      newKey := newKey
      keyDropped := destinationChanged && newKey.isNone && settings.key.isSome }

/-- What a chat request gets. The key is set if one was stored. -/
structure Credentials where
  provider : String
  model : String
  baseURL : String
  apiKey : Option String

/-- `resolve` on the row it has read. -/
def credentials (userID : UUID) (forChat : Bool) : Except AssistantIssue Credentials :=
  if forChat ∧ settings.enabled = false then .error .disabled
  else
    match presetByID settings.provider with
    | none => .error .notConfigured
    | some preset =>
        if forChat ∧ trimSpace settings.model = "" then .error .notConfigured
        else
          let baseURL := if preset.customBaseURL then settings.baseURL else ""
          match settings.key with
          | none =>
              if preset.keyRequired then .error .notConfigured
              else .ok ⟨settings.provider, settings.model, baseURL, none⟩
          | some stored =>
              match keyring.openSealed stored (keyAAD userID) with
              | none => .error .keyUnusable
              | some opened => .ok ⟨settings.provider, settings.model, baseURL, some opened⟩

/-- Whether `resolve` notes that the key was used, once a minute. -/
def notesUse (now : Int) : Bool :=
  settings.key.isSome && settings.keyLastUsedAt.all fun last => 60 * 1000000000 ≤ now - last

/-- The address is checked again before credentials are returned. -/
def Credentials.isAllowed (credentials : Credentials) : Bool :=
  match (presetByID credentials.provider).filter (·.customBaseURL) with
  | none => true
  | some _ => (server.validateBaseURL credentials.baseURL).toBool

/-! ## What edits do to the key -/

/-- A provider that is called at its own address has no address stored. -/
def Addressed : Prop :=
  ∀ preset, presetByID settings.provider = some preset → preset.customBaseURL = false →
    settings.baseURL = ""

/-- The part of a row that a key belongs to, with the key. -/
def SameDestination (other : AssistantSettings) : Prop :=
  settings.provider = other.provider ∧ settings.baseURL = other.baseURL ∧ settings.key = other.key

variable {server keyring settings} {after : AssistantSettings} {changed : Bool}

theorem addressed_empty : Addressed {} := fun _ _ _ => rfl

theorem setProvider_spec {given : Option String}
    (done : settings.setProvider server given = .ok (after, changed)) :
    (changed = false → after.SameDestination settings) ∧
      (settings.Addressed → after.Addressed) := by
  unfold setProvider at done
  split at done
  · cases done
    exact ⟨fun _ => ⟨rfl, rfl, rfl⟩, id⟩
  · dsimp only at done
    split at done
    · cases done
    · rename_i preset found
      split at done
      · cases done
        exact ⟨fun _ => ⟨rfl, rfl, rfl⟩, id⟩
      · cases done
        refine ⟨nofun, fun _ other same isFixed => ?_⟩
        rw [found] at same
        cases same
        exact if_neg (by simp [isFixed])

theorem setBaseURL_spec {given : Option String}
    (done : settings.setBaseURL server given = .ok (after, changed)) :
    (changed = false → after.SameDestination settings) ∧
      (settings.Addressed → after.Addressed) := by
  unfold setBaseURL at done
  split at done
  · rename_i preset found
    rcases Fallible.bind_eq_ok.mp done with ⟨requested, normalized, done⟩
    split at done
    · cases done
      exact ⟨fun _ => ⟨rfl, rfl, rfl⟩, id⟩
    · cases done
      refine ⟨nofun, fun _ other same isFixed => ?_⟩
      rw [found] at same
      cases same
      rw [requestedBaseURL, isFixed] at normalized
      cases normalized
      rfl
  · cases done
    exact ⟨fun _ => ⟨rfl, rfl, rfl⟩, id⟩

theorem setModel_spec {given : Option String} (done : settings.setModel given = .ok after) :
    after.SameDestination settings := by
  unfold setModel at done
  split at done
  · cases done
    exact ⟨rfl, rfl, rfl⟩
  · split at done
    · cases done
    · cases done
      exact ⟨rfl, rfl, rfl⟩

theorem storeKey_spec {userID : UUID} {newKey : Option String} {now : Int}
    {nonce : List UInt8}
    (done : settings.storeKey keyring userID newKey now nonce = .ok after) :
    after.provider = settings.provider ∧ after.baseURL = settings.baseURL ∧
      after.key = (newKey.map fun newKey => keyring.sealText newKey (keyAAD userID) nonce).or
        settings.key := by
  unfold storeKey at done
  split at done
  · cases done
    exact ⟨rfl, rfl, rfl⟩
  · dsimp only at done
    split at done
    · cases done
    · cases done
      exact ⟨rfl, rfl, rfl⟩

/-- An update enters a new key, or it keeps the key and its destination, or it leaves
no key. -/
inductive Keeps (keyring : Keyring) (userID : UUID) (nonce : List UInt8)
    (settings : AssistantSettings) (edit : SettingsEdit) : Prop
  | enters (newKey : String) : edit.newKey = some newKey →
      edit.edited.key = some (keyring.sealText newKey (keyAAD userID) nonce) →
      edit.keyDropped = false → Keeps keyring userID nonce settings edit
  | keeps : edit.newKey = none → edit.edited.SameDestination settings →
      edit.keyDropped = false → Keeps keyring userID nonce settings edit
  | drops : edit.newKey = none → edit.edited.key = none →
      edit.keyDropped = settings.key.isSome → Keeps keyring userID nonce settings edit

theorem update_spec {userID : UUID} {input : UpdateAssistantSettingsInput} {now : Int}
    {nonce : List UInt8} {edit : SettingsEdit}
    (done : settings.update server keyring userID input now nonce = .ok edit) :
    Keeps keyring userID nonce settings edit ∧
      (settings.Addressed → edit.edited.Addressed) := by
  unfold update at done
  rcases Fallible.bind_eq_ok.mp done with ⟨newKey, _, done⟩
  rcases Fallible.bind_eq_ok.mp done with ⟨⟨provided, providerChanged⟩, providing, done⟩
  rcases Fallible.bind_eq_ok.mp done with ⟨⟨addressed, addressChanged⟩, addressing, done⟩
  rcases Fallible.bind_eq_ok.mp done with ⟨modelled, modelling, done⟩
  rcases Fallible.bind_eq_ok.mp done with ⟨keyed, keying, done⟩
  cases done
  rcases setProvider_spec providing with ⟨providerKept, providerAddressed⟩
  rcases setBaseURL_spec addressing with ⟨addressKept, baseURLAddressed⟩
  rcases setModel_spec modelling with ⟨sameProvider, sameAddress, sameKey⟩
  rcases storeKey_spec keying with ⟨keyedProvider, keyedAddress, keyedKey⟩
  have keptProvider : keyed.provider = addressed.provider := by
    rw [keyedProvider, ← sameProvider]
    split <;> rfl
  have keptAddress : keyed.baseURL = addressed.baseURL := by
    rw [keyedAddress, ← sameAddress]
    split <;> rfl
  refine ⟨?_, ?_⟩
  · cases newKey with
    | some entered =>
        refine .enters entered rfl keyedKey ?_
        dsimp only
        rw [Option.isNone_some, Bool.and_false, Bool.false_and]
    | none =>
        by_cases moved : (providerChanged || addressChanged) = true
        · rw [if_pos ⟨moved, rfl⟩] at keyedKey
          refine .drops rfl keyedKey ?_
          dsimp only
          rw [moved]
          rfl
        · rw [if_neg fun both => moved both.1] at keyedKey
          have unmoved := Bool.eq_false_iff.mpr moved
          rcases Bool.or_eq_false_iff.mp unmoved with ⟨stayed, stayedThere⟩
          rcases providerKept stayed with ⟨provider, baseURL, key⟩
          rcases addressKept stayedThere with ⟨provider', baseURL', key'⟩
          refine .keeps rfl ⟨?_, ?_, ?_⟩ ?_
          · exact keptProvider.trans (provider'.trans provider)
          · exact keptAddress.trans (baseURL'.trans baseURL)
          · exact keyedKey.trans (sameKey.trans (key'.trans key))
          · dsimp only
            rw [unmoved]
            rfl
  · intro before preset found isFixed
    dsimp only at found ⊢
    rw [keptProvider] at found
    rw [keptAddress]
    exact baseURLAddressed (providerAddressed before) preset found isFixed

theorem credentials_spec {userID : UUID} {forChat : Bool} {credentials : Credentials}
    (done : settings.credentials keyring userID forChat = .ok credentials)
    (addressed : settings.Addressed) :
    credentials.provider = settings.provider ∧ credentials.baseURL = settings.baseURL ∧
      ∀ opened, credentials.apiKey = some opened → ∃ stored, settings.key = some stored ∧
        keyring.openSealed stored (keyAAD userID) = some opened := by
  unfold AssistantSettings.credentials at done
  split at done
  · cases done
  · cases found : presetByID settings.provider with
    | none =>
        rw [found] at done
        cases done
    | some preset =>
        have address : (if preset.customBaseURL then settings.baseURL else "") =
            settings.baseURL := by
          cases custom : preset.customBaseURL with
          | true => rfl
          | false => exact (addressed preset found custom).symm
        rw [found] at done
        dsimp only at done
        split at done
        · cases done
        · split at done
          · split at done
            · cases done
            · cases done
              exact ⟨rfl, address, nofun⟩
          · rename_i stored stores
            split at done
            · cases done
            · rename_i opened opens
              cases done
              refine ⟨rfl, address, ?_⟩
              rintro _ ⟨rfl⟩
              exact ⟨stored, stores, opens⟩

end AssistantSettings

end HomelabBuilder.Secrets
