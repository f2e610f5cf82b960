import HomelabBuilder.Foundation.Runs
import HomelabBuilder.Secrets.Requests

/-! # Secrets that stay removed

Which saves bring back a secret, or a deleted integration, from a row that was read
before the removal.
-/

namespace HomelabBuilder.Secrets

open Runs (Reaches follow)
open Services (UUID)

namespace World

variable (world : World)

/-- No row holds a secret that was removed and not entered again, and a deleted
integration is gone. -/
structure StaysRemoved : Prop where
  keys : ∀ userID row sealed_, world.settings.lookup userID = some row →
    row.key = some sealed_ → (.settings userID, sealed_) ∉ world.removed
  secrets : ∀ id row sealed_, world.integrations.lookup id = some row →
    row.secret = some sealed_ → (.integration id, sealed_) ∉ world.removed
  integrations : ∀ id ∈ world.deleted, world.integrations.lookup id = none

/-- An update that writes back the secret it has read finds that none was removed
since, and an update of an integration that it was not deleted since. A new secret
needs neither. -/
def findsUnremoved (client : Nat) (event : Event) : Bool :=
  match event, world.requests.lookup client with
  | .write, some (.savingSettings userID _ edit seen) =>
      edit.newKey.isSome || edit.edited.key.isNone ||
        (world.seen (.settings userID)).removals = seen.removals
  | .write, some (.savingIntegration id _ edit seen) =>
      edit.newSecret.isSome ||
        ((world.seen (.integration id)).deletions = seen.deletions &&
          (edit.edited.secret.isNone ||
            (world.seen (.integration id)).removals = seen.removals))
  | _, _ => true

end World

/-- The worlds that requests reach from empty tables, in any order of statements. -/
abbrev Run (server : Instance) (meets : World → Nat → Event → Prop) : World → Prop :=
  Reaches (fun world (step : Nat × Event) => world.next server step.1 step.2)
    (fun world step => meets world step.1 step.2) {}

/-! ## The invariant -/

/-- How the records of a world grow: a request that has seen all removals of a secret
knows that the secret it has read is not removed. -/
structure Later (world after : World) : Prop where
  removals : ∀ owner, world.removals.count owner ≤ after.removals.count owner
  removed : ∀ owner sealed_, after.removals.count owner = world.removals.count owner →
    (owner, sealed_) ∈ after.removed → (owner, sealed_) ∈ world.removed
  deletions : ∀ id, world.deletions.count id ≤ after.deletions.count id
  deleted : ∀ id, after.deletions.count id = world.deletions.count id →
    id ∈ after.deleted → id ∈ world.deleted
  issued : world.issued ⊆ after.issued

/-- What a request knows of the secret it is about to write back. -/
structure Recent (world : World) (owner : Owner) (seen : Nat) (written : Option Sealed) : Prop where
  past : seen ≤ world.removals.count owner
  unremoved : world.removals.count owner = seen →
    ∀ sealed_, written = some sealed_ → (owner, sealed_) ∉ world.removed

def Request.Sound (world : World) : Request → Prop
  | .savingSettings userID _ edit seen =>
      (edit.keyDropped = true → edit.newKey = none ∧ edit.edited.key = none) ∧
        (edit.newKey = none → Recent world (.settings userID) seen.removals edit.edited.key)
  | .savingIntegration id _ edit seen =>
      (edit.secretDropped = true → edit.newSecret = none ∧ edit.edited.secret = none) ∧
        (edit.newSecret = none → Recent world (.integration id) seen.removals edit.edited.secret) ∧
          id ∈ world.issued ∧ seen.deletions ≤ world.deletions.count id ∧
            (world.deletions.count id = seen.deletions → id ∉ world.deleted)
  | _ => True

structure RowsSound (world : World) : Prop extends world.StaysRemoved where
  known : ∀ id row, world.integrations.lookup id = some row → id ∈ world.issued
  deletedKnown : ∀ id ∈ world.deleted, id ∈ world.issued

structure Sound (world : World) : Prop extends RowsSound world where
  requests : ∀ client request, world.requests.lookup client = some request → request.Sound world

theorem Sound.empty : Sound {} where
  keys _ _ _ found := by cases found
  secrets _ _ _ found := by cases found
  integrations _ member := by cases member
  known _ _ found := by cases found
  deletedKnown _ member := by cases member
  requests _ _ found := by cases found

theorem Recent.mono {world after : World} {owner : Owner} {seen : Nat} {written : Option Sealed}
    (recent : Recent world owner seen written) (later : Later world after) :
    Recent after owner seen written where
  past := recent.past.trans (later.removals owner)
  unremoved := by
    intro same sealed_ given member
    have grown := later.removals owner
    have past := recent.past
    have still : after.removals.count owner = world.removals.count owner := by omega
    exact recent.unremoved (by omega) sealed_ given (later.removed owner sealed_ still member)

theorem Request.Sound.mono {world after : World} {request : Request} (sound : request.Sound world)
    (later : Later world after) : request.Sound after := by
  cases request with
  | savingSettings userID loaded edit seen =>
      exact ⟨sound.1, fun keeps => (sound.2 keeps).mono later⟩
  | savingIntegration id loaded edit seen =>
      rcases sound with ⟨drops, recent, known, past, undeleted⟩
      have grown := later.deletions id
      refine ⟨drops, fun keeps => (recent keeps).mono later, later.issued known,
        past.trans grown, fun same member => ?_⟩
      have still : after.deletions.count id = world.deletions.count id := by omega
      exact undeleted (by omega) (later.deleted id still member)
  | starting _ | deletingKey _ _ | notingUse _ _ _ | inserting _ _ | fetching _ => trivial

namespace Later

variable {world : World}

theorem refl (world : World) : Later world world where
  removals _ := Nat.le_refl _
  removed _ _ _ := id
  deletions _ := Nat.le_refl _
  deleted _ _ := id
  issued := List.Subset.refl _

theorem recordRemoval (owner : Owner) (stored read : Option Sealed) :
    Later world (world.recordRemoval owner stored read) where
  removals _ := List.count_le_count_cons
  removed := by
    intro other sealed_ same member
    have different : other ≠ owner := by
      rintro rfl
      rw [World.recordRemoval, List.count_cons_self] at same
      omega
    rcases List.mem_append.mp member with here | earlier
    · rcases List.mem_map.mp here with ⟨gone, _, pair⟩
      cases pair
      exact absurd rfl different
    · exact earlier
  deletions _ := Nat.le_refl _
  deleted _ _ := id
  issued := List.Subset.refl _

theorem recordEntry (owner : Owner) (entered : Option Sealed) :
    Later world (world.recordEntry owner entered) where
  removals _ := Nat.le_refl _
  removed _ _ _ member := (List.mem_filter.mp member).1
  deletions _ := Nat.le_refl _
  deleted _ _ := id
  issued := List.Subset.refl _

end Later

/-- A world with something noted about the secret of one owner. -/
structure Noted (owner : Owner) (world noted : World) : Prop where
  later : Later world noted
  others : ∀ other sealed_, other ≠ owner → (other, sealed_) ∈ noted.removed →
    (other, sealed_) ∈ world.removed
  settings : noted.settings = world.settings
  integrations : noted.integrations = world.integrations
  requests : noted.requests = world.requests
  issued : noted.issued = world.issued
  deleted : noted.deleted = world.deleted

namespace Noted

variable {owner : Owner} {world : World}

theorem refl : Noted owner world world :=
  ⟨.refl world, fun _ _ _ => id, rfl, rfl, rfl, rfl, rfl⟩

theorem removal (stored read : Option Sealed) :
    Noted owner world (world.recordRemoval owner stored read) where
  later := .recordRemoval owner stored read
  others other sealed_ different :=
    (Later.recordRemoval owner stored read).removed other sealed_
      (List.count_cons_of_ne (Ne.symm different))
  settings := rfl
  integrations := rfl
  requests := rfl
  issued := rfl
  deleted := rfl

theorem entry (entered : Option Sealed) : Noted owner world (world.recordEntry owner entered) where
  later := .recordEntry owner entered
  others _ _ _ member := (List.mem_filter.mp member).1
  settings := rfl
  integrations := rfl
  requests := rfl
  issued := rfl
  deleted := rfl

theorem entered_notMem {entered : Option Sealed} {sealed_ : Sealed} (given : entered = some sealed_) :
    (owner, sealed_) ∉ (world.recordEntry owner entered).removed := by
  intro member
  have kept := (List.mem_filter.mp member).2
  rw [given] at kept
  exact of_decide_eq_true kept rfl

end Noted

section Steps

variable {server : Instance} {world : World} (sound : Sound world) (client : Nat)

include sound

theorem Sound.finish_of {after : World} (later : Later world after) (rows : RowsSound after)
    (same : after.requests = world.requests) : Sound (after.finish client) where
  toRowsSound := ⟨⟨rows.keys, rows.secrets, rows.integrations⟩, rows.known, rows.deletedKnown⟩
  requests := by
    intro other request found
    rw [World.finish, Table.lookup_erase, same] at found
    split at found
    · cases found
    · exact (sound.requests other request found).mono ⟨later.removals, later.removed,
        later.deletions, later.deleted, later.issued⟩

theorem Sound.finish : Sound (world.finish client) :=
  sound.finish_of client (.refl world) sound.toRowsSound rfl

theorem Sound.continueWith {request : Request} (fits : request.Sound world) :
    Sound (world.continueWith client request) where
  toRowsSound := ⟨⟨sound.keys, sound.secrets, sound.integrations⟩, sound.known, sound.deletedKnown⟩
  requests := by
    intro other running found
    have later : Later world (world.continueWith client request) :=
      ⟨fun _ => Nat.le_refl _, fun _ _ _ => id, fun _ => Nat.le_refl _, fun _ _ => id,
        List.Subset.refl _⟩
    rw [World.continueWith, Table.lookup_set] at found
    split at found
    · cases found
      exact fits.mono later
    · exact (sound.requests other running found).mono later

/-! ### Assistant settings -/

theorem Sound.writeSettings {noted : World} {userID : UUID}
    (note : Noted (.settings userID) world noted) {settings : List (UUID × AssistantSettings)}
    {entered returned : List KeyUse}
    (others : ∀ other, other ≠ userID → settings.lookup other = world.settings.lookup other)
    (own : ∀ row sealed_, settings.lookup userID = some row → row.key = some sealed_ →
      (.settings userID, sealed_) ∉ noted.removed) :
    Sound (World.finish { noted with
      settings := settings, keysEntered := entered, keysReturned := returned } client) := by
  have later := note.later
  apply sound.finish_of client
  · exact ⟨later.removals, later.removed, later.deletions, later.deleted, later.issued⟩
  · refine ⟨⟨?_, ?_, ?_⟩, ?_, ?_⟩
    · intro other row sealed_ found given
      by_cases here : other = userID
      · subst here
        exact own row sealed_ found given
      · intro member
        have stored : world.settings.lookup other = some row := (others other here).symm.trans found
        apply sound.keys other row sealed_ stored given
        apply note.others _ _ _ member
        rintro ⟨rfl⟩
        exact here rfl
    · intro id row sealed_ found given member
      apply sound.secrets id row sealed_ (note.integrations ▸ found) given
      exact note.others _ _ nofun member
    · intro id member
      exact (congrArg (List.lookup id) note.integrations).trans
        (sound.integrations id (note.deleted ▸ member))
    · intro id row found
      exact note.issued ▸ sound.known id row (note.integrations ▸ found)
    · intro id member
      exact note.issued ▸ sound.deletedKnown id (note.deleted ▸ member)
  · exact note.requests

theorem Sound.recent_settings {userID : UUID} {written : Option Sealed}
    (same : written = (world.settingsOf userID).key) :
    Recent world (.settings userID) (world.seen (.settings userID)).removals written where
  past := Nat.le_refl _
  unremoved := by
    intro _ sealed_ given
    rw [same] at given
    unfold World.settingsOf at given
    cases found : world.settings.lookup userID with
    | none =>
        rw [found] at given
        cases given
    | some row =>
        rw [found] at given
        exact sound.keys userID row sealed_ found given

theorem Sound.startUpdate (userID : UUID) (input : UpdateAssistantSettingsInput) (now : Int)
    (nonce : List UInt8) : Sound (world.startUpdate server client userID input now nonce) := by
  unfold World.startUpdate
  dsimp only
  split
  · rename_i edit updated
    rcases Option.map_eq_some_iff.mp updated with ⟨keyring, _, done⟩
    apply sound.continueWith
    rcases (AssistantSettings.update_spec done).1 with
      ⟨newKey, enters, _, undropped⟩ | ⟨keeps, same, undropped⟩ | ⟨keeps, wiped, drops⟩
    · refine ⟨fun dropped => ?_, fun keeps => ?_⟩
      · rw [undropped] at dropped
        cases dropped
      · rw [enters] at keeps
        cases keeps
    · refine ⟨fun dropped => ?_, fun _ => sound.recent_settings same.2.2⟩
      rw [undropped] at dropped
      cases dropped
    · refine ⟨fun _ => ⟨keeps, wiped⟩, fun _ => ⟨Nat.le_refl _, fun _ sealed_ given => ?_⟩⟩
      rw [wiped] at given
      cases given
  · exact sound.finish client

theorem Sound.saveSettings {userID : UUID} {loaded : AssistantSettings} {edit : SettingsEdit}
    {seen : Seen}
    (running : world.requests.lookup client = some (.savingSettings userID loaded edit seen))
    (finds : world.findsUnremoved client .write = true) :
    Sound (world.saveSettings client userID loaded edit) := by
  rcases sound.requests client _ running with ⟨drops, recent⟩
  unfold World.findsUnremoved at finds
  rw [running] at finds
  simp only [Bool.or_eq_true, decide_eq_true_eq] at finds
  have others : ∀ {noted : World}, noted.settings = world.settings → ∀ other, other ≠ userID →
      (Table.set noted.settings userID edit.edited).lookup other =
        world.settings.lookup other := by
    intro noted same other elsewhere
    rw [same, Table.lookup_set, if_neg elsewhere]
  have own : ∀ {noted : World} row, (Table.set noted.settings userID edit.edited).lookup userID =
      some row → row = edit.edited := by
    intro noted row found
    rw [Table.lookup_set, if_pos rfl] at found
    cases found
    rfl
  unfold World.saveSettings
  dsimp only
  by_cases dropped : edit.keyDropped = true
  · rw [if_pos dropped]
    have note : Noted (.settings userID) world _ :=
      .removal (world.settingsOf userID).key loaded.key
    apply sound.writeSettings client note (others note.settings)
    intro row sealed_ found given
    rw [own row found, (drops dropped).2] at given
    cases given
  · rw [if_neg dropped]
    by_cases enters : edit.newKey.isSome = true
    · rw [if_pos enters]
      have note : Noted (.settings userID) world _ := .entry edit.edited.key
      apply sound.writeSettings client note (others note.settings)
      intro row sealed_ found given
      rw [own row found] at given
      exact Noted.entered_notMem given
    · rw [if_neg enters]
      apply sound.writeSettings client .refl (others rfl)
      intro row sealed_ found given
      rw [own row found] at given
      have keeps := Option.not_isSome_iff_eq_none.mp enters
      have unremoved := (recent keeps).unremoved
      apply unremoved ?_ sealed_ given
      rcases finds with (entering | keyless) | current
      · exact absurd entering enters
      · rw [given] at keyless
        cases keyless
      · exact current

theorem Sound.saveDeletedKey (userID : UUID) (loaded : AssistantSettings) :
    Sound (world.saveDeletedKey client userID loaded) := by
  have note : Noted (.settings userID) world _ :=
    .removal (world.settingsOf userID).key loaded.key
  apply sound.writeSettings client note
  · intro other elsewhere
    rw [note.settings, Table.lookup_set, if_neg elsewhere]
  · intro row sealed_ found given
    rw [Table.lookup_set, if_pos rfl] at found
    cases found
    cases given

theorem Sound.reset (userID : UUID) : Sound (world.reset client userID) := by
  have note : Noted (.settings userID) world _ := .removal (world.settingsOf userID).key none
  apply sound.writeSettings client note
  · intro other elsewhere
    rw [note.settings, Table.lookup_erase, if_neg elsewhere]
  · intro row sealed_ found
    rw [Table.lookup_erase, if_pos rfl] at found
    cases found

theorem Sound.returnCredentials (userID : UUID) (credentials : AssistantSettings.Credentials) :
    Sound (world.returnCredentials server client userID credentials) := by
  have note : Noted (.settings userID) world world := .refl
  apply sound.writeSettings client note
  · intro _ _
    rfl
  · exact sound.keys userID

theorem Sound.resolve (userID : UUID) (forChat : Bool) (now : Int) :
    Sound (world.resolve server client userID forChat now) := by
  unfold World.resolve
  dsimp only
  split
  · split
    · exact sound.continueWith client trivial
    · exact sound.returnCredentials client userID _
  · exact sound.finish client

theorem Sound.noteUse (userID : UUID) (credentials : AssistantSettings.Credentials) (now : Int)
    (written : Bool) : Sound (world.noteUse server client userID credentials now written) := by
  have note : Noted (.settings userID) world world := .refl
  apply sound.writeSettings client note
  · intro other elsewhere
    split
    · rw [Table.lookup_modify, if_neg elsewhere]
    · rfl
  · intro row sealed_ found given
    split at found
    · rw [Table.lookup_modify, if_pos rfl] at found
      rcases Option.map_eq_some_iff.mp found with ⟨stored, here, rfl⟩
      exact sound.keys userID stored sealed_ here given
    · exact sound.keys userID row sealed_ found given

/-! ### Integrations -/

/-- One integration is written or deleted. What is deleted is gone, what is there holds
a secret that is not removed. -/
theorem Sound.writeIntegrations {noted : World} {id : UUID}
    (note : Noted (.integration id) world noted) {integrations : List (UUID × Integration)}
    {issued deleted deletions : List UUID} {entered handed : List SecretUse}
    (others : ∀ other, other ≠ id → integrations.lookup other = world.integrations.lookup other)
    (own : ∀ row sealed_, integrations.lookup id = some row → row.secret = some sealed_ →
      (.integration id, sealed_) ∉ noted.removed)
    (known : id ∈ issued) (grows : world.issued ⊆ issued)
    (count : ∀ other, world.deletions.count other ≤ deletions.count other)
    (undeleted : ∀ other, deletions.count other = world.deletions.count other →
      other ∈ deleted → other ∈ world.deleted)
    (gone : id ∈ deleted → integrations.lookup id = none)
    (deletedOthers : ∀ other ∈ deleted, other ≠ id → other ∈ world.deleted) :
    Sound (World.finish { noted with
      integrations := integrations
      issued := issued
      deleted := deleted
      deletions := deletions
      secretsEntered := entered
      secretsHanded := handed } client) := by
  apply sound.finish_of client
  · exact ⟨note.later.removals, note.later.removed, count, undeleted, grows⟩
  · refine ⟨⟨?_, ?_, ?_⟩, ?_, ?_⟩
    · intro userID row sealed_ found given member
      apply sound.keys userID row sealed_ (note.settings ▸ found) given
      exact note.others _ _ nofun member
    · intro other row sealed_ found given
      by_cases here : other = id
      · subst here
        exact own row sealed_ found given
      · intro member
        have stored : world.integrations.lookup other = some row :=
          (others other here).symm.trans found
        apply sound.secrets other row sealed_ stored given
        apply note.others _ _ _ member
        rintro ⟨rfl⟩
        exact here rfl
    · intro other member
      by_cases here : other = id
      · subst here
        exact gone member
      · exact (others other here).trans (sound.integrations other (deletedOthers other member here))
    · intro other row found
      by_cases here : other = id
      · exact here ▸ known
      · exact grows (sound.known other row ((others other here).symm.trans found))
    · intro other member
      by_cases here : other = id
      · exact here ▸ known
      · exact grows (sound.deletedKnown other (deletedOthers other member here))
  · exact note.requests

theorem Sound.startCreate (userID : UUID) (input : IntegrationInput) (now : Int)
    (nonce : List UInt8) (newID : UUID) :
    Sound (world.startCreate server client userID input now nonce newID) := by
  unfold World.startCreate
  dsimp only
  split
  · exact sound.finish client
  · split
    · exact sound.finish client
    · exact sound.continueWith client trivial

theorem Sound.insert {id : UUID} {edit : IntegrationEdit} {after : World}
    (done : world.insert client id edit = some after) : Sound after := by
  unfold World.insert at done
  split at done
  · cases done
  · rename_i fresh
    cases done
    have note : Noted (.integration id) world _ := .entry edit.edited.secret
    apply sound.writeIntegrations client note
    · intro other elsewhere
      rw [note.integrations, Table.lookup_set, if_neg elsewhere]
    · intro row sealed_ found given
      rw [Table.lookup_set, if_pos rfl] at found
      cases found
      exact Noted.entered_notMem given
    · exact List.mem_cons_self
    · exact List.subset_cons_self id world.issued
    · exact fun _ => Nat.le_refl _
    · exact fun _ _ member => member
    · intro member
      exact absurd (sound.deletedKnown id member) fresh
    · exact fun _ member _ => member

theorem Sound.startUpdateIntegration (userID id : UUID) (input : IntegrationInput) (now : Int)
    (nonce : List UInt8) :
    Sound (world.startUpdateIntegration server client userID id input now nonce) := by
  unfold World.startUpdateIntegration
  split
  · exact sound.finish client
  · rename_i loaded found
    split
    · exact sound.finish client
    · rename_i edit done
      have stored : world.integrations.lookup id = some loaded := by
        split at found
        · exact (World.lookup_of_integrationOf found).1
        · cases found
      have present : id ∉ world.deleted := by
        intro member
        rw [sound.integrations id member] at stored
        cases stored
      apply sound.continueWith
      rcases (Integration.apply_spec done).2 with
        ⟨newSecret, _, enters, _, _, undropped⟩ | ⟨keeps, same, undropped⟩ | ⟨keeps, wiped, drops⟩
      · refine ⟨fun dropped => ?_, fun keeps => ?_, sound.known id loaded stored, Nat.le_refl _,
          fun _ => present⟩
        · rw [undropped] at dropped
          cases dropped
        · rw [enters] at keeps
          cases keeps
      · refine ⟨fun dropped => ?_, fun _ => ⟨Nat.le_refl _, fun _ sealed_ given => ?_⟩,
          sound.known id loaded stored, Nat.le_refl _, fun _ => present⟩
        · rw [undropped] at dropped
          cases dropped
        · exact sound.secrets id loaded sealed_ stored (same.secret.symm.trans given)
      · refine ⟨fun _ => ⟨keeps, wiped⟩, fun _ => ⟨Nat.le_refl _, fun _ sealed_ given => ?_⟩,
          sound.known id loaded stored, Nat.le_refl _, fun _ => present⟩
        rw [wiped] at given
        cases given

theorem Sound.saveIntegration {id : UUID} {loaded : Integration} {edit : IntegrationEdit}
    {seen : Seen}
    (running : world.requests.lookup client = some (.savingIntegration id loaded edit seen))
    (finds : world.findsUnremoved client .write = true) :
    Sound (world.saveIntegration client id loaded edit) := by
  rcases sound.requests client _ running with ⟨drops, recent, known, _, undeleted⟩
  unfold World.findsUnremoved at finds
  rw [running] at finds
  simp only [Bool.or_eq_true, Bool.and_eq_true, decide_eq_true_eq] at finds
  have others : ∀ {noted : World}, noted.integrations = world.integrations →
      ∀ other, other ≠ id → (Table.set noted.integrations id edit.edited).lookup other =
        world.integrations.lookup other := by
    intro noted same other elsewhere
    rw [same, Table.lookup_set, if_neg elsewhere]
  have own : ∀ {noted : World} row,
      (Table.set noted.integrations id edit.edited).lookup id = some row → row = edit.edited := by
    intro noted row found
    rw [Table.lookup_set, if_pos rfl] at found
    cases found
    rfl
  unfold World.saveIntegration
  dsimp only
  by_cases enters : edit.newSecret.isSome = true
  · have undropped : edit.secretDropped ≠ true := by
      intro dropped
      rw [(drops dropped).1] at enters
      cases enters
    rw [if_neg undropped, if_pos enters]
    have note : Noted (.integration id) world _ := .entry edit.edited.secret
    apply sound.writeIntegrations client note (others note.integrations)
    · intro row sealed_ found given
      rw [own row found] at given
      exact Noted.entered_notMem given
    · exact known
    · exact List.Subset.refl _
    · exact fun _ => Nat.le_refl _
    · exact fun _ _ member => (List.mem_filter.mp member).1
    · intro member
      exact absurd rfl (of_decide_eq_true (List.mem_filter.mp member).2)
    · exact fun _ member _ => (List.mem_filter.mp member).1
  · rcases finds.resolve_left enters with ⟨undeletedSince, unremovedSince⟩
    have present := undeleted undeletedSince
    have keeps := Option.not_isSome_iff_eq_none.mp enters
    by_cases dropped : edit.secretDropped = true
    · rw [if_pos dropped]
      have note : Noted (.integration id) world _ :=
        .removal (world.secretOf id) loaded.secret
      apply sound.writeIntegrations client note (others note.integrations)
      · intro row sealed_ found given
        rw [own row found, (drops dropped).2] at given
        cases given
      · exact known
      · exact List.Subset.refl _
      · exact fun _ => Nat.le_refl _
      · exact fun _ _ member => member
      · exact fun member => absurd member present
      · exact fun _ member _ => member
    · rw [if_neg dropped, if_neg enters]
      apply sound.writeIntegrations client .refl (others rfl)
      · intro row sealed_ found given
        rw [own row found] at given
        apply (recent keeps).unremoved ?_ sealed_ given
        rcases unremovedSince with secretless | current
        · rw [given] at secretless
          cases secretless
        · exact current
      · exact known
      · exact List.Subset.refl _
      · exact fun _ => Nat.le_refl _
      · exact fun _ _ member => member
      · exact fun member => absurd member present
      · exact fun _ member _ => member

theorem Sound.hand (handed : List SecretUse) : Sound { world with secretsHanded := handed } where
  toRowsSound := ⟨⟨sound.keys, sound.secrets, sound.integrations⟩, sound.known, sound.deletedKnown⟩
  requests client request found := (sound.requests client request found).mono
    ⟨fun _ => Nat.le_refl _, fun _ _ _ => id, fun _ => Nat.le_refl _, fun _ _ => id,
      List.Subset.refl _⟩

theorem Sound.startSync (userID id : UUID) (allowed : Bool) :
    Sound (world.startSync server client userID id allowed) := by
  unfold World.startSync
  split
  · exact sound.finish client
  · exact (sound.hand _).continueWith client trivial

theorem Sound.fetched (id : UUID) (result : Except String Json) (now : Int) :
    Sound (world.fetched client id result now) := by
  unfold World.fetched
  cases found : world.integrations.lookup id with
  | none =>
      rw [Table.modify, found]
      exact sound.finish client
  | some row =>
      have note : Noted (.integration id) world world := .refl
      apply sound.writeIntegrations client note
      · intro other elsewhere
        rw [Table.lookup_modify, if_neg elsewhere]
      · intro after sealed_ written given
        rw [Table.lookup_modify, if_pos rfl, found] at written
        cases written
        apply sound.secrets id row sealed_ found
        rw [← given]
        cases result <;> rfl
      · exact sound.known id row found
      · exact List.Subset.refl _
      · exact fun _ => Nat.le_refl _
      · exact fun _ _ member => member
      · intro member
        rw [sound.integrations id member] at found
        cases found
      · exact fun _ member _ => member

theorem Sound.deleteIntegration (userID id : UUID) :
    Sound (world.deleteIntegration client userID id) := by
  unfold World.deleteIntegration
  split
  · exact sound.finish client
  · rename_i row found
    have stored := (World.lookup_of_integrationOf found).1
    have note : Noted (.integration id) world _ := .removal row.secret none
    apply sound.writeIntegrations client note
    · intro other elsewhere
      rw [note.integrations, Table.lookup_erase, if_neg elsewhere]
    · intro row sealed_ found
      rw [Table.lookup_erase, if_pos rfl] at found
      cases found
    · exact sound.known id row stored
    · exact List.Subset.refl _
    · exact fun _ => List.count_le_count_cons
    · intro other same member
      rcases List.mem_cons.mp member with rfl | earlier
      · change (other :: world.deletions).count other = world.deletions.count other at same
        rw [List.count_cons_self] at same
        omega
      · exact earlier
    · intro _
      rw [Table.lookup_erase, if_pos rfl]
    · intro other member elsewhere
      exact (List.mem_cons.mp member).resolve_left elsewhere

theorem Sound.start (call : Call) (now : Int) (nonce : List UInt8) (newID : UUID)
    (allowed : Bool) : Sound (world.start server client call now nonce newID allowed) := by
  cases call with
  | updateSettings userID input => exact sound.startUpdate client userID input now nonce
  | deleteKey userID => exact sound.continueWith client trivial
  | reset userID => exact sound.reset client userID
  | resolveCredentials userID forChat => exact sound.resolve client userID forChat now
  | createIntegration userID input => exact sound.startCreate client userID input now nonce newID
  | updateIntegration userID id input =>
      exact sound.startUpdateIntegration client userID id input now nonce
  | test userID input => exact (sound.hand _).finish client
  | sync userID id => exact sound.startSync client userID id allowed
  | deleteIntegration userID id => exact sound.deleteIntegration client userID id

theorem Sound.next {event : Event} {after : World}
    (finds : world.findsUnremoved client event = true)
    (done : world.next server client event = some after) : Sound after := by
  unfold World.next at done
  split at done
  · cases done
    exact sound.continueWith client trivial
  · cases done
    exact sound.start client _ _ _ _ _
  · rename_i running
    cases done
    exact sound.saveSettings client running finds
  · cases done
    exact sound.saveDeletedKey client _ _
  · exact sound.insert client done
  · rename_i running
    cases done
    exact sound.saveIntegration client running finds
  · cases done
    exact sound.noteUse client _ _ _ _
  · cases done
    exact sound.fetched client _ _ _
  · cases done
    exact sound.finish client
  · cases done

end Steps

/-! ## Runs -/

/-- What is removed stays removed as long as no update writes back what it has read
before the removal. -/
theorem removed_stays_removed {server : Instance} {world : World}
    (run : Run server (fun world client event => world.findsUnremoved client event = true) world) :
    world.StaysRemoved :=
  have sound : Sound world := run.invariant .empty fun _ step _ sound finds done =>
    sound.next step.1 finds done
  sound.toStaysRemoved

/-- An instance for examples. It may call private addresses and reads no exports. -/
def Instance.selfHosted (parseURL : String → Option ParsedURL) : Instance where
  keyring := some (.knowing ["sk-first", "token-secret"])
  assistant := true
  integrations := true
  allowPrivate := true
  parseURL := parseURL
  isBlockedHost _ := false
  parseExport _ _ := none

/-- A key is stored and deleted, and the model is changed by a request that reads the
row before the deletion or after it. -/
def deletionWithRename (readBefore : Bool) : List (Nat × Event) :=
  let user : UUID := .numbered 1
  let id : UUID := .numbered 2
  let read : Nat × Event := (1, .start 20 [] id true)
  [(0, .receive (.updateSettings user { provider := some "openai", apiKey := some "sk-first" })),
    (0, .start 0 [7] id true), (0, .write),
    (1, .receive (.updateSettings user { model := some "gpt-5" }))] ++
    (if readBefore then [read] else []) ++
    [(2, .receive (.deleteKey user)), (2, .start 10 [] id true), (2, .write)] ++
    (if readBefore then [] else [read]) ++ [(1, .write)]

theorem removed_stays_removed_renamed : ∃ world : World,
    world.removals = [.settings (.numbered 1)] ∧
      (world.settings.lookup (.numbered 1)).map (·.model) = some "gpt-5" ∧ world.StaysRemoved := by
  have facts : ((follow (fun (world : World) (step : Nat × Event) =>
      world.next (.selfHosted fun _ => none) step.1 step.2)
      (fun world step => world.findsUnremoved step.1 step.2) {} (deletionWithRename false)).any
        fun world => world.removals = [.settings (.numbered 1)] &&
          (world.settings.lookup (.numbered 1)).map (·.model) = some "gpt-5") = true := by
    decide
  rcases (Option.any_eq_true _ _).mp facts with ⟨world, done, facts⟩
  rw [Bool.and_eq_true] at facts
  exact ⟨world, of_decide_eq_true facts.1, of_decide_eq_true facts.2,
    removed_stays_removed (Runs.reaches_of_follow .nil done)⟩

/-- A change of the model brings a deleted key back. -/
theorem deleted_key_returns : ∃ server world, Run server (fun _ _ _ => True) world ∧
    ¬world.StaysRemoved := by
  have facts : ((follow (fun (world : World) (step : Nat × Event) =>
      world.next (.selfHosted fun _ => none) step.1 step.2) (fun _ _ => true) {}
      (deletionWithRename true)).any fun world =>
        (world.settings.lookup (.numbered 1)).any fun row => row.key.any fun sealed_ =>
          (.settings (.numbered 1), sealed_) ∈ world.removed) = true := by
    decide
  rcases (Option.any_eq_true _ _).mp facts with ⟨world, done, facts⟩
  rcases (Option.any_eq_true _ _).mp facts with ⟨row, stored, facts⟩
  rcases (Option.any_eq_true _ _).mp facts with ⟨sealed_, given, member⟩
  refine ⟨_, world, (Runs.reaches_of_follow .nil done).mono fun _ _ _ => trivial,
    fun stays => ?_⟩
  exact stays.keys _ row sealed_ stored given (of_decide_eq_true member)

end HomelabBuilder.Secrets
