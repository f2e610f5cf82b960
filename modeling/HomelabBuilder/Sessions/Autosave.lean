import HomelabBuilder.Canvas.Actions
import HomelabBuilder.Foundation.Runs

/-! # Saving by itself

`autosave.ts`: saves the open build shortly after it stops changing. Time is left out: a
timer that is pending can run at any moment. A save runs as `reassignAllIPs` of
`builder-store.ts` does; what else the store does in between is one change after another.
-/

namespace HomelabBuilder.Sessions

open Canvas

def conflictMessage : String :=
  "This project was changed elsewhere. The latest version is loaded; Undo brings yours back."

def autosaveCheckMs : Nat := 300
def autosaveDelayMs : Nat := 2000
def autosaveRetryMs : List Nat := [2000, 5000, 15000]

/-- Why a save failed. `other` is no answer at all, or no open build. -/
inductive SaveFailure
  | conflict
  | api (status : Nat) (message : String)
  | other

namespace SaveFailure

/-- A save the server looked at and refused will be refused again. -/
def isRefusal : SaveFailure → Bool
  | api status _ => status ≠ 408 && status ≠ 409 && status ≠ 429 && 400 ≤ status && status < 500
  | _ => false

/-- The `saveError` of the store. -/
def text : SaveFailure → String
  | api status message =>
      if status = 422 ∧ message ≠ "" then message else "The server could not save this project."
  | _ => "The server could not be reached."

end SaveFailure

inductive TimerKind
  | check
  | save
  deriving DecidableEq

/-- A timeout that has not run; one without a delay would run at once. -/
structure Timer where
  id : Nat
  kind : TimerKind
  delay : Option Nat

inductive SavePhase
  | queued
  | sent (buildID : String) (data : BuildData)
  | saved
  | failed (sent : Option (String × BuildData)) (failure : SaveFailure)

/-- A call of `reassignAllIPs`; the final one is made when the builder is left. -/
structure Save where
  final : Bool
  phase : SavePhase

structure Watched where
  canvas : Canvas
  buildKind : String
  gamingPlan : List (String × Json)
  buildSettings : List (String × Json)
  lastSyncedFingerprint : Option BuildData
  isReady : Bool
  currentBuildID : Option String
  deriving DecidableEq

def watched (store : BuilderState) : Watched where
  canvas := store.canvas
  buildKind := store.buildKind
  gamingPlan := store.gamingPlan
  buildSettings := store.buildSettings
  lastSyncedFingerprint := store.lastSyncedFingerprint
  isReady := store.isReady
  currentBuildID := store.currentBuildID

/-- The store with the variables of `startAutosave`. What was reported since the last change
is for the record. -/
structure Autosave where
  store : BuilderState
  saveError : Option String := none
  checkTimer : Option Nat := none
  saveTimer : Option Nat := none
  retryTimer : Option Nat := none
  retries : Nat := 0
  stopped : Bool := false
  pending : List Timer := []
  saves : List Save := []
  nextTimer : Nat := 0
  reported : List (String × BuildData) := []
  conflicts : Nat := 0
  failures : List String := []

inductive AutosaveEvent
  /-- Anything else the store does; a change of what is watched is told. -/
  | change (after : BuilderState) (saveError : Option String) (told : Bool)
  | fire (timer : Nat)
  | begin (save : Nat)
  | answer (save : Nat) (build : Build)
  | fail (save : Nat) (failure : SaveFailure)
  | resend (save : Nat) (revision : Nat)
  | conflict (save : Nat) (latest : Build)
  | settle (save : Nat)
  | stop

namespace Autosave

variable (state : Autosave)

def isOpen : Bool := state.store.currentBuildID.isSome && state.store.isReady

/-! ## Timers -/

def clearTimeout (timer : Option Nat) : Autosave :=
  { state with pending := state.pending.filter fun other => some other.id ≠ timer }

def setTimeout (kind : TimerKind) (delay : Option Nat) : Autosave :=
  { state with
    pending := state.pending ++ [⟨state.nextTimer, kind, delay⟩]
    nextTimer := state.nextTimer + 1 }

def cancelSave : Autosave :=
  { (state.clearTimeout state.saveTimer).clearTimeout state.retryTimer with
    saveTimer := none, retryTimer := none }

/-- What the subscriber does; nobody listens after `stop`. -/
def tell (after : BuilderState) : Autosave :=
  let told := { state with store := after, reported := [] }
  if state.stopped then told
  else
    { (told.clearTimeout state.checkTimer).setTimeout .check (some autosaveCheckMs) with
      checkTimer := some state.nextTimer }

def check : Autosave :=
  let state := { state with checkTimer := none }
  if state.stopped then state
  else if state.isOpen = false then state.cancelSave
  else if hasUnsavedChanges state.store = false then { state.cancelSave with retries := 0 }
  else
    -- An edit restarts the countdown, and replaces a retry that was waiting.
    { state.cancelSave.setTimeout .save (some (autosaveDelayMs - autosaveCheckMs)) with
      saveTimer := some state.nextTimer }

/-- `save`, up to the call of `reassignAllIPs`. -/
def save : Autosave :=
  let state := { state with saveTimer := none, retryTimer := none }
  if state.stopped ∨ state.isOpen = false ∨ hasUnsavedChanges state.store = false then state
  else { state with saves := state.saves ++ [⟨false, .queued⟩] }

def fire (timer : Nat) : Option Autosave :=
  (state.pending.find? fun other => other.id = timer).map fun found =>
    let running := { state with pending := state.pending.filter fun other => other.id ≠ timer }
    match found.kind with
    | .check => running.check
    | .save => running.save

/-! ## Saves -/

def setPhase (index : Nat) (save : Save) (phase : SavePhase) : Autosave :=
  { state with saves := state.saves.set index { save with phase } }

/-- A save reads the canvas when its turn has come. -/
def begin (index : Nat) (save : Save) : Autosave :=
  match state.store.currentBuildID with
  | some buildID =>
      if state.store.isReady then
        state.setPhase index save (.sent buildID (getBuildData state.store))
      else state.setPhase index save (.failed none .other)
  | none => state.setPhase index save (.failed none .other)

/-- The save failed and nothing else happened. -/
def fail (index : Nat) (save : Save) (buildID : String) (data : BuildData) (failure : SaveFailure) :
    Autosave :=
  let failed := state.setPhase index save (.failed (some (buildID, data)) failure)
  if state.store.currentBuildID = some buildID then { failed with saveError := some failure.text }
  else failed

variable (parseJSON : String → Option Json)

def answer (index : Nat) (save : Save) (buildID : String) (data : BuildData) (build : Build) :
    Autosave :=
  let answered := state.setPhase index save .saved
  if state.store.currentBuildID = some buildID then
    { answered.tell (mergeAnswer parseJSON buildID data build state.store) with saveError := none }
  else answered

/-- `onConflict`. -/
def reportConflict (sent : Option (String × BuildData)) : Autosave :=
  { state with
    retries := 0
    conflicts := state.conflicts + 1
    reported := state.reported ++ sent.toList }

/-- `onFailure`. -/
def reportFailure (sent : Option (String × BuildData)) : Autosave :=
  { state with
    retries := 0
    failures := state.failures ++ [state.saveError.getD "This project could not be saved."]
    reported := state.reported ++ sent.toList }

def retry : Autosave :=
  { state.setTimeout .save autosaveRetryMs[state.retries]? with
    retryTimer := some state.nextTimer
    retries := state.retries + 1 }

/-- The part of `save` behind the call. -/
def caught (sent : Option (String × BuildData)) (failure : SaveFailure) : Autosave :=
  if state.stopped then state
  else
    match failure with
    | .conflict => state.reportConflict sent
    | _ =>
        if failure.isRefusal ∨ autosaveRetryMs.length ≤ state.retries then state.reportFailure sent
        else state.retry

/-- What is said of the save that `stop` left behind. -/
def leftBehind (failure : SaveFailure) : Autosave :=
  let message :=
    match failure with
    | .conflict => conflictMessage
    | _ => "Your last change could not be saved before leaving the builder."
  { state with failures := state.failures ++ [message] }

def settle (index : Nat) (save : Save) : Option Autosave :=
  let settled := { state with saves := state.saves.eraseIdx index }
  match save.phase with
  | .saved => some (if save.final then settled else { settled with retries := 0 })
  | .failed sent failure =>
      some (if save.final then settled.leftBehind failure else settled.caught sent failure)
  | _ => none

/-- What is still pending is saved when the builder is left. -/
def stop : Autosave :=
  if state.stopped then state
  else
    let stopped := ({ state with stopped := true }.clearTimeout state.checkTimer).cancelSave
    if state.isOpen && hasUnsavedChanges state.store then
      { stopped with saves := stopped.saves ++ [⟨true, .queued⟩] }
    else stopped

/-! ## Steps -/

/-- Whether a save that was refused as stale goes on from a revision of its own. -/
def resend (index : Nat) (save : Save) (buildID : String) (revision : Nat) : Option Autosave :=
  if state.store.currentBuildID = some buildID then
    let store := { state.store with currentRevision := revision }
    some ({ state with store }.begin index save)
  else none

def conflict (index : Nat) (save : Save) (buildID : String) (data : BuildData) (latest : Build) :
    Option Autosave :=
  if state.store.currentBuildID = some buildID then
    some { (state.setPhase index save (.failed (some (buildID, data)) .conflict)).tell
      (takeOver parseJSON state.store latest) with saveError := none }
  else none

def next : AutosaveEvent → Option Autosave
  | .change after saveError told =>
      if told then some { state.tell after with saveError }
      else if watched after = watched state.store then some { state with store := after, saveError }
      else none
  | .fire timer => state.fire timer
  | .begin index =>
      state.saves[index]?.bind fun save =>
        match save.phase with
        | .queued => some (state.begin index save)
        | _ => none
  | .answer index build =>
      state.saves[index]?.bind fun save =>
        match save.phase with
        | .sent buildID data => some (state.answer parseJSON index save buildID data build)
        | _ => none
  | .fail index failure =>
      state.saves[index]?.bind fun save =>
        match save.phase, failure with
        | .sent _ _, .conflict => none
        | .sent buildID data, _ => some (state.fail index save buildID data failure)
        | _, _ => none
  | .resend index revision =>
      state.saves[index]?.bind fun save =>
        match save.phase with
        | .sent buildID _ => state.resend index save buildID revision
        | _ => none
  | .conflict index latest =>
      state.saves[index]?.bind fun save =>
        match save.phase with
        | .sent buildID data => state.conflict parseJSON index save buildID data latest
        | _ => none
  | .settle index => state.saves[index]?.bind (state.settle index)
  | .stop => some state.stop

end Autosave

end HomelabBuilder.Sessions

/-! # No edit is forgotten

In every run, an open build that differs from the server's copy is on its way there: a timer
is pending, a save carries exactly this canvas, or its failure was reported.
-/

namespace HomelabBuilder.Sessions.Autosave

open Canvas

def Shows (store : BuilderState) (content : String × BuildData) : Prop :=
  store.currentBuildID = some content.1 ∧ getBuildData store = content.2

/-- The save carries the canvas as it is now, or will read it. -/
def Carries (store : BuilderState) (save : Save) : Prop :=
  save.final = false ∧
    match save.phase with
    | .queued => True
    | .sent buildID data => Shows store (buildID, data)
    | .failed (some content) _ => Shows store content
    | _ => False

/-- Something will happen to the canvas as it is now, or was reported about it. -/
def Covered (state : Autosave) : Prop :=
  state.pending ≠ [] ∨ (∃ save ∈ state.saves, Carries state.store save) ∨
    ∃ content ∈ state.reported, Shows state.store content

structure Sound (state : Autosave) : Prop where
  covered : state.stopped = false → hasUnsavedChanges state.store = true → state.Covered
  delays : ∀ timer ∈ state.pending, timer.delay.isSome = true
  retries : state.retries ≤ autosaveRetryMs.length

/-! ## What a subscriber sees -/

theorem watched_eq {before after : BuilderState} (same : watched after = watched before) :
    after.canvas = before.canvas ∧ after.buildKind = before.buildKind ∧
      after.gamingPlan = before.gamingPlan ∧ after.buildSettings = before.buildSettings ∧
      after.lastSyncedFingerprint = before.lastSyncedFingerprint ∧
      after.isReady = before.isReady ∧ after.currentBuildID = before.currentBuildID := by
  simpa only [watched, Watched.mk.injEq] using same

theorem getBuildData_of_watched {before after : BuilderState}
    (same : watched after = watched before) : getBuildData after = getBuildData before := by
  obtain ⟨canvas, kind, plan, settings, _⟩ := watched_eq same
  simp only [getBuildData, canvas, kind, plan, settings]

theorem unsaved_of_watched {before after : BuilderState} (same : watched after = watched before) :
    hasUnsavedChanges after = hasUnsavedChanges before := by
  obtain ⟨_, _, _, _, synced, ready, open_⟩ := watched_eq same
  simp only [hasUnsavedChanges, getBuildData_of_watched same, synced, ready, open_]

theorem shows_of_watched {before after : BuilderState} (same : watched after = watched before)
    (content : String × BuildData) : Shows after content ↔ Shows before content := by
  obtain ⟨_, _, _, _, _, _, open_⟩ := watched_eq same
  simp only [Shows, getBuildData_of_watched same, open_]

theorem carries_of_watched {before after : BuilderState} (same : watched after = watched before)
    (save : Save) : Carries after save ↔ Carries before save := by
  unfold Carries
  cases save.phase with
  | failed sent failure => cases sent <;> simp only [shows_of_watched same]
  | _ => simp only [shows_of_watched same]

theorem covered_of_watched {state : Autosave} {after : BuilderState}
    (same : watched after = watched state.store) (covered : state.Covered) :
    Covered { state with store := after } := by
  refine covered.imp_right (Or.imp ?_ ?_)
  · rintro ⟨save, member, carries⟩
    exact ⟨save, member, (carries_of_watched same save).mpr carries⟩
  · rintro ⟨content, member, shows_⟩
    exact ⟨content, member, (shows_of_watched same content).mpr shows_⟩

theorem isOpen_of_unsaved {state : Autosave} (unsaved : hasUnsavedChanges state.store = true) :
    state.isOpen = true := by
  unfold hasUnsavedChanges at unsaved
  rw [Bool.and_eq_true] at unsaved
  exact unsaved.1

/-! ## Timers -/

section Timers

variable {state : Autosave}

/-- The timers that can still run have a delay. -/
def Delayed (state : Autosave) : Prop := ∀ timer ∈ state.pending, timer.delay.isSome = true

theorem Delayed.clearTimeout (delayed : state.Delayed) (timer : Option Nat) :
    (state.clearTimeout timer).Delayed := fun other member =>
  delayed other (List.mem_filter.mp member).1

theorem Delayed.setTimeout (delayed : state.Delayed) (kind : TimerKind) {delay : Option Nat}
    (given : delay.isSome = true) : (state.setTimeout kind delay).Delayed := by
  intro timer member
  rcases List.mem_append.mp member with old | new
  · exact delayed timer old
  · rw [List.mem_singleton.mp new]
    exact given

theorem Delayed.cancelSave (delayed : state.Delayed) : state.cancelSave.Delayed :=
  (delayed.clearTimeout state.saveTimer).clearTimeout state.retryTimer

end Timers

/-! ## One step -/

section Steps

variable {state : Autosave}

theorem sound_tell (state : Autosave) (delayed : state.Delayed)
    (few : state.retries ≤ autosaveRetryMs.length)
    (after : BuilderState) : (state.tell after).Sound := by
  have delayed : Delayed { state with store := after, reported := [] } := delayed
  unfold Autosave.tell
  dsimp only
  split
  · rename_i stopped
    refine ⟨fun watching => ?_, delayed, few⟩
    rw [stopped] at watching
    cases watching
  · refine ⟨fun _ _ => .inl ?_, (delayed.clearTimeout _).setTimeout .check rfl, few⟩
    simp [setTimeout]

theorem sound_check (delayed : state.Delayed) (few : state.retries ≤ autosaveRetryMs.length) :
    state.check.Sound := by
  have delayed : Delayed { state with checkTimer := none } := delayed
  unfold Autosave.check
  dsimp only
  split_ifs with stopped closed clean
  · exact ⟨fun watching => absurd watching (by simp [stopped]), delayed, few⟩
  · refine ⟨fun _ unsaved => ?_, delayed.cancelSave, few⟩
    have opened : ({ state with checkTimer := none } : Autosave).isOpen = true :=
      isOpen_of_unsaved unsaved
    rw [closed] at opened
    cases opened
  · refine ⟨fun _ unsaved => ?_, delayed.cancelSave, Nat.zero_le _⟩
    rw [show hasUnsavedChanges state.store = true from unsaved] at clean
    cases clean
  · refine ⟨fun _ _ => .inl ?_, delayed.cancelSave.setTimeout .save rfl, few⟩
    simp [setTimeout]

theorem sound_save (delayed : state.Delayed) (few : state.retries ≤ autosaveRetryMs.length) :
    state.save.Sound := by
  unfold Autosave.save
  dsimp only
  split_ifs with idle
  · refine ⟨fun watching unsaved => ?_, delayed, few⟩
    have opened : ({ state with saveTimer := none, retryTimer := none } : Autosave).isOpen = true :=
      isOpen_of_unsaved unsaved
    rcases idle with stopped | closed | clean
    · rw [show state.stopped = false from watching] at stopped
      cases stopped
    · rw [closed] at opened
      cases opened
    · rw [show hasUnsavedChanges state.store = true from unsaved] at clean
      cases clean
  · refine ⟨fun _ _ => .inr (.inl ?_), delayed, few⟩
    exact ⟨⟨false, .queued⟩, List.mem_append_right _ List.mem_cons_self, rfl, trivial⟩

theorem Sound.fire (sound : state.Sound) {timer : Nat} {after : Autosave}
    (fired : state.fire timer = some after) : after.Sound := by
  obtain ⟨found, _, rfl⟩ := Option.map_eq_some_iff.mp fired
  have delayed : Delayed
      { state with pending := state.pending.filter fun other => other.id ≠ timer } :=
    fun other member => sound.delays other (List.mem_filter.mp member).1
  dsimp only
  cases found.kind with
  | check => exact sound_check delayed sound.retries
  | save => exact sound_save delayed sound.retries

theorem covered_setPhase {index : Nat} {save : Save} (found : state.saves[index]? = some save)
    {phase : SavePhase}
    (keeps : Carries state.store save → Carries state.store { save with phase })
    (covered : state.Covered) : (state.setPhase index save phase).Covered := by
  refine covered.imp_right (Or.imp_left ?_)
  rintro ⟨other, member, carries⟩
  obtain ⟨place, small, same⟩ := List.getElem_of_mem member
  by_cases here : index = place
  · subst here
    rw [List.getElem?_eq_getElem small, same] at found
    cases found
    exact ⟨_, List.mem_set small _, keeps carries⟩
  · refine ⟨other, List.mem_of_getElem? (i := place) ?_, carries⟩
    show (state.saves.set index _)[place]? = some other
    rw [List.getElem?_set_ne here, List.getElem?_eq_getElem small, same]

theorem Sound.setPhase (sound : state.Sound) {index : Nat} {save : Save}
    (found : state.saves[index]? = some save) (phase : SavePhase)
    (keeps : hasUnsavedChanges state.store = true →
      Carries state.store save → Carries state.store { save with phase }) :
    (state.setPhase index save phase).Sound :=
  { covered := fun watching unsaved =>
      covered_setPhase found (keeps unsaved) (sound.covered watching unsaved)
    delays := sound.delays
    retries := sound.retries }

theorem Sound.begin (sound : state.Sound) {index : Nat} {save : Save}
    (found : state.saves[index]? = some save) : (state.begin index save).Sound := by
  unfold Autosave.begin
  cases opened : state.store.currentBuildID with
  | none =>
      refine sound.setPhase found _ fun unsaved => ?_
      have ready := isOpen_of_unsaved unsaved
      simp [isOpen, opened] at ready
  | some buildID =>
      dsimp only
      split
      · exact sound.setPhase found _ fun _ carries => ⟨carries.1, opened, rfl⟩
      · rename_i loading
        refine sound.setPhase found _ fun unsaved => ?_
        have ready := isOpen_of_unsaved unsaved
        simp [isOpen, loading] at ready

theorem Sound.fail (sound : state.Sound) {index : Nat} {save : Save} {buildID : String}
    {data : BuildData} (found : state.saves[index]? = some save)
    (sent : save.phase = .sent buildID data) (failure : SaveFailure) :
    (state.fail index save buildID data failure).Sound := by
  have failed := sound.setPhase found (.failed (some (buildID, data)) failure)
    fun _ carries => ⟨carries.1, by simpa [Carries, sent] using carries.2⟩
  unfold Autosave.fail
  dsimp only
  split
  · exact ⟨failed.covered, failed.delays, failed.retries⟩
  · exact failed

theorem Sound.answer (sound : state.Sound) (parseJSON : String → Option Json) {index : Nat}
    {save : Save} {buildID : String} {data : BuildData} (found : state.saves[index]? = some save)
    (sent : save.phase = .sent buildID data) (build : Build) :
    (state.answer parseJSON index save buildID data build).Sound := by
  unfold Autosave.answer
  dsimp only
  split
  · have told := sound_tell (state.setPhase index save .saved) sound.delays sound.retries
      (mergeAnswer parseJSON buildID data build state.store)
    exact ⟨told.covered, told.delays, told.retries⟩
  · rename_i other
    refine sound.setPhase found _ fun _ carries => ?_
    have shows_ : Shows state.store (buildID, data) := by simpa [Carries, sent] using carries.2
    exact absurd shows_.1 other

theorem Sound.resend (sound : state.Sound) {index : Nat} {save : Save}
    (found : state.saves[index]? = some save) {buildID : String} {revision : Nat}
    {after : Autosave} (resent : state.resend index save buildID revision = some after) :
    after.Sound := by
  unfold Autosave.resend at resent
  split at resent
  · cases resent
    have moved : Sound
        { state with store := { state.store with currentRevision := revision } } :=
      { covered := fun watching unsaved =>
          covered_of_watched rfl (sound.covered watching unsaved)
        delays := sound.delays
        retries := sound.retries }
    exact moved.begin found
  · cases resent

theorem Sound.conflict (sound : state.Sound) {parseJSON : String → Option Json} {index : Nat}
    {save : Save} {buildID : String} {data : BuildData} {latest : Build} {after : Autosave}
    (settled : state.conflict parseJSON index save buildID data latest = some after) :
    after.Sound := by
  unfold Autosave.conflict at settled
  split at settled
  · cases settled
    have told := sound_tell (state.setPhase index save (.failed (some (buildID, data)) .conflict))
      sound.delays sound.retries
      (takeOver parseJSON state.store latest)
    exact ⟨told.covered, told.delays, told.retries⟩
  · cases settled

/-- What a save leaves when it has ended: nothing that carries the canvas, or a retry, or a
report. -/
theorem covered_eraseIdx {index : Nat} {save : Save} (found : state.saves[index]? = some save)
    (covered : state.Covered) :
    Covered { state with saves := state.saves.eraseIdx index } ∨ Carries state.store save := by
  rcases covered with waits | ⟨other, member, carries⟩ | reported
  · exact .inl (.inl waits)
  · obtain ⟨place, small, same⟩ := List.getElem_of_mem member
    by_cases here : place = index
    · subst here
      rw [List.getElem?_eq_getElem small, same] at found
      cases found
      exact .inr carries
    · refine .inl (.inr (.inl ⟨other, ?_, carries⟩))
      refine List.mem_eraseIdx_iff_getElem?.mpr ⟨place, here, ?_⟩
      rw [List.getElem?_eq_getElem small, same]
  · exact .inl (.inr (.inr reported))

theorem sound_caught (settled : Autosave) (delayed : settled.Delayed)
    (few : settled.retries ≤ autosaveRetryMs.length) {sent : Option (String × BuildData)}
    (rest : settled.stopped = false → hasUnsavedChanges settled.store = true →
      settled.Covered ∨ ∃ content, sent = some content ∧ Shows settled.store content)
    (failure : SaveFailure) : (settled.caught sent failure).Sound := by
  have reported : settled.stopped = false → hasUnsavedChanges settled.store = true →
      Covered { settled with reported := settled.reported ++ sent.toList } := by
    intro watching unsaved
    rcases rest watching unsaved with covered | ⟨content, rfl, shows_⟩
    · refine covered.imp_right (Or.imp_right ?_)
      rintro ⟨content, member, shows_⟩
      exact ⟨content, List.mem_append_left _ member, shows_⟩
    · exact .inr (.inr ⟨content, List.mem_append_right _ List.mem_cons_self, shows_⟩)
  have failed : (settled.reportFailure sent).Sound := ⟨reported, delayed, Nat.zero_le _⟩
  have retried (again : settled.retries < autosaveRetryMs.length) : settled.retry.Sound := by
    refine ⟨fun _ _ => .inl ?_, delayed.setTimeout .save ?_, again⟩
    · simp [retry, setTimeout]
    · rw [List.getElem?_eq_getElem again, Option.isSome_some]
  unfold caught
  split
  · rename_i stopped
    exact ⟨fun watching => absurd watching (by simp [stopped]), delayed, few⟩
  · split
    · exact ⟨reported, delayed, Nat.zero_le _⟩
    · split
      · exact failed
      · rename_i again
        exact retried (Nat.lt_of_not_le fun many => again (.inr many))

theorem Sound.settle (sound : state.Sound) {index : Nat} {save : Save}
    (found : state.saves[index]? = some save) {after : Autosave}
    (settled : state.settle index save = some after) : after.Sound := by
  have rest : state.stopped = false → hasUnsavedChanges state.store = true →
      Covered { state with saves := state.saves.eraseIdx index } ∨ Carries state.store save :=
    fun watching unsaved => covered_eraseIdx found (sound.covered watching unsaved)
  have gone (none : ¬ Carries state.store save) :
      Sound { state with saves := state.saves.eraseIdx index } :=
    ⟨fun watching unsaved => (rest watching unsaved).resolve_right none, sound.delays,
      sound.retries⟩
  unfold Autosave.settle at settled
  cases phase : save.phase with
  | queued =>
      rw [phase] at settled
      cases settled
  | sent buildID data =>
      rw [phase] at settled
      cases settled
  | saved =>
      have kept := gone (by simp [Carries, phase])
      rw [phase] at settled
      cases settled
      split
      · exact kept
      · exact ⟨kept.covered, kept.delays, Nat.zero_le _⟩
  | failed sent failure =>
      rw [phase] at settled
      cases settled
      split
      · rename_i final
        have kept := gone (by simp [Carries, final])
        exact ⟨kept.covered, kept.delays, kept.retries⟩
      · refine sound_caught { state with saves := state.saves.eraseIdx index } sound.delays
          sound.retries (fun watching unsaved => ?_) failure
        refine (rest watching unsaved).imp_right fun carries => ?_
        cases sent with
        | none => simp [Carries, phase] at carries
        | some content => exact ⟨content, rfl, by simpa [Carries, phase] using carries.2⟩

theorem Sound.stop (sound : state.Sound) : state.stop.Sound := by
  have delayed :
      Delayed ({ state with stopped := true }.clearTimeout state.checkTimer).cancelSave :=
    (Delayed.clearTimeout (show Delayed { state with stopped := true } from sound.delays)
      _).cancelSave
  unfold Autosave.stop
  split
  · exact sound
  · dsimp only
    split
    · exact ⟨fun watching => (by cases watching), delayed, sound.retries⟩
    · exact ⟨fun watching => (by cases watching), delayed, sound.retries⟩

theorem Sound.next (sound : state.Sound) {parseJSON : String → Option Json}
    {event : AutosaveEvent} {after : Autosave}
    (stepped : state.next parseJSON event = some after) : after.Sound := by
  cases event with
  | change store saveError told =>
      unfold Autosave.next at stepped
      dsimp only at stepped
      split at stepped
      · cases stepped
        have told := sound_tell state sound.delays sound.retries store
        exact ⟨told.covered, told.delays, told.retries⟩
      · split at stepped
        · rename_i same
          cases stepped
          refine ⟨fun watching unsaved => ?_, sound.delays, sound.retries⟩
          exact covered_of_watched same
            (sound.covered watching ((unsaved_of_watched same).symm.trans unsaved))
        · cases stepped
  | fire timer => exact sound.fire stepped
  | begin index =>
      obtain ⟨save, found, stepped⟩ := Option.bind_eq_some_iff.mp stepped
      split at stepped
      · cases stepped
        exact sound.begin found
      · cases stepped
  | answer index build =>
      obtain ⟨save, found, stepped⟩ := Option.bind_eq_some_iff.mp stepped
      split at stepped
      · rename_i sent
        cases stepped
        exact sound.answer parseJSON found sent build
      · cases stepped
  | fail index failure =>
      obtain ⟨save, found, stepped⟩ := Option.bind_eq_some_iff.mp stepped
      split at stepped
      · cases stepped
      · rename_i sent _ _
        cases stepped
        exact sound.fail found sent _
      · cases stepped
  | resend index revision =>
      obtain ⟨save, found, stepped⟩ := Option.bind_eq_some_iff.mp stepped
      split at stepped
      · exact sound.resend found stepped
      · cases stepped
  | conflict index latest =>
      obtain ⟨save, found, stepped⟩ := Option.bind_eq_some_iff.mp stepped
      split at stepped
      · exact sound.conflict stepped
      · cases stepped
  | settle index =>
      obtain ⟨save, found, stepped⟩ := Option.bind_eq_some_iff.mp stepped
      exact sound.settle found stepped
  | stop =>
      cases stepped
      exact sound.stop

/-- Stopped, with no more saves than before. -/
def Rests (before after : Autosave) : Prop :=
  after.stopped = true ∧ after.saves.length ≤ before.saves.length

theorem rests_tell (state : Autosave) (stopped : state.stopped = true) (after : BuilderState) :
    Rests state (state.tell after) := by
  unfold Autosave.tell
  dsimp only
  rw [if_pos stopped]
  exact ⟨stopped, Nat.le_refl _⟩

theorem rests_setPhase (state : Autosave) (stopped : state.stopped = true) (index : Nat)
    (save : Save) (phase : SavePhase) : Rests state (state.setPhase index save phase) :=
  ⟨stopped, Nat.le_of_eq List.length_set⟩

theorem Rests.trans {first second third : Autosave} (before : Rests first second)
    (after : Rests second third) : Rests first third :=
  ⟨after.1, Nat.le_trans after.2 before.2⟩

theorem rests_begin (state : Autosave) (stopped : state.stopped = true) (index : Nat)
    (save : Save) :
    Rests state (state.begin index save) := by
  unfold Autosave.begin
  split
  · split
    · exact rests_setPhase state stopped index save _
    · exact rests_setPhase state stopped index save _
  · exact rests_setPhase state stopped index save _

theorem rests_fire (stopped : state.stopped = true) {timer : Nat} {after : Autosave}
    (fired : state.fire timer = some after) : Rests state after := by
  obtain ⟨found, _, rfl⟩ := Option.map_eq_some_iff.mp fired
  dsimp only
  cases found.kind with
  | check =>
      unfold Autosave.check
      dsimp only
      rw [if_pos stopped]
      exact ⟨stopped, Nat.le_refl _⟩
  | save =>
      unfold Autosave.save
      dsimp only
      rw [if_pos (.inl stopped)]
      exact ⟨stopped, Nat.le_refl _⟩

theorem rests_settle (stopped : state.stopped = true) {index : Nat} {save : Save}
    {after : Autosave} (settled : state.settle index save = some after) : Rests state after := by
  have fewer : (state.saves.eraseIdx index).length ≤ state.saves.length :=
    (List.eraseIdx_sublist state.saves index).length_le
  unfold Autosave.settle at settled
  split at settled
  · cases settled
    split
    · exact ⟨stopped, fewer⟩
    · exact ⟨stopped, fewer⟩
  · cases settled
    split
    · exact ⟨stopped, fewer⟩
    · unfold caught
      rw [if_pos stopped]
      exact ⟨stopped, fewer⟩
  · cases settled

theorem rests_next {parseJSON : String → Option Json} {event : AutosaveEvent} {after : Autosave}
    (stopped : state.stopped = true) (stepped : state.next parseJSON event = some after) :
    Rests state after := by
  cases event with
  | change store saveError told =>
      unfold Autosave.next at stepped
      dsimp only at stepped
      split at stepped
      · cases stepped
        exact rests_tell state stopped store
      · split at stepped
        · cases stepped
          exact ⟨stopped, Nat.le_refl _⟩
        · cases stepped
  | fire timer => exact rests_fire stopped stepped
  | begin index =>
      obtain ⟨save, _, stepped⟩ := Option.bind_eq_some_iff.mp stepped
      split at stepped
      · cases stepped
        exact rests_begin state stopped index save
      · cases stepped
  | answer index build =>
      obtain ⟨save, _, stepped⟩ := Option.bind_eq_some_iff.mp stepped
      split at stepped
      · rename_i buildID data _
        cases stepped
        have answered := rests_setPhase state stopped index save .saved
        have told := rests_tell (state.setPhase index save .saved) stopped
          (mergeAnswer parseJSON buildID data build state.store)
        unfold Autosave.answer
        dsimp only
        split
        · exact answered.trans ⟨told.1, told.2⟩
        · exact answered
      · cases stepped
  | fail index failure =>
      obtain ⟨save, _, stepped⟩ := Option.bind_eq_some_iff.mp stepped
      split at stepped
      · cases stepped
      · cases stepped
        unfold Autosave.fail
        dsimp only
        split
        · exact rests_setPhase state stopped index save _
        · exact rests_setPhase state stopped index save _
      · cases stepped
  | resend index revision =>
      obtain ⟨save, _, stepped⟩ := Option.bind_eq_some_iff.mp stepped
      split at stepped
      · unfold Autosave.resend at stepped
        split at stepped
        · cases stepped
          exact rests_begin { state with store := { state.store with currentRevision := revision } }
            stopped index save
        · cases stepped
      · cases stepped
  | conflict index latest =>
      obtain ⟨save, _, stepped⟩ := Option.bind_eq_some_iff.mp stepped
      split at stepped
      · rename_i buildID data _
        have failed := rests_setPhase state stopped index save
          (.failed (some (buildID, data)) .conflict)
        have told := rests_tell
          (state.setPhase index save (.failed (some (buildID, data)) .conflict)) stopped
          (takeOver parseJSON state.store latest)
        unfold Autosave.conflict at stepped
        split at stepped
        · cases stepped
          exact failed.trans ⟨told.1, told.2⟩
        · cases stepped
      · cases stepped
  | settle index =>
      obtain ⟨save, _, stepped⟩ := Option.bind_eq_some_iff.mp stepped
      exact rests_settle stopped stepped
  | stop =>
      cases stepped
      unfold Autosave.stop
      rw [if_pos stopped]
      exact ⟨stopped, Nat.le_refl _⟩

end Steps

/-! ## Runs -/

/-- `startAutosave`. -/
def start (store : BuilderState) : Autosave := { store }

/-- The states that are reached, whatever happens in between. -/
abbrev Reaches (parseJSON : String → Option Json) : Autosave → Autosave → Prop :=
  Runs.Reaches (fun state event => state.next parseJSON event) fun _ _ => True

/-- Whatever the store, the network and the user do, in whichever order: an unsaved build is on
its way or was reported, a retry never runs out of waits, and once it is stopped the autosave
starts no save. -/
theorem reaches_covered {parseJSON : String → Option Json} {store : BuilderState}
    (clean : hasUnsavedChanges store = false) {state : Autosave}
    (run : Reaches parseJSON (start store) state) :
    (state.stopped = false → hasUnsavedChanges state.store = true → state.Covered) ∧
      (∀ timer ∈ state.pending, timer.delay.isSome = true) ∧
      (state.stopped = true → ∀ later, Reaches parseJSON state later → Rests state later) := by
  have begins : (start store).Sound :=
    { covered := fun _ unsaved => by
        rw [show hasUnsavedChanges store = true from unsaved] at clean
        cases clean
      delays := fun _ member => by cases member
      retries := Nat.zero_le _ }
  have sound : state.Sound :=
    run.invariant begins fun _ _ _ sound _ stepped => sound.next stepped
  refine ⟨sound.covered, sound.delays, fun stopped later rest => ?_⟩
  have still : Rests state state := ⟨stopped, Nat.le_refl _⟩
  exact rest.invariant still fun _ _ _ rested _ stepped =>
    rested.trans (rests_next rested.1 stepped)

section Example

/-- An open build without devices, as the server has it. -/
def openedStore : BuilderState :=
  let store : BuilderState :=
    { currentBuildID := some "build-1", isReady := true, currentRevision := 1 }
  { store with lastSyncedFingerprint := some (getBuildData store) }

/-- Its kind is changed; the check finds the edit, the save starts and is not answered. -/
def unansweredSave : Option Autosave :=
  Runs.follow (fun state event => state.next (fun _ => none) event) (fun _ _ => true)
    (start openedStore)
    [.change { openedStore with buildKind := "gaming" } none true, .fire 0, .fire 1, .begin 0,
      .fail 0 .other, .settle 0]

theorem reaches_covered_unanswered : ∃ state, unansweredSave = some state ∧
    hasUnsavedChanges state.store = true ∧ state.retryTimer = some 2 ∧ state.Covered := by
  have facts : unansweredSave.any (fun state => hasUnsavedChanges state.store &&
      !state.stopped && decide (state.retryTimer = some 2)) = true := by decide
  obtain ⟨state, done, known⟩ := (Option.any_eq_true _ _).mp facts
  simp only [Bool.and_eq_true, Bool.not_eq_true', decide_eq_true_eq] at known
  have run := (Runs.reaches_of_follow .nil done).mono fun _ _ _ => trivial
  exact ⟨state, done, known.1.1, known.2,
    (reaches_covered (by decide) run).1 known.1.2 known.1.1⟩

end Example

end HomelabBuilder.Sessions.Autosave
