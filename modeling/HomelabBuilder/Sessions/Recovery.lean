import HomelabBuilder.Canvas.StoreRuns
import HomelabBuilder.Sessions.Saves

/-! # Recovery from lost answers

When a session saves on top of a revision it has not loaded, and when it does not.
-/

namespace HomelabBuilder.Sessions

open Canvas (Build BuilderState FlowLibrary takeOver)

namespace World

variable (world : World)

def WrittenBy (id revision : Nat) : Prop :=
  ∃ commit ∈ world.history, commit.writer = some id ∧ commit.base + 1 = revision

/-- A session saves on a revision of somebody else only if it had loaded it. -/
def OnlyOnLoaded : Prop :=
  ∀ commit ∈ world.history, ∀ id, commit.writer = some id →
    ∀ other ∈ world.history, other.base + 1 = commit.base → other.writer ≠ some id →
      commit.base ∈ commit.loaded

/-- The refused save and the latest build that a step of a session decides on. -/
def settles (id : Nat) (event : Event) : Option (Request × Build) :=
  let session := world.sessions id
  match event, session.phase with
  | .takeAnswer, .saving request (.answered (.refused (some latest)))
  | .takeRead, .fetching request (some latest) =>
      if session.isOpen request then some (request, latest) else none
  | _, _ => none

variable (localeLE : String → String → Bool) (library : FlowLibrary)
  (parseJSON : String → Option Json)

/-- Somebody else wrote between the revision a save was made for and the latest one. -/
def Intervened (id : Nat) (request : Request) (latest : Build) : Prop :=
  ∃ commit ∈ world.history, request.revision ≤ commit.base ∧ commit.base < latest.revision ∧
    commit.writer ≠ some id

/-- The session reported the conflict and holds the latest build. -/
def GaveWay (after : World) (id : Nat) (latest : Build) : Prop :=
  (after.sessions id).store = takeOver parseJSON (world.sessions id).store latest ∧
    (after.sessions id).conflicts = latest.revision :: (world.sessions id).conflicts

/-- A step that the recovery is right about: the answer to a save is the build that
save made, and a latest build that the session goes on from as its own save is one. -/
structure Own (id : Nat) (event : Event) : Prop where
  saved : ∀ request build, event = .takeAnswer →
    (world.sessions id).phase = .saving request (.answered (.saved build)) →
    (world.sessions id).isOpen request = true → build.revision = request.revision + 1
  latest : ∀ request latest, world.settles id event = some (request, latest) →
    (world.sessions id).ours localeLE request latest = true → request.retried = false →
      world.WrittenBy id latest.revision

/-- Sessions that have nothing open, and a build nobody has written yet. -/
structure Fresh : Prop where
  history : world.history = []
  orphans : world.orphans = []
  idle : ∀ id, (world.sessions id).phase = .idle
  unconfirmed : ∀ id, (world.sessions id).unconfirmedSave = none
  closed : ∀ id, (world.sessions id).store.isReady = false
  revision : ∀ id, (world.sessions id).store.currentRevision = 0

end World

section Runs

variable (localeLE : String → String → Bool) (library : FlowLibrary)
  (parseJSON : String → Option Json)

/-- Any interleaving of steps that meet a condition. -/
inductive Run (meets : World → Nat → Event → Prop) (start : World) : World → Prop where
  | nil : Run meets start start
  | step {world after : World} {id : Nat} {event : Event} : Run meets start world →
      meets world id event → world.next localeLE library parseJSON id event = some after →
      Run meets start after

end Runs

/-! ## The invariant -/

namespace World

variable (world : World)

structure RequestFits (id : Nat) (request : Request) : Prop where
  known : request.revision ∈ request.loaded ∨ world.WrittenBy id request.revision
  bounded : request.revision ≤ world.build.revision

/-- A build that was read after a revision was current. -/
structure ReadAfter (revision : Nat) (build : Build) : Prop where
  later : revision < build.revision
  bounded : build.revision ≤ world.build.revision

def StageFits (id : Nat) (request : Request) : Stage → Prop
  | .sent => True
  | .committed => world.WrittenBy id (request.revision + 1)
  | .refused => request.revision < world.build.revision
  | .answered (.saved build) => world.WrittenBy id (request.revision + 1) ∧
      build.revision ≤ world.build.revision
  | .answered (.refused (some latest)) => world.ReadAfter request.revision latest
  | .answered (.refused none) => request.revision < world.build.revision
  | .answered .failed => True

/-- What holds while a session with this store waits. -/
def PhaseFits (id : Nat) (store : BuilderState) : Phase → Prop
  | .idle => True
  | .saving request stage => world.RequestFits id request ∧ world.StageFits id request stage ∧
      (store.currentBuildID ≠ none → store.currentRevision = request.revision)
  | .fetching request latest => request.revision < world.build.revision ∧
      (∀ build ∈ latest, world.ReadAfter request.revision build) ∧
      (store.currentBuildID ≠ none → store.currentRevision = request.revision)
  | .loading _ read => ∀ build : Build, read = some build →
      store.currentRevision ≤ build.revision ∧ build.revision ≤ world.build.revision

structure SessionFits (id : Nat) (session : Session) : Prop where
  known : session.store.currentBuildID ≠ none → session.store.isReady = true →
    session.store.currentRevision ∈ session.loaded ∨
      world.WrittenBy id session.store.currentRevision
  bounded : session.store.currentRevision ≤ world.build.revision
  unconfirmed : ∀ unconfirmed ∈ session.unconfirmedSave, session.store.currentBuildID ≠ none ∧
    unconfirmed.revision ≤ session.store.currentRevision
  phase : world.PhaseFits id session.store session.phase

structure Sound : Prop where
  distinct : (world.history.map (·.base)).Nodup
  past : ∀ commit ∈ world.history, commit.base < world.build.revision
  known : ∀ commit ∈ world.history, ∀ id, commit.writer = some id →
    commit.base ∈ commit.loaded ∨ world.WrittenBy id commit.base
  orphans : ∀ orphan ∈ world.orphans, world.RequestFits orphan.1 orphan.2
  sessions : ∀ id, world.SessionFits id (world.sessions id)

/-! ### The server moves on -/

structure Grows (later : World) : Prop where
  history : world.history ⊆ later.history
  revision : world.build.revision ≤ later.build.revision

section Grows

variable {world} {later : World} (grows : world.Grows later) {id : Nat}

include grows

theorem WrittenBy.mono {revision : Nat} (written : world.WrittenBy id revision) :
    later.WrittenBy id revision := by
  rcases written with ⟨commit, listed, writer, base⟩
  exact ⟨commit, grows.history listed, writer, base⟩

theorem RequestFits.mono {request : Request} (fits : world.RequestFits id request) :
    later.RequestFits id request where
  known := fits.known.imp_right (WrittenBy.mono grows)
  bounded := fits.bounded.trans grows.revision

theorem ReadAfter.mono {revision : Nat} {build : Build} (read : world.ReadAfter revision build) :
    later.ReadAfter revision build where
  later := read.later
  bounded := read.bounded.trans grows.revision

theorem StageFits.mono {request : Request} {stage : Stage}
    (fits : world.StageFits id request stage) : later.StageFits id request stage := by
  cases stage with
  | sent => trivial
  | committed => exact WrittenBy.mono grows fits
  | refused => exact Nat.lt_of_lt_of_le fits grows.revision
  | answered answer =>
      cases answer with
      | saved build => exact ⟨WrittenBy.mono grows fits.1, fits.2.trans grows.revision⟩
      | refused latest =>
          cases latest with
          | none => exact Nat.lt_of_lt_of_le fits grows.revision
          | some latest => exact ReadAfter.mono grows fits
      | failed => trivial

theorem PhaseFits.mono {store : BuilderState} {phase : Phase}
    (fits : world.PhaseFits id store phase) : later.PhaseFits id store phase := by
  cases phase with
  | idle => trivial
  | saving request stage =>
      exact ⟨fits.1.mono grows, StageFits.mono grows fits.2.1, fits.2.2⟩
  | fetching request latest =>
      exact ⟨Nat.lt_of_lt_of_le fits.1 grows.revision,
        fun build given => (fits.2.1 build given).mono grows, fits.2.2⟩
  | loading purpose build =>
      exact fun build given => ⟨(fits build given).1, (fits build given).2.trans grows.revision⟩

theorem SessionFits.mono {session : Session} (fits : world.SessionFits id session) :
    later.SessionFits id session where
  known isOpen ready := (fits.known isOpen ready).imp_right (WrittenBy.mono grows)
  bounded := fits.bounded.trans grows.revision
  unconfirmed := fits.unconfirmed
  phase := PhaseFits.mono grows fits.phase

end Grows

/-! ### One session moves on -/

section Sessions

variable {world}

theorem grows_setSession (id : Nat) (session : Session) :
    world.Grows (world.setSession id session) := ⟨List.Subset.refl _, Nat.le_refl _⟩

theorem Sound.setSession (sound : world.Sound) {id : Nat} {session : Session}
    (fits : world.SessionFits id session) : (world.setSession id session).Sound where
  distinct := sound.distinct
  past := sound.past
  known := sound.known
  orphans orphan listed := (sound.orphans orphan listed).mono (grows_setSession id session)
  sessions := by
    intro other
    apply SessionFits.mono (grows_setSession id session)
    show world.SessionFits other (if other = id then session else world.sessions other)
    split
    · rename_i same
      exact same ▸ fits
    · exact sound.sessions other

theorem Sound.setPhase (sound : world.Sound) {id : Nat} {phase : Phase}
    (fits : world.PhaseFits id (world.sessions id).store phase) : (world.setPhase id phase).Sound :=
  sound.setSession
    { known := (sound.sessions id).known
      bounded := (sound.sessions id).bounded
      unconfirmed := (sound.sessions id).unconfirmed
      phase := fits }

theorem Sound.addOrphan (sound : world.Sound) {id : Nat} {request : Request}
    (fits : world.RequestFits id request) :
    Sound { world with orphans := world.orphans ++ [(id, request)] } := by
  have grows : world.Grows { world with orphans := world.orphans ++ [(id, request)] } :=
    ⟨List.Subset.refl _, Nat.le_refl _⟩
  refine ⟨sound.distinct, sound.past, sound.known, ?_, fun other => (sound.sessions other).mono grows⟩
  intro orphan listed
  rcases List.mem_append.mp listed with old | isNew
  · exact (sound.orphans orphan old).mono grows
  · rw [List.mem_singleton.mp isNew]
    exact fits.mono grows

theorem Sound.saveRevision (sound : world.Sound) {writer : Option Nat} {base : Nat}
    {loaded : List Nat} {build : Build} {after : World}
    (known : ∀ id, writer = some id → base ∈ loaded ∨ world.WrittenBy id base)
    (saved : world.saveRevision writer base loaded build = some after) :
    after.Sound ∧ world.Grows after ∧ after.sessions = world.sessions ∧
      ∀ id, writer = some id → after.WrittenBy id (base + 1) := by
  unfold World.saveRevision at saved
  split at saved
  swap
  · cases saved
  rename_i current
  rcases current with ⟨rfl, next, _⟩
  cases saved
  have grows : world.Grows { world with
      build := build
      history := world.history ++ [⟨writer, world.build.revision, loaded⟩] } :=
    ⟨List.subset_append_left _ _, by show world.build.revision ≤ build.revision; omega⟩
  refine ⟨⟨?_, ?_, ?_, ?_, ?_⟩, grows, rfl, ?_⟩
  · rw [List.map_append, List.map_singleton]
    refine List.nodup_append.mpr ⟨sound.distinct, List.nodup_singleton _, ?_⟩
    rintro base listed _ isNew rfl
    rcases List.mem_map.mp listed with ⟨commit, member, rfl⟩
    have before := sound.past commit member
    have same : commit.base = world.build.revision := List.mem_singleton.mp isNew
    omega
  · intro commit listed
    show commit.base < build.revision
    rcases List.mem_append.mp listed with old | isNew
    · have before := sound.past commit old
      omega
    · rw [List.mem_singleton.mp isNew]
      show world.build.revision < build.revision
      omega
  · intro commit listed id wrote
    rcases List.mem_append.mp listed with old | isNew
    · exact (sound.known commit old id wrote).imp_right (WrittenBy.mono grows)
    · rw [List.mem_singleton.mp isNew] at wrote ⊢
      exact (known id wrote).imp_right (WrittenBy.mono grows)
  · exact fun orphan listed => (sound.orphans orphan listed).mono grows
  · exact fun id => (sound.sessions id).mono grows
  · rintro id rfl
    exact ⟨_, List.mem_append_right _ (List.mem_singleton_self _), rfl, rfl⟩

theorem Sound.writer_eq (sound : world.Sound) {commit other : Commit}
    (member : commit ∈ world.history) (otherMember : other ∈ world.history)
    (same : commit.base = other.base) : commit = other :=
  List.inj_on_of_nodup_map sound.distinct member otherMember same

end Sessions

/-! ### What a session does -/

theorem currentBuildID_ne_none {session : Session} {request : Request}
    (isOpen : session.isOpen request = true) : session.store.currentBuildID ≠ none := by
  rw [Session.isOpen, decide_eq_true_eq] at isOpen
  rw [isOpen]
  exact nofun

namespace SessionFits

variable {world} {id : Nat} {session : Session} (fits : world.SessionFits id session)

include fits

theorem sameBuild {store : BuilderState} (same : Canvas.SameBuild session.store store) :
    world.SessionFits id { session with store := store } where
  known isOpen ready := by
    have before := fits.known (same.id ▸ isOpen) (same.ready ▸ ready)
    show store.currentRevision ∈ session.loaded ∨ world.WrittenBy id store.currentRevision
    rw [same.revision]
    exact before
  bounded := by
    show store.currentRevision ≤ _
    rw [same.revision]
    exact fits.bounded
  unconfirmed := by
    intro unconfirmed given
    show store.currentBuildID ≠ none ∧ _ ≤ store.currentRevision
    rw [same.id, same.revision]
    exact fits.unconfirmed unconfirmed given
  phase := by
    have phase := fits.phase
    show world.PhaseFits id store session.phase
    unfold PhaseFits at phase ⊢
    rw [same.id, same.revision]
    exact phase

theorem clearCurrentBuild : world.SessionFits id session.clearCurrentBuild where
  known isOpen := absurd rfl isOpen
  bounded := Nat.zero_le _
  unconfirmed := nofun
  phase := by
    have phase := fits.phase
    show world.PhaseFits id (Canvas.clearCurrentBuild session.store) session.phase
    cases waits : session.phase with
    | idle => trivial
    | saving request stage =>
        rw [waits] at phase
        exact ⟨phase.1, phase.2.1, fun isOpen => absurd rfl isOpen⟩
    | fetching request latest =>
        rw [waits] at phase
        exact ⟨phase.1, phase.2.1, fun isOpen => absurd rfl isOpen⟩
    | loading purpose build =>
        rw [waits] at phase
        exact fun build given => ⟨Nat.zero_le _, (phase build given).2⟩

theorem openBuild (buildID : String) : world.SessionFits id (session.openBuild buildID) := by
  by_cases holds : session.store.holds buildID = true
  · have store : Canvas.startOpening session.store buildID = session.store := if_pos holds
    have unconfirmed : (session.openBuild buildID).unconfirmedSave = session.unconfirmedSave :=
      if_pos holds
    refine ⟨?_, ?_, ?_, ?_⟩
    · show (Canvas.startOpening session.store buildID).currentBuildID ≠ none →
        (Canvas.startOpening session.store buildID).isReady = true → _ ∈ session.loaded ∨ _
      rw [show (session.openBuild buildID).store = session.store from store, store]
      exact fits.known
    · rw [show (session.openBuild buildID).store = session.store from store]
      exact fits.bounded
    · rw [show (session.openBuild buildID).store = session.store from store, unconfirmed]
      exact fits.unconfirmed
    · exact nofun
  · have closed : (Canvas.startOpening session.store buildID).isReady = false ∧
        (Canvas.startOpening session.store buildID).currentRevision = 0 := by
      unfold Canvas.startOpening
      rw [if_neg holds]
      dsimp only
      split <;> exact ⟨rfl, rfl⟩
    have unconfirmed : (session.openBuild buildID).unconfirmedSave = none := if_neg holds
    refine ⟨?_, ?_, ?_, nofun⟩
    · intro _ ready
      exact absurd (closed.1.symm.trans ready) (by decide)
    · show (Canvas.startOpening session.store buildID).currentRevision ≤ _
      rw [closed.2]
      exact Nat.zero_le _
    · rw [unconfirmed]
      exact nofun

theorem request {buildID : String} (holds : session.store.holds buildID = true) (retried : Bool) :
    world.PhaseFits id session.store (.saving (session.request buildID retried) .sent) := by
  rw [Canvas.BuilderState.holds, Bool.and_eq_true, decide_eq_true_eq] at holds
  have isOpen : session.store.currentBuildID ≠ none := by
    rw [holds.1]
    exact nofun
  exact ⟨⟨fits.known isOpen holds.2, fits.bounded⟩, trivial, fun _ => rfl⟩

theorem idle : world.SessionFits id { session with phase := .idle } where
  known := fits.known
  bounded := fits.bounded
  unconfirmed := fits.unconfirmed
  phase := trivial

theorem saved (parseJSON : String → Option Json) {request : Request} {build : Build}
    (wrote : session.isOpen request = true → world.WrittenBy id build.revision)
    (bounded : build.revision ≤ world.build.revision) :
    world.SessionFits id { session with
      store := Canvas.mergeAnswer parseJSON request.buildID request.data build session.store
      unconfirmedSave := none
      phase := .idle } := by
  have store : Canvas.mergeAnswer parseJSON request.buildID request.data build session.store =
        session.store ∨ session.isOpen request = true ∧
      (Canvas.mergeAnswer parseJSON request.buildID request.data build
        session.store).currentRevision = build.revision := by
    unfold Canvas.mergeAnswer
    split
    · exact .inl rfl
    · rename_i isOpen
      refine .inr ⟨decide_eq_true (Decidable.not_not.mp isOpen), ?_⟩
      dsimp only
      split <;> rfl
  refine ⟨?_, ?_, nofun, trivial⟩
  · intro isOpen ready
    rcases store with same | ⟨merges, next⟩
    · dsimp only at isOpen ready ⊢
      rw [same] at isOpen ready ⊢
      exact fits.known isOpen ready
    · right
      dsimp only
      rw [next]
      exact wrote merges
  · rcases store with same | ⟨_, next⟩
    · dsimp only
      rw [same]
      exact fits.bounded
    · dsimp only
      rw [next]
      exact bounded

omit fits in
theorem settle (localeLE : String → String → Bool) (parseJSON : String → Option Json)
    {request : Request} {latest : Build} (bounded : latest.revision ≤ world.build.revision)
    (own : session.ours localeLE request latest = true → request.retried = false →
      world.WrittenBy id latest.revision) :
    world.SessionFits id (session.settle localeLE parseJSON request latest) := by
  unfold Session.settle
  split
  · rename_i goesOn
    have wrote := own goesOn.1 (Bool.eq_false_iff.mpr goesOn.2)
    have next : world.SessionFits id { session with
        store := { session.store with currentRevision := latest.revision }
        unconfirmedSave := none
        phase := .idle } := ⟨fun _ _ => .inr wrote, bounded, nofun, trivial⟩
    refine ⟨next.known, next.bounded, next.unconfirmed, ?_⟩
    unfold Session.goOn
    dsimp only
    split
    · rename_i holds
      exact next.request holds true
    · trivial
  · exact ⟨fun _ _ => .inl List.mem_cons_self, bounded, nofun, trivial⟩

theorem lose (localeLE : String → String → Bool) {request : Request}
    (revision : session.store.currentBuildID ≠ none →
      session.store.currentRevision = request.revision) :
    world.SessionFits id (session.lose localeLE request) := by
  refine ⟨fits.known, fits.bounded, ?_, trivial⟩
  unfold Session.lose
  dsimp only
  split
  · rename_i isOpen
    have given := currentBuildID_ne_none isOpen
    rintro unconfirmed ⟨⟩
    exact ⟨given, (revision given).ge⟩
  · exact fits.unconfirmed

theorem takeBuild (parseJSON : String → Option Json) (buildID : String) (purpose : Purpose)
    {build : Build} (read : session.store.currentRevision ≤ build.revision ∧
      build.revision ≤ world.build.revision) :
    world.SessionFits id (session.takeBuild parseJSON buildID purpose build) := by
  have loads : world.SessionFits id { session with
      store := Canvas.loadBuild parseJSON session.store build.id build.name build
      phase := .idle
      loaded := build.revision :: session.loaded } := by
    refine ⟨fun _ _ => .inl List.mem_cons_self, read.2, ?_, trivial⟩
    intro unconfirmed given
    exact ⟨nofun, (fits.unconfirmed unconfirmed given).2.trans read.1⟩
  unfold Session.takeBuild
  cases purpose with
  | opening =>
      dsimp only
      split
      · exact loads
      · exact fits.idle
  | syncing =>
      dsimp only
      split
      · exact loads
      · exact fits.idle

end SessionFits

/-! ### Steps -/

section Steps

variable {world} {after : World} {localeLE : String → String → Bool} {library : FlowLibrary}
  {parseJSON : String → Option Json} {id : Nat} {event : Event} {request : Request} {latest : Build}

theorem settles_answer
    (waits : (world.sessions id).phase = .saving request (.answered (.refused (some latest))))
    (isOpen : (world.sessions id).isOpen request = true) :
    world.settles id .takeAnswer = some (request, latest) := by
  unfold World.settles
  dsimp only
  rw [waits]
  exact if_pos isOpen

theorem settles_read (waits : (world.sessions id).phase = .fetching request (some latest))
    (isOpen : (world.sessions id).isOpen request = true) :
    world.settles id .takeRead = some (request, latest) := by
  unfold World.settles
  dsimp only
  rw [waits]
  exact if_pos isOpen

theorem next_of_settles (sound : world.Sound)
    (settles : world.settles id event = some (request, latest))
    (step : world.next localeLE library parseJSON id event = some after) :
    world.ReadAfter request.revision latest ∧
      (world.sessions id).store.currentRevision = request.revision ∧
      after = world.setSession id
        ((world.sessions id).settle localeLE parseJSON request latest) := by
  have phase := (sound.sessions id).phase
  unfold World.settles at settles
  dsimp only at settles
  split at settles
  · rename_i sent build waits
    split at settles
    swap
    · cases settles
    rename_i isOpen
    cases settles
    have given := currentBuildID_ne_none isOpen
    rw [waits] at phase
    unfold World.next at step
    dsimp only at step
    rw [waits] at step
    cases step
    refine ⟨phase.2.1, phase.2.2 given, ?_⟩
    rw [Session.takeAnswer, if_pos isOpen]
  · rename_i sent build waits
    split at settles
    swap
    · cases settles
    rename_i isOpen
    cases settles
    have given := currentBuildID_ne_none isOpen
    rw [waits] at phase
    unfold World.next at step
    dsimp only at step
    rw [waits] at step
    cases step
    refine ⟨phase.2.1 latest rfl, phase.2.2 given, ?_⟩
    rw [if_pos isOpen]
  · cases settles

theorem Sound.next (sound : world.Sound) (own : world.Own localeLE id event)
    (step : world.next localeLE library parseJSON id event = some after) : after.Sound := by
  have fits := sound.sessions id
  have phase := fits.phase
  unfold World.next at step
  cases event with
  | edit made =>
      cases step
      exact sound.setSession (fits.sameBuild (Canvas.sameBuild_edit library _ made))
  | clearCurrentBuild =>
      cases step
      exact sound.setSession fits.clearCurrentBuild
  | openBuild =>
      dsimp only at step
      split at step
      · cases step
        exact sound.setSession (fits.openBuild _)
      · cases step
  | syncWithServer serverRevision =>
      dsimp only at step
      split at step
      · split at step
        · cases step
          exact sound.setPhase nofun
        · cases step
      · cases step
  | reassignAllIPs =>
      dsimp only at step
      split at step
      · split at step
        · rename_i holds
          cases step
          exact sound.setPhase (fits.request holds false)
        · cases step
      · cases step
  | commit build =>
      dsimp only at step
      split at step
      · rename_i request waits
        rw [waits] at phase
        rcases Option.map_eq_some_iff.mp step with ⟨later, saved, rfl⟩
        have known : ∀ writer, some id = some writer →
            request.revision ∈ request.loaded ∨ world.WrittenBy writer request.revision := by
          rintro writer ⟨⟩
          exact phase.1.known
        rcases sound.saveRevision known saved with ⟨sound, grows, sessions, wrote⟩
        apply sound.setPhase
        rw [sessions]
        exact ⟨phase.1.mono grows, wrote id rfl, phase.2.2⟩
      · cases step
  | refuse =>
      dsimp only at step
      split at step
      · rename_i request waits
        rw [waits] at phase
        split at step
        · cases step
        · rename_i different
          cases step
          have bounded := phase.1.bounded
          have stage : request.revision < world.build.revision := by omega
          exact sound.setPhase ⟨phase.1, stage, phase.2.2⟩
      · cases step
  | fail =>
      dsimp only at step
      split at step
      · rename_i request waits
        rw [waits] at phase
        cases step
        exact sound.setPhase ⟨phase.1, trivial, phase.2.2⟩
      · rename_i request waits
        rw [waits] at phase
        cases step
        exact sound.setPhase ⟨phase.1, trivial, phase.2.2⟩
      · cases step
  | answer carried =>
      dsimp only at step
      split at step
      · rename_i request waits
        rw [waits] at phase
        cases step
        exact sound.setPhase ⟨phase.1, ⟨phase.2.1, Nat.le_refl _⟩, phase.2.2⟩
      · rename_i request waits
        rw [waits] at phase
        cases step
        refine sound.setPhase ⟨phase.1, ?_, phase.2.2⟩
        cases carried with
        | false => exact phase.2.1
        | true => exact ⟨phase.2.1, Nat.le_refl _⟩
      · cases step
  | takeAnswer =>
      dsimp only at step
      split at step
      · rename_i request answer waits
        rw [waits] at phase
        cases step
        apply sound.setSession
        cases answer with
        | saved build =>
            have wrote : (world.sessions id).isOpen request = true →
                world.WrittenBy id build.revision := by
              intro isOpen
              rw [own.saved request build rfl waits isOpen]
              exact phase.2.1.1
            exact fits.saved parseJSON wrote phase.2.1.2
        | refused latest =>
            cases latest with
            | none =>
                show world.SessionFits id { world.sessions id with
                  phase := if (world.sessions id).isOpen request then .fetching request none
                    else .idle }
                split
                · exact ⟨fits.known, fits.bounded, fits.unconfirmed, phase.2.1, nofun, phase.2.2⟩
                · exact fits.idle
            | some latest =>
                show world.SessionFits id (if (world.sessions id).isOpen request then
                  (world.sessions id).settle localeLE parseJSON request latest
                  else { world.sessions id with phase := .idle })
                split
                · rename_i isOpen
                  refine SessionFits.settle localeLE parseJSON phase.2.1.bounded (own.latest request latest ?_)
                  exact settles_answer waits isOpen
                · exact fits.idle
        | failed => exact fits.idle
      · cases step
  | lose =>
      dsimp only at step
      split at step
      · rename_i request stage waits
        rw [waits] at phase
        have lost := sound.setSession (fits.lose localeLE phase.2.2)
        split at step
        · cases step
          exact lost.addOrphan (phase.1.mono (grows_setSession id _))
        · cases step
          exact lost
      · cases step
  | read =>
      dsimp only at step
      split at step
      · rename_i request waits
        rw [waits] at phase
        cases step
        refine sound.setPhase ⟨phase.1, ?_, phase.2.2⟩
        rintro build ⟨⟩
        exact ⟨phase.1, Nat.le_refl _⟩
      · cases step
        apply sound.setPhase
        rintro build ⟨⟩
        exact ⟨fits.bounded, Nat.le_refl _⟩
      · cases step
  | takeRead =>
      dsimp only at step
      split at step
      · rename_i request latest waits
        rw [waits] at phase
        cases step
        apply sound.setSession
        split
        · rename_i isOpen
          refine SessionFits.settle localeLE parseJSON (phase.2.1 latest rfl).bounded
            (own.latest request latest ?_)
          exact settles_read waits isOpen
        · exact fits.idle
      · rename_i purpose build waits
        rw [waits] at phase
        cases step
        exact sound.setSession (fits.takeBuild parseJSON _ purpose (phase build rfl))
      · cases step
  | failRead =>
      dsimp only at step
      split at step
      · cases step
        exact sound.setPhase trivial
      · cases step
        exact sound.setPhase trivial
      · cases step
  | commitLate index build =>
      dsimp only at step
      rcases Option.bind_eq_some_iff.mp step with ⟨⟨writer, request⟩, listed, saved⟩
      have orphan := sound.orphans _ (List.mem_of_getElem? listed)
      have known : ∀ other, some writer = some other →
          request.revision ∈ request.loaded ∨ world.WrittenBy other request.revision := by
        rintro other ⟨⟩
        exact orphan.known
      exact (sound.saveRevision known saved).1
  | elsewhere build =>
      have unknown : ∀ writer, none = some writer →
          world.build.revision ∈ [] ∨ world.WrittenBy writer world.build.revision := nofun
      exact (sound.saveRevision unknown step).1

theorem Sound.revision_of_ours (sound : world.Sound)
    (current : (world.sessions id).store.currentRevision = request.revision)
    (read : world.ReadAfter request.revision latest)
    (ours : (world.sessions id).ours localeLE request latest = true) :
    latest.revision = request.revision + 1 := by
  unfold Session.ours at ours
  rcases Option.any_eq_true _ _ |>.mp ours with ⟨unconfirmed, given, matching⟩
  rw [Bool.and_eq_true, Bool.and_eq_true, decide_eq_true_eq, decide_eq_true_eq] at matching
  have before := ((sound.sessions id).unconfirmed unconfirmed given).2
  have next := matching.1.2
  have later := read.later
  omega

theorem Sound.gaveWay (sound : world.Sound) (own : world.Own localeLE id event)
    (settles : world.settles id event = some (request, latest))
    (intervened : world.Intervened id request latest)
    (step : world.next localeLE library parseJSON id event = some after) :
    world.GaveWay parseJSON after id latest := by
  rcases next_of_settles sound settles step with ⟨read, current, rfl⟩
  have others : ¬((world.sessions id).ours localeLE request latest = true ∧
      ¬request.retried = true) := by
    rintro ⟨ours, first⟩
    have next := sound.revision_of_ours current read ours
    have wrote := own.latest request latest settles ours (Bool.eq_false_iff.mpr first)
    rcases wrote with ⟨commit, listed, writer, base⟩
    rcases intervened with ⟨other, otherListed, from_, upTo, otherWriter⟩
    have same : commit.base = other.base := by omega
    rw [sound.writer_eq listed otherListed same] at writer
    exact otherWriter writer
  have gaveWay : (world.sessions id).settle localeLE parseJSON request latest =
      (world.sessions id).giveWay parseJSON latest := if_neg others
  rw [gaveWay]
  unfold GaveWay World.setSession
  dsimp only
  rw [if_pos rfl]
  exact ⟨rfl, rfl⟩

/-! ### Runs -/

theorem Fresh.sound (fresh : world.Fresh) : world.Sound where
  distinct := by
    rw [fresh.history]
    exact List.nodup_nil
  past := by
    rw [fresh.history]
    exact nofun
  known := by
    rw [fresh.history]
    exact nofun
  orphans := by
    rw [fresh.orphans]
    exact nofun
  sessions id := by
    refine ⟨?_, ?_, ?_, ?_⟩
    · intro _ ready
      exact absurd ((fresh.closed id).symm.trans ready) (by decide)
    · rw [fresh.revision id]
      exact Nat.zero_le _
    · rw [fresh.unconfirmed id]
      exact nofun
    · rw [fresh.idle id]
      trivial

theorem Sound.onlyOnLoaded (sound : world.Sound) : world.OnlyOnLoaded := by
  intro commit listed id writer other otherListed before somebodyElse
  rcases sound.known commit listed id writer with loaded | ⟨own, ownListed, ownWriter, ownBase⟩
  · exact loaded
  · have same : own.base = other.base := by omega
    rw [sound.writer_eq ownListed otherListed same] at ownWriter
    exact absurd ownWriter somebodyElse

end Steps

end World

section Runs

variable {localeLE : String → String → Bool} {library : FlowLibrary}
  {parseJSON : String → Option Json} {start world : World}

theorem Run.sound
    (run : Run localeLE library parseJSON (fun world => world.Own localeLE) start world)
    (fresh : start.Fresh) : world.Sound := by
  induction run with
  | nil => exact fresh.sound
  | step _ own next ih => exact ih.next own next

/-- Where every answer carries the build of its own save and no session mistakes
somebody else's save for its own, nothing is overwritten. -/
theorem recovery_keeps_others (fresh : start.Fresh)
    (run : Run localeLE library parseJSON (fun world => world.Own localeLE) start world) :
    world.OnlyOnLoaded ∧
      ∀ id event after request latest, world.Own localeLE id event →
        world.next localeLE library parseJSON id event = some after →
        world.settles id event = some (request, latest) → world.Intervened id request latest →
        world.GaveWay parseJSON after id latest :=
  ⟨(run.sound fresh).onlyOnLoaded, fun _ _ _ _ _ own step settles intervened =>
    (run.sound fresh).gaveWay own settles intervened step⟩

end Runs

/-! ### Two sessions -/

namespace World

variable (world : World)

instance (id revision : Nat) : Decidable (world.WrittenBy id revision) :=
  inferInstanceAs (Decidable (∃ commit ∈ world.history, _))

instance (id : Nat) (request : Request) (latest : Build) :
    Decidable (world.Intervened id request latest) :=
  inferInstanceAs (Decidable (∃ commit ∈ world.history, _))

variable (localeLE : String → String → Bool)

/-- `Own`, as a check of one step. -/
def isOwn (id : Nat) (event : Event) : Bool :=
  (match event, (world.sessions id).phase with
    | .takeAnswer, .saving request (.answered (.saved build)) =>
        !(world.sessions id).isOpen request || build.revision = request.revision + 1
    | _, _ => true) &&
  (world.settles id event).all fun (request, latest) =>
    !(world.sessions id).ours localeLE request latest || request.retried ||
      world.WrittenBy id latest.revision

theorem own_of_isOwn {id : Nat} {event : Event} (given : world.isOwn localeLE id event = true) :
    world.Own localeLE id event := by
  unfold isOwn at given
  rw [Bool.and_eq_true] at given
  constructor
  · rintro request build rfl waits isOpen
    have saved := given.1
    rw [waits] at saved
    dsimp only at saved
    rw [isOpen] at saved
    exact of_decide_eq_true saved
  · intro request latest settles ours first
    have latest := given.2
    rw [settles, Option.all_some] at latest
    dsimp only at latest
    rw [ours, first] at latest
    exact of_decide_eq_true latest

/-- The steps of some sessions, as long as they pass a check. -/
def play (library : FlowLibrary) (parseJSON : String → Option Json)
    (passes : World → Nat → Event → Bool) : World → List (Nat × Event) → Option World
  | world, [] => some world
  | world, (id, event) :: rest =>
      if passes world id event then
        (world.next localeLE library parseJSON id event).bind fun after =>
          play library parseJSON passes after rest
      else none

end World

theorem Run.of_play {localeLE : String → String → Bool} {library : FlowLibrary}
    {parseJSON : String → Option Json} {passes : World → Nat → Event → Bool}
    {meets : World → Nat → Event → Prop}
    (checks : ∀ world id event, passes world id event = true → meets world id event)
    {start : World} : ∀ {world final : World} {events : List (Nat × Event)},
      Run localeLE library parseJSON meets start world →
      World.play localeLE library parseJSON passes world events = some final →
      Run localeLE library parseJSON meets start final
  | _, _, [], run, played => by
      cases played
      exact run
  | world, final, (id, event) :: rest, run, played => by
      rw [World.play] at played
      split at played
      · rename_i passed
        rcases Option.bind_eq_some_iff.mp played with ⟨after, step, played⟩
        exact Run.of_play checks (.step run (checks world id event passed) step) played
      · cases played

/-- A build of one server with a note, as the server has it at a revision. -/
def serverBuild (note : String) (revision : Nat) : Build where
  id := "build"
  name := "Home"
  revision := revision
  nodes := [{ id := "server", type := "server", name := "Server",
              details := .obj [("notes", .str note)] }]

def serverWorld : World where
  build := serverBuild "" 1
  sessions _ := {}

def noting (note : String) : Event :=
  .edit (.updateHardware "server" { details := some (some [("notes", .str note)]) })

def opens (id : Nat) : List (Nat × Event) := [(id, .openBuild), (id, .read), (id, .takeRead)]

def notes (id : Nat) (note : String) (revision : Nat) : List (Nat × Event) :=
  [(id, noting note), (id, .reassignAllIPs), (id, .commit (serverBuild note revision)),
    (id, .answer true), (id, .takeAnswer)]

/-- A save whose base is gone, up to its answer. -/
def refusedSave (id : Nat) : List (Nat × Event) :=
  [(id, .reassignAllIPs), (id, .refuse), (id, .answer true)]

def byText (left right : String) : Bool := left ≤ right

theorem serverWorld_fresh : serverWorld.Fresh where
  history := rfl
  orphans := rfl
  idle _ := rfl
  unconfirmed _ := rfl
  closed _ := rfl
  revision _ := rfl

/-- The second session saved first, and the first one has not looked yet. -/
def overtaken : Option World :=
  serverWorld.play byText FlowLibrary.plain (fun _ => none) (fun world => world.isOwn byText)
    (opens 1 ++ opens 2 ++ [(1, noting "one")] ++ notes 2 "two" 2 ++ refusedSave 1)

theorem recovery_keeps_others_overtaken :
    ∃ world after latest, overtaken = some world ∧
      world.next byText FlowLibrary.plain (fun _ => none) 1 .takeAnswer = some after ∧
      world.OnlyOnLoaded ∧ world.GaveWay (fun _ => none) after 1 latest := by
  have checked : overtaken.any (fun world => world.isOwn byText 1 .takeAnswer &&
      (world.next byText FlowLibrary.plain (fun _ => none) 1 .takeAnswer).isSome &&
      (world.settles 1 .takeAnswer).any fun (request, latest) =>
        world.Intervened 1 request latest) = true := by decide
  rcases (Option.any_eq_true _ _).mp checked with ⟨world, played, checked⟩
  rw [Bool.and_eq_true, Bool.and_eq_true] at checked
  rcases Option.isSome_iff_exists.mp checked.1.2 with ⟨after, step⟩
  rcases (Option.any_eq_true _ _).mp checked.2 with ⟨⟨request, latest⟩, settles, intervened⟩
  have run := Run.of_play (fun world _ _ => world.own_of_isOwn byText) .nil played
  rcases recovery_keeps_others serverWorld_fresh run with ⟨onlyOnLoaded, givesWay⟩
  exact ⟨world, after, latest, played, step, onlyOnLoaded,
    givesWay 1 .takeAnswer after request latest (world.own_of_isOwn byText checked.1.1) step settles
      (of_decide_eq_true intervened)⟩

/-- The first session's save is lost on its way, the second one's has the same
signature. -/
def mistaken : Option World :=
  serverWorld.play byText FlowLibrary.plain (fun _ => none) (fun _ _ _ => true)
    (opens 1 ++ opens 2 ++ [(1, noting "one"), (1, .reassignAllIPs), (1, .lose)] ++
      notes 2 "two" 2 ++ refusedSave 1 ++ [(1, .takeAnswer), (1, .commit (serverBuild "one" 3))])

/-- A session goes on from another one's note as if it were its own save. -/
theorem note_overwritten :
    ¬ ∀ (localeLE : String → String → Bool) (library : FlowLibrary)
      (parseJSON : String → Option Json) (start world : World), start.Fresh →
      Run localeLE library parseJSON (fun _ _ _ => True) start world →
        world.OnlyOnLoaded ∧
          ∀ id event after request latest,
            world.next localeLE library parseJSON id event = some after →
            world.settles id event = some (request, latest) →
            world.Intervened id request latest → world.GaveWay parseJSON after id latest := by
  intro claim
  have written : mistaken.map World.history =
      some [⟨some 2, 1, [1]⟩, ⟨some 1, 2, [1]⟩] := by decide +kernel
  rcases Option.map_eq_some_iff.mp written with ⟨world, played, history⟩
  have run := Run.of_play (fun _ _ _ _ => trivial) .nil played
  have loaded := (claim _ _ _ _ _ serverWorld_fresh run).1 ⟨some 1, 2, [1]⟩
  rw [history] at loaded
  have known := loaded (by decide) 1 rfl
  exact absurd (known ⟨some 2, 1, [1]⟩ (by decide) rfl (by decide)) (by decide)

end HomelabBuilder.Sessions
