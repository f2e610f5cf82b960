import HomelabBuilder.Canvas.StoreRuns
import HomelabBuilder.Foundation.History

/-! # Undo and redo on the canvas

The undo steps of the store are a history: undoing and redoing as often brings
back the canvas, the name, the kind, the plan and both stacks.
-/

namespace HomelabBuilder.Canvas

structure Work where
  canvas : Canvas
  projectName : String
  buildKind : String
  gamingPlan : List (String × Json)

namespace Work

def restore (work : Work) (snap : Snapshot) : Work where
  canvas := snap.canvas
  projectName := snap.snapshotMeta.projectName.getD work.projectName
  buildKind := snap.snapshotMeta.buildKind.getD work.buildKind
  gamingPlan := snap.snapshotMeta.gamingPlan.getD work.gamingPlan

def stepBack (work : Work) (snap : Snapshot) : Snapshot where
  canvas := work.canvas
  snapshotMeta :=
    { projectName := snap.snapshotMeta.projectName.map fun _ => work.projectName
      buildKind := snap.snapshotMeta.buildKind.map fun _ => work.buildKind
      gamingPlan := snap.snapshotMeta.gamingPlan.map fun _ => work.gamingPlan }

end Work

/-- A step lists what it changes, and the step back lists the same. -/
def workSteps : Reversible Work Snapshot where
  apply := Work.restore
  back := Work.stepBack
  apply_back := by
    rintro ⟨canvas, name, kind, plan⟩ ⟨snapCanvas, snapName, snapKind, snapPlan⟩
    unfold Work.restore Work.stepBack
    cases snapName <;> cases snapKind <;> cases snapPlan <;> rfl
  back_back := by
    rintro ⟨canvas, name, kind, plan⟩ ⟨snapCanvas, snapName, snapKind, snapPlan⟩
    unfold Work.restore Work.stepBack
    cases snapName <;> cases snapKind <;> cases snapPlan <;> rfl

namespace BuilderState

def history (state : BuilderState) : History Work Snapshot where
  present := ⟨state.canvas, state.projectName, state.buildKind, state.gamingPlan⟩
  past := state.historyPast
  future := state.historyFuture

variable {state : BuilderState}

theorem history_undo (open_ : state.proposalPreview = false) :
    state.undo.history = state.history.undo workSteps historyLimit := by
  unfold undo History.undo
  have past : state.history.past = state.historyPast := rfl
  rw [open_, if_neg Bool.false_ne_true, past]
  cases state.historyPast.getLast? <;> rfl

theorem history_redo (open_ : state.proposalPreview = false) :
    state.redo.history = state.history.redo workSteps historyLimit := by
  unfold redo History.redo
  have future : state.history.future = state.historyFuture := rfl
  rw [open_, if_neg Bool.false_ne_true, future]
  cases state.historyFuture <;> rfl

@[simp]
theorem proposalPreview_undo : state.undo.proposalPreview = state.proposalPreview := by
  unfold undo
  split
  · rfl
  · split <;> rfl

@[simp]
theorem proposalPreview_redo : state.redo.proposalPreview = state.proposalPreview := by
  unfold redo
  split
  · rfl
  · split <;> rfl

theorem history_iterate (open_ : state.proposalPreview = false) (undos redos : Nat) :
    (redo^[redos] (undo^[undos] state)).history =
      (History.redo workSteps historyLimit)^[redos]
        ((History.undo workSteps historyLimit)^[undos] state.history) := by
  have undone : ∀ count, (undo^[count] state).proposalPreview = false ∧
      (undo^[count] state).history =
        (History.undo workSteps historyLimit)^[count] state.history := by
    intro count
    induction count with
    | zero => exact ⟨open_, rfl⟩
    | succ count induction =>
        rw [Function.iterate_succ_apply', Function.iterate_succ_apply', proposalPreview_undo,
          history_undo induction.1, induction.2]
        exact ⟨induction.1, rfl⟩
  have redone : ∀ count, (redo^[count] (undo^[undos] state)).proposalPreview = false ∧
      (redo^[count] (undo^[undos] state)).history =
        (History.redo workSteps historyLimit)^[count] (undo^[undos] state).history := by
    intro count
    induction count with
    | zero => exact ⟨(undone undos).1, rfl⟩
    | succ count induction =>
        rw [Function.iterate_succ_apply', Function.iterate_succ_apply', proposalPreview_redo,
          history_redo induction.1, induction.2]
        exact ⟨induction.1, rfl⟩
  rw [(redone redos).2, (undone undos).2]

/-! ## Room for the steps -/

inductive StackMove (state later : BuilderState) : Prop
  | kept (past : later.historyPast = state.historyPast)
      (future : later.historyFuture = state.historyFuture)
  | recorded (step : Snapshot) (past : later.historyPast = lastSteps (state.historyPast ++ [step]))
      (future : later.historyFuture = [])
  | cleared (past : later.historyPast = []) (future : later.historyFuture = [])
  | undone (same : later.history = state.history.undo workSteps historyLimit)
  | redone (same : later.history = state.history.redo workSteps historyLimit)

theorem StackMove.size_le {later : BuilderState} (move : StackMove state later)
    (room : state.history.size ≤ historyLimit) : later.history.size ≤ historyLimit := by
  cases move with
  | kept past future =>
      unfold history History.size at room ⊢
      rw [past, future]
      exact room
  | recorded step past future =>
      unfold history History.size
      rw [past, future]
      exact History.length_recent_le historyLimit _
  | cleared past future =>
      unfold history History.size
      rw [past, future]
      exact Nat.zero_le _
  | undone same =>
      rw [same]
      exact le_trans (History.size_undo_le workSteps historyLimit state.history) room
  | redone same =>
      rw [same]
      exact le_trans (History.size_redo_le workSteps historyLimit state.history) room

theorem stackMove_undo (state : BuilderState) : StackMove state state.undo := by
  cases open_ : state.proposalPreview with
  | false => exact .undone (history_undo open_)
  | true =>
      have same : state.undo = state := by
        unfold undo
        rw [open_, if_pos rfl]
      rw [same]
      exact .kept rfl rfl

theorem stackMove_redo (state : BuilderState) : StackMove state state.redo := by
  cases open_ : state.proposalPreview with
  | false => exact .redone (history_redo open_)
  | true =>
      have same : state.redo = state := by
        unfold redo
        rw [open_, if_pos rfl]
      rw [same]
      exact .kept rfl rfl

theorem stackMove_updateVirtualNetwork (state : BuilderState) (hostID : String) (network : Json) :
    StackMove state (state.updateVirtualNetwork hostID network) := by
  unfold updateVirtualNetwork
  split
  · exact .kept rfl rfl
  · exact .recorded _ rfl rfl

theorem stackMove_edit (library : FlowLibrary) (state : BuilderState) (made : Edit) :
    StackMove state (state.edit library made) := by
  cases made with
  | openVirtualNetwork host =>
      unfold edit openVirtualNetwork
      dsimp only
      split
      · split
        · exact .kept rfl rfl
        · rename_i found _ _
          cases stackMove_updateVirtualNetwork state found.id (initialVirtualNetwork found) with
          | kept past future => exact .kept past future
          | recorded step past future => exact .recorded step past future
          | cleared past future => exact .cleared past future
          | undone same => exact .undone same
          | redone same => exact .redone same
      · exact .kept rfl rfl
  | updateVirtualNetwork host network => exact stackMove_updateVirtualNetwork state host network
  | setSetupDone stepIDs =>
      unfold edit setSetupDone
      dsimp only
      split <;> exact .kept rfl rfl
  | applyLayout positions =>
      unfold edit applyLayout
      dsimp only
      split
      · exact .kept rfl rfl
      · split
        · exact .kept rfl rfl
        · exact .recorded _ rfl rfl
  | onNodesChange changes =>
      unfold edit onNodesChange
      dsimp only
      split
      · exact .kept rfl rfl
      · exact .recorded _ rfl rfl
  | onEdgesChange changes =>
      unfold edit onEdgesChange
      dsimp only
      split
      · exact .kept rfl rfl
      · exact .recorded _ rfl rfl
  | onConnect connection =>
      unfold edit onConnect
      dsimp only
      split
      · exact .kept rfl rfl
      · exact .recorded _ rfl rfl
  | duplicateHardware nodeID newID fresh =>
      unfold edit duplicateHardware
      dsimp only
      split
      · exact .kept rfl rfl
      · split
        · exact .kept rfl rfl
        · exact .recorded _ rfl rfl
  | addVM nodeID rawVM =>
      unfold edit addVM
      dsimp only
      split
      · exact .recorded _ rfl rfl
      · exact .kept rfl rfl
  | addHardware rawNode => exact .recorded _ rfl rfl
  | removeHardware nodeID => exact .recorded _ rfl rfl
  | addInternalComponent nodeID component => exact .recorded _ rfl rfl
  | removeInternalComponent nodeID componentID => exact .recorded _ rfl rfl
  | removeVM nodeID vmID => exact .recorded _ rfl rfl
  | updateVM nodeID vmID updates => exact .recorded _ rfl rfl
  | undo => exact stackMove_undo state
  | redo => exact stackMove_redo state
  | _ => exact .kept rfl rfl

theorem stackMove_act (library : FlowLibrary) (parseJSON : String → Option Json)
    (state : BuilderState) (action : Action) :
    StackMove state (state.act library parseJSON action) := by
  cases action with
  | edit made => exact stackMove_edit library state made
  | mergeAnswer sentBuildID sent build =>
      unfold act Canvas.mergeAnswer
      dsimp only
      split
      · exact .kept rfl rfl
      · split <;> exact .kept rfl rfl
  | takeOver latest => exact .recorded _ rfl rfl
  | takeProposal build => exact .recorded _ rfl rfl
  | loadBuild id name build => exact .cleared rfl rfl
  | startOpening id =>
      unfold act Canvas.startOpening
      dsimp only
      split
      · exact .kept rfl rfl
      · split <;> exact .cleared rfl rfl
  | clearCurrentBuild => exact .cleared rfl rfl

end BuilderState

/-! ## Runs -/

/-- After any actions on a loaded build the two stacks hold fifty steps at most, and
redoing as often as was undone brings back the work and both stacks. -/
theorem undo_redo_inverse (library : FlowLibrary) (parseJSON : String → Option Json)
    (state : BuilderState) (id name : String) (build : Build) {later : BuilderState}
    (run : Relation.ReflTransGen (Acts library parseJSON fun _ _ => True)
      (loadBuild parseJSON state id name build) later) :
    later.historyPast.length + later.historyFuture.length ≤ 50 ∧
      ∀ count ≤ later.historyPast.length, later.proposalPreview = false →
        (BuilderState.redo^[count] (BuilderState.undo^[count] later)).history = later.history := by
  have room : later.history.size ≤ historyLimit := by
    induction run with
    | refl => exact Nat.zero_le _
    | tail _ acts induction =>
        rcases acts with ⟨action, _, rfl⟩
        exact (BuilderState.stackMove_act library parseJSON _ action).size_le induction
  refine ⟨room, ?_⟩
  intro count enough open_
  rw [BuilderState.history_iterate open_]
  exact History.iterate_redo_undo workSteps historyLimit count room enough

/-- Two devices are added and the build is renamed in between. -/
theorem undo_redo_inverse_two :
    let later := edited [.addHardware outerRack, .setProjectName "Lab",
      .addHardware (mountedServer "outer")]
    (BuilderState.redo^[2] (BuilderState.undo^[2] later)).history = later.history := by
  have run : Relation.ReflTransGen (Acts FlowLibrary.plain (fun _ => none) fun _ _ => True)
      (loadBuild (fun _ => none) {} "build" "Home" emptyBuild)
      (edited [.addHardware outerRack, .setProjectName "Lab",
        .addHardware (mountedServer "outer")]) :=
    .tail (.tail (.tail .refl ⟨.edit (.addHardware outerRack), trivial, rfl⟩)
      ⟨.edit (.setProjectName "Lab"), trivial, rfl⟩)
      ⟨.edit (.addHardware (mountedServer "outer")), trivial, rfl⟩
  exact (undo_redo_inverse FlowLibrary.plain (fun _ => none) {} "build" "Home" emptyBuild run).2 2
    (by decide) (by decide)

end HomelabBuilder.Canvas
