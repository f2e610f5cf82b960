import HomelabBuilder.Topology.NodeEdits

/-! # Cable operations as edits, and whole batches -/

namespace HomelabBuilder.Topology

open Services Wiring

section

variable {floats : Floats} {node source target : NodeDTO} {used : List String} {handle : String}

/-! ## Handles -/

structure HasPorts (node : NodeDTO) : Prop where
  noRack : node.type ≠ "rack"
  noSource : isPowerSource node.type = false

/-- A handle of the card that carries no cable. -/
def IsFree (floats : Floats) (node : NodeDTO) (used : List String) (handle : String) : Prop :=
  handle ∈ validHandles floats node.type node.details ∧ handle ∉ used

theorem targetHandle_mem (ports : HasPorts node) :
    targetHandle ∈ validHandles floats node.type node.details := by
  unfold validHandles
  rw [if_neg ports.noRack, ports.noSource]
  simp

theorem isFree_of_firstFreePort (ports : HasPorts node)
    (found : firstFreePort floats node.type node.details used = some handle) :
    IsFree floats node used handle := by
  constructor
  · have member := List.mem_of_find?_eq_some found
    unfold validHandles
    rw [if_neg ports.noRack, ports.noSource]
    simp [member]
  · simpa using List.find?_some found

theorem isFree_of_checkHandle (named : handle ≠ "")
    (done : checkHandle floats node used handle = .ok ()) : IsFree floats node used handle := by
  unfold checkHandle at done
  rw [if_neg named] at done
  rcases bind_eq_ok.mp done with ⟨_, _, done⟩
  rcases bind_eq_ok.mp done with ⟨_, valid, done⟩
  exact ⟨require_eq_ok.mp valid, require_eq_ok.mp done⟩

theorem isFree_of_uplinkOrPort (ports : HasPorts node)
    (done : uplinkOrPort floats node used = .ok handle) : IsFree floats node used handle := by
  unfold uplinkOrPort at done
  split at done
  · rename_i free
    cases done
    exact ⟨targetHandle_mem ports, free⟩
  · rw [given_eq_ok] at done
    exact isFree_of_firstFreePort ports done

theorem isFree_of_pickHandles {nodes : List NodeDTO} {edges : List EdgeDTO}
    {wantSource wantTarget sourceHandle targetHandle : String} {reversed : Bool}
    (sourcePorts : HasPorts source) (targetPorts : HasPorts target)
    (done : pickHandles floats nodes edges source target wantSource wantTarget =
      .ok (sourceHandle, targetHandle, reversed)) :
    let drawn := if reversed then (target, source) else (source, target)
    let taken := fun node : NodeDTO => usedHandles (nodeTypeOf nodes) node.id edges
    IsFree floats drawn.1 (taken drawn.1) sourceHandle ∧
      IsFree floats drawn.2 (taken drawn.2) targetHandle := by
  rcases bind_eq_ok.mp done with ⟨_, sourceFits, done⟩
  rcases bind_eq_ok.mp done with ⟨_, targetFits, done⟩
  split at done
  · rename_i both
    cases done
    exact ⟨isFree_of_checkHandle both.1 sourceFits, isFree_of_checkHandle both.2 targetFits⟩
  · split at done
    · rename_i named
      rcases bind_eq_ok.mp done with ⟨handle, picked, done⟩
      cases done
      exact ⟨isFree_of_checkHandle named sourceFits, isFree_of_uplinkOrPort targetPorts picked⟩
    · split at done
      · rename_i named
        rcases bind_eq_ok.mp done with ⟨handle, picked, done⟩
        cases done
        rw [given_eq_ok] at picked
        exact ⟨isFree_of_firstFreePort sourcePorts picked, isFree_of_checkHandle named targetFits⟩
      · split at done
        · rename_i port picked
          rcases bind_eq_ok.mp done with ⟨handle, uplink, done⟩
          cases done
          exact ⟨isFree_of_firstFreePort sourcePorts picked,
            isFree_of_uplinkOrPort targetPorts uplink⟩
        · rcases bind_eq_ok.mp done with ⟨port, picked, done⟩
          rcases bind_eq_ok.mp done with ⟨_, free, done⟩
          cases done
          rw [given_eq_ok] at picked
          exact ⟨isFree_of_firstFreePort targetPorts picked, targetHandle_mem sourcePorts,
            require_eq_ok.mp free⟩

end

/-! ## Connecting -/

section

variable {env : Env} {start editor after : Editor} {op resolved : TopologyOp}

def EdgeDTO.course (edge : EdgeDTO) : String × String × String × String × String :=
  (edge.source, edge.sourceHandle, edge.target, edge.targetHandle, edge.type)

theorem applyConnectionFields_course {edge changed : EdgeDTO}
    (done : applyConnectionFields edge op = .ok changed) :
    EdgeDTO.course changed = EdgeDTO.course edge := by
  rcases bind_eq_ok.mp done with ⟨sped, speeds, done⟩
  rcases bind_eq_ok.mp done with ⟨directed, directions, done⟩
  rcases bind_eq_ok.mp done with ⟨standardized, standards, subnets⟩
  have written : ∀ {check : String → Except String String} {write : String → EdgeDTO}
      {value : Option String} {before after : EdgeDTO},
      whenGiven value before (fun value => check value >>= fun cleaned =>
        .ok (write cleaned)) = .ok after →
      (∀ cleaned, EdgeDTO.course (write cleaned) = EdgeDTO.course before) →
      EdgeDTO.course after = EdgeDTO.course before := by
    intro check write value before after done keeps
    apply kept_of_whenGiven _ done
    intro value result done
    rcases bind_eq_ok.mp done with ⟨cleaned, _, done⟩
    cases done
    exact keeps cleaned
  rw [written subnets fun _ => rfl, written standards fun _ => rfl,
    written directions fun _ => rfl, written speeds fun _ => rfl]

theorem plugIn_eq_ok {edges : List EdgeDTO} {source target : NodeDTO}
    {wantSource wantTarget : String} {edge : EdgeDTO}
    (done : plugIn env edges source target wantSource wantTarget = .ok edge) :
    edge.source = source.id ∧ edge.target = target.id ∧ edge.type = edgeTypePower := by
  rcases bind_eq_ok.mp done with ⟨_, _, done⟩
  rcases bind_eq_ok.mp done with ⟨_, _, done⟩
  rcases bind_eq_ok.mp done with ⟨_, _, done⟩
  cases done
  exact ⟨rfl, rfl, rfl⟩

theorem connectPower_edit {source target : NodeDTO} (apart : source.id ≠ target.id)
    (done : connectPower env editor op source target = .ok (after, resolved)) :
    Edit env start op editor after := by
  rcases bind_eq_ok.mp done with ⟨edge, plugged, done⟩
  cases done
  rcases plugIn_eq_ok plugged with ⟨isSource, isTarget, isPower⟩
  refine .link ⟨?_, ?_, ?_⟩
  · rw [isSource, isTarget]
    split
    · exact apart.symm
    · exact apart
  · simp [EdgeDTO.isPower, isPower]
  · simp [isPhysical, isPower]

theorem validateEach_pair {α : Type} {validate : α → Except String Unit} {first second : α}
    (done : validateEach validate [first, second] = .ok ()) :
    validate first = .ok () ∧ validate second = .ok () := by
  unfold validateEach at done
  split at done
  · cases done
  · rename_i isFirst
    unfold validateEach at done
    split at done
    · cases done
    · rename_i isSecond
      exact ⟨isFirst, isSecond⟩

/-- The two ways a cable between two nodes is drawn. -/
def Between (source target : NodeDTO) (ends : NodeDTO × NodeDTO) : Prop :=
  ends = (source, target) ∨ ends = (target, source)

theorem newLink_eq_ok {connectionType : String} {source target : NodeDTO} {edge : EdgeDTO}
    (sourcePorts : HasPorts source) (targetPorts : HasPorts target)
    (done : newLink env editor op connectionType source target = .ok edge) :
    edge.type = connectionType ∧ ∃ ends, Between source target ends ∧
      edge.source = ends.1.id ∧ edge.target = ends.2.id ∧
      IsFree env.floats ends.1 (usedHandles (nodeTypeOf editor.graph.nodes) ends.1.id
        editor.graph.edges) edge.sourceHandle ∧
      IsFree env.floats ends.2 (usedHandles (nodeTypeOf editor.graph.nodes) ends.2.id
        editor.graph.edges) edge.targetHandle := by
  have drawn : Between source target (drawnEnds op source target) := by
    unfold drawnEnds
    split
    · exact .inr rfl
    · exact .inl rfl
  unfold newLink at done
  generalize drawnEnds op source target = ends at drawn done
  rcases ends with ⟨first, second⟩
  have ports : HasPorts first ∧ HasPorts second := by
    rcases drawn with same | same
    · cases same
      exact ⟨sourcePorts, targetPorts⟩
    · cases same
      exact ⟨targetPorts, sourcePorts⟩
  rcases bind_eq_ok.mp done with ⟨⟨sourceHandle, targetHandle, reversed⟩, picked, done⟩
  have free := isFree_of_pickHandles ports.1 ports.2 picked
  have course := applyConnectionFields_course done
  simp only [EdgeDTO.course, Prod.mk.injEq] at course
  rcases course with ⟨isSource, isSourceHandle, isTarget, isTargetHandle, isType⟩
  rw [isSource, isSourceHandle, isTarget, isTargetHandle]
  cases reversed with
  | false => exact ⟨isType, (first, second), drawn, rfl, rfl, free⟩
  | true =>
      refine ⟨isType, (second, first), ?_, rfl, rfl, free⟩
      rcases drawn with same | same
      · cases same
        exact .inr rfl
      · cases same
        exact .inl rfl

theorem newLink_edit {connectionType : String} {source target : NodeDTO} {edge : EdgeDTO}
    (sourceMember : source ∈ editor.graph.nodes) (targetMember : target ∈ editor.graph.nodes)
    (sourcePorts : HasPorts source) (targetPorts : HasPorts target)
    (apart : source.id ≠ target.id)
    (checked : checkNetworkLink env editor connectionType source target = .ok ())
    (done : newLink env editor op connectionType source target = .ok edge) :
    Edit env start op editor (editor.withEdges (editor.graph.edges ++ [edge])) := by
  rcases newLink_eq_ok sourcePorts targetPorts done with
    ⟨isType, ends, between, isSource, isTarget, sourceFree, targetFree⟩
  have members : ends.1 ∈ editor.graph.nodes ∧ ends.2 ∈ editor.graph.nodes := by
    rcases between with rfl | rfl
    · exact ⟨sourceMember, targetMember⟩
    · exact ⟨targetMember, sourceMember⟩
  refine .link ⟨?_, ?_, ?_⟩
  · rw [isSource, isTarget]
    rcases between with rfl | rfl
    · exact apart
    · exact apart.symm
  · intro _
    rw [isSource, isTarget]
    exact ⟨⟨⟨_, members.1, rfl, sourceFree.1⟩, sourceFree.2⟩,
      ⟨⟨_, members.2, rfl, targetFree.1⟩, targetFree.2⟩⟩
  · intro physical noLoops
    rcases bind_eq_ok.mp checked with ⟨_, _, checked⟩
    rcases bind_eq_ok.mp checked with ⟨_, _, checked⟩
    rcases bind_eq_ok.mp checked with ⟨_, _, checked⟩
    rcases bind_eq_ok.mp checked with ⟨_, _, checked⟩
    rcases bind_eq_ok.mp checked with ⟨_, _, checked⟩
    rcases bind_eq_ok.mp checked with ⟨_, _, checked⟩
    rw [isSource, isTarget]
    rcases require_eq_ok.mp checked with vpn | loops | noPath
    · simp [isPhysical, isType, vpn] at physical
    · rw [noLoops] at loops
      cases loops
    · rcases between with rfl | rfl
      · exact .inl noPath
      · exact .inr noPath

theorem connect_edit (done : connect env editor op = .ok (after, resolved)) :
    Edit env start op editor after := by
  rcases bind_eq_ok.mp done with ⟨⟨source, sourceIndex⟩, findsSource, done⟩
  rcases bind_eq_ok.mp done with ⟨⟨target, targetIndex⟩, findsTarget, done⟩
  rcases bind_eq_ok.mp done with ⟨_, apart, done⟩
  rcases bind_eq_ok.mp done with ⟨_, noRacks, done⟩
  rcases bind_eq_ok.mp done with ⟨connectionType, _, done⟩
  rw [require_eq_ok] at apart noRacks
  split at done
  · rcases bind_eq_ok.mp done with ⟨_, _, done⟩
    exact connectPower_edit apart done
  · rcases bind_eq_ok.mp done with ⟨_, noSources, done⟩
    rcases bind_eq_ok.mp done with ⟨_, checked, done⟩
    rcases bind_eq_ok.mp done with ⟨edge, drawn, done⟩
    cases done
    rcases validateEach_pair noSources with ⟨sourcePlain, targetPlain⟩
    exact newLink_edit (List.mem_of_getElem? (located_of_resolvedNode findsSource))
      (List.mem_of_getElem? (located_of_resolvedNode findsTarget))
      ⟨noRacks.1, require_eq_ok.mp sourcePlain⟩ ⟨noRacks.2, require_eq_ok.mp targetPlain⟩ apart
      checked drawn

/-! ## Existing cables -/

theorem resolveConnection_eq_ok {connection : Connection}
    (done : resolveConnection env editor op = .ok connection) :
    editor.graph.edges[connection.index]? = some connection.edge := by
  rcases bind_eq_ok.mp done with ⟨⟨source, _⟩, _, done⟩
  rcases bind_eq_ok.mp done with ⟨⟨target, _⟩, _, done⟩
  rcases bind_eq_ok.mp done with ⟨⟨edge, index⟩, found, done⟩
  cases done
  rw [given_eq_ok] at found
  exact (locate_eq_some found).1

theorem disconnect_edit (done : disconnect env editor op = .ok (after, resolved)) :
    Edit env start op editor after := by
  rcases bind_eq_ok.mp done with ⟨connection, _, done⟩
  cases done
  exact .unlink connection.index

theorem retype_eq_ok {edge changed : EdgeDTO} {source target : NodeDTO} {value : String}
    (done : retype edge source target value = .ok changed) :
    cleanEnum "connection_type" value connectionTypes = .ok changed.type ∧
      (changed.source, changed.sourceHandle, changed.target, changed.targetHandle) =
        (edge.source, edge.sourceHandle, edge.target, edge.targetHandle) ∧
      (changed.type = edgeTypePower ↔ edge.type = edgeTypePower) := by
  rcases bind_eq_ok.mp done with ⟨connectionType, cleaned, done⟩
  rcases bind_eq_ok.mp done with ⟨_, stays, done⟩
  rcases bind_eq_ok.mp done with ⟨_, noNew, done⟩
  rcases bind_eq_ok.mp done with ⟨_, _, done⟩
  rcases bind_eq_ok.mp done with ⟨_, _, done⟩
  rcases bind_eq_ok.mp done with ⟨_, _, done⟩
  cases done
  rw [require_eq_ok] at stays noNew
  exact ⟨cleaned, rfl, fun isPower => by_contra fun plain => noNew plain isPower, stays⟩

theorem updateConnection_edit (isUpdate : op.op = "update_connection")
    (done : updateConnection env editor op = .ok (after, resolved)) :
    Edit env editor op editor after := by
  rcases bind_eq_ok.mp done with ⟨connection, resolves, done⟩
  rcases bind_eq_ok.mp done with ⟨⟨source, _⟩, _, done⟩
  rcases bind_eq_ok.mp done with ⟨⟨target, _⟩, _, done⟩
  rcases bind_eq_ok.mp done with ⟨typed, types, done⟩
  rcases bind_eq_ok.mp done with ⟨changed, fields, done⟩
  cases done
  have course := applyConnectionFields_course fields
  simp only [EdgeDTO.course, Prod.mk.injEq] at course
  rcases course with ⟨isSource, isSourceHandle, isTarget, isTargetHandle, isType⟩
  have physical : isPhysical changed = isPhysical typed := by
    unfold isPhysical
    rw [isType]
  have power : changed.isPower = typed.isPower := by
    unfold EdgeDTO.isPower
    rw [isType]
  refine .relink (resolveConnection_eq_ok resolves) ⟨?_, ?_, ?_, ?_⟩
  all_goals
    rcases whenGiven_eq_ok.mp types with ⟨_, rfl⟩ | ⟨value, given, retyped⟩
  · exact ⟨isSource, isSourceHandle⟩
  · have kept := (retype_eq_ok retyped).2.1
    simp only [Prod.mk.injEq] at kept
    exact ⟨isSource.trans kept.1, isSourceHandle.trans kept.2.1⟩
  · exact ⟨isTarget, isTargetHandle⟩
  · have kept := (retype_eq_ok retyped).2.1
    simp only [Prod.mk.injEq] at kept
    exact ⟨isTarget.trans kept.2.2.1, isTargetHandle.trans kept.2.2.2⟩
  · exact power
  · rw [power]
    exact decide_eq_decide.mpr (retype_eq_ok retyped).2.2
  · intro _ isPhysical
    exact .inl (physical ▸ isPhysical)
  · intro opens isPhysical
    rw [physical] at isPhysical
    rcases retype_eq_ok retyped with ⟨cleaned, _, powers⟩
    simp only [Topology.isPhysical, Bool.and_eq_true, decide_eq_true_eq] at isPhysical ⊢
    by_cases vpn : connection.edge.type = "vpn"
    · right
      by_contra path
      exact opens ⟨isUpdate, connection, value, typed.type, resolves, vpn, given, cleaned,
        isPhysical.1, Bool.eq_true_of_not_eq_false path⟩
    · exact .inl ⟨vpn, fun isPower => isPhysical.2 (powers.mpr isPower)⟩

end

end HomelabBuilder.Topology
