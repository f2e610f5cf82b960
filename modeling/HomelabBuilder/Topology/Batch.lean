import HomelabBuilder.Topology.CableEdits

/-! # Batches

Every operation is a sequence of edits, ids that are drawn stay new, and what
every edit preserves holds at the end of a batch.
-/

namespace HomelabBuilder.Topology

open Services

section

variable {env : Env} {start editor before after : Editor} {op resolved : TopologyOp}

/-! ## Operations -/

theorem applyOp_edits {limit : Nat} (unused : Unused env limit editor)
    (more : editor.minted < limit) (done : applyOp env editor op = .ok (after, resolved)) : Edits env editor op editor after := by
  unfold applyOp at done
  split at done
  · rename_i isAdd
    exact addNode_edits isAdd unused more done
  · rename_i isUpdate
    exact updateNode_edits isUpdate done
  · exact .single (removeNode_edit done)
  · exact .single (connect_edit done)
  · exact .single (disconnect_edit done)
  · rename_i isUpdate
    exact .single (updateConnection_edit isUpdate done)
  · exact addVM_edits unused more done
  · exact .single (updateVM_edit done)
  · exact .single (removeVM_edit done)
  · exact addComponent_edits unused more done
  · exact .single (removeComponent_edit done)
  · exact .single (renameBuild_edit done)
  · exact .single (setPlan_edit done)
  · cases done
  · cases done

theorem TopologyOp.lowered_id (op : TopologyOp) : op.lowered.id = op.id := by
  simp only [TopologyOp.lowered]

theorem step_edits {limit : Nat} (unused : Unused env limit editor)
    (more : editor.minted < limit) (done : step env editor op = .ok (after, resolved)) :
    Edits env editor op.lowered editor after :=
  applyOp_edits unused more done

/-! ## Ids that are still to be drawn -/

theorem idInUse_iff {nodes : List NodeDTO} {id : String} :
    idInUse nodes id = true ↔ ∃ node ∈ nodes, id ∈ idsOf node := by
  simp [idInUse]

theorem Keeps.idsOf_subset {node changed : NodeDTO} (keeps : Keeps node changed) :
    idsOf changed ⊆ idsOf node := by
  unfold idsOf
  rw [keeps.id]
  apply List.append_subset.mpr
  constructor
  · apply List.cons_subset.mpr
    refine ⟨List.mem_append_left _ List.mem_cons_self, ?_⟩
    exact List.Subset.trans keeps.vms.subset
      (List.Subset.trans (List.subset_cons_self _ _) (List.subset_append_left _ _))
  · exact List.Subset.trans keeps.components.subset (List.subset_append_right _ _)

theorem Mentions.mono {nodes fewer : List NodeDTO} {id : String} (subset : fewer ⊆ nodes)
    (mentions : Mentions fewer id) : Mentions nodes id := by
  rcases mentions with used | ⟨node, member, isParent⟩
  · rcases idInUse_iff.mp used with ⟨node, member, named⟩
    exact .inl (idInUse_iff.mpr ⟨node, subset member, named⟩)
  · exact .inr ⟨node, subset member, isParent⟩

theorem mentions_of_set {nodes : List NodeDTO} {index : Nat} {changed : NodeDTO} {id : String}
    (mentions : Mentions (nodes.set index changed) id) :
    Mentions nodes id ∨ id ∈ idsOf changed ∨ changed.parentID = some id := by
  rcases mentions with used | ⟨node, member, isParent⟩
  · rcases idInUse_iff.mp used with ⟨node, member, named⟩
    rcases List.mem_or_eq_of_mem_set member with old | rfl
    · exact .inl (.inl (idInUse_iff.mpr ⟨node, old, named⟩))
    · exact .inr (.inl named)
  · rcases List.mem_or_eq_of_mem_set member with old | rfl
    · exact .inl (.inr ⟨node, old, isParent⟩)
    · exact .inr (.inr isParent)

theorem mentions_of_located {nodes : List NodeDTO} {index : Nat} {node : NodeDTO} {id : String}
    (located : nodes[index]? = some node) (named : id ∈ idsOf node) : Mentions nodes id :=
  .inl (idInUse_iff.mpr ⟨node, List.mem_of_getElem? located, named⟩)

theorem Edit.minted_le (edit : Edit env start op before after)
    (few : before.minted ≤ start.minted + 1) : after.minted ≤ start.minted + 1 := by
  cases edit with
  | note _ _ _ minted _ => exact minted.2
  | _ => exact few

/-- The ids of a number of draws differ, and no operation asks for one. -/
structure Draws (env : Env) (limit : Nat) (op : TopologyOp) : Prop where
  distinct : ∀ draw < limit, ∀ other < limit, env.newID draw = env.newID other → draw = other
  unnamed : ∀ draw < limit, env.parseUUID (trimSpace op.id) ≠ some (env.newID draw)

theorem NewID.ne_later {limit : Nat} {uuid : UUID} (new : NewID env editor op uuid)
    (draws : Draws env limit op) {draw : Nat} (later : editor.minted ≤ draw)
    (few : draw < limit) : (env.newID draw).text ≠ uuid.text := by
  intro same
  rcases new.origin with ⟨earlier, before, isDrawn⟩ | parsed
  · have equal : draw = earlier := draws.distinct draw few earlier (by omega)
      ((UUID.text_inj.mp same).trans isDrawn)
    omega
  · exact draws.unnamed draw few ((UUID.text_inj.mp same) ▸ parsed)

theorem Edit.unused {limit : Nat} (draws : Draws env limit op)
    (edit : Edit env start op before after) (unused : Unused env limit before) :
    Unused env limit after := by
  intro draw later few mentions
  cases edit with
  | note nodes _ _ minted _ =>
      rw [nodes] at mentions
      exact unused draw (Nat.le_trans minted.1 later) few mentions
  | @addNode node uuid named new free noVMs noComponents _ =>
      have isNode : Mentions [node] (env.newID draw).text := by
        rcases mentions with used | ⟨other, member, isParent⟩
        · rcases idInUse_iff.mp used with ⟨other, member, named⟩
          rcases List.mem_append.mp member with old | new
          · exact absurd (.inl (idInUse_iff.mpr ⟨other, old, named⟩)) (unused draw later few)
          · exact .inl (idInUse_iff.mpr ⟨other, new, named⟩)
        · rcases List.mem_append.mp member with old | new
          · exact absurd (.inr ⟨other, old, isParent⟩) (unused draw later few)
          · exact .inr ⟨other, new, isParent⟩
      rcases isNode with used | ⟨other, member, isParent⟩
      · rcases idInUse_iff.mp used with ⟨other, member, isID⟩
        rw [List.mem_singleton.mp member] at isID
        simp only [idsOf, noVMs, noComponents, List.map_nil, List.append_nil,
          List.mem_singleton, named] at isID
        exact new.ne_later draws later few isID
      · rw [List.mem_singleton.mp member, free] at isParent
        cases isParent
  | wait _ _ => exact unused draw later few mentions
  | quiet located quiet =>
      rcases mentions_of_set mentions with old | inside | isParent
      · exact unused draw later few old
      · exact unused draw later few (mentions_of_located located (quiet.idsOf_subset inside))
      · rw [quiet.parentID] at isParent
        exact unused draw later few (.inr ⟨_, List.mem_of_getElem? located, isParent⟩)
  | reshape located stays _ _ _ =>
      rcases mentions_of_set mentions with old | inside | isParent
      · exact unused draw later few old
      · exact unused draw later few (mentions_of_located located (stays.idsOf_subset inside))
      · rw [stays.parentID] at isParent
        exact unused draw later few (.inr ⟨_, List.mem_of_getElem? located, isParent⟩)
  | @addVM index host vm details uuid located named new shape =>
      rcases mentions_of_set mentions with old | inside | isParent
      · exact unused draw later few old
      · simp only [idsOf, List.map_append, List.map_cons, List.map_nil, List.mem_append,
          List.mem_cons, List.not_mem_nil, or_false] at inside
        have others : (env.newID draw).text ∉ idsOf host := fun known =>
          unused draw later few (mentions_of_located located known)
        simp only [idsOf, List.mem_append, List.mem_cons, not_or] at others
        rcases inside with (isHost | inVMs | isVM) | inComponents
        · exact others.1.1 isHost
        · exact others.1.2 inVMs
        · exact new.ne_later draws later few (isVM.trans named)
        · exact others.2 inComponents
      · exact unused draw later few (.inr ⟨_, List.mem_of_getElem? located, isParent⟩)
  | @addComponent index host component uuid located named new =>
      rcases mentions_of_set mentions with old | inside | isParent
      · exact unused draw later few old
      · simp only [idsOf, List.map_append, List.map_cons, List.map_nil, List.mem_append,
          List.mem_cons, List.not_mem_nil, or_false] at inside
        have others : (env.newID draw).text ∉ idsOf host := fun known =>
          unused draw later few (mentions_of_located located known)
        simp only [idsOf, List.mem_append, List.mem_cons, not_or] at others
        rcases inside with (isHost | inVMs) | inComponents | isComponent
        · exact others.1.1 isHost
        · exact others.1.2 inVMs
        · exact others.2 inComponents
        · exact new.ne_later draws later few (isComponent.trans named)
      · exact unused draw later few (.inr ⟨_, List.mem_of_getElem? located, isParent⟩)
  | mount located mounting =>
      rcases mentions_of_set mentions with old | inside | isParent
      · exact unused draw later few old
      · exact unused draw later few (mentions_of_located located inside)
      · rcases mounting.found with ⟨_, found⟩
        have isRack := Option.some.inj isParent
        apply unused draw later few
        apply mentions_of_located (nodeIndex_eq_some found).1
        rw [← isRack]
        exact List.mem_append_left _ List.mem_cons_self
  | unmount located keeps free _ =>
      rcases mentions_of_set mentions with old | inside | isParent
      · exact unused draw later few old
      · exact unused draw later few (mentions_of_located located (keeps.idsOf_subset inside))
      · rw [free] at isParent
        cases isParent
  | remove _ => exact unused draw later few (mentions.mono List.filter_sublist.subset)
  | link _ => exact unused draw later few mentions
  | unlink _ => exact unused draw later few mentions
  | relink _ _ => exact unused draw later few mentions

theorem freshIDs_single {base : SyncGraphInput} (noID : env.parseUUID (trimSpace op.id) = none)
    (unused : ¬ Mentions base.nodes (env.newID 0).text) : FreshIDs env base [op] where
  distinct := by
    intro draw few other fewer _
    rw [List.length_singleton, Nat.lt_one_iff] at few fewer
    rw [few, fewer]
  unused := by
    intro draw few
    rw [List.length_singleton, Nat.lt_one_iff] at few
    exact few ▸ unused
  unnamed := by
    intro draw _ other member
    rw [List.mem_singleton.mp member, noID]
    nofun

/-! ## Runs -/

/-- A condition that every operation of a batch meets in the state it finds. -/
def Along (env : Env) (holds : Editor → TopologyOp → Prop) : Editor → List TopologyOp → Prop
  | _, [] => True
  | editor, op :: rest =>
      holds editor op.lowered ∧
        ∀ after resolved, step env editor op = .ok (after, resolved) → Along env holds after rest

theorem edits_preserve {limit : Nat} {holds : Editor → TopologyOp → Prop}
    {invariant : Editor → Prop}
    (preserved : ∀ {start op before after}, holds start op → Edit env start op before after →
      invariant before → invariant after)
    (draws : Draws env limit op) (met : holds start op) (edits : Edits env start op before after)
    (few : before.minted ≤ start.minted + 1) (unused : Unused env limit before)
    (kept : invariant before) :
    invariant after ∧ Unused env limit after ∧ after.minted ≤ start.minted + 1 := by
  induction edits with
  | refl => exact ⟨kept, unused, few⟩
  | tail _ edit induction =>
      exact ⟨preserved met edit induction.1, edit.unused draws induction.2.1,
        edit.minted_le induction.2.2⟩

theorem step_preserves {limit : Nat} {holds : Editor → TopologyOp → Prop}
    {invariant : Editor → Prop}
    (preserved : ∀ {start op before after}, holds start op → Edit env start op before after →
      invariant before → invariant after)
    (draws : Draws env limit op) (unused : Unused env limit editor)
    (more : editor.minted < limit) (met : holds editor op.lowered)
    (done : step env editor op = .ok (after, resolved)) (kept : invariant editor) :
    invariant after ∧ Unused env limit after ∧ after.minted ≤ editor.minted + 1 := by
  have edits := step_edits unused more done
  have drawsLowered : Draws env limit op.lowered :=
    ⟨draws.distinct, by rw [TopologyOp.lowered_id]; exact draws.unnamed⟩
  exact edits_preserve preserved drawsLowered met edits (Nat.le_succ _) unused kept

theorem applyFrom_cons_eq_ok {rest resolved : List TopologyOp} {count : Nat}
    (done : applyFrom env editor count (op :: rest) = .ok (after, resolved)) :
    ∃ middle first later, step env editor op = .ok (middle, first) ∧
      applyFrom env middle (count + 1) rest = .ok (after, later) ∧ resolved = first :: later := by
  rw [applyFrom] at done
  cases stepped : step env editor op with
  | error message =>
      rw [stepped] at done
      cases done
  | ok result =>
      rcases result with ⟨middle, first⟩
      rw [stepped] at done
      dsimp only at done
      cases walked : applyFrom env middle (count + 1) rest with
      | error issue =>
          rw [walked] at done
          cases done
      | ok result =>
          rcases result with ⟨last, later⟩
          rw [walked] at done
          have same := Except.ok.inj done
          simp only [Prod.mk.injEq] at same
          rcases same with ⟨rfl, rfl⟩
          exact ⟨middle, first, later, rfl, walked, rfl⟩

theorem applyFrom_preserves {limit : Nat} {holds : Editor → TopologyOp → Prop}
    {invariant : Editor → Prop}
    (preserved : ∀ {start op before after}, holds start op → Edit env start op before after →
      invariant before → invariant after) :
    ∀ (ops : List TopologyOp) {editor after : Editor} {count : Nat} {resolved : List TopologyOp},
      (∀ op ∈ ops, Draws env limit op) → Unused env limit editor →
      editor.minted + ops.length ≤ limit → Along env holds editor ops →
      applyFrom env editor count ops = .ok (after, resolved) → invariant editor →
      invariant after := by
  intro ops
  induction ops with
  | nil =>
      intro editor after count resolved _ _ _ _ done kept
      have same := Except.ok.inj done
      simp only [Prod.mk.injEq] at same
      exact same.1 ▸ kept
  | cons op rest induction =>
      intro editor after count resolved draws unused enough along done kept
      rw [List.length_cons] at enough
      rcases applyFrom_cons_eq_ok done with ⟨middle, first, later, stepped, walked, _⟩
      have next := step_preserves preserved (draws op List.mem_cons_self) unused (by omega) along.1
        stepped kept
      apply induction _ next.2.1 _ (along.2 middle first stepped) walked next.1
      · exact fun other member => draws other (List.mem_cons_of_mem _ member)
      · have one := next.2.2
        omega

def Editor.opening (base : SyncGraphInput) : Editor where
  graph := cloneSyncInput base

theorem applyTopologyOps_eq_ok {base : SyncGraphInput} {ops : List TopologyOp}
    {applied : AppliedTopology} (done : applyTopologyOps env base ops = .ok applied) :
    ∃ final, applyFrom env (.opening base) 0 ops = .ok (final, applied.resolved) ∧
      applied.input = final.placed env ∧ applied.refs = final.refs ∧
      graphIssues env.toRuntime applied.input.nodes applied.input.edges = [] := by
  unfold applyTopologyOps at done
  split at done
  · cases done
  · split at done
    · cases done
    · split at done
      · cases done
      · rename_i final resolved walked
        unfold finish at done
        dsimp only at done
        split at done
        · cases done
        · split at done
          · rename_i clean
            cases done
            exact ⟨final, walked, rfl, rfl, clean⟩
          · cases done

theorem applied_preserves {base : SyncGraphInput} {ops : List TopologyOp}
    {applied : AppliedTopology} {holds : Editor → TopologyOp → Prop} {invariant : Editor → Prop}
    (preserved : ∀ {start op before after}, holds start op → Edit env start op before after →
      invariant before → invariant after)
    (fresh : FreshIDs env base ops) (along : Along env holds (.opening base) ops)
    (kept : invariant (.opening base)) (done : applyTopologyOps env base ops = .ok applied) :
    ∃ final, invariant final ∧ applied.input = final.placed env ∧
      graphIssues env.toRuntime applied.input.nodes applied.input.edges = [] := by
  rcases applyTopologyOps_eq_ok done with ⟨final, walked, isPlaced, _, clean⟩
  have last := applyFrom_preserves preserved ops
    (fun op member => ⟨fresh.distinct, fun draw few => fresh.unnamed draw few op member⟩)
    (fun draw _ few => fresh.unused draw few) (by simp [Editor.opening]) along walked kept
  exact ⟨final, last, isPlaced, clean⟩

end

end HomelabBuilder.Topology
