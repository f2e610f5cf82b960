import Mathlib.Logic.Relation
import HomelabBuilder.Ipam.Skeleton

/-! # What one step of a domain does

Everything `allocateDomain` does to its state is a sequence of five kinds of
steps. What holds of a domain is proved once for each of them.
-/

namespace HomelabBuilder.Ipam

open Net

/-- The id under which an entity of the request reserves its address. -/
def entityID (nodes : List NodeDTO) : Entity → Option String
  | .node index => nodes[index]?.map (·.id)
  | .vm host index => (nodes[host]?.bind (·.vms[index]?)).map (·.id)

/-- `preReserveExisting` found the address free. -/
def DomainState.accept (state : DomainState) (id : String) (ip : Nat) : DomainState :=
  { state.reserve ip id with accepted := (id, ip) :: state.accepted }

/-- The address a device ends up with, given what a search finds for it. -/
def DomainState.choose (state : DomainState) (id : String) (found : Nat) : Option Nat :=
  match state.accepted.lookup id with
  | some ip => some ip
  | none => if found = 0 then none else some found

/-- A device takes the address it has reserved, or else the one found for it. -/
def DomainState.settle (state : DomainState) (entity : Entity) (id message : String)
    (found : Nat) : DomainState :=
  match state.accepted.lookup id with
  | some ip => state.assign entity ip
  | none =>
      if found = 0 then state.warn id message else (state.reserve found id).assign entity found

inductive DomainStep (nodes : List NodeDTO) (members : List Nat) :
    DomainState → DomainState → Prop
  | report {state : DomainState} (conflicts warnings : List Issue) :
      DomainStep nodes members state
        { state with
          conflicts := state.conflicts ++ conflicts
          warnings := state.warnings ++ warnings }
  | accept {state : DomainState} (entity : Entity) {id : String} {ip : Nat} :
      entity.nodeIndex ∈ members → entityID nodes entity = some id →
      state.allocator.isAvailable ip = true →
      DomainStep nodes members state (state.accept id ip)
  | keep {state : DomainState} (entity : Entity) {id : String} {ip : Nat} :
      entity.nodeIndex ∈ members → entityID nodes entity = some id →
      state.accepted.lookup id = some ip →
      DomainStep nodes members state (state.assign entity ip)
  | place {state : DomainState} (entity : Entity) {id : String} {ip : Nat} :
      entity.nodeIndex ∈ members → entityID nodes entity = some id →
      state.allocator.isAvailable ip = true → state.accepted.lookup id = none →
      DomainStep nodes members state ((state.reserve ip id).assign entity ip)
  | block {state : DomainState} {used : List Nat} : state.allocator.used ⊆ used →
      DomainStep nodes members state
        { state with allocator := { state.allocator with used := used } }

abbrev DomainRun (nodes : List NodeDTO) (members : List Nat) :
    DomainState → DomainState → Prop :=
  Relation.ReflTransGen (DomainStep nodes members)

/-! ## Addresses that are found are free -/

namespace SubnetAllocator

theorem isAvailable_iff {sa : SubnetAllocator} {ip : Nat} :
    sa.isAvailable ip = true ↔
      sa.isUsable ip = true ∧ sa.isDHCPReserved ip = false ∧ ip ∉ sa.used := by
  simp [isAvailable, and_assoc]

theorem isUsable_iff {sa : SubnetAllocator} {ip : Nat} :
    sa.isUsable ip = true ↔
      1 < sa.capacity ∧ sa.network < ip ∧ ip < wrap32 (sa.network + sa.capacity) := by
  unfold isUsable
  split <;> simp <;> omega

theorem isAvailable_getD_pick {sa : SubnetAllocator} {candidates : List Nat}
    (found : (FirstFit.pick sa.isAvailable candidates).getD 0 ≠ 0) :
    sa.isAvailable ((FirstFit.pick sa.isAvailable candidates).getD 0) = true := by
  cases picked : FirstFit.pick sa.isAvailable candidates with
  | none => simp [picked] at found
  | some ip => exact FirstFit.free_of_pick picked

theorem isAvailable_allocateSlot {sa : SubnetAllocator} {baseOffset : Int}
    (found : sa.allocateSlot baseOffset ≠ 0) :
    sa.isAvailable (sa.allocateSlot baseOffset) = true :=
  isAvailable_getD_pick found

theorem isAvailable_allocateInRange {sa : SubnetAllocator} {start stop : Nat}
    (found : sa.allocateInRange start stop ≠ 0) :
    sa.isAvailable (sa.allocateInRange start stop) = true := by
  unfold allocateInRange at found ⊢
  by_cases narrow : sa.capacity ≤ 1
  · simp [narrow] at found
  · simp only [narrow, if_false] at found ⊢
    exact isAvailable_getD_pick found

end SubnetAllocator

/-! ## The functions as runs -/

section Runs

variable {nodes : List NodeDTO} {members : List Nat}

theorem DomainRun.foldl {α : Type} {f : DomainState → α → DomainState} :
    ∀ (entries : List α) {state : DomainState},
    (∀ state, ∀ entry ∈ entries, DomainRun nodes members state (f state entry)) →
    DomainRun nodes members state (entries.foldl f state)
  | [], _, _ => .refl
  | head :: tail, state, single =>
      (single state head List.mem_cons_self).trans
        (DomainRun.foldl tail fun state entry member =>
          single state entry (List.mem_cons_of_mem head member))

private theorem warn_run (state : DomainState) (nodeID message : String) :
    DomainRun nodes members state (state.warn nodeID message) := by
  have step : DomainStep nodes members state _ :=
    .report [] [{ nodeID := nodeID, message := message }]
  rw [List.append_nil] at step
  exact .single step

private theorem conflict_run (state : DomainState) (nodeID message : String) :
    DomainRun nodes members state (state.conflict nodeID message) := by
  have step : DomainStep nodes members state _ :=
    .report [{ nodeID := nodeID, message := message }] []
  rw [List.append_nil] at step
  exact .single step

theorem preReserveExisting_run (entity : Entity) {id : String} (value : String)
    (state : DomainState) (member : entity.nodeIndex ∈ members)
    (named : entityID nodes entity = some id) :
    DomainRun nodes members state (preReserveExisting state id value) := by
  unfold preReserveExisting
  split
  · exact .refl
  · split
    · exact conflict_run _ _ _
    · rename_i ip _
      split
      · exact conflict_run _ _ _
      · rename_i usable
        split
        · exact conflict_run _ _ _
        · rename_i outside
          split
          · exact conflict_run _ _ _
          · rename_i fresh
            have available : state.allocator.isAvailable ip = true := by
              simp_all [SubnetAllocator.isAvailable_iff]
            exact .single (.accept entity member named available)

theorem preReserveNode_run (state : DomainState) {index : Nat} (member : index ∈ members) :
    DomainRun nodes members state (preReserveNode nodes state index) := by
  unfold preReserveNode
  cases found : nodes[index]? with
  | none => exact .refl
  | some node =>
      have own : entityID nodes (.node index) = some node.id := by simp [entityID, found]
      refine (preReserveExisting_run (.node index) node.existingIP state member own).trans ?_
      refine DomainRun.foldl node.vms fun state vm listed => ?_
      rcases List.getElem?_of_mem listed with ⟨position, located⟩
      have named : entityID nodes (.vm index position) = some vm.id := by
        simp [entityID, found, located]
      exact preReserveExisting_run (.vm index position) vm.existingIP state member named

theorem reportInfraGuests_run (state : DomainState) (index : Nat) :
    DomainRun nodes members state (reportInfraGuests nodes state index) := by
  unfold reportInfraGuests
  split
  · exact .refl
  · split
    · exact .refl
    · exact conflict_run _ _ _

/-! ## Placing one device -/

theorem settle_run {state : DomainState} (entity : Entity) {id : String}
    (member : entity.nodeIndex ∈ members) (named : entityID nodes entity = some id) {found : Nat}
    (available : found ≠ 0 → state.allocator.isAvailable found = true) (message : String) :
    DomainRun nodes members state (state.settle entity id message found) := by
  unfold DomainState.settle
  cases known : state.accepted.lookup id with
  | some ip => exact .single (.keep entity member named known)
  | none =>
      dsimp only
      split
      · exact warn_run _ _ _
      · rename_i nonzero
        exact .single (.place entity member named (available nonzero) known)

theorem placeInfra_eq (zones : List (String × ZoneConfig)) (state : DomainState) {index : Nat}
    {node : NodeDTO} (found : nodes[index]? = some node) :
    placeInfra nodes zones state index =
      state.settle (.node index) node.id
        s!"subnet exhausted for infrastructure type {quoted node.type}"
        (state.allocator.allocateSlot (getZone node.type zones).baseOffset) := by
  simp only [placeInfra, found]
  rfl

theorem placeInfra_run (zones : List (String × ZoneConfig)) (state : DomainState)
    {index : Nat} (member : index ∈ members) :
    DomainRun nodes members state (placeInfra nodes zones state index) := by
  cases found : nodes[index]? with
  | none =>
      simp only [placeInfra, found]
      exact .refl
  | some node =>
      have named : entityID nodes (.node index) = some node.id := by simp [entityID, found]
      rw [placeInfra_eq zones state found]
      exact settle_run (.node index) member named SubnetAllocator.isAvailable_allocateSlot _

theorem placeVM_eq (host : Nat) (hostID : String) (hostIP blockEnd : Nat) (state : DomainState)
    (entry : VMDTO × Nat) :
    placeVM host hostID hostIP blockEnd state entry =
      state.settle (.vm host entry.2) entry.1.id s!"IP block for host {hostID} is exhausted"
        (state.allocator.allocateInRange (wrap32 (hostIP + 1)) blockEnd) := by
  rfl

theorem placeVM_run {host : Nat} {node : NodeDTO} (found : nodes[host]? = some node)
    (member : host ∈ members) (hostIP blockEnd : Nat) (state : DomainState)
    {entry : VMDTO × Nat} (listed : node.vms[entry.2]? = some entry.1) :
    DomainRun nodes members state (placeVM host node.id hostIP blockEnd state entry) := by
  have named : entityID nodes (.vm host entry.2) = some entry.1.id := by
    simp [entityID, found, listed]
  rw [placeVM_eq]
  exact settle_run (.vm host entry.2) member named SubnetAllocator.isAvailable_allocateInRange _

theorem markBlock_used (sa : SubnetAllocator) (hostIP blockEnd : Nat) :
    markBlock sa hostIP blockEnd =
      { sa with
        used := ((addressesFrom (hostIP + 1) (blockEnd + 1)).filter fun ip =>
          !sa.isDHCPReserved ip).reverse ++ sa.used } := by
  unfold markBlock
  generalize addressesFrom (hostIP + 1) (blockEnd + 1) = addresses
  induction addresses generalizing sa with
  | nil => rfl
  | cons head tail induction =>
      rw [List.foldl_cons]
      cases leased : sa.isDHCPReserved head with
      | true =>
          rw [if_pos rfl, induction]
          simp [leased]
      | false =>
          have same (ip : Nat) : (sa.markUsed head).isDHCPReserved ip = sa.isDHCPReserved ip := rfl
          rw [if_neg (by simp), induction]
          simp only [same, List.filter_cons, leased, Bool.not_false, if_true, List.reverse_cons,
            List.append_assoc]
          rfl

/-- What a host does once its address is written down. -/
def finishHost (node : NodeDTO) (step : Int) (index hostIP : Nat) (state : DomainState × Int) :
    DomainState × Int :=
  let blockEnd := blockEndOf state.1.allocator hostIP step
  let placed := node.vms.zipIdx.foldl (placeVM index node.id hostIP blockEnd) state.1
  let marked := { placed with allocator := markBlock placed.allocator hostIP blockEnd }
  let offset := sub32 hostIP marked.allocator.network + step
  (marked, if state.2 < offset then offset else state.2)

theorem finishHost_run {index : Nat} {node : NodeDTO} (found : nodes[index]? = some node)
    (member : index ∈ members) (step : Int) (hostIP : Nat) (state : DomainState × Int) :
    DomainRun nodes members state.1 (finishHost node step index hostIP state).1 := by
  let blockEnd := blockEndOf state.1.allocator hostIP step
  let placed := node.vms.zipIdx.foldl (placeVM index node.id hostIP blockEnd) state.1
  have guests : DomainRun nodes members state.1 placed :=
    DomainRun.foldl _ fun state entry listed =>
      placeVM_run found member _ _ state (List.mem_zipIdx_iff_getElem?.mp listed)
  refine guests.tail ?_
  simp only [finishHost, markBlock_used]
  exact .block (List.subset_append_right _ _)

abbrev hostSearch (state : DomainState × Int) : Nat := state.1.allocator.allocateSlot state.2

def settledHost (state : DomainState × Int) (index : Nat) (node : NodeDTO) : DomainState × Int :=
  (state.1.settle (.node index) node.id
    s!"subnet exhausted for VM host type {quoted node.type}" (hostSearch state), state.2)

theorem placeHost_eq (step : Int) (state : DomainState × Int) {index : Nat} {node : NodeDTO}
    (found : nodes[index]? = some node) :
    placeHost nodes step state index =
      match state.1.choose node.id (hostSearch state) with
      | none => settledHost state index node
      | some hostIP => finishHost node step index hostIP (settledHost state index node) := by
  unfold placeHost settledHost DomainState.choose DomainState.settle hostSearch
  rw [found]
  dsimp only
  cases known : state.1.accepted.lookup node.id with
  | some ip => rfl
  | none =>
      by_cases exhausted : state.1.allocator.allocateSlot state.2 = 0
      · simp only [exhausted, if_true]
      · simp only [exhausted, if_false]
        rfl

theorem placeHost_run (step : Int) (state : DomainState × Int) {index : Nat}
    (member : index ∈ members) :
    DomainRun nodes members state.1 (placeHost nodes step state index).1 := by
  cases found : nodes[index]? with
  | none =>
      simp only [placeHost, found]
      exact .refl
  | some node =>
      have named : entityID nodes (.node index) = some node.id := by simp [entityID, found]
      have settled : DomainRun nodes members state.1 (settledHost state index node).1 :=
        settle_run (.node index) member named SubnetAllocator.isAvailable_allocateSlot _
      rw [placeHost_eq step state found]
      cases state.1.choose node.id (hostSearch state) with
      | none => exact settled
      | some hostIP => exact settled.trans (finishHost_run found member step hostIP _)

/-! ## A whole domain -/

theorem foldl_placeHost_run (step : Nat → Int) :
    ∀ (hosts : List Nat) (state : DomainState × Int), (∀ index ∈ hosts, index ∈ members) →
    DomainRun nodes members state.1
      (hosts.foldl (fun state index => placeHost nodes (step index) state index) state).1
  | [], _, _ => .refl
  | head :: tail, state, listed =>
      (placeHost_run (step head) state (listed head List.mem_cons_self)).trans
        (foldl_placeHost_run step tail _ fun index member =>
          listed index (List.mem_cons_of_mem head member))

theorem mem_of_mem_orderedHosts {hosts : List Nat} {index : Nat}
    (member : index ∈ orderedHosts nodes hosts) : index ∈ hosts := by
  rcases List.mem_flatMap.mp member with ⟨_, _, listed⟩
  exact (List.mem_filter.mp listed).1

theorem reserveMembers_run (nodeIndexes : List Nat) (state : DomainState) :
    DomainRun nodes nodeIndexes { state with accepted := [] }
      (reserveMembers nodes nodeIndexes state) :=
  DomainRun.foldl _ fun state _ member => preReserveNode_run state (List.mem_filter.mp member).1

theorem placeMembers_run (zones : List (String × ZoneConfig)) (nodeIndexes : List Nat)
    (step : Int) (state : DomainState) :
    DomainRun nodes nodeIndexes state (placeMembers nodes zones nodeIndexes step state) := by
  have network {index : Nat} (member : index ∈ networkIndexes nodes nodeIndexes) :
      index ∈ nodeIndexes := (List.mem_filter.mp member).1
  unfold placeMembers
  dsimp only
  refine Relation.ReflTransGen.trans ?_ (foldl_placeHost_run _ _ _ fun index member => ?_)
  · refine Relation.ReflTransGen.trans ?_
      (DomainRun.foldl _ fun state index member => placeInfra_run _ state ?_)
    · exact DomainRun.foldl _ fun state index _ => reportInfraGuests_run state index
    · exact network (List.mem_filter.mp member).1
  · exact network (List.mem_filter.mp (mem_of_mem_orderedHosts member)).1

theorem allocateDomain_run (zones : List (String × ZoneConfig)) (nodeIndexes : List Nat)
    (state : DomainState) :
    DomainRun nodes nodeIndexes { state with accepted := [] }
      (allocateDomain nodes zones nodeIndexes state) := by
  rw [allocateDomain_eq]
  exact (reserveMembers_run nodeIndexes state).trans (placeMembers_run zones nodeIndexes _ _)

end Runs

end HomelabBuilder.Ipam
