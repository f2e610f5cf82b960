import HomelabBuilder.Foundation.Ledger
import HomelabBuilder.Ipam.Turns

/-! # A domain as a ledger

Seen from outside, a domain keeps a ledger: entities are its keys and the
addresses a device may have are its pool. Every run of the domain is a run of
the ledger, so no address is handed out twice.
-/

namespace HomelabBuilder.Ipam

open Net

def DistinctEntities (nodes : List NodeDTO) : Prop :=
  ∀ (left right : Entity) (id : String), entityID nodes left = some id →
    entityID nodes right = some id → left = right

/-- The addresses of a subnet that a device may have. -/
def SubnetAllocator.pool (sa : SubnetAllocator) : Set Nat :=
  {ip | sa.isUsable ip = true ∧ sa.isDHCPReserved ip = false}

def ledgerOf (nodes : List NodeDTO) (members : List Nat) (state : DomainState) :
    Ledger Entity Nat where
  taken := {ip | ip ∈ state.allocator.used}
  promised := fun entity => (entityID nodes entity).bind fun id => state.accepted.lookup id
  granted := fun entity =>
    if entity.nodeIndex ∈ members then parseIPTo4 (assignedIPIn state.results entity) else none

section Refinement

variable {nodes : List NodeDTO} {members : List Nat} {before after : DomainState}

theorem DomainStep.pool_eq (step : DomainStep nodes members before after) :
    after.allocator.pool = before.allocator.pool := by
  cases step <;> rfl

private theorem granted_assign {state : DomainState} {entity : Entity} {ip : Nat}
    (lists : Lists nodes state.results) {id : String}
    (named : entityID nodes entity = some id) (member : entity.nodeIndex ∈ members)
    (bound : ip < 2 ^ 32) :
    (ledgerOf nodes members (state.assign entity ip)).granted =
      Function.update (ledgerOf nodes members state).granted entity (some ip) := by
  funext other
  by_cases equal : other = entity
  · subst equal
    rw [Function.update_self]
    simp only [ledgerOf, DomainState.assign, member, if_true]
    rw [assignedIPIn_setNodeIP_self, lists other, named]
    exact parseIPTo4_formatIPv4 ip bound
  · rw [Function.update_of_ne equal]
    simp only [ledgerOf, DomainState.assign]
    rw [assignedIPIn_setNodeIP_other _ _ equal]

private theorem promised_accept (distinct : DistinctEntities nodes) {state : DomainState}
    {entity : Entity} {id : String} {ip : Nat} (named : entityID nodes entity = some id) :
    (ledgerOf nodes members (state.accept id ip)).promised =
      Function.update (ledgerOf nodes members state).promised entity (some ip) := by
  funext other
  by_cases equal : other = entity
  · subst equal
    simp [ledgerOf, DomainState.accept, named, Table.lookup_cons]
  · rw [Function.update_of_ne equal]
    simp only [ledgerOf, DomainState.accept]
    cases otherNamed : entityID nodes other with
    | none => rfl
    | some otherID =>
        have different : otherID ≠ id := fun same =>
          equal (distinct other entity id (same ▸ otherNamed) named)
        simp [Table.lookup_cons, different]

theorem DomainStep.refines (distinct : DistinctEntities nodes)
    (lists : Lists nodes before.results) (addresses : Addresses before)
    (step : DomainStep nodes members before after) :
    Ledger.Run before.allocator.pool (ledgerOf nodes members before)
      (ledgerOf nodes members after) := by
  cases step with
  | report => exact .refl
  | accept entity member named available =>
      have free := SubnetAllocator.isAvailable_iff.mp available
      have step : Ledger.Step before.allocator.pool (ledgerOf nodes members before) _ :=
        .promise entity ⟨free.1, free.2.1⟩ free.2.2
      rw [← promised_accept distinct named] at step
      refine .single ?_
      convert step using 1
      rw [Ledger.mk.injEq]
      refine ⟨?_, rfl, rfl⟩
      ext other
      simp [ledgerOf, DomainState.accept, DomainState.reserve, SubnetAllocator.markUsed]
  | @keep entity id ip member named known =>
      have bound := addresses.accepted (Table.mem_of_lookup known)
      have promised : (ledgerOf nodes members before).promised entity = some ip := by
        simpa [ledgerOf, named] using known
      have step : Ledger.Step before.allocator.pool (ledgerOf nodes members before) _ :=
        .keep promised
      rw [← granted_assign lists named member bound] at step
      exact .single step
  | @place entity id ip member named available =>
      have free := SubnetAllocator.isAvailable_iff.mp available
      have bound := SubnetAllocator.lt_of_isAvailable available
      have step : Ledger.Step before.allocator.pool (ledgerOf nodes members before) _ :=
        .place entity ⟨free.1, free.2.1⟩ free.2.2
      have reserved : Lists nodes (before.reserve ip id).results := lists
      have granted := granted_assign reserved named member bound
      refine .single ?_
      convert step using 1
      rw [Ledger.mk.injEq]
      refine ⟨?_, rfl, granted⟩
      ext other
      simp [ledgerOf, DomainState.assign, DomainState.reserve, SubnetAllocator.markUsed]
  | block grows => exact .single (.block grows)

theorem DomainRun.refines (distinct : DistinctEntities nodes)
    (lists : Lists nodes before.results) (addresses : Addresses before)
    (run : DomainRun nodes members before after) :
    after.allocator.pool = before.allocator.pool ∧
      Ledger.Run before.allocator.pool (ledgerOf nodes members before)
        (ledgerOf nodes members after) := by
  induction run with
  | refl => exact ⟨rfl, .refl⟩
  | @tail middle after run step induction =>
      have stillLists : Lists nodes middle.results := fun entity =>
        (DomainRun.resultID_eq run entity).trans (lists entity)
      have refined := step.refines distinct stillLists (DomainRun.addresses run addresses)
      rw [induction.1] at refined
      exact ⟨step.pool_eq.trans induction.1, induction.2.trans refined⟩

/-- After a run from a domain that has handed out nothing, the addresses of its
members come from the pool, are not among those taken before the run, and no
two members share one. -/
theorem DomainRun.sound (distinct : DistinctEntities nodes)
    (lists : Lists nodes before.results) (addresses : Addresses before)
    (unreserved : before.accepted = [])
    (unassigned : ∀ entity : Entity, entity.nodeIndex ∈ members →
      assignedIPIn before.results entity = "")
    (run : DomainRun nodes members before after) :
    Ledger.Sound before.allocator.pool {ip | ip ∈ before.allocator.used}
      (ledgerOf nodes members after) := by
  have start : Ledger.Sound before.allocator.pool (ledgerOf nodes members before).taken
      (ledgerOf nodes members before) := by
    refine .initial ?_ ?_
    · intro entity
      simp [ledgerOf, unreserved]
    · intro entity
      simp only [ledgerOf]
      split
      · rename_i member
        rw [unassigned entity member]
        rfl
      · rfl
  exact (DomainRun.refines distinct lists addresses run).2.sound start

end Refinement

/-! ## Distinct ids -/

/-- The ids of the nodes and their guests, in request order. -/
def entityIDs (nodes : List NodeDTO) : List String :=
  nodes.flatMap fun node => node.id :: node.vms.map (·.id)

/-- The ids one node brings along: its own is at position zero. -/
private def localIDs (node : NodeDTO) : List String := node.id :: node.vms.map (·.id)

private def Entity.position : Entity → Nat
  | .node _ => 0
  | .vm _ index => index + 1

private theorem entityID_eq_localIDs (nodes : List NodeDTO) (entity : Entity) :
    entityID nodes entity =
      nodes[entity.nodeIndex]?.bind fun node => (localIDs node)[entity.position]? := by
  cases entity with
  | node index =>
      cases found : nodes[index]? <;>
        simp [entityID, Entity.nodeIndex, Entity.position, localIDs, found]
  | vm host index =>
      cases found : nodes[host]? <;>
        simp [entityID, Entity.nodeIndex, Entity.position, localIDs, found]

private theorem Entity.eq_of_position {left right : Entity}
    (sameNode : left.nodeIndex = right.nodeIndex) (samePosition : left.position = right.position) :
    left = right := by
  cases left <;> cases right <;>
    simp_all [Entity.nodeIndex, Entity.position]

private theorem localIDs_apart {nodes : List NodeDTO} (nodup : (entityIDs nodes).Nodup)
    {first second : Nat} {firstNode secondNode : NodeDTO} (order : first < second)
    (firstFound : nodes[first]? = some firstNode)
    (secondFound : nodes[second]? = some secondNode) {id : String}
    (member : id ∈ localIDs firstNode) : id ∉ localIDs secondNode := by
  rcases List.getElem?_eq_some_iff.mp firstFound with ⟨firstBound, rfl⟩
  rcases List.getElem?_eq_some_iff.mp secondFound with ⟨secondBound, rfl⟩
  have across := (List.nodup_flatMap.mp nodup).2
  exact List.pairwise_iff_getElem.mp across _ _ firstBound secondBound order member

theorem distinctEntities_of_nodup {nodes : List NodeDTO} (nodup : (entityIDs nodes).Nodup) :
    DistinctEntities nodes := by
  intro left right id leftNamed rightNamed
  rw [entityID_eq_localIDs, Option.bind_eq_some_iff] at leftNamed rightNamed
  rcases leftNamed with ⟨leftNode, leftFound, leftID⟩
  rcases rightNamed with ⟨rightNode, rightFound, rightID⟩
  have leftMember := List.mem_of_getElem? leftID
  have rightMember := List.mem_of_getElem? rightID
  rcases Nat.lt_trichotomy left.nodeIndex right.nodeIndex with before | same | behind
  · exact absurd rightMember (localIDs_apart nodup before leftFound rightFound leftMember)
  · rw [same, rightFound] at leftFound
    cases leftFound
    refine Entity.eq_of_position same ?_
    have within : (localIDs leftNode).Nodup :=
      (List.nodup_flatMap.mp nodup).1 _ (List.mem_of_getElem? rightFound)
    exact (List.getElem?_inj (List.getElem?_eq_some_iff.mp leftID).1 within).mp
      (leftID.trans rightID.symm)
  · exact absurd leftMember (localIDs_apart nodup behind rightFound leftFound rightMember)

end HomelabBuilder.Ipam
