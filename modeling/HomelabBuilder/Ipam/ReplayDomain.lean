import Mathlib.Data.List.Dedup
import HomelabBuilder.Ipam.Conflicts

/-! # Placing the members again

With some members reserved up front, infrastructure, hosts and guests come to
the same addresses as before, and hosts to the same blocks.
-/

namespace HomelabBuilder.Ipam

open Net

/-! ## Searches -/

namespace SubnetAllocator

variable {sa : SubnetAllocator} {used : List Nat}

private theorem pick_replay (covers : sa.used ⊆ used) (candidates : List Nat)
    (still : (FirstFit.pick sa.isAvailable candidates).getD 0 = 0 ∨
      (FirstFit.pick sa.isAvailable candidates).getD 0 ∉ used) :
    (FirstFit.pick ({ sa with used := used } : SubnetAllocator).isAvailable candidates).getD 0 =
      (FirstFit.pick sa.isAvailable candidates).getD 0 := by
  have fewer (ip : Nat) (available : ({ sa with used := used } : SubnetAllocator).isAvailable ip) :
      sa.isAvailable ip = true := by
    rw [isAvailable_iff] at available ⊢
    exact ⟨available.1, available.2.1, fun taken => available.2.2 (covers taken)⟩
  cases picked : FirstFit.pick sa.isAvailable candidates with
  | none => rw [FirstFit.pick_eq_none_of_imp fewer picked]
  | some ip =>
      have free := isAvailable_iff.mp (FirstFit.free_of_pick picked)
      have positive := (isUsable_iff.mp free.1).2.1
      rw [picked, Option.getD_some] at still
      have fresh := still.resolve_left (by omega)
      have stillFree : ({ sa with used := used } : SubnetAllocator).isAvailable ip = true :=
        isAvailable_iff.mpr ⟨free.1, free.2.1, fresh⟩
      rw [FirstFit.pick_eq_some_of_imp fewer picked stillFree]

theorem allocateSlot_replay (covers : sa.used ⊆ used) (baseOffset : Int)
    (still : sa.allocateSlot baseOffset = 0 ∨ sa.allocateSlot baseOffset ∉ used) :
    ({ sa with used := used } : SubnetAllocator).allocateSlot baseOffset =
      sa.allocateSlot baseOffset :=
  pick_replay covers (sa.slotOrder baseOffset) still

theorem allocateInRange_replay (covers : sa.used ⊆ used) (start stop : Nat)
    (still : sa.allocateInRange start stop = 0 ∨ sa.allocateInRange start stop ∉ used) :
    ({ sa with used := used } : SubnetAllocator).allocateInRange start stop =
      sa.allocateInRange start stop := by
  unfold allocateInRange at still ⊢
  by_cases narrow : sa.capacity ≤ 1
  · simp [narrow]
  · simp only [narrow, if_false] at still ⊢
    exact pick_replay covers _ still

end SubnetAllocator

/-! ## What is still to be placed -/

/-- A state in which the nodes of these indexes, and their guests, have no
address yet. -/
structure Pending (nodes : List NodeDTO) (indexes : List Nat) (state : DomainState) : Prop where
  lists : Lists nodes state.results
  addresses : Addresses state
  unassigned : ∀ entity : Entity, entity.nodeIndex ∈ indexes →
    assignedIPIn state.results entity = ""

section Place

variable {nodes : List NodeDTO} {members : List Nat} {final first second : DomainState}

theorem Replaying.network (replaying : Replaying nodes members final first second) :
    second.allocator.network = first.allocator.network := by
  rw [replaying.allocator]

theorem Pending.advance {head : Nat} {tail : List Nat} {before after : DomainState}
    (pending : Pending nodes (head :: tail) before) (fresh : head ∉ tail)
    (run : DomainRun nodes [head] before after) : Pending nodes tail after where
  lists := DomainRun.lists run pending.lists
  addresses := DomainRun.addresses run pending.addresses
  unassigned := by
    intro entity member
    have outside : entity.nodeIndex ∉ [head] := by
      rw [List.mem_singleton]
      exact fun same => fresh (same ▸ member)
    rw [DomainRun.frame run entity outside]
    exact pending.unassigned entity (List.mem_cons_of_mem head member)

theorem givenIP_settle {state : DomainState} (lists : Lists nodes state.results)
    (addresses : Addresses state) {entity : Entity} {id : String}
    (named : entityID nodes entity = some id) {found : Nat}
    (available : found ≠ 0 → state.allocator.isAvailable found = true)
    (unassigned : assignedIPIn state.results entity = "") (message : String) :
    givenIP (state.settle entity id message found) entity = state.choose id found := by
  have listed : (resultID state.results entity).isSome = true := by
    rw [lists entity, named]
    rfl
  unfold givenIP DomainState.settle DomainState.choose
  cases known : state.accepted.lookup id with
  | some ip =>
      have bound := addresses.accepted (Table.mem_of_lookup known)
      simp only [DomainState.assign, assignedIPIn_setNodeIP_self, listed, if_true]
      exact parseIPTo4_formatIPv4 ip bound
  | none =>
      by_cases exhausted : found = 0
      · simp only [exhausted, if_true, DomainState.warn, unassigned]
        rfl
      · have bound := SubnetAllocator.lt_of_isAvailable (available exhausted)
        simp only [exhausted, if_false, DomainState.assign, DomainState.reserve,
          assignedIPIn_setNodeIP_self, listed, if_true]
        exact parseIPTo4_formatIPv4 found bound

/-! ## Infrastructure -/

theorem Replaying.placeInfra {pool barred : Set Nat}
    (sound : Ledger.Sound pool barred (ledgerOf nodes members final))
    (replaying : Replaying nodes members final first second) (zones : List (String × ZoneConfig))
    {index : Nat} (member : index ∈ members) {indexes : List Nat}
    (pending : Pending nodes indexes first) (listed : index ∈ indexes)
    (outcome : givenIP final (.node index) =
      givenIP (placeInfra nodes zones first index) (.node index)) :
    Replaying nodes members final (Ipam.placeInfra nodes zones first index)
      (Ipam.placeInfra nodes zones second index) := by
  cases found : nodes[index]? with
  | none => simpa only [Ipam.placeInfra, found] using replaying
  | some node =>
      have named : entityID nodes (.node index) = some node.id := by simp [entityID, found]
      have shape := replaying.allocator
      rw [placeInfra_eq zones _ found, givenIP_settle pending.lists pending.addresses named
        SubnetAllocator.isAvailable_allocateSlot (pending.unassigned _ listed)] at outcome
      rw [placeInfra_eq zones _ found, placeInfra_eq zones _ found]
      refine (replaying.settle sound (.node index) member named
        SubnetAllocator.isAvailable_allocateSlot outcome ?_ _).2
      intro still
      rw [shape]
      exact SubnetAllocator.allocateSlot_replay replaying.covers _ still

theorem Replaying.foldl_placeInfra {pool barred : Set Nat}
    (sound : Ledger.Sound pool barred (ledgerOf nodes members final))
    (zones : List (String × ZoneConfig)) :
    ∀ (indexes : List Nat) {first second : DomainState}, indexes.Nodup →
    (∀ index ∈ indexes, index ∈ members) → Pending nodes indexes first →
    (∀ index ∈ indexes, givenIP final (.node index) =
      givenIP (indexes.foldl (Ipam.placeInfra nodes zones) first) (.node index)) →
    Replaying nodes members final first second →
    Replaying nodes members final (indexes.foldl (Ipam.placeInfra nodes zones) first)
      (indexes.foldl (Ipam.placeInfra nodes zones) second)
  | [], _, _, _, _, _, _, replaying => replaying
  | head :: tail, first, second, nodup, inside, pending, outcome, replaying => by
      have fresh := (List.nodup_cons.mp nodup).1
      have rest : DomainRun nodes tail (Ipam.placeInfra nodes zones first head)
          (tail.foldl (Ipam.placeInfra nodes zones) (Ipam.placeInfra nodes zones first head)) :=
        DomainRun.foldl tail fun state _ member => placeInfra_run zones state member
      have headOutcome : givenIP final (.node head) =
          givenIP (Ipam.placeInfra nodes zones first head) (.node head) := by
        rw [outcome head List.mem_cons_self, List.foldl_cons, givenIP, givenIP,
          DomainRun.frame rest (.node head) fresh]
      have step := replaying.placeInfra sound zones (inside head List.mem_cons_self) pending
        List.mem_cons_self headOutcome
      exact Replaying.foldl_placeInfra sound zones tail (List.nodup_cons.mp nodup).2
        (fun index member => inside index (List.mem_cons_of_mem head member))
        (pending.advance fresh (placeInfra_run zones first (List.mem_singleton.mpr rfl)))
        (fun index member => outcome index (List.mem_cons_of_mem head member)) step

/-! ## Guests -/

structure PendingGuests (nodes : List NodeDTO) (host : Nat) (node : NodeDTO)
    (entries : List (VMDTO × Nat)) (state : DomainState) : Prop where
  lists : Lists nodes state.results
  addresses : Addresses state
  nodup : (entries.map (·.2)).Nodup
  listed : ∀ entry ∈ entries, node.vms[entry.2]? = some entry.1
  unassigned : ∀ entry ∈ entries, assignedIPIn state.results (.vm host entry.2) = ""

theorem settle_frame (state : DomainState) {entity other : Entity} (id message : String)
    (found : Nat) (different : other ≠ entity) :
    assignedIPIn (state.settle entity id message found).results other =
      assignedIPIn state.results other := by
  unfold DomainState.settle
  cases state.accepted.lookup id with
  | some ip => exact assignedIPIn_setNodeIP_other _ _ different
  | none =>
      dsimp only
      split
      · rfl
      · exact assignedIPIn_setNodeIP_other _ _ different

theorem foldl_placeVM_frame {host : Nat} {hostID : String} {hostIP blockEnd : Nat}
    {entity : Entity} : ∀ (entries : List (VMDTO × Nat)) {state : DomainState},
    (∀ entry ∈ entries, entity ≠ .vm host entry.2) →
    assignedIPIn (entries.foldl (placeVM host hostID hostIP blockEnd) state).results entity =
      assignedIPIn state.results entity
  | [], _, _ => rfl
  | head :: tail, state, foreign => by
      rw [List.foldl_cons, foldl_placeVM_frame tail fun entry member =>
        foreign entry (List.mem_cons_of_mem head member), placeVM_eq]
      exact settle_frame state _ _ _ (foreign head List.mem_cons_self)

theorem PendingGuests.advance {host : Nat} {node : NodeDTO} (found : nodes[host]? = some node)
    {head : VMDTO × Nat} {tail : List (VMDTO × Nat)} {state : DomainState}
    (pending : PendingGuests nodes host node (head :: tail) state) (hostIP blockEnd : Nat) :
    PendingGuests nodes host node tail (placeVM host node.id hostIP blockEnd state head) := by
  have fresh := (List.nodup_cons.mp pending.nodup).1
  have run : DomainRun nodes [host] state (placeVM host node.id hostIP blockEnd state head) :=
    placeVM_run found List.mem_cons_self hostIP blockEnd state
      (pending.listed head List.mem_cons_self)
  refine ⟨DomainRun.lists run pending.lists, DomainRun.addresses run pending.addresses,
    (List.nodup_cons.mp pending.nodup).2,
    fun entry member => pending.listed entry (List.mem_cons_of_mem head member), ?_⟩
  intro entry member
  rw [placeVM_eq, settle_frame]
  · exact pending.unassigned entry (List.mem_cons_of_mem head member)
  · intro same
    rw [Entity.vm.injEq] at same
    exact fresh (List.mem_map.mpr ⟨entry, member, same.2⟩)

theorem Replaying.foldl_placeVM {pool barred : Set Nat}
    (sound : Ledger.Sound pool barred (ledgerOf nodes members final)) {host : Nat}
    {node : NodeDTO} (found : nodes[host]? = some node) (member : host ∈ members)
    (hostIP blockEnd : Nat) :
    ∀ (entries : List (VMDTO × Nat)) {first second : DomainState},
    PendingGuests nodes host node entries first →
    (∀ entry ∈ entries, givenIP final (.vm host entry.2) =
      givenIP (entries.foldl (placeVM host node.id hostIP blockEnd) first) (.vm host entry.2)) →
    Replaying nodes members final first second →
    Replaying nodes members final (entries.foldl (placeVM host node.id hostIP blockEnd) first)
      (entries.foldl (placeVM host node.id hostIP blockEnd) second)
  | [], _, _, _, _, replaying => replaying
  | head :: tail, first, second, pending, outcome, replaying => by
      have listed := pending.listed head List.mem_cons_self
      have named : entityID nodes (.vm host head.2) = some head.1.id := by
        simp [entityID, found, listed]
      have shape := replaying.allocator
      have apart : ∀ entry ∈ tail, Entity.vm host head.2 ≠ .vm host entry.2 := by
        intro entry known same
        rw [Entity.vm.injEq] at same
        exact (List.nodup_cons.mp pending.nodup).1
          (List.mem_map.mpr ⟨entry, known, same.2.symm⟩)
      have headOutcome := outcome head List.mem_cons_self
      rw [List.foldl_cons, givenIP, givenIP, foldl_placeVM_frame tail apart, ← givenIP, ← givenIP,
        placeVM_eq, givenIP_settle pending.lists pending.addresses named
          SubnetAllocator.isAvailable_allocateInRange
          (pending.unassigned head List.mem_cons_self)] at headOutcome
      have search (still : first.allocator.allocateInRange (wrap32 (hostIP + 1)) blockEnd = 0 ∨
          first.allocator.allocateInRange (wrap32 (hostIP + 1)) blockEnd ∉
            second.allocator.used) :
          second.allocator.allocateInRange (wrap32 (hostIP + 1)) blockEnd =
            first.allocator.allocateInRange (wrap32 (hostIP + 1)) blockEnd := by
        rw [shape]
        exact SubnetAllocator.allocateInRange_replay replaying.covers _ _ still
      have step := (replaying.settle sound (.vm host head.2) member named
        SubnetAllocator.isAvailable_allocateInRange headOutcome search
        s!"IP block for host {node.id} is exhausted").2
      rw [← placeVM_eq, ← placeVM_eq] at step
      exact Replaying.foldl_placeVM sound found member hostIP blockEnd tail
        (pending.advance found hostIP blockEnd)
        (fun entry known => outcome entry (List.mem_cons_of_mem head known)) step

/-! ## Hosts -/

theorem Replaying.markBlock (replaying : Replaying nodes members final first second)
    (hostIP blockEnd : Nat) :
    Replaying nodes members final
      { first with allocator := markBlock first.allocator hostIP blockEnd }
      { second with allocator := markBlock second.allocator hostIP blockEnd } := by
  have shape := replaying.allocator
  have covers := replaying.covers
  have leased (ip : Nat) :
      second.allocator.isDHCPReserved ip = first.allocator.isDHCPReserved ip := by
    rw [shape]
    rfl
  simp only [markBlock_used, leased]
  refine ⟨?_, ?_, replaying.results, replaying.kept, replaying.promised, ?_, ?_⟩
  · generalize second.allocator.used = used at shape
    simp only [shape]
  · exact List.append_subset.mpr ⟨List.subset_append_left _ _,
      List.Subset.trans covers (List.subset_append_right _ _)⟩
  · intro id ip known
    exact List.mem_append_right _ (replaying.taken known)
  · intro ip member
    rcases List.mem_append.mp member with marked | old
    · exact .inl (List.mem_append_left _ marked)
    · exact (replaying.extra old).imp_left (List.mem_append_right _)

theorem blockEndOf_used (sa : SubnetAllocator) (used : List Nat) (hostIP : Nat) (step : Int) :
    blockEndOf { sa with used := used } hostIP step = blockEndOf sa hostIP step := by
  simp only [blockEndOf]

theorem finishHost_results (node : NodeDTO) (step : Int) (index hostIP : Nat)
    (state : DomainState × Int) :
    (finishHost node step index hostIP state).1.results =
      (node.vms.zipIdx.foldl
        (placeVM index node.id hostIP (blockEndOf state.1.allocator hostIP step)) state.1).results := by
  simp only [finishHost]

theorem finishHost_frame (node : NodeDTO) (step : Int) (index hostIP : Nat)
    (state : DomainState × Int) :
    assignedIPIn (finishHost node step index hostIP state).1.results (.node index) =
      assignedIPIn state.1.results (.node index) := by
  rw [finishHost_results]
  exact foldl_placeVM_frame _ fun _ _ same => by cases same

theorem Replaying.finishHost {pool barred : Set Nat}
    (sound : Ledger.Sound pool barred (ledgerOf nodes members final)) {index : Nat}
    {node : NodeDTO} (found : nodes[index]? = some node) (member : index ∈ members)
    (step : Int) (hostIP : Nat) (offset : Int)
    (pending : PendingGuests nodes index node node.vms.zipIdx first)
    (outcome : ∀ entry ∈ node.vms.zipIdx, givenIP final (.vm index entry.2) =
      givenIP (finishHost node step index hostIP (first, offset)).1 (.vm index entry.2))
    (replaying : Replaying nodes members final first second) :
    (Ipam.finishHost node step index hostIP (second, offset)).2 =
        (Ipam.finishHost node step index hostIP (first, offset)).2 ∧
      Replaying nodes members final (Ipam.finishHost node step index hostIP (first, offset)).1
        (Ipam.finishHost node step index hostIP (second, offset)).1 := by
  have sameEnd : blockEndOf second.allocator hostIP step =
      blockEndOf first.allocator hostIP step := by
    rw [replaying.allocator, blockEndOf_used]
  simp only [givenIP, finishHost_results] at outcome
  have placed := replaying.foldl_placeVM sound found member hostIP
    (blockEndOf first.allocator hostIP step) node.vms.zipIdx pending outcome
  have marked := placed.markBlock hostIP (blockEndOf first.allocator hostIP step)
  unfold Ipam.finishHost
  dsimp only
  rw [sameEnd]
  have network := marked.network
  dsimp only at network
  refine ⟨?_, marked⟩
  simp only [network]

theorem Replaying.placeHost {pool barred : Set Nat}
    (sound : Ledger.Sound pool barred (ledgerOf nodes members final)) (step : Int)
    (offset : Int) {index : Nat} (member : index ∈ members) {indexes : List Nat}
    (pending : Pending nodes indexes first) (listed : index ∈ indexes)
    (outcome : ∀ entity : Entity, entity.nodeIndex = index →
      givenIP final entity = givenIP (placeHost nodes step (first, offset) index).1 entity)
    (replaying : Replaying nodes members final first second) :
    (Ipam.placeHost nodes step (second, offset) index).2 =
        (Ipam.placeHost nodes step (first, offset) index).2 ∧
      Replaying nodes members final (Ipam.placeHost nodes step (first, offset) index).1
        (Ipam.placeHost nodes step (second, offset) index).1 := by
  cases found : nodes[index]? with
  | none => simpa only [Ipam.placeHost, found, true_and] using replaying
  | some node =>
      have named : entityID nodes (.node index) = some node.id := by simp [entityID, found]
      have shape := replaying.allocator
      have available : hostSearch (first, offset) ≠ 0 →
          first.allocator.isAvailable (hostSearch (first, offset)) = true :=
        SubnetAllocator.isAvailable_allocateSlot
      have settled := givenIP_settle pending.lists pending.addresses named available
        (pending.unassigned _ listed) s!"subnet exhausted for VM host type {quoted node.type}"
      have search (still : hostSearch (first, offset) = 0 ∨
          hostSearch (first, offset) ∉ second.allocator.used) :
          hostSearch (second, offset) = hostSearch (first, offset) := by
        simp only [hostSearch]
        rw [shape]
        exact SubnetAllocator.allocateSlot_replay replaying.covers _ still
      have run : DomainRun nodes [index] first (settledHost (first, offset) index node).1 :=
        settle_run (.node index) (List.mem_singleton.mpr rfl) named available _
      have ownOutcome : givenIP final (.node index) =
          first.choose node.id (hostSearch (first, offset)) := by
        refine (outcome (.node index) rfl).trans (Eq.trans ?_ settled)
        rw [placeHost_eq step _ found]
        cases first.choose node.id (hostSearch (first, offset)) with
        | none => rfl
        | some hostIP => exact congrArg parseIPTo4 (finishHost_frame node step index hostIP _)
      have both := replaying.settle sound (.node index) member named available ownOutcome search
        s!"subnet exhausted for VM host type {quoted node.type}"
      rw [placeHost_eq step _ found] at outcome
      rw [placeHost_eq step _ found, placeHost_eq step _ found]
      dsimp only at outcome ⊢
      rw [both.1]
      cases chosen : first.choose node.id (hostSearch (first, offset)) with
      | none => exact ⟨rfl, both.2⟩
      | some hostIP =>
          rw [chosen] at outcome
          refine Replaying.finishHost sound found member step hostIP offset ?_ ?_ both.2
          · refine ⟨DomainRun.lists run pending.lists, DomainRun.addresses run pending.addresses,
              ?_, fun entry known => List.mem_zipIdx_iff_getElem?.mp known, ?_⟩
            · rw [List.zipIdx_map_snd]
              exact List.nodup_range'
            · intro entry _
              refine (settle_frame _ _ _ _ (by simp)).trans (pending.unassigned _ listed)
          · intro entry known
            exact outcome (.vm index entry.2) rfl

theorem Replaying.foldl_placeHost {pool barred : Set Nat}
    (sound : Ledger.Sound pool barred (ledgerOf nodes members final)) (step : Nat → Int) :
    ∀ (hosts : List Nat) (offset : Int) {first second : DomainState}, hosts.Nodup →
    (∀ index ∈ hosts, index ∈ members) → Pending nodes hosts first →
    (∀ entity : Entity, entity.nodeIndex ∈ hosts → givenIP final entity =
      givenIP (hosts.foldl (fun state index => Ipam.placeHost nodes (step index) state index)
        (first, offset)).1 entity) →
    Replaying nodes members final first second →
    Replaying nodes members final
      (hosts.foldl (fun state index => Ipam.placeHost nodes (step index) state index)
        (first, offset)).1
      (hosts.foldl (fun state index => Ipam.placeHost nodes (step index) state index)
        (second, offset)).1
  | [], _, _, _, _, _, _, _, replaying => replaying
  | head :: tail, offset, first, second, nodup, inside, pending, outcome, replaying => by
      have fresh := (List.nodup_cons.mp nodup).1
      let after := Ipam.placeHost nodes (step head) (first, offset) head
      have headRun : DomainRun nodes [head] first after.1 :=
        placeHost_run (step head) (first, offset) (List.mem_singleton.mpr rfl)
      have rest : DomainRun nodes tail after.1
          (tail.foldl (fun state index => Ipam.placeHost nodes (step index) state index) after).1 :=
        foldl_placeHost_run step tail _ fun _ member => member
      have headOutcome (entity : Entity) (here : entity.nodeIndex = head) :
          givenIP final entity = givenIP after.1 entity := by
        rw [outcome entity (here ▸ List.mem_cons_self), List.foldl_cons, givenIP, givenIP,
          DomainRun.frame rest entity (here ▸ fresh)]
      have both := replaying.placeHost sound (step head) offset (inside head List.mem_cons_self)
        pending List.mem_cons_self headOutcome
      have tailReplay := Replaying.foldl_placeHost sound step tail after.2
        (List.nodup_cons.mp nodup).2
        (fun index member => inside index (List.mem_cons_of_mem head member))
        (pending.advance fresh headRun)
        (fun entity member => outcome entity (List.mem_cons_of_mem head member)) both.2
      have second : Ipam.placeHost nodes (step head) (second, offset) head =
          ((Ipam.placeHost nodes (step head) (second, offset) head).1, after.2) :=
        Prod.ext rfl both.1
      rw [List.foldl_cons, List.foldl_cons, second]
      exact tailReplay

/-! ## All members -/

theorem nodup_orderedHosts {hosts : List Nat} (nodup : hosts.Nodup) :
    (orderedHosts nodes hosts).Nodup := by
  have kinds : (orderedTypes nodes hosts).Nodup := by
    unfold orderedTypes
    dsimp only
    rw [List.nodup_append]
    refine ⟨by decide, ?_, ?_⟩
    · rw [(List.perm_insertionSort _ _).nodup_iff]
      exact (List.nodup_dedup _).filter _
    · intro known ordered other rest same
      rw [(List.perm_insertionSort _ _).mem_iff, List.mem_filter] at rest
      exact absurd (same ▸ ordered) (by simpa using rest.2)
  unfold orderedHosts
  rw [List.nodup_flatMap]
  refine ⟨fun kind _ => nodup.filter _, kinds.imp fun different => ?_⟩
  intro index left right
  have leftKind := (List.mem_filter.mp left).2
  have rightKind := (List.mem_filter.mp right).2
  cases found : nodes[index]? with
  | none => simp [found] at leftKind
  | some node =>
      simp only [found, Option.any_some, decide_eq_true_eq] at leftKind rightKind
      exact different (leftKind.symm.trans rightKind)

theorem nodup_networkIndexes {nodeIndexes : List Nat} (nodup : nodeIndexes.Nodup) :
    (networkIndexes nodes nodeIndexes).Nodup :=
  nodup.filter _

theorem Replaying.foldl_reportInfraGuests : ∀ (indexes : List Nat) {first second : DomainState},
    Replaying nodes members final first second →
    Replaying nodes members final (indexes.foldl (reportInfraGuests nodes) first)
      (indexes.foldl (reportInfraGuests nodes) second)
  | [], _, _, replaying => replaying
  | head :: tail, first, second, replaying => by
      refine Replaying.foldl_reportInfraGuests tail ?_
      unfold reportInfraGuests
      split
      · exact replaying
      · split
        · exact replaying
        · exact replaying.issues _ _ _ _

theorem hostStartOffset_used (sa : SubnetAllocator) (used : List Nat) :
    hostStartOffset { sa with used := used } = hostStartOffset sa := by
  have leased (ip : Nat) :
      ({ sa with used := used } : SubnetAllocator).isDHCPReserved ip = sa.isDHCPReserved ip := rfl
  simp only [hostStartOffset, leased]

theorem Replaying.placeMembers {pool barred : Set Nat} {nodeIndexes : List Nat}
    (sound : Ledger.Sound pool barred (ledgerOf nodes nodeIndexes final))
    (nodup : nodeIndexes.Nodup) (zones : List (String × ZoneConfig)) (step : Int)
    (pending : Pending nodes nodeIndexes first)
    (outcome : ∀ entity, givenIP final entity =
      givenIP (placeMembers nodes zones nodeIndexes step first) entity)
    (replaying : Replaying nodes nodeIndexes final first second) :
    Replaying nodes nodeIndexes final (Ipam.placeMembers nodes zones nodeIndexes step first)
      (Ipam.placeMembers nodes zones nodeIndexes step second) := by
  let domainZones := domainZonesOf zones step
  let network := networkIndexes nodes nodeIndexes
  let infra := network.filter fun index => !isHost nodes domainZones index
  let hosts := orderedHosts nodes (network.filter (isHost nodes domainZones))
  let reported := infra.foldl (reportInfraGuests nodes) first
  let placed := infra.foldl (Ipam.placeInfra nodes domainZones) reported
  have inside {index : Nat} (member : index ∈ network) : index ∈ nodeIndexes :=
    (List.mem_filter.mp member).1
  have infraInside : ∀ index ∈ infra, index ∈ nodeIndexes := fun index member =>
    inside (List.mem_filter.mp member).1
  have hostInside : ∀ index ∈ hosts, index ∈ nodeIndexes := fun index member =>
    inside (List.mem_filter.mp (mem_of_mem_orderedHosts member)).1
  have apart : ∀ index ∈ hosts, index ∉ infra := by
    intro index member alsoInfra
    have isHost := (List.mem_filter.mp (mem_of_mem_orderedHosts member)).2
    have isInfra := (List.mem_filter.mp alsoInfra).2
    rw [isHost] at isInfra
    cases isInfra
  -- Reporting guests of infrastructure nodes hands out nothing.
  have reportRun : DomainRun nodes [] first reported :=
    DomainRun.foldl _ fun state index _ => reportInfraGuests_run state index
  have infraRun : DomainRun nodes infra reported placed :=
    DomainRun.foldl _ fun state index member => placeInfra_run domainZones state member
  have hostRun : DomainRun nodes hosts placed
      (hosts.foldl (fun state index => Ipam.placeHost nodes (stepOf nodes domainZones index)
        state index) (placed, hostStartOffset placed.allocator)).1 :=
    foldl_placeHost_run (stepOf nodes domainZones) hosts (placed, hostStartOffset placed.allocator)
      fun _ member => member
  have pendingInfra : Pending nodes infra reported := by
    refine ⟨DomainRun.lists reportRun pending.lists,
      DomainRun.addresses reportRun pending.addresses, fun entity member => ?_⟩
    rw [DomainRun.frame reportRun entity List.not_mem_nil]
    exact pending.unassigned entity (infraInside _ member)
  have pendingHosts : Pending nodes hosts placed := by
    refine ⟨DomainRun.lists infraRun pendingInfra.lists,
      DomainRun.addresses infraRun pendingInfra.addresses, fun entity member => ?_⟩
    rw [DomainRun.frame infraRun entity (apart _ member),
      DomainRun.frame reportRun entity List.not_mem_nil]
    exact pending.unassigned entity (hostInside _ member)
  have infraOutcome : ∀ index ∈ infra, givenIP final (.node index) =
      givenIP placed (.node index) := by
    intro index member
    rw [outcome (.node index)]
    unfold givenIP
    exact congrArg parseIPTo4
      (DomainRun.frame hostRun (.node index) fun isHost => apart index isHost member)
  have placedReplay := (replaying.foldl_reportInfraGuests infra).foldl_placeInfra sound domainZones
    infra ((nodup_networkIndexes nodup).filter _) infraInside pendingInfra infraOutcome
  have sameOffset : hostStartOffset
      (infra.foldl (Ipam.placeInfra nodes domainZones)
        (infra.foldl (reportInfraGuests nodes) second)).allocator =
      hostStartOffset placed.allocator := by
    rw [placedReplay.allocator, hostStartOffset_used]
  have hostReplay := placedReplay.foldl_placeHost sound (stepOf nodes domainZones) hosts
    (hostStartOffset placed.allocator) (nodup_orderedHosts ((nodup_networkIndexes nodup).filter _))
    hostInside pendingHosts fun entity _ => outcome entity
  unfold Ipam.placeMembers
  dsimp only
  rw [sameOffset]
  exact hostReplay

end Place

/-! ## A whole domain -/

theorem named_reservingEntities {nodes : List NodeDTO} {nodeIndexes : List Nat}
    (nodup : nodeIndexes.Nodup) :
    Named nodes nodeIndexes (reservingEntities nodes nodeIndexes) := by
  refine ⟨?_, ?_, ?_⟩
  · unfold reservingEntities
    rw [List.nodup_flatMap]
    refine ⟨?_, (nodup_networkIndexes nodup).imp fun different => ?_⟩
    · intro index _
      unfold entitiesOf
      split
      · exact List.nodup_nil
      · rename_i node found
        have guests : (node.vms.zipIdx.map fun entry => Entity.vm index entry.2) =
            (node.vms.zipIdx.map (·.2)).map (Entity.vm index) := by
          rw [List.map_map]
          rfl
        rw [guests, List.zipIdx_map_snd, List.nodup_cons]
        refine ⟨by simp, List.Nodup.map ?_ List.nodup_range'⟩
        intro left right same
        exact (Entity.vm.inj same).2
    · intro entity left right
      exact different ((mem_entitiesOf left).1.symm.trans (mem_entitiesOf right).1)
  · intro entity member
    rcases List.mem_flatMap.mp member with ⟨index, listed, known⟩
    exact (mem_entitiesOf known).1 ▸ (List.mem_filter.mp listed).1
  · intro entity member
    rcases List.mem_flatMap.mp member with ⟨index, _, known⟩
    exact (mem_entitiesOf known).2

private theorem entityID_bare (nodes : List NodeDTO) :
    entityID (nodes.map NodeDTO.bare) = entityID nodes := by
  funext entity
  cases entity with
  | node index => cases found : nodes[index]? <;> simp [entityID, NodeDTO.bare, found]
  | vm host index =>
      cases found : nodes[host]? with
      | none => simp [entityID, found]
      | some node =>
          cases guest : node.vms[index]? <;>
            simp [entityID, NodeDTO.bare, VMDTO.bare, found, guest]

theorem SameBare.entityID {left right : List NodeDTO} (same : SameBare left right) :
    entityID left = Ipam.entityID right := by
  rw [← entityID_bare left, same, entityID_bare right]

theorem SameBare.entitiesOf {left right : List NodeDTO} (same : SameBare left right) :
    entitiesOf left = Ipam.entitiesOf right := by
  have ofBare (nodes : List NodeDTO) :
      Ipam.entitiesOf nodes = Ipam.entitiesOf (nodes.map NodeDTO.bare) := by
    funext index
    cases found : nodes[index]? with
    | none => simp [Ipam.entitiesOf, found]
    | some node =>
        simp only [Ipam.entitiesOf, NodeDTO.bare, found, List.getElem?_map, Option.map_some,
          List.zipIdx_map, List.map_map]
        rfl
  rw [ofBare left, same, ← ofBare right]

theorem SameBare.idOf {left right : List NodeDTO} (same : SameBare left right) :
    idOf left = Ipam.idOf right := by
  funext entity
  rw [Ipam.idOf, Ipam.idOf, same.entityID]

theorem SameBare.reservingEntities {left right : List NodeDTO} (same : SameBare left right) :
    reservingEntities left = Ipam.reservingEntities right := by
  funext nodeIndexes
  rw [Ipam.reservingEntities, Ipam.reservingEntities, same.networkIndexes, same.entitiesOf]

theorem SameBare.reserveAll {left right : List NodeDTO} (same : SameBare left right) :
    reserveAll left = Ipam.reserveAll right := by
  funext values entities state
  rw [Ipam.reserveAll, Ipam.reserveAll, same.idOf]

@[simp]
theorem reserveMembers_results (nodes : List NodeDTO) (nodeIndexes : List Nat)
    (state : DomainState) : (reserveMembers nodes nodeIndexes state).results = state.results := by
  have kept (other : DomainState) (id value : String) :
      (preReserveExisting other id value).results = other.results := by
    unfold preReserveExisting
    split_ifs
    · rfl
    · split
      · rfl
      · dsimp only
        split_ifs <;> rfl
  rw [reserveMembers_eq]
  exact foldl_keeps DomainState.results (fun other entity => kept other _ _) _ _

theorem reserveMembers_accepted (nodes : List NodeDTO) (zones : List (String × ZoneConfig))
    (nodeIndexes : List Nat) (state : DomainState) :
    (allocateDomain nodes zones nodeIndexes state).accepted =
      (reserveMembers nodes nodeIndexes state).accepted := by
  rw [allocateDomain_eq, placeMembers_accepted]

theorem Pending.reserved {nodes : List NodeDTO} {nodeIndexes indexes : List Nat}
    {state : DomainState} (pending : Pending nodes nodeIndexes state)
    (unreserved : state.accepted = []) :
    Pending nodes nodeIndexes (reserveMembers nodes indexes state) := by
  have run : DomainRun nodes indexes { state with accepted := [] }
      (reserveMembers nodes indexes state) := reserveMembers_run indexes state
  rw [show ({ state with accepted := [] } : DomainState) = state by rw [← unreserved]] at run
  refine ⟨DomainRun.lists run pending.lists, DomainRun.addresses run pending.addresses,
    fun entity member => ?_⟩
  rw [reserveMembers_results]
  exact pending.unassigned entity member

theorem honoured_allocateDomain {nodes : List NodeDTO} (zones : List (String × ZoneConfig))
    {nodeIndexes : List Nat} {state : DomainState} (unreserved : state.accepted = [])
    (pending : Pending nodes nodeIndexes state) :
    Honoured nodes nodeIndexes (allocateDomain nodes zones nodeIndexes state) := by
  have reserved : Pending nodes nodeIndexes (reserveMembers nodes nodeIndexes state) :=
    pending.reserved unreserved
  rw [allocateDomain_eq]
  exact (placeMembers_run zones nodeIndexes _ _).honoured reserved.lists reserved.addresses
    (placeMembers_accepted _ _ _ _ _)
    fun entity _ _ member _ _ => .inl (reserved.unassigned entity member)

/-- Running a domain again gives the same addresses, if its members bring what
they had reserved, and beyond that only old texts or what they were given. -/
theorem allocateDomain_replay {left right : List NodeDTO} (bare : SameBare left right)
    (distinct : DistinctEntities left) (zones : List (String × ZoneConfig))
    {nodeIndexes : List Nat} (nodup : nodeIndexes.Nodup) {first second : DomainState}
    (allocator : second.allocator = first.allocator) (owners : second.owners = first.owners)
    (results : second.results = first.results) (owned : Owned first)
    (unreserved : first.accepted = []) (pending : Pending left nodeIndexes first)
    (restates : ∀ entity ∈ reservingEntities left nodeIndexes,
      Restates ((allocateDomain left zones nodeIndexes first).accepted.lookup (idOf left entity))
        (givenIP (allocateDomain left zones nodeIndexes first) entity)
        (existingOf left entity) (existingOf right entity)) :
    (allocateDomain right zones nodeIndexes second).results =
      (allocateDomain left zones nodeIndexes first).results := by
  have start : ({ first with accepted := [] } : DomainState) = first := by rw [← unreserved]
  have run : DomainRun left nodeIndexes first (allocateDomain left zones nodeIndexes first) := by
    have whole : DomainRun left nodeIndexes { first with accepted := [] } _ :=
      allocateDomain_run zones nodeIndexes first
    rwa [start] at whole
  have promises := reserveMembers_accepted left zones nodeIndexes first
  have order := allocateDomain_eq left zones nodeIndexes first
  have sound := DomainRun.sound distinct pending.lists pending.addresses unreserved
    pending.unassigned run
  generalize allocateDomain left zones nodeIndexes first = final at *
  have names : Named left nodeIndexes (reservingEntities left nodeIndexes) :=
    named_reservingEntities nodup
  have reservedReplay : Replaying left nodeIndexes final (reserveMembers left nodeIndexes first)
      (reserveMembers right nodeIndexes second) := by
    rw [reserveMembers_eq] at promises
    rw [reserveMembers_eq, reserveMembers_eq, ← bare.reservingEntities, ← bare.reserveAll]
    refine Replaying.reserveAll distinct sound _ names ?_ owned ?_ (fun _ _ => rfl) ?_ restates
    · refine ⟨by rw [allocator], ?_, results, fun known => known, ?_, ?_, ?_⟩
      · rw [allocator]
        exact List.Subset.refl _
      · intro entity id ip _ _ known
        cases known
      · intro id ip known
        cases known
      · intro ip taken
        exact .inl (allocator ▸ taken)
    · intro ip usable known
      rw [allocator] at usable ⊢
      exact owned ip usable (owners ▸ known)
    · intro entity _
      rw [promises]
  have placed := Replaying.placeMembers sound nodup zones
    (memberStep left zones nodeIndexes first.allocator) (pending.reserved unreserved)
    (fun entity => by rw [← order]) reservedReplay
  rw [allocateDomain_eq, ← bare.placeMembers, ← bare.memberStep, allocator, placed.results, ← order]

end HomelabBuilder.Ipam
