import HomelabBuilder.Ipam.Requested

/-! # Host blocks

Every VM host takes a block of addresses for its guests. What is taken stays
taken, so nothing that is chosen later lies in the block of an earlier host.
-/

namespace HomelabBuilder.Ipam

open Net

/-! ## Addresses once taken -/

namespace SubnetAllocator

/-- The same allocator later: only more addresses are used. -/
structure Grows (before after : SubnetAllocator) : Prop where
  network : after.network = before.network
  capacity : after.capacity = before.capacity
  dhcpStart : after.dhcpStart = before.dhcpStart
  dhcpEnd : after.dhcpEnd = before.dhcpEnd
  used : before.used ⊆ after.used

theorem Grows.refl (sa : SubnetAllocator) : sa.Grows sa :=
  ⟨rfl, rfl, rfl, rfl, List.Subset.refl _⟩

theorem Grows.trans {first second third : SubnetAllocator} (left : first.Grows second)
    (right : second.Grows third) : first.Grows third where
  network := right.network.trans left.network
  capacity := right.capacity.trans left.capacity
  dhcpStart := right.dhcpStart.trans left.dhcpStart
  dhcpEnd := right.dhcpEnd.trans left.dhcpEnd
  used := List.Subset.trans left.used right.used

theorem Grows.isUsable_eq {before after : SubnetAllocator} (grows : before.Grows after) (ip : Nat) :
    after.isUsable ip = before.isUsable ip := by
  rw [isUsable, isUsable, grows.network, grows.capacity]

theorem Grows.isDHCPReserved_eq {before after : SubnetAllocator} (grows : before.Grows after)
    (ip : Nat) : after.isDHCPReserved ip = before.isDHCPReserved ip := by
  rw [isDHCPReserved, isDHCPReserved, grows.dhcpStart, grows.dhcpEnd]

theorem Grows.isAvailable {before after : SubnetAllocator} (grows : before.Grows after) {ip : Nat}
    (available : after.isAvailable ip = true) : before.isAvailable ip = true := by
  rw [isAvailable_iff, grows.isUsable_eq, grows.isDHCPReserved_eq] at available
  rw [isAvailable_iff]
  exact ⟨available.1, available.2.1, fun taken => available.2.2 (grows.used taken)⟩

theorem Grows.blockEndOf_eq {before after : SubnetAllocator} (grows : before.Grows after)
    (hostIP : Nat) (step : Int) : blockEndOf after hostIP step = blockEndOf before hostIP step := by
  simp only [blockEndOf, grows.network, grows.capacity]

end SubnetAllocator

section Run

variable {nodes : List NodeDTO} {members : List Nat} {before after : DomainState}

theorem DomainStep.grows (step : DomainStep nodes members before after) :
    before.allocator.Grows after.allocator := by
  cases step with
  | report | keep => exact .refl _
  | accept | place => exact ⟨rfl, rfl, rfl, rfl, List.subset_cons_self _ _⟩
  | block grown => exact ⟨rfl, rfl, rfl, rfl, grown⟩

theorem DomainRun.grows (run : DomainRun nodes members before after) :
    before.allocator.Grows after.allocator := by
  induction run with
  | refl => exact .refl _
  | tail _ step induction => exact induction.trans step.grows

/-- An existing address that was accepted is a taken address of the subnet. -/
def AcceptedTaken (state : DomainState) : Prop :=
  ∀ {id ip}, (id, ip) ∈ state.accepted →
    state.allocator.isUsable ip = true ∧ ip ∈ state.allocator.used

theorem DomainStep.acceptedTaken (step : DomainStep nodes members before after)
    (taken : AcceptedTaken before) : AcceptedTaken after := by
  have grows := step.grows
  have kept {id : String} {ip : Nat} (member : (id, ip) ∈ before.accepted) :
      after.allocator.isUsable ip = true ∧ ip ∈ after.allocator.used :=
    ⟨(grows.isUsable_eq ip).trans (taken member).1, grows.used (taken member).2⟩
  cases step with
  | report | keep | place | block =>
      intro id ip member
      exact kept member
  | accept _ _ _ available =>
      intro id ip member
      rcases List.mem_cons.mp member with same | member
      · cases same
        exact ⟨(SubnetAllocator.isAvailable_iff.mp available).1, List.mem_cons_self⟩
      · exact kept member

theorem DomainRun.acceptedTaken (run : DomainRun nodes members before after)
    (taken : AcceptedTaken before) : AcceptedTaken after := by
  induction run with
  | refl => exact taken
  | tail _ step induction => exact step.acceptedTaken induction

end Run

/-! ## The end of a block -/

theorem calculateDynamicStep_bounds (hosts capacity reserved : Nat) :
    2 ≤ calculateDynamicStep hosts capacity reserved ∧
      calculateDynamicStep hosts capacity reserved ≤ 50 := by
  unfold calculateDynamicStep
  dsimp only
  split
  · omega
  · split
    · omega
    · split
      · omega
      · split <;> omega

/-- In a subnet that does not wrap, a block ends after its step or with the
last address of the subnet. -/
theorem blockEndOf_eq_min {sa : SubnetAllocator}
    (bounds : sa.network < 2 ^ 32 ∧ sa.capacity < 2 ^ 32) {hostIP : Nat}
    (usable : sa.isUsable hostIP = true) {step : Int} (positive : 2 ≤ step) (small : step ≤ 50) :
    (blockEndOf sa hostIP step : Int) =
      min (hostIP + step - 1) (sa.network + sa.capacity - 1) := by
  rcases SubnetAllocator.usable_bounds bounds usable with ⟨above, below, inside⟩
  have last : wrap32 (sa.network + sa.capacity - 1) = sa.network + sa.capacity - 1 :=
    wrap32_of_lt (by omega)
  have width : toUint32 step = step.toNat := by
    unfold toUint32
    rw [Int.emod_eq_of_lt (by omega) (by omega)]
  unfold blockEndOf
  dsimp only
  rw [last, width]
  unfold sub32 wrap32
  split <;> omega

theorem mem_addressesFrom {start stop ip : Nat} :
    ip ∈ addressesFrom start stop ↔ start ≤ ip ∧ ip < stop := by
  rw [addressesFrom, List.mem_range'_1]
  omega

theorem SubnetAllocator.allocateInRange_mem {sa : SubnetAllocator} {start stop : Nat}
    (inside : sa.network < start) (found : sa.allocateInRange start stop ≠ 0) :
    start ≤ sa.allocateInRange start stop ∧ sa.allocateInRange start stop ≤ stop := by
  unfold allocateInRange at found ⊢
  by_cases narrow : sa.capacity ≤ 1
  · simp [narrow] at found
  · simp only [narrow, if_false, if_neg (Nat.not_le.mpr inside)] at found ⊢
    generalize isLast : (if wrap32 (sa.network + sa.capacity - 1) < stop then
      wrap32 (sa.network + sa.capacity - 1) else stop) = last at found ⊢
    have lower : last ≤ stop := by
      subst isLast
      split <;> omega
    cases picked : FirstFit.pick sa.isAvailable (addressesFrom start (last + 1)) with
    | none => simp [picked] at found
    | some ip =>
        have member := mem_addressesFrom.mp (FirstFit.mem_of_pick picked)
        simp only [Option.getD_some]
        omega

/-! ## The turn of a host -/

section Turn

variable {nodes : List NodeDTO} {host : Nat} {node : NodeDTO} {step : Int}

theorem settledHost_taken (host : Nat) {turn : DomainState × Int} (taken : AcceptedTaken turn.1) {hostIP : Nat}
    (chosen : turn.1.choose node.id (hostSearch turn) = some hostIP) :
    turn.1.allocator.isUsable hostIP = true ∧
      hostIP ∈ (settledHost turn host node).1.allocator.used := by
  unfold DomainState.choose at chosen
  unfold settledHost DomainState.settle
  dsimp only
  cases known : turn.1.accepted.lookup node.id with
  | some ip =>
      rw [known] at chosen
      cases chosen
      exact taken (Table.mem_of_lookup known)
  | none =>
      rw [known] at chosen
      dsimp only at chosen ⊢
      split at chosen
      · cases chosen
      · rename_i nonzero
        cases chosen
        rw [if_neg nonzero]
        have available := SubnetAllocator.isAvailable_allocateSlot nonzero
        exact ⟨(SubnetAllocator.isAvailable_iff.mp available).1, List.mem_cons_self⟩

theorem placeHost_fills (found : nodes[host]? = some node) {turn : DomainState × Int}
    (taken : AcceptedTaken turn.1) {hostIP : Nat}
    (chosen : turn.1.choose node.id (hostSearch turn) = some hostIP) {ip : Nat}
    (low : hostIP ≤ ip) (high : ip ≤ blockEndOf turn.1.allocator hostIP step) :
    (placeHost nodes step turn host).1.allocator.isAvailable ip = false := by
  have hostNamed : entityID nodes (.node host) = some node.id := by simp [entityID, found]
  have settled : DomainRun nodes [host] turn.1 (settledHost turn host node).1 :=
    settle_run (.node host) (List.mem_singleton.mpr rfl) hostNamed
      SubnetAllocator.isAvailable_allocateSlot _
  have hostTaken := (settledHost_taken host taken chosen).2
  rw [← (DomainRun.grows settled).blockEndOf_eq] at high
  rw [placeHost_eq step turn found, chosen]
  dsimp only
  generalize settledHost turn host node = state at hostTaken high ⊢
  unfold finishHost
  dsimp only
  generalize blockEndOf state.1.allocator hostIP step = blockEnd at high ⊢
  have guests : DomainRun nodes [host] state.1
      (node.vms.zipIdx.foldl (placeVM host node.id hostIP blockEnd) state.1) :=
    DomainRun.foldl _ fun state entry inside =>
      placeVM_run found (List.mem_singleton.mpr rfl) _ _ state
        (List.mem_zipIdx_iff_getElem?.mp inside)
  have grown := (DomainRun.grows guests).used hostTaken
  generalize node.vms.zipIdx.foldl (placeVM host node.id hostIP blockEnd) state.1 = placed
    at grown ⊢
  rw [markBlock_used, Bool.eq_false_iff, ne_eq, SubnetAllocator.isAvailable_iff]
  rintro ⟨_, outside, free⟩
  apply free
  rcases Nat.eq_or_lt_of_le low with same | behind
  · exact List.mem_append_right _ (same ▸ grown)
  · apply List.mem_append_left
    rw [List.mem_reverse, List.mem_filter, mem_addressesFrom]
    refine ⟨⟨behind, Nat.lt_succ_of_le high⟩, ?_⟩
    unfold SubnetAllocator.isDHCPReserved at outside ⊢
    dsimp only at outside
    rw [outside, Bool.not_false]

end Turn

/-! ## The order of the hosts -/

def nodeType (nodes : List NodeDTO) (index : Nat) : String :=
  (nodes[index]?.map (·.type)).getD ""

/-- Known host types come in their own order, the others behind them by name. -/
def TypeBefore (left right : String) : Prop :=
  vmHostTypeOrder.idxOf left < vmHostTypeOrder.idxOf right ∨
    (vmHostTypeOrder.idxOf left = vmHostTypeOrder.idxOf right ∧ left < right)

/-- Hosts come in the order of their types, those of one type in request order. -/
def HostBefore (nodes : List NodeDTO) (left right : Nat) : Prop :=
  TypeBefore (nodeType nodes left) (nodeType nodes right) ∨
    (nodeType nodes left = nodeType nodes right ∧ left < right)

theorem TypeBefore.asymm {left right : String} (before : TypeBefore left right) :
    ¬ TypeBefore right left := by
  rintro (after | ⟨same, after⟩)
  · rcases before with before | ⟨same, _⟩ <;> omega
  · rcases before with before | ⟨_, before⟩
    · omega
    · exact String.lt_asymm before after

theorem HostBefore.asymm {nodes : List NodeDTO} {left right : Nat}
    (before : HostBefore nodes left right) : ¬ HostBefore nodes right left := by
  rintro (after | ⟨same, after⟩)
  · rcases before with before | ⟨same, _⟩
    · exact before.asymm after
    · rw [same] at after
      exact after.asymm after
  · rcases before with before | ⟨_, before⟩
    · rw [same] at before
      exact before.asymm before
    · omega

theorem pairwise_orderedTypes (nodes : List NodeDTO) (hosts : List Nat) :
    (orderedTypes nodes hosts).Pairwise TypeBefore := by
  have unknown {kind : String} (foreign : kind ∉ vmHostTypeOrder) :
      vmHostTypeOrder.idxOf kind = vmHostTypeOrder.length := List.idxOf_of_notMem foreign
  unfold orderedTypes
  dsimp only
  generalize isKinds : (hosts.filterMap fun index => nodes[index]?.map (·.type)).dedup = kinds
  have nodup : kinds.Nodup := isKinds ▸ List.nodup_dedup _
  have perm : (((kinds.filter fun kind => kind ∉ vmHostTypeOrder).insertionSort (· ≤ ·))).Perm
      (kinds.filter fun kind => kind ∉ vmHostTypeOrder) := List.perm_insertionSort _ _
  have foreign {kind : String} (member : kind ∈ (kinds.filter fun kind =>
      kind ∉ vmHostTypeOrder).insertionSort (· ≤ ·)) : kind ∉ vmHostTypeOrder := by
    simpa using (List.mem_filter.mp (perm.mem_iff.mp member)).2
  have sorted := List.pairwise_insertionSort (fun left right : String => left ≤ right)
    (kinds.filter fun kind => kind ∉ vmHostTypeOrder)
  have apart := perm.nodup_iff.mpr (nodup.filter _)
  rw [List.pairwise_append]
  refine ⟨?_, ?_, ?_⟩
  · exact List.Pairwise.imp .inl (by decide)
  · refine (sorted.and apart).imp_of_mem fun {left right} leftMember rightMember order => ?_
    right
    refine ⟨by rw [unknown (foreign leftMember), unknown (foreign rightMember)], ?_⟩
    rw [← String.not_le]
    exact fun after => order.2 (String.le_antisymm order.1 after)
  · intro known member other otherMember
    left
    rw [unknown (foreign otherMember)]
    exact List.idxOf_lt_length_of_mem member

theorem pairwise_orderedHosts {nodes : List NodeDTO} {hosts : List Nat}
    (sorted : hosts.Pairwise (· < ·)) :
    (orderedHosts nodes hosts).Pairwise (HostBefore nodes) := by
  have kindOf {kind : String} {index : Nat}
      (member : index ∈ hosts.filter fun index => nodes[index]?.any fun node => node.type = kind) :
      nodeType nodes index = kind := by
    have same := (List.mem_filter.mp member).2
    cases found : nodes[index]? with
    | none => simp [found] at same
    | some node => simpa [nodeType, found] using same
  unfold orderedHosts
  rw [List.pairwise_flatMap]
  refine ⟨fun kind _ => ?_, (pairwise_orderedTypes nodes hosts).imp ?_⟩
  · apply (sorted.filter _).imp_of_mem
    intro left right leftMember rightMember before
    exact .inr ⟨(kindOf leftMember).trans (kindOf rightMember).symm, before⟩
  · intro first second before left leftMember right rightMember
    left
    rw [kindOf leftMember, kindOf rightMember]
    exact before

theorem split_of_pairwise {α : Type} [DecidableEq α] {before : α → α → Prop}
    (asymm : ∀ {left right}, before left right → ¬ before right left) {items : List α}
    (ordered : items.Pairwise before) {first second : α} (firstMember : first ∈ items)
    (secondMember : second ∈ items) (earlier : before first second) :
    ∃ middle, items.takeWhile (· ≠ second) = items.takeWhile (· ≠ first) ++ first :: middle := by
  have nodup : items.Nodup := ordered.imp fun apart same => by
    subst same
    exact asymm apart apart
  rcases takeWhile_split nodup secondMember with ⟨rest, split, _, _⟩
  have inFront : first ∈ items.takeWhile (· ≠ second) := by
    rw [split, List.mem_append, List.mem_cons] at firstMember
    rcases firstMember with inFront | rfl | inRest
    · exact inFront
    · exact absurd earlier (asymm earlier)
    · rw [split, List.pairwise_append, List.pairwise_cons] at ordered
      exact absurd earlier (asymm (ordered.2.1.1 first inRest))
  generalize items.takeWhile (· ≠ second) = front at split inFront
  have frontNodup : front.Nodup := by
    rw [split] at nodup
    exact (List.nodup_append.mp nodup).1
  rcases takeWhile_split frontNodup inFront with ⟨middle, frontSplit, _, without⟩
  generalize front.takeWhile (· ≠ first) = early at frontSplit without
  refine ⟨middle, ?_⟩
  rw [split, frontSplit, List.append_assoc, List.takeWhile_append_of_pos]
  · simp
  · intro item inside
    simp only [ne_eq, decide_not, Bool.not_eq_eq_eq_not, Bool.not_true, decide_eq_false_iff_not]
    rintro rfl
    exact without inside

/-! ## Turns after each other -/

section Turns

variable {nodes : List NodeDTO} (zones : List (String × ZoneConfig)) {nodeIndexes : List Nat}
  (step : Int) (state : DomainState)

/-- The hosts of a list of members, in the order they are given addresses. -/
abbrev servedHosts (nodes : List NodeDTO) (zones : List (String × ZoneConfig))
    (nodeIndexes : List Nat) (step : Int) : List Nat :=
  orderedHosts nodes
    ((networkIndexes nodes nodeIndexes).filter (isHost nodes (domainZonesOf zones step)))

theorem mem_of_mem_servedHosts {host : Nat}
    (member : host ∈ servedHosts nodes zones nodeIndexes step) : host ∈ nodeIndexes :=
  (List.mem_filter.mp (List.mem_filter.mp (mem_of_mem_orderedHosts member)).1).1

theorem hostTurn_run (host : Nat) :
    DomainRun nodes nodeIndexes state (hostTurn nodes zones nodeIndexes step state host).1 := by
  have network {index : Nat} (member : index ∈ networkIndexes nodes nodeIndexes) :
      index ∈ nodeIndexes := (List.mem_filter.mp member).1
  unfold hostTurn
  dsimp only
  refine Relation.ReflTransGen.trans ?_ (foldl_placeHost_run _ _ _ fun index member => ?_)
  · refine Relation.ReflTransGen.trans ?_
      (DomainRun.foldl _ fun state index member => placeInfra_run _ state ?_)
    · exact DomainRun.foldl _ fun state index _ => reportInfraGuests_run state index
    · exact network (List.mem_filter.mp member).1
  · apply mem_of_mem_servedHosts zones step
    exact (List.takeWhile_sublist _).subset member

theorem hostTurn_later (sorted : nodeIndexes.Pairwise (· < ·)) {first second : Nat}
    (firstMember : first ∈ servedHosts nodes zones nodeIndexes step)
    (secondMember : second ∈ servedHosts nodes zones nodeIndexes step)
    (before : HostBefore nodes first second) :
    DomainRun nodes nodeIndexes
      (placeHost nodes (stepOf nodes (domainZonesOf zones step) first)
        (hostTurn nodes zones nodeIndexes step state first) first).1
      (hostTurn nodes zones nodeIndexes step state second).1 := by
  have inDomain {index : Nat} (member : index ∈ servedHosts nodes zones nodeIndexes step) :
      index ∈ nodeIndexes := mem_of_mem_servedHosts zones step member
  have ordered : (servedHosts nodes zones nodeIndexes step).Pairwise (HostBefore nodes) :=
    pairwise_orderedHosts ((sorted.filter _).filter _)
  rcases split_of_pairwise HostBefore.asymm ordered firstMember secondMember before with
    ⟨middle, split⟩
  have members : ∀ index ∈ middle, index ∈ nodeIndexes := by
    intro index member
    apply inDomain
    apply (List.takeWhile_sublist (· ≠ second)).subset
    rw [split]
    exact List.mem_append_right _ (List.mem_cons_of_mem _ member)
  unfold servedHosts at split
  unfold hostTurn
  dsimp only
  rw [split, List.foldl_append, List.foldl_cons]
  exact foldl_placeHost_run _ middle _ members

end Turns

/-! ## What a host and its guests are given -/

section Given

variable {nodes : List NodeDTO}

theorem settle_of_choose {state : DomainState} (lists : Lists nodes state.results)
    {entity : Entity} {id : String} (named : entityID nodes entity = some id) {found ip : Nat}
    (chosen : state.choose id found = some ip) (message : String) :
    assignedIPIn (state.settle entity id message found).results entity = formatIPv4 ip := by
  have listed : (resultID state.results entity).isSome = true := by
    rw [lists entity, named]
    rfl
  unfold DomainState.choose at chosen
  unfold DomainState.settle
  cases known : state.accepted.lookup id with
  | some reserved =>
      rw [known] at chosen
      cases chosen
      simp only [DomainState.assign, assignedIPIn_setNodeIP_self, listed, if_true]
  | none =>
      rw [known] at chosen
      dsimp only at chosen ⊢
      split at chosen
      · cases chosen
      · rename_i nonzero
        cases chosen
        rw [if_neg nonzero]
        simp only [DomainState.assign, DomainState.reserve, assignedIPIn_setNodeIP_self, listed,
          if_true]

theorem settle_of_choose_none {state : DomainState} {id : String} {found : Nat}
    (chosen : state.choose id found = none) (entity : Entity) (message : String) :
    (state.settle entity id message found).results = state.results := by
  rcases choose_eq_none.mp chosen with ⟨unknown, empty⟩
  unfold DomainState.settle
  rw [unknown]
  dsimp only
  rw [if_pos empty]
  rfl

theorem assignedIPIn_of_unlisted {results : List NodeResult} {entity : Entity}
    (unlisted : resultID results entity = none) : assignedIPIn results entity = "" := by
  cases entity with
  | node index =>
      rw [resultID, Option.map_eq_none_iff] at unlisted
      simp [assignedIPIn, unlisted]
  | vm host index =>
      rw [resultID, Option.map_eq_none_iff] at unlisted
      simp [assignedIPIn, unlisted]

theorem assigned_host {turn : DomainState × Int} (lists : Lists nodes turn.1.results)
    {host : Nat} {node : NodeDTO} (found : nodes[host]? = some node) (step : Int) :
    assignedIPIn (placeHost nodes step turn host).1.results (.node host) =
      match turn.1.choose node.id (hostSearch turn) with
      | some hostIP => formatIPv4 hostIP
      | none => assignedIPIn turn.1.results (.node host) := by
  have named : entityID nodes (.node host) = some node.id := by simp [entityID, found]
  rw [placeHost_eq step turn found]
  cases chosen : turn.1.choose node.id (hostSearch turn) with
  | some hostIP =>
      dsimp only
      rw [finishHost_frame]
      exact settle_of_choose lists named chosen _
  | none => exact congrArg (assignedIPIn · _) (settle_of_choose_none chosen _ _)

/-- What a guest without a reserved address is given in the turn of its host:
a free address in the block of the host, or nothing. -/
theorem assigned_new_guest {turn : DomainState × Int} (lists : Lists nodes turn.1.results)
    {host guest hostIP : Nat} {node : NodeDTO} {vm : VMDTO} (found : nodes[host]? = some node)
    (listed : node.vms[guest]? = some vm) {step : Int}
    (chosen : turn.1.choose node.id (hostSearch turn) = some hostIP)
    (unknown : turn.1.accepted.lookup vm.id = none)
    (inside : turn.1.allocator.network < wrap32 (hostIP + 1)) :
    assignedIPIn (placeHost nodes step turn host).1.results (.vm host guest) =
        assignedIPIn turn.1.results (.vm host guest) ∨
      ∃ ip, assignedIPIn (placeHost nodes step turn host).1.results (.vm host guest) =
          formatIPv4 ip ∧
        turn.1.allocator.isAvailable ip = true ∧ wrap32 (hostIP + 1) ≤ ip ∧
        ip ≤ blockEndOf turn.1.allocator hostIP step := by
  have named : entityID nodes (.vm host guest) = some vm.id := by simp [entityID, found, listed]
  rcases exists_guestTurn step found listed chosen with
    ⟨before, run, accepted, unchanged, assigned⟩
  have grows := DomainRun.grows run
  rw [placeVM_eq] at assigned
  dsimp only at assigned
  generalize isFound : before.allocator.allocateInRange (wrap32 (hostIP + 1))
    (blockEndOf turn.1.allocator hostIP step) = ip at assigned
  rw [← accepted] at unknown
  by_cases exhausted : ip = 0
  · left
    have nothing : before.choose vm.id ip = none := choose_eq_none.mpr ⟨unknown, exhausted⟩
    rw [assigned, settle_of_choose_none nothing, unchanged]
  · right
    have something : before.choose vm.id ip = some ip := by
      rw [DomainState.choose, unknown]
      exact if_neg exhausted
    rw [settle_of_choose (DomainRun.lists run lists) named something] at assigned
    subst isFound
    have range := SubnetAllocator.allocateInRange_mem (grows.network ▸ inside) exhausted
    exact ⟨_, assigned, grows.isAvailable (SubnetAllocator.isAvailable_allocateInRange exhausted),
      range⟩

theorem assigned_infra_guest (zones : List (String × ZoneConfig)) {nodeIndexes : List Nat}
    (step : Int) (state : DomainState) {host : Nat}
    (foreign : host ∉ servedHosts nodes zones nodeIndexes step) (guest : Nat) :
    assignedIPIn (placeMembers nodes zones nodeIndexes step state).results (.vm host guest) =
      assignedIPIn state.results (.vm host guest) := by
  unfold placeMembers
  dsimp only
  have hostRun (placed : DomainState) : DomainRun nodes (servedHosts nodes zones nodeIndexes step)
      placed ((servedHosts nodes zones nodeIndexes step).foldl (fun state index =>
        placeHost nodes (stepOf nodes (domainZonesOf zones step) index) state index)
          (placed, hostStartOffset placed.allocator)).1 :=
    foldl_placeHost_run _ _ (placed, hostStartOffset placed.allocator) fun _ member => member
  rw [DomainRun.frame (hostRun _) (.vm host guest) foreign]
  have infra (state : DomainState) (index : Nat) :
      assignedIPIn (placeInfra nodes (domainZonesOf zones step) state index).results
        (.vm host guest) = assignedIPIn state.results (.vm host guest) := by
    cases found : nodes[index]? with
    | none => simp only [placeInfra, found]
    | some node =>
        rw [placeInfra_eq _ state found]
        exact settle_frame _ _ _ _ (by simp)
  have report (state : DomainState) (index : Nat) :
      assignedIPIn (reportInfraGuests nodes state index).results (.vm host guest) =
        assignedIPIn state.results (.vm host guest) := by
    have run : DomainRun nodes [] state (reportInfraGuests nodes state index) :=
      reportInfraGuests_run state index
    exact DomainRun.frame run _ List.not_mem_nil
  rw [foldl_keeps (fun state : DomainState => assignedIPIn state.results (.vm host guest)) infra,
    foldl_keeps (fun state : DomainState => assignedIPIn state.results (.vm host guest)) report]

end Given

/-! ## Blocks in a response -/

def hostsOf (req : AllocateRequest) (domain : AllocationDomain) : List Nat :=
  (networkIndexes req.nodes (membersOf req domain)).filter
    (isHost req.nodes (mergeZones req.customZones))

def Given (req : AllocateRequest) (entity : Entity) (ip : Nat) : Prop :=
  ip < 2 ^ 32 ∧ (allocate req).assignedIP entity = formatIPv4 ip

/-- The address is not one the device has brought along. -/
def Chosen (req : AllocateRequest) (entity : Entity) (ip : Nat) : Prop :=
  Given req entity ip ∧ reservedIP req entity = none

/-- The block of a host with this address, its own address included. -/
def block (req : AllocateRequest) (domain : AllocationDomain) (hostIP : Nat) : Set Nat :=
  {ip | hostIP ≤ ip ∧ (ip : Int) ≤ min (hostIP + stepIn req domain - 1)
    (domain.allocator.network + domain.allocator.capacity - 1)}

/-- What is chosen for a guest lies behind its host in the host's block, and
nothing that is chosen for a later host or its guests lies in an earlier block. -/
structure BlocksExclusive (req : AllocateRequest) (domain : AllocationDomain) : Prop where
  guests : ∀ {host guest ip}, host ∈ membersOf req domain → Chosen req (.vm host guest) ip →
    ∃ hostIP, Given req (.node host) hostIP ∧ hostIP < ip ∧ ip ∈ block req domain hostIP
  exclusive : ∀ {first second firstIP}, first ∈ hostsOf req domain → second ∈ hostsOf req domain →
    HostBefore req.nodes first second → Given req (.node first) firstIP →
    ∀ {entity ip}, entity.nodeIndex = second → Chosen req entity ip →
      ip ∉ block req domain firstIP

theorem stepOf_host {nodes : List NodeDTO} {custom : List (String × ZoneOverride)} {step : Int}
    {index : Nat} (hosting : isHost nodes (mergeZones custom) index = true) :
    stepOf nodes (domainZonesOf (mergeZones custom) step) index = step := by
  cases found : nodes[index]? with
  | none => simp [isHost, found] at hosting
  | some node =>
      rw [isHost, found, Option.any_some] at hosting
      rw [stepOf, found, Option.map_some, Option.getD_some]
      unfold getZone at hosting ⊢
      rw [lookup_domainZonesOf]
      cases known : (mergeZones custom).lookup node.type with
      | some zone =>
          rw [known] at hosting
          rw [Option.map_some]
          dsimp only at hosting ⊢
          rw [if_pos hosting]
      | none =>
          -- The built-in zones are part of every table, so only the fallback is left.
          have builtIn : defaultDeviceZones.lookup node.type = none := by
            rw [mergeZones, Table.lookup_append] at known
            exact (Option.or_eq_none_iff.mp known).2
          rw [known, builtIn] at hosting
          cases hosting

theorem allocate_of_listed {req : AllocateRequest} {domain : AllocationDomain}
    (listed : domain ∈
      (openDomains req.nodes (normalizeRouters req.routers) (ownerRouter req)).domains) :
    allocate req = allocateOwned req (ownerRouter req) := by
  rcases (opened_openDomains req.routers req.nodes (ownerRouter req)).sourced domain listed with
    ⟨entry, inside, key⟩
  rcases List.getElem?_of_mem inside with ⟨index, located⟩
  exact allocate_of_routerDomain (routerDomain_eq_some.mpr ⟨entry, located, key⟩)

theorem served_of_listed {req : AllocateRequest} {domain : AllocationDomain}
    (listed : domain ∈
      (openDomains req.nodes (normalizeRouters req.routers) (ownerRouter req)).domains) :
    ∃ before, Served req domain before := by
  rcases @exists_turnOf_reporting _ (mergeZones req.customZones) _
      (membersApart_domainNodeIndexes _ _ _) _ _ _
      (upcoming_startResponse req (ownerRouter req)) listed with ⟨before, turn, reporting⟩
  refine ⟨before, listed, turn, ?_, ?_⟩
  · rw [allocate_of_listed listed]
    exact reporting
  · intro entity inDomain
    rw [allocate_of_listed listed]
    exact turn.final entity inDomain

section Served

variable {req : AllocateRequest} {domain : AllocationDomain} {before : AllocateResponse}

/-- The state a host of a domain finds when its turn comes. -/
abbrev turnIn (req : AllocateRequest) (domain : AllocationDomain) (before : AllocateResponse)
    (host : Nat) : DomainState × Int :=
  hostTurn req.nodes (mergeZones req.customZones) (membersOf req domain) (stepIn req domain)
    (reservedState req domain before) host

theorem turnIn_run (host : Nat) :
    DomainRun req.nodes (membersOf req domain) (domain.turn before)
      (turnIn req domain before host).1 :=
  (reserveMembers_run (membersOf req domain) (domain.turn before)).trans
    (hostTurn_run (mergeZones req.customZones) (stepIn req domain) _ host)

theorem acceptedTaken_turnIn (host : Nat) : AcceptedTaken (turnIn req domain before host).1 := by
  apply DomainRun.acceptedTaken (turnIn_run host)
  intro id ip member
  exact absurd member List.not_mem_nil

theorem exists_of_mem_hostsOf {host : Nat} (isHost : host ∈ hostsOf req domain) :
    ∃ node, req.nodes[host]? = some node ∧ host ∈ membersOf req domain ∧
      host ∈ networkIndexes req.nodes (membersOf req domain) ∧
      Ipam.isHost req.nodes (mergeZones req.customZones) host = true := by
  rcases List.mem_filter.mp isHost with ⟨inNetwork, hosting⟩
  cases found : req.nodes[host]? with
  | none => simp [Ipam.isHost, found] at hosting
  | some node => exact ⟨node, rfl, (List.mem_filter.mp inNetwork).1, inNetwork, hosting⟩

theorem mem_servedHosts_iff {host : Nat} :
    host ∈ servedHosts req.nodes (mergeZones req.customZones) (membersOf req domain)
      (stepIn req domain) ↔ host ∈ hostsOf req domain := by
  unfold servedHosts
  rw [isHost_domainZonesOf]
  refine ⟨mem_of_mem_orderedHosts, fun isHost => ?_⟩
  rcases exists_of_mem_hostsOf isHost with ⟨node, found, _⟩
  exact mem_orderedHosts isHost found

theorem Served.turnFrom (served : Served req domain before) {host : Nat}
    (isHost : host ∈ hostsOf req domain) :
    TurnFrom req.nodes (reservedState req domain before) (turnIn req domain before host).1 host := by
  rcases exists_of_mem_hostsOf isHost with ⟨node, found, _, inNetwork, hosting⟩
  rw [← isHost_domainZonesOf _ _ (stepIn req domain)] at hosting
  exact turnFrom_hostTurn (mergeZones req.customZones) (stepIn req domain)
    (List.nodup_range.filter _) served.lists found inNetwork hosting

theorem Served.unassigned (served : Served req domain before) {host : Nat}
    (isHost : host ∈ hostsOf req domain) {entity : Entity} (here : entity.nodeIndex = host) :
    assignedIPIn (turnIn req domain before host).1.results entity = "" := by
  rcases exists_of_mem_hostsOf isHost with ⟨_, _, member, _⟩
  rw [(served.turnFrom isHost).frame entity here, reserveMembers_results]
  exact served.turn.upcoming.unassigned domain List.mem_cons_self entity (here ▸ member)

theorem Served.assigned (served : Served req domain before) {host : Nat}
    (isHost : host ∈ hostsOf req domain) {entity : Entity} (here : entity.nodeIndex = host) :
    (allocate req).assignedIP entity =
      assignedIPIn (placeHost req.nodes (stepIn req domain) (turnIn req domain before host)
        host).1.results entity := by
  rcases exists_of_mem_hostsOf isHost with ⟨node, found, member, inNetwork, hosting⟩
  have width : stepOf req.nodes (domainZonesOf (mergeZones req.customZones) (stepIn req domain))
      host = stepIn req domain := stepOf_host hosting
  have nodup : (membersOf req domain).Nodup := List.nodup_range.filter _
  rw [← isHost_domainZonesOf _ _ (stepIn req domain)] at hosting
  rw [served.final entity (here ▸ member), turnEnd_eq,
    assigned_at_turn _ _ nodup found inNetwork hosting here, width]

theorem Served.unknown (served : Served req domain before) {host : Nat}
    (isHost : host ∈ hostsOf req domain) {entity : Entity} {id : String}
    (here : entity.nodeIndex = host) (named : entityID req.nodes entity = some id)
    (reserved : reservedIP req entity = none) :
    (turnIn req domain before host).1.accepted.lookup id = none := by
  rcases exists_of_mem_hostsOf isHost with ⟨_, _, member, _⟩
  rw [served.reservedIP_eq (here ▸ member), idOf_of_named named] at reserved
  rw [(served.turnFrom isHost).accepted]
  exact reserved

theorem Served.choose_of_given (served : Served req domain before) {host hostIP : Nat}
    {node : NodeDTO} (isHost : host ∈ hostsOf req domain) (found : req.nodes[host]? = some node)
    (given : Given req (.node host) hostIP) :
    (turnIn req domain before host).1.choose node.id
      (hostSearch (turnIn req domain before host)) = some hostIP := by
  have assigned : assignedIPIn (placeHost req.nodes (stepIn req domain)
      (turnIn req domain before host) host).1.results (.node host) = formatIPv4 hostIP :=
    (served.assigned isHost rfl).symm.trans given.2
  have lists := (served.turnFrom isHost).lists
  rw [assigned_host lists found] at assigned
  cases chosen : (turnIn req domain before host).1.choose node.id
      (hostSearch (turnIn req domain before host)) with
  | none =>
      rw [chosen] at assigned
      dsimp only at assigned
      rw [served.unassigned isHost rfl] at assigned
      exact absurd assigned.symm (formatIPv4_ne_empty _)
  | some ip =>
      rw [chosen] at assigned
      have usable := (settledHost_taken host (acceptedTaken_turnIn host) chosen).1
      rw [formatIPv4_injective (SubnetAllocator.lt_of_isUsable usable) given.1 assigned]

/-- A host that is given an address has a usable one, and its block ends where
the claims of its guests do. -/
theorem Served.blockEnd (listed : domain ∈
      (openDomains req.nodes (normalizeRouters req.routers) (ownerRouter req)).domains)
    {host hostIP : Nat} {node : NodeDTO}
    (chosen : (turnIn req domain before host).1.choose node.id
      (hostSearch (turnIn req domain before host)) = some hostIP) :
    domain.allocator.isUsable hostIP = true ∧
      (blockEndOf (turnIn req domain before host).1.allocator hostIP (stepIn req domain) : Int) =
        min (hostIP + stepIn req domain - 1)
          (domain.allocator.network + domain.allocator.capacity - 1) := by
  have grows : domain.allocator.Grows (turnIn req domain before host).1.allocator :=
    DomainRun.grows (turnIn_run host)
  have usable := (settledHost_taken host (acceptedTaken_turnIn host) chosen).1
  rw [grows.isUsable_eq] at usable
  have bounds := calculateDynamicStep_bounds
  refine ⟨usable, ?_⟩
  rw [grows.blockEndOf_eq]
  exact blockEndOf_eq_min (allocator_lt listed) usable (bounds _ _ _).1 (bounds _ _ _).2

/-- What is chosen for a guest is free when the turn of its host comes, and
lies in the block of the host. -/
theorem Served.guest_chosen (served : Served req domain before) {host guest ip : Nat}
    (isHost : host ∈ hostsOf req domain) (chosen : Chosen req (.vm host guest) ip) :
    (turnIn req domain before host).1.allocator.isAvailable ip = true ∧
      ∃ hostIP, Given req (.node host) hostIP ∧ hostIP < ip ∧ ip ∈ block req domain hostIP := by
  rcases exists_of_mem_hostsOf isHost with ⟨node, found, _⟩
  have lists := (served.turnFrom isHost).lists
  have given : assignedIPIn (placeHost req.nodes (stepIn req domain)
      (turnIn req domain before host) host).1.results (.vm host guest) = formatIPv4 ip :=
    (served.assigned isHost rfl).symm.trans chosen.1.2
  have empty : assignedIPIn (turnIn req domain before host).1.results (.vm host guest) = "" :=
    served.unassigned isHost rfl
  cases taken : (turnIn req domain before host).1.choose node.id
      (hostSearch (turnIn req domain before host)) with
  | none =>
      rw [unassigned_guest _ found taken, empty] at given
      exact absurd given.symm (formatIPv4_ne_empty ip)
  | some hostIP =>
      rcases Served.blockEnd served.listed taken with ⟨usable, isEnd⟩
      rcases SubnetAllocator.usable_bounds (allocator_lt served.listed) usable with
        ⟨above, below, inside⟩
      have next : wrap32 (hostIP + 1) = hostIP + 1 := wrap32_of_lt (by omega)
      cases located : node.vms[guest]? with
      | none =>
          have unlisted : resultID (placeHost req.nodes (stepIn req domain)
              (turnIn req domain before host) host).1.results (.vm host guest) = none := by
            have run : DomainRun req.nodes [host] (turnIn req domain before host).1
                (placeHost req.nodes (stepIn req domain) (turnIn req domain before host) host).1 :=
              placeHost_run _ _ (List.mem_singleton.mpr rfl)
            rw [DomainRun.resultID_eq run, lists, entityID, found, Option.bind_some, located]
            rfl
          rw [assignedIPIn_of_unlisted unlisted] at given
          exact absurd given.symm (formatIPv4_ne_empty ip)
      | some vm =>
          have named : entityID req.nodes (.vm host guest) = some vm.id := by
            simp [entityID, found, located]
          have unknown := served.unknown isHost rfl named chosen.2
          have grows : domain.allocator.Grows (turnIn req domain before host).1.allocator :=
            DomainRun.grows (turnIn_run host)
          have start : (turnIn req domain before host).1.allocator.network <
              wrap32 (hostIP + 1) := by
            rw [grows.network, next]
            omega
          rcases assigned_new_guest lists found located taken unknown start with
            same | ⟨guestIP, assigned, available, low, high⟩
          · rw [same, empty] at given
            exact absurd given.symm (formatIPv4_ne_empty ip)
          · have small := SubnetAllocator.lt_of_isAvailable available
            have equal := formatIPv4_injective small chosen.1.1 (assigned.symm.trans given)
            subst equal
            rw [next] at low
            refine ⟨available, hostIP, ⟨by omega, ?_⟩, by omega, by omega, ?_⟩
            · rw [served.assigned isHost rfl, assigned_host lists found, taken]
            · rw [← isEnd]
              exact_mod_cast high

theorem Served.chosen_free (served : Served req domain before) {host ip : Nat}
    (isHost : host ∈ hostsOf req domain) {entity : Entity} (here : entity.nodeIndex = host)
    (chosen : Chosen req entity ip) :
    (turnIn req domain before host).1.allocator.isAvailable ip = true := by
  cases entity with
  | vm position guest =>
      cases here
      exact (served.guest_chosen isHost chosen).1
  | node index =>
      cases here
      rcases exists_of_mem_hostsOf isHost with ⟨node, found, _⟩
      change req.nodes[index]? = some node at found
      have named : entityID req.nodes (.node index) = some node.id := by simp [entityID, found]
      have unknown := served.unknown isHost rfl named chosen.2
      have taken := served.choose_of_given isHost found chosen.1
      rw [DomainState.choose, unknown] at taken
      dsimp only at taken
      split at taken
      · cases taken
      · rename_i nonzero
        rw [← Option.some.inj taken]
        exact SubnetAllocator.isAvailable_allocateSlot nonzero

end Served

/-- Host blocks are exclusive in the order in which the hosts are served. -/
theorem host_blocks_exclusive (req : AllocateRequest) :
    ∀ domain ∈ (openDomains req.nodes (normalizeRouters req.routers) (ownerRouter req)).domains,
      BlocksExclusive req domain := by
  intro domain listed
  rcases served_of_listed listed with ⟨before, served⟩
  refine ⟨?_, ?_⟩
  · intro host guest ip member chosen
    by_cases isHost : host ∈ hostsOf req domain
    · exact (served.guest_chosen isHost chosen).2
    · have nothing : (allocate req).assignedIP (.vm host guest) = "" := by
        by_cases inNetwork : host ∈ networkIndexes req.nodes (membersOf req domain)
        · rw [served.final (.vm host guest) member, turnEnd_eq,
            assigned_infra_guest _ _ _ (mt mem_servedHosts_iff.mp isHost), reserveMembers_results]
          exact served.turn.upcoming.unassigned domain List.mem_cons_self (.vm host guest) member
        · exact served.unassigned_vm member inNetwork
      exact absurd (nothing.symm.trans chosen.1.2).symm (formatIPv4_ne_empty ip)
  · intro first second firstIP isFirst isSecond earlier given entity ip here chosen inBlock
    have free := served.chosen_free isSecond here chosen
    rcases exists_of_mem_hostsOf isFirst with ⟨node, found, _, _, hosting⟩
    have width : stepOf req.nodes (domainZonesOf (mergeZones req.customZones) (stepIn req domain))
        first = stepIn req domain := stepOf_host hosting
    have sorted : (membersOf req domain).Pairwise (· < ·) := List.pairwise_lt_range.filter _
    have later := hostTurn_later (mergeZones req.customZones) (stepIn req domain)
      (reservedState req domain before) sorted (mem_servedHosts_iff.mpr isFirst)
      (mem_servedHosts_iff.mpr isSecond) earlier
    rw [width] at later
    have stillFree := (DomainRun.grows later).isAvailable free
    have taken := served.choose_of_given isFirst found given
    have isEnd := (Served.blockEnd listed taken).2
    have high : ip ≤ blockEndOf (turnIn req domain before first).1.allocator firstIP
        (stepIn req domain) := by
      have high := inBlock.2
      rw [← isEnd] at high
      exact_mod_cast high
    rw [placeHost_fills found (acceptedTaken_turnIn first) taken inBlock.1 high] at stillFree
    cases stillFree

/-- A server and a storage device behind one router, with a guest each. -/
def twoHosts : AllocateRequest where
  routers := [{ id := "r1", gatewayIP := "10.0.0.1", subnet := "10.0.0.0/24" }]
  nodes :=
    [ { id := "server1", type := "server", connections := ["r1"], vms := [{ id := "vm1" }] },
      { id := "nas1", type := "nas", connections := ["r1"], vms := [{ id := "vm2" }] } ]

/-- The network of the router, 10.0.0.0 with its mask. -/
def twoHostsDomain : AllocationDomain where
  key := (167772160, 4294967040)
  allocator :=
    { network := 167772160
      capacity := 255
      used := [167772161, 167772161, 167772415, 167772160] }
  owners :=
    [ (167772161, "r1"), (167772415, "broadcast address"), (167772160, "network address") ]

theorem host_blocks_exclusive_twoHosts : BlocksExclusive twoHosts twoHostsDomain :=
  host_blocks_exclusive twoHosts twoHostsDomain (by decide +kernel)

end HomelabBuilder.Ipam
