import HomelabBuilder.Ipam.Reallocation

/-! # Requested addresses

What becomes of an address a device brings along. It is reserved or reported
before anything is placed, and what is reserved is handed out later, unless a
guest's host comes away empty.
-/

namespace HomelabBuilder.Ipam

open Net

/-! ## Reserved or reported -/

section Reserve

variable {nodes : List NodeDTO} {members : List Nat}

theorem accepted_or_reported (state : DomainState) (id : String) {value : String}
    (given : value ≠ "") :
    (∃ ip, parseIPTo4 value = some ip ∧ preReserveExisting state id value = state.accept id ip) ∨
      ∃ message, preReserveExisting state id value = state.conflict id message := by
  unfold preReserveExisting
  rw [if_neg given]
  cases parseIPTo4 value with
  | none => exact .inr ⟨_, rfl⟩
  | some ip =>
      dsimp only
      split
      · exact .inr ⟨_, rfl⟩
      · split
        · exact .inr ⟨_, rfl⟩
        · split
          · exact .inr ⟨_, rfl⟩
          · exact .inl ⟨ip, rfl, rfl⟩

theorem conflicts_preReserveExisting (state : DomainState) (id value : String) :
    state.conflicts ⊆ (preReserveExisting state id value).conflicts := by
  by_cases given : value = ""
  · unfold preReserveExisting
    rw [if_pos given]
    exact List.Subset.refl _
  · rcases accepted_or_reported state id given with ⟨ip, _, equal⟩ | ⟨message, equal⟩
    · rw [equal]
      exact List.Subset.refl _
    · rw [equal]
      exact List.subset_append_left _ _

theorem conflicts_reserveAll (values : Entity → String) :
    ∀ (entities : List Entity) (state : DomainState),
      state.conflicts ⊆ (reserveAll nodes values entities state).conflicts
  | [], _ => List.Subset.refl _
  | head :: tail, state =>
      List.Subset.trans (conflicts_preReserveExisting state (idOf nodes head) (values head))
        (conflicts_reserveAll values tail _)

theorem reserved_or_reported (distinct : DistinctEntities nodes) {values : Entity → String}
    {entity : Entity} (given : values entity ≠ "") :
    ∀ (entities : List Entity) {state : DomainState}, Named nodes members entities → Owned state →
      entity ∈ entities →
      (∃ ip, parseIPTo4 (values entity) = some ip ∧
        (reserveAll nodes values entities state).accepted.lookup (idOf nodes entity) = some ip) ∨
      ∃ issue ∈ (reserveAll nodes values entities state).conflicts,
        issue.nodeID = idOf nodes entity
  | head :: tail, state, names, owned, listed => by
      have stillOwned := owned.reserveExisting (idOf nodes head) (values head)
      rcases List.mem_cons.mp listed with rfl | later
      · have last := accepted_reserveAll values tail stillOwned (names.ne_head distinct)
        rcases accepted_or_reported state (idOf nodes entity) given with
          ⟨ip, parsed, equal⟩ | ⟨message, equal⟩
        · refine .inl ⟨ip, parsed, last.trans ?_⟩
          rw [equal, lookup_accept, if_pos rfl]
        · have reported : ⟨idOf nodes entity, message⟩ ∈
              (preReserveExisting state (idOf nodes entity) (values entity)).conflicts := by
            rw [equal]
            exact List.mem_append_right _ (List.mem_singleton.mpr rfl)
          exact .inr ⟨_, conflicts_reserveAll values tail _ reported, rfl⟩
      · exact reserved_or_reported distinct given tail names.tail stillOwned later

end Reserve

/-! ## The turn of a host -/

/-- The state a host finds when its turn comes. -/
def hostTurn (nodes : List NodeDTO) (zones : List (String × ZoneConfig)) (nodeIndexes : List Nat)
    (step : Int) (state : DomainState) (host : Nat) : DomainState × Int :=
  let members := networkIndexes nodes nodeIndexes
  let domainZones := domainZonesOf zones step
  let infra := members.filter fun index => !isHost nodes domainZones index
  let reported := infra.foldl (reportInfraGuests nodes) state
  let placed := infra.foldl (placeInfra nodes domainZones) reported
  ((orderedHosts nodes (members.filter (isHost nodes domainZones))).takeWhile (· ≠ host)).foldl
    (fun state index => placeHost nodes (stepOf nodes domainZones index) state index)
    (placed, hostStartOffset placed.allocator)

theorem takeWhile_split {α : Type} [DecidableEq α] {item : α} : ∀ {items : List α},
    items.Nodup → item ∈ items →
    ∃ rest, items = items.takeWhile (· ≠ item) ++ item :: rest ∧ item ∉ rest ∧
      item ∉ items.takeWhile (· ≠ item)
  | head :: tail, nodup, member => by
      rw [List.nodup_cons] at nodup
      by_cases here : head = item
      · refine ⟨tail, ?_, here ▸ nodup.1, ?_⟩
        · simp [here]
        · simp [here]
      · have later : item ∈ tail := (List.mem_cons.mp member).resolve_left (Ne.symm here)
        rcases takeWhile_split nodup.2 later with ⟨rest, split, after, before⟩
        refine ⟨rest, ?_, after, ?_⟩
        · rw [List.takeWhile_cons, if_pos (by simpa using here), List.cons_append, ← split]
        · rw [List.takeWhile_cons, if_pos (by simpa using here)]
          intro listed
          rcases List.mem_cons.mp listed with same | listed
          · exact here same.symm
          · exact before listed

section Place

variable {nodes : List NodeDTO} {nodeIndexes : List Nat}

theorem assigned_settle {state : DomainState} (lists : Lists nodes state.results)
    {entity : Entity} {id : String} (named : entityID nodes entity = some id) {ip : Nat}
    (known : state.accepted.lookup id = some ip) (message : String) (found : Nat) :
    assignedIPIn (state.settle entity id message found).results entity = formatIPv4 ip := by
  have listed : (resultID state.results entity).isSome = true := by
    rw [lists entity, named]
    rfl
  unfold DomainState.settle
  rw [known]
  simp only [DomainState.assign, assignedIPIn_setNodeIP_self, listed, if_true]

structure TurnFrom (nodes : List NodeDTO) (state turn : DomainState) (host : Nat) : Prop where
  accepted : turn.accepted = state.accepted
  lists : Lists nodes turn.results
  frame : ∀ entity : Entity, entity.nodeIndex = host →
    assignedIPIn turn.results entity = assignedIPIn state.results entity

variable (zones : List (String × ZoneConfig)) (step : Int) {state : DomainState}

@[simp]
theorem foldl_reportInfraGuests_accepted (infra : List Nat) (state : DomainState) :
    (infra.foldl (reportInfraGuests nodes) state).accepted = state.accepted :=
  foldl_keeps DomainState.accepted (reportInfraGuests_accepted nodes) infra state

@[simp]
theorem foldl_placeInfra_accepted (infra : List Nat) (state : DomainState) :
    (infra.foldl (placeInfra nodes zones) state).accepted = state.accepted := by
  have kept := foldl_keeps DomainState.reports (placeInfra_reports nodes zones) infra state
  exact congrArg Prod.fst kept

theorem foldl_placeHost_accepted (steps : Nat → Int) (hosts : List Nat)
    (state : DomainState × Int) :
    (hosts.foldl (fun state index => placeHost nodes (steps index) state index) state).1.accepted =
      state.1.accepted := by
  have kept := foldl_keeps (fun placed : DomainState × Int => placed.1.reports)
    (fun placed index => placeHost_reports nodes (steps index) placed index) hosts state
  exact congrArg Prod.fst kept

theorem assigned_infra (nodup : nodeIndexes.Nodup) (lists : Lists nodes state.results)
    {index ip : Nat} {node : NodeDTO} (found : nodes[index]? = some node)
    (member : index ∈ networkIndexes nodes nodeIndexes)
    (isInfra : isHost nodes (domainZonesOf zones step) index = false)
    (known : state.accepted.lookup node.id = some ip) :
    assignedIPIn (placeMembers nodes zones nodeIndexes step state).results (.node index) =
      formatIPv4 ip := by
  unfold placeMembers
  dsimp only
  generalize isInfraList : (networkIndexes nodes nodeIndexes).filter
    (fun index => !isHost nodes (domainZonesOf zones step) index) = infra
  generalize isHosts : orderedHosts nodes ((networkIndexes nodes nodeIndexes).filter
    (isHost nodes (domainZonesOf zones step))) = hosts
  have noHost : index ∉ hosts := by
    rw [← isHosts]
    intro isHost
    have hosting := (List.mem_filter.mp (mem_of_mem_orderedHosts isHost)).2
    rw [isInfra] at hosting
    cases hosting
  have inInfra : index ∈ infra := by
    rw [← isInfraList, List.mem_filter]
    exact ⟨member, by rw [isInfra]; rfl⟩
  have infraNodup : infra.Nodup := isInfraList ▸ (nodup_networkIndexes nodup).filter _
  have reportRun : DomainRun nodes [] state (infra.foldl (reportInfraGuests nodes) state) :=
    DomainRun.foldl _ fun state index _ => reportInfraGuests_run state index
  generalize isPlaced : infra.foldl (placeInfra nodes (domainZonesOf zones step))
    (infra.foldl (reportInfraGuests nodes) state) = placed
  have hostRun : DomainRun nodes hosts placed
      (hosts.foldl (fun state index => placeHost nodes (stepOf nodes (domainZonesOf zones step)
        index) state index) (placed, hostStartOffset placed.allocator)).1 :=
    foldl_placeHost_run (stepOf nodes (domainZonesOf zones step)) hosts
      (placed, hostStartOffset placed.allocator) fun _ member => member
  rw [DomainRun.frame hostRun (.node index) noHost, ← isPlaced]
  rcases takeWhile_split infraNodup inInfra with ⟨rest, split, after, _⟩
  generalize infra.takeWhile (· ≠ index) = front at split
  have frontRun : DomainRun nodes front (infra.foldl (reportInfraGuests nodes) state)
      (front.foldl (placeInfra nodes (domainZonesOf zones step))
        (infra.foldl (reportInfraGuests nodes) state)) :=
    DomainRun.foldl _ fun state index member => placeInfra_run _ state member
  have restRun (state : DomainState) : DomainRun nodes rest state
      (rest.foldl (placeInfra nodes (domainZonesOf zones step)) state) :=
    DomainRun.foldl _ fun state index member => placeInfra_run _ state member
  conv_lhs => rw [split]
  rw [List.foldl_append, List.foldl_cons, DomainRun.frame (restRun _) (.node index) after,
    placeInfra_eq _ _ found]
  apply assigned_settle
  · rw [← split]
    exact DomainRun.lists frontRun (DomainRun.lists reportRun lists)
  · simp [entityID, found]
  · rw [foldl_placeInfra_accepted, foldl_reportInfraGuests_accepted]
    exact known

theorem mem_orderedHosts {hosts : List Nat} {host : Nat} {node : NodeDTO} (member : host ∈ hosts)
    (found : nodes[host]? = some node) : host ∈ orderedHosts nodes hosts := by
  have kind : node.type ∈ orderedTypes nodes hosts := by
    unfold orderedTypes
    dsimp only
    rw [List.mem_append, (List.perm_insertionSort _ _).mem_iff, List.mem_filter, List.mem_dedup,
      List.mem_filterMap]
    by_cases known : node.type ∈ vmHostTypeOrder
    · exact .inl known
    · exact .inr ⟨⟨host, member, by rw [found, Option.map_some]⟩, by simpa using known⟩
  unfold orderedHosts
  rw [List.mem_flatMap]
  refine ⟨node.type, kind, List.mem_filter.mpr ⟨member, ?_⟩⟩
  simp [found]

theorem turnFrom_hostTurn (nodup : nodeIndexes.Nodup) (lists : Lists nodes state.results)
    {host : Nat} {node : NodeDTO} (found : nodes[host]? = some node)
    (member : host ∈ networkIndexes nodes nodeIndexes)
    (hosting : isHost nodes (domainZonesOf zones step) host = true) :
    TurnFrom nodes state (hostTurn nodes zones nodeIndexes step state host).1 host := by
  unfold hostTurn
  dsimp only
  generalize isInfra : (networkIndexes nodes nodeIndexes).filter
    (fun index => !isHost nodes (domainZonesOf zones step) index) = infra
  generalize isHosts : orderedHosts nodes ((networkIndexes nodes nodeIndexes).filter
    (isHost nodes (domainZonesOf zones step))) = hosts
  have noInfra : host ∉ infra := by
    rw [← isInfra, List.mem_filter]
    rintro ⟨_, isInfra⟩
    rw [hosting] at isInfra
    cases isInfra
  have hostsNodup : hosts.Nodup :=
    isHosts ▸ nodup_orderedHosts ((nodup_networkIndexes nodup).filter _)
  have inHosts : host ∈ hosts := by
    rw [← isHosts]
    exact mem_orderedHosts (List.mem_filter.mpr ⟨member, hosting⟩) found
  rcases takeWhile_split hostsNodup inHosts with ⟨_, _, _, notBefore⟩
  generalize hosts.takeWhile (· ≠ host) = front at notBefore
  have reportRun : DomainRun nodes [] state (infra.foldl (reportInfraGuests nodes) state) :=
    DomainRun.foldl _ fun state index _ => reportInfraGuests_run state index
  generalize isReported : infra.foldl (reportInfraGuests nodes) state = reported at reportRun
  have infraRun : DomainRun nodes infra reported
      (infra.foldl (placeInfra nodes (domainZonesOf zones step)) reported) :=
    DomainRun.foldl _ fun state index member => placeInfra_run _ state member
  generalize isPlaced : infra.foldl (placeInfra nodes (domainZonesOf zones step)) reported =
    placed at infraRun
  have hostRun : DomainRun nodes front placed
      (front.foldl (fun state index => placeHost nodes (stepOf nodes (domainZonesOf zones step)
        index) state index) (placed, hostStartOffset placed.allocator)).1 :=
    foldl_placeHost_run (stepOf nodes (domainZonesOf zones step)) front
      (placed, hostStartOffset placed.allocator) fun _ member => member
  refine ⟨?_, ?_, ?_⟩
  · rw [foldl_placeHost_accepted, ← isPlaced, foldl_placeInfra_accepted, ← isReported,
      foldl_reportInfraGuests_accepted]
  · exact DomainRun.lists hostRun (DomainRun.lists infraRun (DomainRun.lists reportRun lists))
  · intro entity here
    rw [DomainRun.frame hostRun entity (here ▸ notBefore),
      DomainRun.frame infraRun entity (here ▸ noInfra),
      DomainRun.frame reportRun entity List.not_mem_nil]

theorem assigned_at_turn (nodup : nodeIndexes.Nodup) {host : Nat} {node : NodeDTO}
    (found : nodes[host]? = some node) (member : host ∈ networkIndexes nodes nodeIndexes)
    (hosting : isHost nodes (domainZonesOf zones step) host = true) {entity : Entity}
    (here : entity.nodeIndex = host) :
    assignedIPIn (placeMembers nodes zones nodeIndexes step state).results entity =
      assignedIPIn (placeHost nodes (stepOf nodes (domainZonesOf zones step) host)
        (hostTurn nodes zones nodeIndexes step state host) host).1.results entity := by
  unfold placeMembers hostTurn
  dsimp only
  generalize isHosts : orderedHosts nodes ((networkIndexes nodes nodeIndexes).filter
    (isHost nodes (domainZonesOf zones step))) = hosts
  have hostsNodup : hosts.Nodup :=
    isHosts ▸ nodup_orderedHosts ((nodup_networkIndexes nodup).filter _)
  have inHosts : host ∈ hosts := by
    rw [← isHosts]
    exact mem_orderedHosts (List.mem_filter.mpr ⟨member, hosting⟩) found
  rcases takeWhile_split hostsNodup inHosts with ⟨rest, split, after, _⟩
  generalize hosts.takeWhile (· ≠ host) = front at split
  rw [split, List.foldl_append, List.foldl_cons]
  have restRun (state : DomainState × Int) : DomainRun nodes rest state.1
      (rest.foldl (fun state index => placeHost nodes (stepOf nodes (domainZonesOf zones step)
        index) state index) state).1 :=
    foldl_placeHost_run (stepOf nodes (domainZonesOf zones step)) rest state fun _ member => member
  exact DomainRun.frame (restRun _) entity (here ▸ after)

theorem choose_of_accepted {turn : DomainState} {id : String} {ip : Nat}
    (known : turn.accepted.lookup id = some ip) (found : Nat) :
    turn.choose id found = some ip := by
  unfold DomainState.choose
  rw [known]

theorem assigned_placeHost {turn : DomainState × Int} (lists : Lists nodes turn.1.results)
    {host ip : Nat} {node : NodeDTO} (found : nodes[host]? = some node)
    (known : turn.1.accepted.lookup node.id = some ip) :
    assignedIPIn (placeHost nodes step turn host).1.results (.node host) = formatIPv4 ip := by
  have named : entityID nodes (.node host) = some node.id := by simp [entityID, found]
  rw [placeHost_eq step turn found, choose_of_accepted known]
  dsimp only
  rw [finishHost_frame]
  exact assigned_settle lists named known _ _

theorem exists_guestTurn {turn : DomainState × Int} {host guest hostIP : Nat} {node : NodeDTO}
    {vm : VMDTO} (found : nodes[host]? = some node) (listed : node.vms[guest]? = some vm)
    (chosen : turn.1.choose node.id (hostSearch turn) = some hostIP) :
    ∃ before, DomainRun nodes [host] turn.1 before ∧ before.accepted = turn.1.accepted ∧
      assignedIPIn before.results (.vm host guest) = assignedIPIn turn.1.results (.vm host guest) ∧
      assignedIPIn (placeHost nodes step turn host).1.results (.vm host guest) =
        assignedIPIn (placeVM host node.id hostIP (blockEndOf turn.1.allocator hostIP step)
          before (vm, guest)).results (.vm host guest) := by
  have hostNamed : entityID nodes (.node host) = some node.id := by simp [entityID, found]
  have settled : DomainRun nodes [host] turn.1 (settledHost turn host node).1 :=
    settle_run (.node host) (List.mem_singleton.mpr rfl) hostNamed
      SubnetAllocator.isAvailable_allocateSlot _
  have accepted : (settledHost turn host node).1.accepted = turn.1.accepted :=
    congrArg Prod.fst (settle_reports _ _ _ _ _)
  have unchanged : assignedIPIn (settledHost turn host node).1.results (.vm host guest) =
      assignedIPIn turn.1.results (.vm host guest) := settle_frame _ _ _ _ (by simp)
  have sameEnd : blockEndOf (settledHost turn host node).1.allocator hostIP step =
      blockEndOf turn.1.allocator hostIP step := by
    unfold settledHost DomainState.settle
    dsimp only
    split
    · rfl
    · split <;> rfl
  rw [placeHost_eq step turn found, chosen]
  dsimp only
  rw [finishHost_results, sameEnd]
  generalize blockEndOf turn.1.allocator hostIP step = blockEnd
  generalize (settledHost turn host node).1 = state at settled accepted unchanged
  have member : (vm, guest) ∈ node.vms.zipIdx := List.mem_zipIdx_iff_getElem?.mpr listed
  have nodup : node.vms.zipIdx.Nodup := by
    apply List.Nodup.of_map Prod.snd
    rw [List.zipIdx_map_snd]
    exact List.nodup_range'
  rcases takeWhile_split nodup member with ⟨rest, split, after, before⟩
  have others {entries : List (VMDTO × Nat)} (some : entries ⊆ node.vms.zipIdx)
      (without : (vm, guest) ∉ entries) :
      ∀ entry ∈ entries, Entity.vm host guest ≠ .vm host entry.2 := by
    intro entry inside same
    rw [Entity.vm.injEq] at same
    have located := List.mem_zipIdx_iff_getElem?.mp (some inside)
    rw [← same.2, listed] at located
    apply without
    rw [Option.some.inj located, same.2]
    exact inside
  have frontSome : node.vms.zipIdx.takeWhile (· ≠ (vm, guest)) ⊆ node.vms.zipIdx :=
    (List.takeWhile_sublist _).subset
  have restSome : rest ⊆ node.vms.zipIdx := by
    intro entry inRest
    rw [split]
    exact List.mem_append_right _ (List.mem_cons_of_mem _ inRest)
  generalize node.vms.zipIdx.takeWhile (· ≠ (vm, guest)) = front at split before frontSome
  have frontRun : DomainRun nodes [host] state
      (front.foldl (placeVM host node.id hostIP blockEnd) state) :=
    DomainRun.foldl front fun state entry inFront =>
      placeVM_run found (List.mem_singleton.mpr rfl) hostIP blockEnd state
        (List.mem_zipIdx_iff_getElem?.mp (frontSome inFront))
  have frontAccepted : (front.foldl (placeVM host node.id hostIP blockEnd) state).accepted =
      state.accepted := by
    have guests (entry : DomainState) (guest : VMDTO × Nat) :
        (placeVM host node.id hostIP blockEnd entry guest).reports = entry.reports := by
      rw [placeVM_eq, settle_reports]
    exact congrArg Prod.fst (foldl_keeps DomainState.reports guests front state)
  refine ⟨_, settled.trans frontRun, frontAccepted.trans accepted, ?_, ?_⟩
  · rw [foldl_placeVM_frame front (others frontSome before)]
    exact unchanged
  · rw [split, List.foldl_append, List.foldl_cons,
      foldl_placeVM_frame rest (others restSome after)]

theorem assigned_guest {turn : DomainState × Int} (lists : Lists nodes turn.1.results)
    {host guest ip hostIP : Nat} {node : NodeDTO} {vm : VMDTO} (found : nodes[host]? = some node)
    (listed : node.vms[guest]? = some vm)
    (chosen : turn.1.choose node.id (hostSearch turn) = some hostIP)
    (known : turn.1.accepted.lookup vm.id = some ip) :
    assignedIPIn (placeHost nodes step turn host).1.results (.vm host guest) = formatIPv4 ip := by
  have named : entityID nodes (.vm host guest) = some vm.id := by simp [entityID, found, listed]
  rcases exists_guestTurn step found listed chosen with
    ⟨before, run, accepted, _, assigned⟩
  rw [assigned, placeVM_eq]
  exact assigned_settle (DomainRun.lists run lists) named (accepted ▸ known) _ _

theorem unassigned_guest {turn : DomainState × Int} {host guest : Nat} {node : NodeDTO}
    (found : nodes[host]? = some node)
    (none : turn.1.choose node.id (hostSearch turn) = none) :
    assignedIPIn (placeHost nodes step turn host).1.results (.vm host guest) =
      assignedIPIn turn.1.results (.vm host guest) := by
  rw [placeHost_eq step turn found, none]
  exact settle_frame _ _ _ _ (by simp)

end Place

/-! ## What placing reads -/

section Books

variable {nodes : List NodeDTO} {first second : DomainState}

theorem books_settle (same : first.books = second.books) (entity : Entity) (id message : String)
    (found : Nat) :
    (first.settle entity id message found).books =
      (second.settle entity id message found).books := by
  cases first
  cases second
  simp only [DomainState.books, Prod.mk.injEq] at same
  rcases same with ⟨rfl, rfl, rfl⟩
  unfold DomainState.settle
  dsimp only
  split
  · rfl
  · split <;> rfl

theorem books_reportInfraGuests (same : first.books = second.books) (index : Nat) :
    (reportInfraGuests nodes first index).books = (reportInfraGuests nodes second index).books := by
  unfold reportInfraGuests
  split
  · exact same
  · split
    · exact same
    · exact same

theorem books_placeInfra (zones : List (String × ZoneConfig)) (same : first.books = second.books)
    (index : Nat) :
    (placeInfra nodes zones first index).books = (placeInfra nodes zones second index).books := by
  cases found : nodes[index]? with
  | none => simpa only [placeInfra, found] using same
  | some node =>
      rw [placeInfra_eq zones first found, placeInfra_eq zones second found]
      have allocator : first.allocator = second.allocator := congrArg Prod.fst same
      rw [allocator]
      exact books_settle same _ _ _ _

/-- Two states before the turn of a host that it cannot tell apart. -/
structure SameTurn (first second : DomainState × Int) : Prop where
  books : first.1.books = second.1.books
  offset : first.2 = second.2

theorem SameTurn.search {first second : DomainState × Int} (same : SameTurn first second) :
    hostSearch first = hostSearch second := by
  have allocator : first.1.allocator = second.1.allocator := congrArg Prod.fst same.books
  unfold hostSearch
  rw [allocator, same.offset]

theorem SameTurn.choose {first second : DomainState × Int} (same : SameTurn first second)
    (id : String) :
    first.1.choose id (hostSearch first) = second.1.choose id (hostSearch second) := by
  have accepted : first.1.accepted = second.1.accepted :=
    congrArg (fun books => books.2.2) same.books
  unfold DomainState.choose
  rw [accepted, same.search]

theorem SameTurn.finishHost {first second : DomainState × Int} (same : SameTurn first second)
    (node : NodeDTO) (step : Int) (index hostIP : Nat) :
    SameTurn (finishHost node step index hostIP first) (finishHost node step index hostIP second) := by
  have allocator : first.1.allocator = second.1.allocator := congrArg Prod.fst same.books
  have sameEnd : blockEndOf first.1.allocator hostIP step =
      blockEndOf second.1.allocator hostIP step := by
    rw [allocator]
  unfold Ipam.finishHost
  dsimp only
  rw [sameEnd, same.offset]
  generalize blockEndOf second.1.allocator hostIP step = blockEnd
  have guests : (node.vms.zipIdx.foldl (placeVM index node.id hostIP blockEnd) first.1).books =
      (node.vms.zipIdx.foldl (placeVM index node.id hostIP blockEnd) second.1).books := by
    apply List.foldl_rel (r := fun left right : DomainState => left.books = right.books) same.books
    intro entry _ left right equal
    have sameAllocator : left.allocator = right.allocator := congrArg Prod.fst equal
    rw [placeVM_eq, placeVM_eq, sameAllocator]
    exact books_settle equal _ _ _ _
  generalize node.vms.zipIdx.foldl (placeVM index node.id hostIP blockEnd) first.1 = left at guests
  generalize node.vms.zipIdx.foldl (placeVM index node.id hostIP blockEnd) second.1 = right
    at guests
  cases left
  cases right
  simp only [DomainState.books, Prod.mk.injEq] at guests
  rcases guests with ⟨rfl, rfl, rfl⟩
  exact ⟨rfl, rfl⟩

theorem SameTurn.placeHost {first second : DomainState × Int} (same : SameTurn first second)
    (step : Int) (index : Nat) :
    SameTurn (placeHost nodes step first index) (placeHost nodes step second index) := by
  cases found : nodes[index]? with
  | none => simpa only [Ipam.placeHost, found] using same
  | some node =>
      have settled : SameTurn (settledHost first index node) (settledHost second index node) := by
        unfold settledHost
        rw [same.search]
        exact ⟨books_settle same.books _ _ _ _, same.offset⟩
      rw [placeHost_eq step first found, placeHost_eq step second found, same.choose]
      cases second.1.choose node.id (hostSearch second) with
      | none => exact settled
      | some hostIP => exact settled.finishHost node step index hostIP

theorem SameTurn.hostTurn (zones : List (String × ZoneConfig)) (nodeIndexes : List Nat)
    (step : Int) (same : first.books = second.books) (host : Nat) :
    SameTurn (hostTurn nodes zones nodeIndexes step first host)
      (hostTurn nodes zones nodeIndexes step second host) := by
  unfold Ipam.hostTurn
  dsimp only
  generalize (networkIndexes nodes nodeIndexes).filter
    (fun index => !isHost nodes (domainZonesOf zones step) index) = infra
  have reported : (infra.foldl (reportInfraGuests nodes) first).books =
      (infra.foldl (reportInfraGuests nodes) second).books :=
    List.foldl_rel (r := fun left right : DomainState => left.books = right.books) same
      fun index _ _ _ equal => books_reportInfraGuests equal index
  have placed : (infra.foldl (placeInfra nodes (domainZonesOf zones step))
      (infra.foldl (reportInfraGuests nodes) first)).books =
        (infra.foldl (placeInfra nodes (domainZonesOf zones step))
          (infra.foldl (reportInfraGuests nodes) second)).books :=
    List.foldl_rel (r := fun left right : DomainState => left.books = right.books) reported
      fun index _ _ _ equal => books_placeInfra _ equal index
  apply List.foldl_rel (r := SameTurn)
  · refine ⟨placed, ?_⟩
    exact congrArg hostStartOffset (congrArg Prod.fst placed)
  · intro index _ left right equal
    exact equal.placeHost _ index

end Books

/-! ## Requests -/

/-- What the search for a host finds when its turn comes, zero for nothing. -/
def searchedIP (req : AllocateRequest) (host : Nat) : Option Nat :=
  (domainOf req (.node host)).bind fun key =>
    ((openDomains req.nodes (normalizeRouters req.routers) (ownerRouter req)).domains.find?
      (·.key = key)).map fun domain =>
        let members :=
          domainNodeIndexes req.nodes (normalizeRouters req.routers) (ownerRouter req) key
        let zones := mergeZones req.customZones
        hostSearch (hostTurn req.nodes zones members
          (memberStep req.nodes zones members domain.allocator)
          (reserveMembers req.nodes members domain.opening) host)

/-- A guest whose address is lost: its host has no part in addressing, or the
guest has reserved its address, its host has reserved none, and the subnet is
full when the turn of the host comes. -/
def Stranded (req : AllocateRequest) : Entity → Prop
  | .node _ => False
  | .vm host index =>
      (req.nodes[host]?.any fun node => node.type ∈ nonNetworkTypes) = true ∨
        (reservedIP req (.vm host index)).isSome ∧ reservedIP req (.node host) = none ∧
          searchedIP req host = some 0

/-- A network node, or a guest in a zone that can host guests. -/
def Addressable (zones : List (String × ZoneConfig)) (node : NodeDTO) : Entity → Prop
  | .node _ => node.type ∉ nonNetworkTypes
  | .vm _ _ => (getZone node.type zones).canHostVMs = true

/-- A network node behind a router, or a guest on a node behind a router whose
zone can host guests, brings an IPv4 address along. -/
structure Asks (req : AllocateRequest) (entity : Entity) (value : String) : Prop where
  given : existingOf req.nodes entity = value
  nonempty : value ≠ ""
  /-- It is no text of an IPv6 address. -/
  plain : ':' ∉ value.toList
  reachable : ∃ node, req.nodes[entity.nodeIndex]? = some node ∧
    (ownerRouter req node.id).isSome = true ∧ Addressable (mergeZones req.customZones) node entity

/-- An address that was asked for is assigned, or there is a conflict about it. -/
def Kept (req : AllocateRequest) (resp : AllocateResponse) (entity : Entity) (value : String) :
    Prop :=
  resp.assignedIP entity = value ∨
    ∃ issue ∈ resp.conflicts, issue.nodeID = idOf req.nodes entity

/-! ## In the turn of a domain -/

abbrev membersOf (req : AllocateRequest) (domain : AllocationDomain) : List Nat :=
  domainNodeIndexes req.nodes (normalizeRouters req.routers) (ownerRouter req) domain.key

/-- The state of a domain when all addresses that are brought have been looked at. -/
abbrev reservedState (req : AllocateRequest) (domain : AllocationDomain)
    (before : AllocateResponse) : DomainState :=
  reserveMembers req.nodes (membersOf req domain) (domain.turn before)

abbrev stepIn (req : AllocateRequest) (domain : AllocationDomain) : Int :=
  memberStep req.nodes (mergeZones req.customZones) (membersOf req domain) domain.allocator

/-- The turn of a domain, and what the response keeps of it. -/
structure Served (req : AllocateRequest) (domain : AllocationDomain) (before : AllocateResponse) :
    Prop where
  listed : domain ∈
    (openDomains req.nodes (normalizeRouters req.routers) (ownerRouter req)).domains
  turn : Turn req (ownerRouter req) domain before
  reporting : (turnEnd req (ownerRouter req) domain before).conflicts ⊆ (allocate req).conflicts
  final : ∀ entity : Entity, entity.nodeIndex ∈ membersOf req domain →
    (allocate req).assignedIP entity =
      assignedIPIn (turnEnd req (ownerRouter req) domain before).results entity

section Served

variable {req : AllocateRequest} {domain : AllocationDomain} {before : AllocateResponse}

theorem exists_served (distinct : DistinctIDs req) {index : Nat} {node : NodeDTO}
    (found : req.nodes[index]? = some node) (reachable : (ownerRouter req node.id).isSome = true) :
    ∃ domain before, Served req domain before ∧ index ∈ membersOf req domain := by
  rcases Option.isSome_iff_exists.mp reachable with ⟨owner, owned⟩
  have inNodes : node ∈ req.nodes := List.mem_of_getElem? found
  have plain : isRouterID req.routers node.id = false := by
    rw [isRouterID, List.any_eq_false]
    intro router member same
    rw [decide_eq_true_eq] at same
    have entity : node.id ∈ entityIDs req.nodes :=
      List.mem_flatMap.mpr ⟨node, inNodes, List.mem_cons_self⟩
    exact (List.nodup_append.mp distinct).2.2 _ (List.mem_map_of_mem member) _ entity same
  have nodeIDs := distinctNodeIDs_of_nodup distinct.entities
  rcases ((ownerRouter_eq_some_iff nodeIDs ⟨node, inNodes, rfl⟩ plain owner).mp owned).1 with
    ⟨router, located, _⟩
  have entry : (normalizeRouters req.routers)[owner]? = some (normalizeRouter owner router) := by
    simp [normalizeRouters, located]
  rcases (opened_openDomains req.routers req.nodes (ownerRouter req)).joined entry with
    ⟨domain, joined⟩
  have served : routerDomain (normalizeRouters req.routers) owner = some domain.key :=
    routerDomain_eq_some.mpr ⟨_, entry, joined.key.symm⟩
  have member : index ∈ membersOf req domain := by
    apply mem_domainNodeIndexes.mpr
    refine ⟨node, found, ?_⟩
    rw [nodeDomain, owned, Option.bind_some, served]
  rcases @exists_turnOf_reporting _ (mergeZones req.customZones) _
      (membersApart_domainNodeIndexes _ _ _) _ _ _
      (upcoming_startResponse req (ownerRouter req)) joined.listed with ⟨before, turn, reporting⟩
  refine ⟨domain, before, ⟨joined.listed, turn, ?_, ?_⟩, member⟩
  · rw [allocate_of_routerDomain served]
    exact reporting
  · intro entity inDomain
    rw [allocate_of_routerDomain served]
    exact turn.final entity inDomain

theorem Served.reservedIP_eq (served : Served req domain before) {entity : Entity}
    (member : entity.nodeIndex ∈ membersOf req domain) :
    reservedIP req entity =
      (reservedState req domain before).accepted.lookup (idOf req.nodes entity) := by
  rw [reservedIP_of_member served.listed member, ← accepted_allocateDomain_turn req.nodes
    (mergeZones req.customZones) _ domain before, reserveMembers_accepted]

theorem Served.searchedIP_eq (served : Served req domain before) {host : Nat}
    (member : host ∈ membersOf req domain) :
    searchedIP req host = some (hostSearch (hostTurn req.nodes (mergeZones req.customZones)
      (membersOf req domain) (stepIn req domain) (reservedState req domain before) host)) := by
  have inDomain : domainOf req (.node host) = some domain.key := domainOf_eq_some.mpr member
  have books : (reserveMembers req.nodes (membersOf req domain) domain.opening).books =
      (reservedState req domain before).books := by
    unfold reservedState
    rw [reserveMembers_eq, reserveMembers_eq]
    exact books_reserveAll _ _ _ rfl
  rw [searchedIP, inDomain, Option.bind_some, find?_openDomains served.listed,
    Option.map_some]
  exact congrArg some (SameTurn.hostTurn _ _ _ books host).search

theorem turnEnd_eq : turnEnd req (ownerRouter req) domain before =
    placeMembers req.nodes (mergeZones req.customZones) (membersOf req domain)
      (stepIn req domain) (reservedState req domain before) :=
  allocateDomain_eq _ _ _ _

theorem Served.lists (served : Served req domain before) :
    Lists req.nodes (reservedState req domain before).results := by
  rw [reserveMembers_results]
  exact served.turn.upcoming.lists

theorem mem_reservingEntities {nodes : List NodeDTO} {nodeIndexes : List Nat} {entity : Entity}
    {id : String} (named : entityID nodes entity = some id)
    (member : entity.nodeIndex ∈ networkIndexes nodes nodeIndexes) :
    entity ∈ reservingEntities nodes nodeIndexes := by
  refine List.mem_flatMap.mpr ⟨entity.nodeIndex, member, ?_⟩
  cases entity with
  | node index =>
      rcases Option.map_eq_some_iff.mp named with ⟨node, found, _⟩
      simp [entitiesOf, Entity.nodeIndex, found]
  | vm host index =>
      rcases Option.map_eq_some_iff.mp named with ⟨vm, found, _⟩
      rcases Option.bind_eq_some_iff.mp found with ⟨node, located, guest⟩
      have inVMs : (vm, index) ∈ node.vms.zipIdx := List.mem_zipIdx_iff_getElem?.mpr guest
      simp only [entitiesOf, Entity.nodeIndex, located]
      exact List.mem_cons_of_mem _ (List.mem_map.mpr ⟨(vm, index), inVMs, rfl⟩)

/-- An address a network node or one of its guests brings along is reserved or
reported. -/
theorem Served.reserved_or_reported (served : Served req domain before)
    (distinct : DistinctIDs req) {entity : Entity} {id value : String}
    (named : entityID req.nodes entity = some id)
    (member : entity.nodeIndex ∈ networkIndexes req.nodes (membersOf req domain))
    (given : existingOf req.nodes entity = value) (nonempty : value ≠ "") :
    (∃ ip, parseIPTo4 value = some ip ∧
      (reservedState req domain before).accepted.lookup (idOf req.nodes entity) = some ip) ∨
    ∃ issue ∈ (allocate req).conflicts, issue.nodeID = idOf req.nodes entity := by
  have names : Named req.nodes (membersOf req domain) _ :=
    named_reservingEntities (List.nodup_range.filter _)
  have owned : Owned { domain.turn before with accepted := [] } :=
    owned_turn (served.turn.upcoming.wellFormed domain List.mem_cons_self) before
  have filled : existingOf req.nodes entity ≠ "" := given ▸ nonempty
  have outcome := Ipam.reserved_or_reported (distinctEntities_of_nodup distinct.entities)
    filled _ names owned (mem_reservingEntities named member)
  rw [← reserveMembers_eq, given] at outcome
  refine outcome.imp_right ?_
  rintro ⟨issue, reported, about⟩
  have run : DomainRun req.nodes (membersOf req domain) (reservedState req domain before)
      (turnEnd req (ownerRouter req) domain before) := by
    rw [turnEnd_eq]
    exact placeMembers_run _ _ _ _
  have grown := DomainRun.conflicts_grow run
  exact ⟨issue, served.reporting (grown.subset reported), about⟩

theorem Served.network {index : Nat} {node : NodeDTO} (member : index ∈ membersOf req domain)
    (found : req.nodes[index]? = some node) (network : node.type ∉ nonNetworkTypes) :
    index ∈ networkIndexes req.nodes (membersOf req domain) := by
  refine List.mem_filter.mpr ⟨member, ?_⟩
  simpa [found] using network

theorem isHost_of_zone {index : Nat} {node : NodeDTO} (found : req.nodes[index]? = some node)
    (step : Int) : isHost req.nodes (domainZonesOf (mergeZones req.customZones) step) index =
      (getZone node.type (mergeZones req.customZones)).canHostVMs := by
  rw [isHost_domainZonesOf, isHost, found, Option.any_some]

theorem Served.assigned_node (served : Served req domain before) {index ip : Nat}
    {node : NodeDTO} (found : req.nodes[index]? = some node)
    (member : index ∈ membersOf req domain) (network : node.type ∉ nonNetworkTypes)
    (known : (reservedState req domain before).accepted.lookup node.id = some ip) :
    (allocate req).assignedIP (.node index) = formatIPv4 ip := by
  have nodup : (membersOf req domain).Nodup := List.nodup_range.filter _
  have inNetwork := Served.network member found network
  rw [served.final (.node index) member, turnEnd_eq]
  cases hosting : isHost req.nodes (domainZonesOf (mergeZones req.customZones)
      (stepIn req domain)) index with
  | false => exact assigned_infra _ _ nodup served.lists found inNetwork hosting known
  | true =>
      have turn := turnFrom_hostTurn (mergeZones req.customZones) (stepIn req domain) nodup
        served.lists found inNetwork hosting
      rw [assigned_at_turn _ _ nodup found inNetwork hosting rfl]
      apply assigned_placeHost _ turn.lists found
      rw [turn.accepted]
      exact known

theorem choose_eq_none {state : DomainState} {id : String} {found : Nat} :
    state.choose id found = none ↔ state.accepted.lookup id = none ∧ found = 0 := by
  unfold DomainState.choose
  cases state.accepted.lookup id with
  | some ip => simp
  | none => by_cases empty : found = 0 <;> simp [empty]

theorem idOf_of_named {nodes : List NodeDTO} {entity : Entity} {id : String}
    (named : entityID nodes entity = some id) : idOf nodes entity = id := by
  rw [idOf, named, Option.getD_some]

theorem Served.assigned_vm (served : Served req domain before) {host guest ip : Nat}
    {node : NodeDTO} {vm : VMDTO} (found : req.nodes[host]? = some node)
    (listed : node.vms[guest]? = some vm) (member : host ∈ membersOf req domain)
    (network : node.type ∉ nonNetworkTypes)
    (hosting : (getZone node.type (mergeZones req.customZones)).canHostVMs = true)
    (known : (reservedState req domain before).accepted.lookup vm.id = some ip) :
    (allocate req).assignedIP (.vm host guest) =
      if reservedIP req (.node host) = none ∧ searchedIP req host = some 0 then ""
      else formatIPv4 ip := by
  have nodup : (membersOf req domain).Nodup := List.nodup_range.filter _
  have inNetwork := Served.network member found network
  rw [← isHost_of_zone found (stepIn req domain)] at hosting
  have turn := turnFrom_hostTurn (mergeZones req.customZones) (stepIn req domain) nodup
    served.lists found inNetwork hosting
  have hostID : idOf req.nodes (.node host) = node.id := by simp [idOf, entityID, found]
  have hostReserved : reservedIP req (.node host) = _ := Served.reservedIP_eq served member
  rw [hostID, ← turn.accepted] at hostReserved
  rw [served.final (.vm host guest) member, turnEnd_eq,
    assigned_at_turn _ _ nodup found inNetwork hosting rfl, hostReserved,
    served.searchedIP_eq member]
  simp only [Option.some.injEq]
  cases chosen : (hostTurn req.nodes (mergeZones req.customZones) (membersOf req domain)
      (stepIn req domain) (reservedState req domain before) host).1.choose node.id
        (hostSearch (hostTurn req.nodes (mergeZones req.customZones) (membersOf req domain)
          (stepIn req domain) (reservedState req domain before) host)) with
  | none =>
      rw [if_pos (choose_eq_none.mp chosen), unassigned_guest _ found chosen,
        turn.frame (.vm host guest) rfl, reserveMembers_results]
      exact served.turn.upcoming.unassigned domain List.mem_cons_self (.vm host guest) member
  | some hostIP =>
      have settled : ¬ (_ ∧ _) := fun empty => by
        rw [choose_eq_none.mpr empty] at chosen
        cases chosen
      rw [if_neg settled]
      apply assigned_guest _ turn.lists found listed chosen
      rw [turn.accepted]
      exact known

theorem Served.unassigned_vm (served : Served req domain before) {host guest : Nat}
    (member : host ∈ membersOf req domain)
    (foreign : host ∉ networkIndexes req.nodes (membersOf req domain)) :
    (allocate req).assignedIP (.vm host guest) = "" := by
  have idempotent : networkIndexes req.nodes (networkIndexes req.nodes (membersOf req domain)) =
      networkIndexes req.nodes (membersOf req domain) := by
    unfold networkIndexes
    rw [List.filter_filter]
    simp only [Bool.and_self]
  have same : allocateDomain req.nodes (mergeZones req.customZones)
      (networkIndexes req.nodes (membersOf req domain)) (domain.turn before) =
        turnEnd req (ownerRouter req) domain before := by
    unfold turnEnd allocateDomain
    rw [idempotent]
  have run : DomainRun req.nodes _ (domain.turn before) _ :=
    allocateDomain_run (mergeZones req.customZones)
      (networkIndexes req.nodes (membersOf req domain)) (domain.turn before)
  rw [same] at run
  rw [served.final (.vm host guest) member, DomainRun.frame run (.vm host guest) foreign]
  exact served.turn.upcoming.unassigned domain List.mem_cons_self (.vm host guest) member

/-- There is no conflict about a guest that has reserved its address, nor about
one whose host has no part in addressing. -/
theorem unreported_vm (distinct : DistinctIDs req) {host guest : Nat} {id : String}
    (named : entityID req.nodes (.vm host guest) = some id) {key : DomainKey}
    (inDomain : domainOf req (.vm host guest) = some key)
    (quiet : (∃ ip, reservedIP req (.vm host guest) = some ip) ∨
      (req.nodes[host]?.any fun node => node.type ∈ nonNetworkTypes) = true)
    {issue : Issue} (reported : issue ∈ (allocate req).conflicts) : issue.nodeID ≠ id := by
  intro about
  have entities := distinctEntities_of_nodup distinct.entities
  rcases turnedDown_of_reported req distinct named inDomain reported about with
    ⟨index, node, found, _, _, isIssue⟩ | ⟨domain, before, turn, listed, known, reason⟩
  · have isNode : entityID req.nodes (.node index) = some id := by
      rw [isIssue] at about
      simp only at about
      simp [entityID, found, about]
    exact absurd (entities _ _ id isNode named) (by simp)
  · have names : Named req.nodes (membersOf req domain) _ :=
      named_reservingEntities (List.nodup_range.filter _)
    have member : host ∈ membersOf req domain := names.member _ known
    rcases quiet with ⟨ip, reserved⟩ | foreign
    · have parsed := (eq_of_reservedIP entities named reserved).1
      have kept : reservedIP req (.vm host guest) = _ := reservedIP_of_member listed member
      rw [kept] at reserved
      have promised : (ledgerOf req.nodes (membersOf req domain)
          (turnEnd req (ownerRouter req) domain before)).promised (.vm host guest) = some ip := by
        apply promised_of_accepted known
        rw [← accepted_allocateDomain_turn req.nodes (mergeZones req.customZones) _ domain before,
          reserveMembers_accepted] at reserved
        exact reserved
      have sound := Turn.sound turn entities
      have facts := sound.promised promised
      rcases reason ip parsed with outside | taken | ⟨holder, holderKnown, different, holds⟩
      · exact absurd facts.1 outside
      · exact absurd taken facts.2.1
      · have other := promised_of_accepted holderKnown holds
        exact absurd (congrArg (idOf req.nodes) (sound.promisedOnce other promised)) different
    · rcases List.mem_flatMap.mp known with ⟨index, inNetwork, isEntity⟩
      rw [← (mem_entitiesOf isEntity).1] at inNetwork
      have network := (List.mem_filter.mp inNetwork).2
      cases found : req.nodes[host]? with
      | none => simp [found] at foreign
      | some node => simp_all [Entity.nodeIndex]

end Served

/-! ## The addresses that are kept -/

theorem entityID_of_existing {nodes : List NodeDTO} {entity : Entity} {value : String}
    (given : existingOf nodes entity = value) (nonempty : value ≠ "") :
    ∃ id, entityID nodes entity = some id := by
  subst given
  cases entity with
  | node index =>
      cases found : nodes[index]? with
      | none => simp [existingOf, found] at nonempty
      | some node => exact ⟨node.id, by simp [entityID, found]⟩
  | vm host index =>
      cases found : nodes[host]? with
      | none => simp [existingOf, found] at nonempty
      | some node =>
          cases listed : node.vms[index]? with
          | none => simp [existingOf, found, listed] at nonempty
          | some vm => exact ⟨vm.id, by simp [entityID, found, listed]⟩

theorem Served.kept_node {req : AllocateRequest} {domain : AllocationDomain}
    {before : AllocateResponse} (served : Served req domain before) (distinct : DistinctIDs req)
    {index : Nat} {node : NodeDTO} {value : String} (found : req.nodes[index]? = some node)
    (member : index ∈ membersOf req domain) (network : node.type ∉ nonNetworkTypes)
    (asks : Asks req (.node index) value) : Kept req (allocate req) (.node index) value := by
  have named : entityID req.nodes (.node index) = some node.id := by simp [entityID, found]
  have outcome := served.reserved_or_reported distinct named
    (Served.network member found network) asks.given asks.nonempty
  rw [idOf_of_named named] at outcome
  rcases outcome with ⟨ip, parsed, known⟩ | ⟨issue, reported, about⟩
  · left
    rw [served.assigned_node found member network known,
      eq_formatIPv4_of_parseIPTo4 asks.plain parsed]
  · exact .inr ⟨issue, reported, about.trans (idOf_of_named named).symm⟩

/-- A guest of a network node loses the address it brings along exactly when it
has reserved it and the host finds none for itself. -/
theorem Served.kept_vm_iff {req : AllocateRequest} {domain : AllocationDomain}
    {before : AllocateResponse} (served : Served req domain before) (distinct : DistinctIDs req)
    {host guest : Nat} {node : NodeDTO} {value : String} (found : req.nodes[host]? = some node)
    (member : host ∈ membersOf req domain) (network : node.type ∉ nonNetworkTypes)
    (hosting : (getZone node.type (mergeZones req.customZones)).canHostVMs = true)
    (asks : Asks req (.vm host guest) value) :
    Kept req (allocate req) (.vm host guest) value ↔
      ¬ ((reservedIP req (.vm host guest)).isSome ∧ reservedIP req (.node host) = none ∧
        searchedIP req host = some 0) := by
  rcases entityID_of_existing asks.given asks.nonempty with ⟨id, named⟩
  have inDomain : domainOf req (.vm host guest) = some domain.key := domainOf_eq_some.mpr member
  rcases Option.map_eq_some_iff.mp named with ⟨vm, located, rfl⟩
  have listed : node.vms[guest]? = some vm := by simpa [found] using located
  have isReserved : reservedIP req (.vm host guest) = _ := served.reservedIP_eq member
  rcases served.reserved_or_reported distinct named (Served.network member found network)
    asks.given asks.nonempty with ⟨ip, parsed, known⟩ | reported
  · have reserved : reservedIP req (.vm host guest) = some ip := isReserved.trans known
    rw [idOf_of_named named] at known
    have assigned := served.assigned_vm found listed member network hosting known
    rw [reserved, Option.isSome_some]
    by_cases full : reservedIP req (.node host) = none ∧ searchedIP req host = some 0
    · refine iff_of_false ?_ (not_not_intro ⟨rfl, full⟩)
      rintro (same | ⟨issue, isReported, about⟩)
      · rw [assigned, if_pos full] at same
        exact asks.nonempty same.symm
      · rw [idOf_of_named named] at about
        exact unreported_vm distinct named inDomain (.inl ⟨ip, reserved⟩) isReported about
    · refine iff_of_true (.inl ?_) fun stranded => full stranded.2
      rw [assigned, if_neg full, eq_formatIPv4_of_parseIPTo4 asks.plain parsed]
  · refine iff_of_true (.inr reported) ?_
    rcases reported with ⟨issue, isReported, about⟩
    rw [idOf_of_named named] at about
    intro stranded
    exact unreported_vm distinct named inDomain
      (.inl (Option.isSome_iff_exists.mp stranded.1)) isReported about

theorem Served.not_kept_vm {req : AllocateRequest} {domain : AllocationDomain}
    {before : AllocateResponse} (served : Served req domain before) (distinct : DistinctIDs req)
    {host guest : Nat} {node : NodeDTO} {value : String} (found : req.nodes[host]? = some node)
    (member : host ∈ membersOf req domain) (foreign : node.type ∈ nonNetworkTypes)
    (asks : Asks req (.vm host guest) value) :
    ¬ Kept req (allocate req) (.vm host guest) value := by
  rcases entityID_of_existing asks.given asks.nonempty with ⟨id, named⟩
  have inDomain : domainOf req (.vm host guest) = some domain.key := domainOf_eq_some.mpr member
  have outside : host ∉ networkIndexes req.nodes (membersOf req domain) := by
    intro inNetwork
    have network := (List.mem_filter.mp inNetwork).2
    simp [found, foreign] at network
  have strange : (req.nodes[host]?.any fun node => node.type ∈ nonNetworkTypes) = true := by
    simp [found, foreign]
  rintro (same | ⟨issue, reported, about⟩)
  · rw [served.unassigned_vm member outside] at same
    exact asks.nonempty same.symm
  · rw [idOf_of_named named] at about
    exact unreported_vm distinct named inDomain (.inr strange) reported about

/-- An address a device brings along is lost exactly when the device is a guest
and its host has no part in addressing, or finds no address for itself. -/
theorem requested_address_kept_iff (req : AllocateRequest) (distinct : DistinctIDs req)
    {entity : Entity} {value : String} (asks : Asks req entity value) :
    Kept req (allocate req) entity value ↔ ¬ Stranded req entity := by
  rcases asks.reachable with ⟨node, found, reachable, addressable⟩
  rcases exists_served distinct found reachable with ⟨domain, before, served, member⟩
  cases entity with
  | node index =>
      exact iff_of_true (served.kept_node distinct found member addressable asks) id
  | vm host guest =>
      change req.nodes[host]? = some node at found
      by_cases foreign : node.type ∈ nonNetworkTypes
      · refine iff_of_false (served.not_kept_vm distinct found member foreign asks) ?_
        exact not_not_intro (.inl (by simp [found, foreign]))
      · rw [served.kept_vm_iff distinct found member foreign addressable asks, Stranded]
        simp [found, foreign]

/-- A subnet with two addresses: the router has one, a guest brings the other
along and its host brings none. -/
def crowdedSubnet : AllocateRequest where
  routers := [{ id := "r1", gatewayIP := "10.0.0.1", subnet := "10.0.0.0/30" }]
  nodes := [{ id := "host1", type := "server", connections := ["r1"],
              vms := [{ id := "vm1", existingIP := "10.0.0.2" }] }]

theorem asks_crowdedSubnet : Asks crowdedSubnet (.vm 0 0) "10.0.0.2" where
  given := by decide
  nonempty := by decide
  plain := by decide
  reachable := ⟨_, rfl, by decide, by unfold Addressable; decide⟩

theorem requested_address_kept_iff_crowdedSubnet :
    Kept crowdedSubnet (allocate crowdedSubnet) (.vm 0 0) "10.0.0.2" ↔
      ¬ Stranded crowdedSubnet (.vm 0 0) :=
  requested_address_kept_iff crowdedSubnet (by unfold DistinctIDs; decide) asks_crowdedSubnet

/-- The guest comes away without its address and without a conflict. -/
theorem crowdedSubnet_drops_address :
    ¬ ∀ req : AllocateRequest, DistinctIDs req → ∀ entity value, Asks req entity value →
      Kept req (allocate req) entity value := by
  intro claim
  have unassigned : (allocate crowdedSubnet).assignedIP (.vm 0 0) = "" := by decide
  have unreported : ∀ issue ∈ (allocate crowdedSubnet).conflicts, issue.nodeID ≠ "vm1" := by
    decide
  rcases claim crowdedSubnet (by unfold DistinctIDs; decide) (.vm 0 0) "10.0.0.2"
    asks_crowdedSubnet with same | ⟨issue, reported, about⟩
  · rw [unassigned] at same
    exact asks_crowdedSubnet.nonempty same.symm
  · exact unreported issue reported about

end HomelabBuilder.Ipam
