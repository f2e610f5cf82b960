import HomelabBuilder.Ipam.Replay

/-! # What a domain reports

Conflicts come from reservations and from guests of infrastructure nodes.
Placing the members adds none.
-/

namespace HomelabBuilder.Ipam

open Net

theorem foldl_keeps {σ α γ : Type} (view : σ → γ) {round : σ → α → σ}
    (keeps : ∀ state item, view (round state item) = view state) :
    ∀ (items : List α) (state : σ), view (items.foldl round state) = view state
  | [], _ => rfl
  | head :: tail, state => (foldl_keeps view keeps tail (round state head)).trans (keeps state head)

/-! ## Routers -/

def About (ids : List String) (issue : Issue) : Prop := issue.nodeID ∈ ids

theorem normalizeGateway_about (index : Nat) (router : RouterDTO) :
    (normalizeGateway index router).1.id = router.id ∧
      ∀ issue ∈ (normalizeGateway index router).2, issue.nodeID = router.id := by
  unfold normalizeGateway
  dsimp only
  split_ifs <;> simp

theorem normalizeSubnet_about (router : RouterDTO) :
    (normalizeSubnet router).router.id = router.id ∧
      ∀ issue ∈ (normalizeSubnet router).issues, issue.nodeID = router.id := by
  unfold normalizeSubnet
  dsimp only
  split
  · simp
  · split_ifs <;> simp

theorem normalizeRouter_about (index : Nat) (router : RouterDTO) :
    (normalizeRouter index router).router.id = router.id ∧
      ∀ issue ∈ (normalizeRouter index router).issues, issue.nodeID = router.id := by
  have gateway := normalizeGateway_about index router
  have subnet := normalizeSubnet_about (normalizeGateway index router).1
  refine ⟨subnet.1.trans gateway.1, fun issue member => ?_⟩
  rcases List.mem_append.mp member with early | late
  · exact gateway.2 issue early
  · exact (subnet.2 issue late).trans gateway.1

theorem normalizeRouters_ids (routers : List RouterDTO) :
    (normalizeRouters routers).map (·.router.id) = routers.map (·.id) := by
  have ids : (fun entry : RouterDTO × Nat => (normalizeRouter entry.2 entry.1).router.id) =
      fun entry => entry.1.id := funext fun entry => (normalizeRouter_about entry.2 entry.1).1
  have plain : routers.zipIdx.map (fun entry => entry.1.id) = routers.map (·.id) := by
    conv_rhs => rw [show routers = routers.zipIdx.map (·.1) by simp, List.map_map]
    rfl
  rw [normalizeRouters, List.map_map, ← plain]
  exact congrArg (fun view => routers.zipIdx.map view) ids

theorem issues_about {routers : List RouterDTO} {entry : NormalRouter}
    (member : entry ∈ normalizeRouters routers) {issue : Issue} (known : issue ∈ entry.issues) :
    issue.nodeID = entry.router.id := by
  rcases List.mem_map.mp member with ⟨⟨router, index⟩, _, rfl⟩
  have about := normalizeRouter_about index router
  exact (about.2 issue known).trans about.1.symm

private theorem foldl_routerConflicts_about {ids : List String} :
    ∀ (entries : List NormalRouter) (state : List (String × String) × List Issue),
    (∀ entry ∈ entries, entry.router.id ∈ ids ∧
      ∀ issue ∈ entry.issues, issue.nodeID = entry.router.id) →
    (∀ issue ∈ state.2, About ids issue) →
    ∀ issue ∈ (entries.foldl (fun (state : List (String × String) × List Issue) entry =>
      let router := entry.router
      match state.1.lookup router.gatewayIP with
      | some owner =>
          (state.1, state.2 ++ entry.issues ++
            [{ nodeID := router.id, message := s!"gateway IP {router.gatewayIP} conflicts with {owner}" }])
      | none =>
          ((router.gatewayIP, router.id) :: state.1, state.2 ++ entry.issues)) state).2,
      About ids issue
  | [], _, _, old => old
  | head :: tail, state, own, old => by
      refine foldl_routerConflicts_about tail _
        (fun entry member => own entry (List.mem_cons_of_mem head member)) fun issue member => ?_
      have headOwn := own head List.mem_cons_self
      have early (known : issue ∈ state.2 ++ head.issues) : About ids issue := by
        rcases List.mem_append.mp known with before | new
        · exact old issue before
        · rw [About, headOwn.2 issue new]
          exact headOwn.1
      dsimp only at member
      split at member
      · rcases List.mem_append.mp member with known | last
        · exact early known
        · rw [List.mem_singleton.mp last]
          exact headOwn.1
      · exact early member

theorem routerConflicts_about {routers : List RouterDTO} {issue : Issue}
    (member : issue ∈ routerConflicts (normalizeRouters routers)) :
    About (routers.map (·.id)) issue := by
  refine foldl_routerConflicts_about (normalizeRouters routers) ([], []) (fun entry known => ?_)
    (fun _ none => absurd none List.not_mem_nil) issue member
  refine ⟨?_, fun issue => issues_about known⟩
  rw [← normalizeRouters_ids]
  exact List.mem_map_of_mem known

theorem joinDomain_about (domain : AllocationDomain) (router : RouterDTO) :
    ∀ issue ∈ (joinDomain domain router).2, issue.nodeID = router.id := by
  unfold joinDomain
  dsimp only
  split <;> simp

private theorem foldl_openDomain_about {normal : List NormalRouter} {demand : DomainKey → Int}
    {ids : List String} : ∀ (entries : List NormalRouter) {pass : DomainPass},
    (∀ entry ∈ entries, entry.router.id ∈ ids) → (∀ issue ∈ pass.conflicts, About ids issue) →
    ∀ issue ∈ (entries.foldl (openDomain normal demand) pass).conflicts, About ids issue
  | [], _, _, old => old
  | head :: tail, pass, own, old => by
      refine foldl_openDomain_about tail
        (fun entry member => own entry (List.mem_cons_of_mem head member)) fun issue member => ?_
      have joined (domain : AllocationDomain)
          (known : issue ∈ pass.conflicts ++ (joinDomain domain head.router).2) :
          About ids issue := by
        rcases List.mem_append.mp known with before | new
        · exact old issue before
        · rw [About, joinDomain_about domain head.router issue new]
          exact own head List.mem_cons_self
      unfold openDomain at member
      split at member
      · exact joined _ member
      · exact joined _ member

theorem openDomains_about {routers : List RouterDTO} {nodes : List NodeDTO}
    {owner : String → Option Nat} {issue : Issue}
    (member : issue ∈ (openDomains nodes (normalizeRouters routers) owner).conflicts) :
    About (routers.map (·.id)) issue := by
  refine foldl_openDomain_about (normalizeRouters routers) (fun entry known => ?_)
    (fun _ none => absurd none List.not_mem_nil) issue member
  rw [← normalizeRouters_ids]
  exact List.mem_map_of_mem known

/-! ## Placing members -/

def DomainState.reports (state : DomainState) : List (String × Nat) × List Issue :=
  (state.accepted, state.conflicts)

@[simp]
theorem settle_reports (state : DomainState) (entity : Entity) (id message : String) (found : Nat) :
    (state.settle entity id message found).reports = state.reports := by
  unfold DomainState.settle
  cases state.accepted.lookup id with
  | some ip => rfl
  | none =>
      dsimp only
      split <;> rfl

@[simp]
theorem placeInfra_reports (nodes : List NodeDTO) (zones : List (String × ZoneConfig))
    (state : DomainState) (index : Nat) :
    (placeInfra nodes zones state index).reports = state.reports := by
  cases found : nodes[index]? with
  | none => simp only [placeInfra, found]
  | some node => rw [placeInfra_eq zones state found, settle_reports]

theorem finishHost_reports (node : NodeDTO) (step : Int) (index hostIP : Nat)
    (state : DomainState × Int) :
    (finishHost node step index hostIP state).1.reports = state.1.reports := by
  have guests (blockEnd : Nat) (entry : DomainState) (guest : VMDTO × Nat) :
      (placeVM index node.id hostIP blockEnd entry guest).reports = entry.reports := by
    rw [placeVM_eq, settle_reports]
  have kept := foldl_keeps DomainState.reports (guests (blockEndOf state.1.allocator hostIP step))
    node.vms.zipIdx state.1
  simp only [DomainState.reports] at kept
  simp only [finishHost, DomainState.reports, kept]

theorem placeHost_reports (nodes : List NodeDTO) (step : Int) (state : DomainState × Int)
    (index : Nat) : (placeHost nodes step state index).1.reports = state.1.reports := by
  cases found : nodes[index]? with
  | none => simp only [placeHost, found]
  | some node =>
      have settled : (settledHost state index node).1.reports = state.1.reports :=
        settle_reports _ _ _ _ _
      rw [placeHost_eq step state found]
      cases state.1.choose node.id (hostSearch state) with
      | none => exact settled
      | some hostIP => exact (finishHost_reports node step index hostIP _).trans settled

@[simp]
theorem reportInfraGuests_accepted (nodes : List NodeDTO) (state : DomainState) (index : Nat) :
    (reportInfraGuests nodes state index).accepted = state.accepted := by
  unfold reportInfraGuests
  split
  · rfl
  · split <;> rfl

theorem placeMembers_reports (nodes : List NodeDTO) (zones : List (String × ZoneConfig))
    (nodeIndexes : List Nat) (step : Int) (state : DomainState) :
    (placeMembers nodes zones nodeIndexes step state).reports =
      (((networkIndexes nodes nodeIndexes).filter fun index =>
        !isHost nodes (domainZonesOf zones step) index).foldl
          (reportInfraGuests nodes) state).reports := by
  unfold placeMembers
  dsimp only
  rw [foldl_keeps (fun placed : DomainState × Int => placed.1.reports)
    (fun placed index => placeHost_reports nodes _ placed index)]
  exact foldl_keeps DomainState.reports (placeInfra_reports nodes _) _ _

@[simp]
theorem placeMembers_accepted (nodes : List NodeDTO) (zones : List (String × ZoneConfig))
    (nodeIndexes : List Nat) (step : Int) (state : DomainState) :
    (placeMembers nodes zones nodeIndexes step state).accepted = state.accepted := by
  have same := congrArg Prod.fst (placeMembers_reports nodes zones nodeIndexes step state)
  exact same.trans (foldl_keeps DomainState.accepted (reportInfraGuests_accepted nodes) _ _)

/-! ## Guests of infrastructure nodes -/

theorem lookup_domainZonesOf (zones : List (String × ZoneConfig)) (step : Int) (kind : String) :
    (domainZonesOf zones step).lookup kind =
      (zones.lookup kind).map fun zone =>
        if zone.canHostVMs then { zone with step := step } else zone := by
  let stepped (zone : ZoneConfig) : ZoneConfig :=
    if zone.canHostVMs then { zone with step := step } else zone
  exact Table.lookup_mapValues zones stepped kind

@[simp]
theorem getZone_domainZonesOf (zones : List (String × ZoneConfig)) (step : Int) (kind : String) :
    (getZone kind (domainZonesOf zones step)).canHostVMs = (getZone kind zones).canHostVMs := by
  unfold getZone
  rw [lookup_domainZonesOf]
  cases zones.lookup kind with
  | none => rfl
  | some zone =>
      rw [Option.map_some]
      dsimp only
      split
      · rename_i hosting
        rw [hosting]
      · rfl

theorem isHost_domainZonesOf (nodes : List NodeDTO) (zones : List (String × ZoneConfig))
    (step : Int) : isHost nodes (domainZonesOf zones step) = isHost nodes zones := by
  funext index
  simp only [isHost, getZone_domainZonesOf]

/-- The report about an infrastructure node with guests. -/
def CannotHost (nodes : List NodeDTO) (zones : List (String × ZoneConfig)) (issue : Issue) : Prop :=
  ∃ index node, nodes[index]? = some node ∧ isHost nodes zones index = false ∧ node.vms ≠ [] ∧
    issue = ⟨node.id, s!"{node.type} nodes cannot host virtual machines or services"⟩

theorem mem_conflicts_reportInfraGuests {nodes : List NodeDTO} {zones : List (String × ZoneConfig)}
    {issue : Issue} : ∀ (infra : List Nat) {state : DomainState},
    (∀ index ∈ infra, isHost nodes zones index = false) →
    issue ∈ (infra.foldl (reportInfraGuests nodes) state).conflicts →
    issue ∈ state.conflicts ∨ CannotHost nodes zones issue
  | [], _, _, member => .inl member
  | head :: tail, state, plain, member => by
      rcases mem_conflicts_reportInfraGuests tail
        (fun index known => plain index (List.mem_cons_of_mem head known)) member with early | late
      · unfold reportInfraGuests at early
        split at early
        · exact .inl early
        · rename_i node found
          split at early
          · exact .inl early
          · rename_i guests
            rcases List.mem_append.mp early with old | new
            · exact .inl old
            · exact .inr ⟨head, node, found, plain head List.mem_cons_self, guests,
                List.mem_singleton.mp new⟩
      · exact .inr late

theorem mem_conflicts_placeMembers {nodes : List NodeDTO} {zones : List (String × ZoneConfig)}
    {nodeIndexes : List Nat} {step : Int} {state : DomainState} {issue : Issue}
    (member : issue ∈ (placeMembers nodes zones nodeIndexes step state).conflicts) :
    issue ∈ state.conflicts ∨ CannotHost nodes zones issue := by
  have same := congrArg Prod.snd (placeMembers_reports nodes zones nodeIndexes step state)
  rw [show (placeMembers nodes zones nodeIndexes step state).conflicts = _ from same] at member
  refine mem_conflicts_reportInfraGuests _ (fun index known => ?_) member
  have infra := (List.mem_filter.mp known).2
  rw [isHost_domainZonesOf] at infra
  simpa using infra

/-! ## Reservations -/

/-- Why an address is turned down: it is not one of the domain, it was taken
before, or somebody else has reserved it. -/
def TurnedDown (nodes : List NodeDTO) (before after : DomainState) (entities : List Entity)
    (entity : Entity) (ip : Nat) : Prop :=
  ip ∉ before.allocator.pool ∨ ip ∈ before.allocator.used ∨
    ∃ other ∈ entities, idOf nodes other ≠ idOf nodes entity ∧
      after.accepted.lookup (idOf nodes other) = some ip

theorem not_available_iff {sa : SubnetAllocator} {ip : Nat} :
    sa.isAvailable ip = false ↔ ip ∉ sa.pool ∨ ip ∈ sa.used := by
  rw [← Bool.not_eq_true, SubnetAllocator.isAvailable_iff, SubnetAllocator.pool,
    Set.mem_ofPred_eq]
  tauto

theorem mem_conflicts_reserveAll {nodes : List NodeDTO} {members : List Nat}
    (distinct : DistinctEntities nodes) {values : Entity → String} {issue : Issue} :
    ∀ (entities : List Entity) {state : DomainState}, Named nodes members entities → Owned state →
    issue ∈ (reserveAll nodes values entities state).conflicts → issue ∈ state.conflicts ∨
      ∃ entity ∈ entities, issue.nodeID = idOf nodes entity ∧
        ∀ ip, parseIPTo4 (values entity) = some ip →
          TurnedDown nodes state (reserveAll nodes values entities state) entities entity ip
  | [], _, _, _, member => .inl member
  | head :: tail, state, names, owned, member => by
      have apart := names.ne_head distinct
      have stillOwned := owned.reserveExisting (idOf nodes head) (values head)
      have headLast := accepted_reserveAll values tail stillOwned apart
      rcases preReserveExisting_cases owned (idOf nodes head) (values head) with
        ⟨given, parsed, available, equal⟩ | ⟨rejected, issues, own, equal⟩
      · -- The head is accepted; who finds its address taken later has another id.
        rcases mem_conflicts_reserveAll distinct tail names.tail stillOwned member with
          old | ⟨entity, listed, named, reason⟩
        · rw [equal] at old
          exact .inl old
        · refine .inr ⟨entity, List.mem_cons_of_mem head listed, named, fun ip read => ?_⟩
          rcases reason ip read with foreign | taken | ⟨other, known, different, holds⟩
          · rw [equal] at foreign
            exact .inl foreign
          · rw [equal] at taken
            rcases List.mem_cons.mp taken with rfl | old
            · refine .inr (.inr ⟨head, List.mem_cons_self, (apart entity listed).symm, ?_⟩)
              refine headLast.trans ?_
              rw [equal, lookup_accept, if_pos rfl]
            · exact .inr (.inl old)
          · exact .inr (.inr ⟨other, List.mem_cons_of_mem head known, different, holds⟩)
      · rcases mem_conflicts_reserveAll distinct tail names.tail stillOwned member with
          old | ⟨entity, listed, named, reason⟩
        · rw [equal] at old
          rcases List.mem_append.mp old with before | new
          · exact .inl before
          · refine .inr ⟨head, List.mem_cons_self, own issue new, fun ip read => ?_⟩
            exact (not_available_iff.mp (rejected ip read)).imp_right .inl
        · refine .inr ⟨entity, List.mem_cons_of_mem head listed, named, fun ip read => ?_⟩
          rcases reason ip read with foreign | taken | ⟨other, known, different, holds⟩
          · rw [equal] at foreign
            exact .inl foreign
          · rw [equal] at taken
            exact .inr (.inl taken)
          · exact .inr (.inr ⟨other, List.mem_cons_of_mem head known, different, holds⟩)

end HomelabBuilder.Ipam
