import HomelabBuilder.Ipam.Opening
import HomelabBuilder.Ipam.Results

/-! # The turns of the domains

`Allocate` serves one domain after the other on one response. A domain finds
its members without addresses, and what it gives them stays.
-/

namespace HomelabBuilder.Ipam

open Net

/-- The response lists the entities of the request. -/
def Lists (nodes : List NodeDTO) (results : List NodeResult) : Prop :=
  ∀ entity, resultID results entity = entityID nodes entity

theorem DomainRun.lists {nodes : List NodeDTO} {indexes : List Nat} {before after : DomainState}
    (run : DomainRun nodes indexes before after) (lists : Lists nodes before.results) :
    Lists nodes after.results :=
  fun entity => (DomainRun.resultID_eq run entity).trans (lists entity)

/-- A domain before anything happens to it. -/
def AllocationDomain.opening (domain : AllocationDomain) : DomainState where
  allocator := domain.allocator
  owners := domain.owners
  accepted := []
  results := []
  conflicts := []
  warnings := []

def AllocationDomain.turn (domain : AllocationDomain) (resp : AllocateResponse) : DomainState :=
  { domain.opening with
    results := resp.nodes
    conflicts := resp.conflicts
    warnings := resp.warnings }

section Turns

variable {nodes : List NodeDTO} {zones : List (String × ZoneConfig)}
  {members : DomainKey → List Nat}

theorem runDomain_turn (resp : AllocateResponse) (domain : AllocationDomain) :
    DomainRun nodes (members domain.key) (domain.turn resp)
      (allocateDomain nodes zones (members domain.key) (domain.turn resp)) :=
  allocateDomain_run zones (members domain.key) (domain.turn resp)

@[simp]
theorem runDomain_nodes (resp : AllocateResponse) (domain : AllocationDomain) :
    (runDomain nodes zones members resp domain).nodes =
      (allocateDomain nodes zones (members domain.key) (domain.turn resp)).results := rfl

@[simp]
theorem runDomain_conflicts (resp : AllocateResponse) (domain : AllocationDomain) :
    (runDomain nodes zones members resp domain).conflicts =
      (allocateDomain nodes zones (members domain.key) (domain.turn resp)).conflicts := rfl

theorem foldl_runDomain_frame {entity : Entity} :
    ∀ (domains : List AllocationDomain) {resp : AllocateResponse},
    (∀ domain ∈ domains, entity.nodeIndex ∉ members domain.key) →
    (domains.foldl (runDomain nodes zones members) resp).assignedIP entity =
      resp.assignedIP entity
  | [], _, _ => rfl
  | head :: tail, resp, outside => by
      rw [List.foldl_cons, foldl_runDomain_frame tail fun domain member =>
        outside domain (List.mem_cons_of_mem head member)]
      exact (runDomain_turn resp head).frame entity (outside head List.mem_cons_self)

theorem foldl_runDomain_conflicts : ∀ (domains : List AllocationDomain) {resp : AllocateResponse},
    resp.conflicts <+: (domains.foldl (runDomain nodes zones members) resp).conflicts
  | [], _ => List.prefix_refl _
  | head :: tail, resp => by
      have first : resp.conflicts <+: (runDomain nodes zones members resp head).conflicts :=
        (runDomain_turn resp head).conflicts_grow
      exact first.trans (foldl_runDomain_conflicts tail)

theorem foldl_runDomain_routers : ∀ (domains : List AllocationDomain) {resp : AllocateResponse},
    (domains.foldl (runDomain nodes zones members) resp).routers = resp.routers
  | [], _ => rfl
  | _ :: tail, _ => foldl_runDomain_routers tail

/-! ## What a domain finds -/

/-- What holds before the domains of a list have their turn. -/
structure Upcoming (nodes : List NodeDTO) (members : DomainKey → List Nat)
    (domains : List AllocationDomain) (resp : AllocateResponse) : Prop where
  keys : (domains.map (·.key)).Nodup
  wellFormed : ∀ domain ∈ domains, domain.WellFormed
  lists : Lists nodes resp.nodes
  texts : ∀ entity, IsAddressText (resp.assignedIP entity)
  unassigned : ∀ domain ∈ domains, ∀ entity : Entity, entity.nodeIndex ∈ members domain.key →
    resp.assignedIP entity = ""

def MembersApart (members : DomainKey → List Nat) : Prop :=
  ∀ {left right : DomainKey} {index : Nat}, index ∈ members left → index ∈ members right →
    left = right

theorem Upcoming.addresses {domains : List AllocationDomain} {resp : AllocateResponse}
    (upcoming : Upcoming nodes members domains resp) (domain : AllocationDomain) :
    Addresses (domain.turn resp) :=
  ⟨List.not_mem_nil.elim, upcoming.texts⟩

theorem Upcoming.next (apart : MembersApart members) {head : AllocationDomain}
    {tail : List AllocationDomain} {resp : AllocateResponse}
    (upcoming : Upcoming nodes members (head :: tail) resp) :
    Upcoming nodes members tail (runDomain nodes zones members resp head) where
  keys := (List.nodup_cons.mp upcoming.keys).2
  wellFormed := fun domain listed => upcoming.wellFormed domain (List.mem_cons_of_mem head listed)
  lists := (runDomain_turn resp head).lists upcoming.lists
  texts := ((runDomain_turn resp head).addresses (upcoming.addresses head)).texts
  unassigned := by
    intro domain listed entity member
    have outside : entity.nodeIndex ∉ members head.key := by
      intro alsoMember
      apply (List.nodup_cons.mp upcoming.keys).1
      exact List.mem_map.mpr ⟨domain, listed, apart member alsoMember⟩
    refine ((runDomain_turn resp head).frame entity outside).trans ?_
    exact upcoming.unassigned domain (List.mem_cons_of_mem head listed) entity member

/-- The turn of one domain in the whole loop: the response it starts from, and
that its members keep what it gives them. -/
structure TurnOf (nodes : List NodeDTO) (zones : List (String × ZoneConfig))
    (members : DomainKey → List Nat) (final : AllocateResponse) (domain : AllocationDomain)
    (before : AllocateResponse) : Prop where
  upcoming : Upcoming nodes members [domain] before
  final : ∀ entity : Entity, entity.nodeIndex ∈ members domain.key →
    final.assignedIP entity = assignedIPIn
      (allocateDomain nodes zones (members domain.key) (domain.turn before)).results entity

theorem TurnOf.isAddressText {final before : AllocateResponse} {domain : AllocationDomain}
    (turn : TurnOf nodes zones members final domain before) {entity : Entity}
    (member : entity.nodeIndex ∈ members domain.key) :
    IsAddressText (final.assignedIP entity) := by
  rw [turn.final entity member]
  exact ((runDomain_turn before domain).addresses (turn.upcoming.addresses domain)).texts entity

theorem Upcoming.head (zones : List (String × ZoneConfig)) (apart : MembersApart members)
    {head : AllocationDomain} {tail : List AllocationDomain} {resp : AllocateResponse}
    (upcoming : Upcoming nodes members (head :: tail) resp) :
    TurnOf nodes zones members ((head :: tail).foldl (runDomain nodes zones members) resp)
      head resp where
  upcoming :=
    { keys := List.nodup_singleton _
      wellFormed := fun domain listed => upcoming.wellFormed domain
        (List.mem_singleton.mp listed ▸ List.mem_cons_self)
      lists := upcoming.lists
      texts := upcoming.texts
      unassigned := fun domain listed => upcoming.unassigned domain
        (List.mem_singleton.mp listed ▸ List.mem_cons_self) }
  final := by
    intro entity member
    refine foldl_runDomain_frame tail fun domain listed alsoMember => ?_
    apply (List.nodup_cons.mp upcoming.keys).1
    exact List.mem_map.mpr ⟨domain, listed, apart alsoMember member⟩

theorem exists_turnOf (apart : MembersApart members) {domain : AllocationDomain} :
    ∀ (domains : List AllocationDomain) {resp : AllocateResponse},
    Upcoming nodes members domains resp → domain ∈ domains →
    ∃ before, TurnOf nodes zones members
      (domains.foldl (runDomain nodes zones members) resp) domain before
  | head :: tail, resp, upcoming, listed => by
      rcases List.mem_cons.mp listed with rfl | later
      · exact ⟨resp, upcoming.head zones apart⟩
      · exact exists_turnOf apart tail (upcoming.next apart) later

theorem exists_turnOf_reporting (apart : MembersApart members) {domain : AllocationDomain} :
    ∀ (domains : List AllocationDomain) {resp : AllocateResponse},
    Upcoming nodes members domains resp → domain ∈ domains →
    ∃ before, TurnOf nodes zones members
        (domains.foldl (runDomain nodes zones members) resp) domain before ∧
      (allocateDomain nodes zones (members domain.key) (domain.turn before)).conflicts ⊆
        (domains.foldl (runDomain nodes zones members) resp).conflicts
  | head :: tail, resp, upcoming, listed => by
      rcases List.mem_cons.mp listed with rfl | later
      · refine ⟨resp, upcoming.head zones apart, ?_⟩
        rw [← runDomain_conflicts]
        exact (foldl_runDomain_conflicts tail).subset
      · exact exists_turnOf_reporting apart tail (upcoming.next apart) later

theorem exists_turnOf_conflict (apart : MembersApart members) {issue : Issue} :
    ∀ (domains : List AllocationDomain) {resp : AllocateResponse},
    Upcoming nodes members domains resp →
    issue ∈ (domains.foldl (runDomain nodes zones members) resp).conflicts →
    issue ∈ resp.conflicts ∨ ∃ domain ∈ domains, ∃ before, TurnOf nodes zones members
        (domains.foldl (runDomain nodes zones members) resp) domain before ∧
      issue ∉ before.conflicts ∧ issue ∈
        (allocateDomain nodes zones (members domain.key) (domain.turn before)).conflicts
  | [], _, _, member => .inl member
  | head :: tail, resp, upcoming, member => by
      rcases exists_turnOf_conflict apart tail (upcoming.next apart) member with
        early | ⟨domain, listed, before, turn, fresh, reported⟩
      · by_cases known : issue ∈ resp.conflicts
        · exact .inl known
        · exact .inr ⟨head, List.mem_cons_self, resp, upcoming.head zones apart, known, early⟩
      · exact .inr ⟨domain, List.mem_cons_of_mem head listed, before, turn, fresh, reported⟩

end Turns

/-! ## The loop of `Allocate` -/

theorem mem_domainNodeIndexes {nodes : List NodeDTO} {normal : List NormalRouter}
    {owner : String → Option Nat} {key : DomainKey} {index : Nat} :
    index ∈ domainNodeIndexes nodes normal owner key ↔
      ∃ node, nodes[index]? = some node ∧ nodeDomain normal owner node.id = some key := by
  cases found : nodes[index]? with
  | none => simp [domainNodeIndexes, found]
  | some node =>
      rcases List.getElem?_eq_some_iff.mp found with ⟨bound, rfl⟩
      simp [domainNodeIndexes, bound]

theorem membersApart_domainNodeIndexes (nodes : List NodeDTO) (normal : List NormalRouter)
    (owner : String → Option Nat) : MembersApart (domainNodeIndexes nodes normal owner) := by
  intro left right index leftMember rightMember
  rcases mem_domainNodeIndexes.mp leftMember with ⟨node, found, leftDomain⟩
  rcases mem_domainNodeIndexes.mp rightMember with ⟨other, otherFound, rightDomain⟩
  rw [found] at otherFound
  cases otherFound
  exact Option.some.inj (leftDomain.symm.trans rightDomain)

/-- The response the first domain starts from. -/
def startResponse (req : AllocateRequest) (owner : String → Option Nat) : AllocateResponse :=
  let normal := normalizeRouters req.routers
  let pass := openDomains req.nodes normal owner
  { routers := pass.routers
    nodes := emptyResults req.nodes
    conflicts := routerConflicts normal ++ pass.conflicts
    warnings := pass.warnings ++ unreachableWarnings req.routers req.nodes owner }

theorem allocateOwned_eq (req : AllocateRequest) (owner : String → Option Nat) :
    allocateOwned req owner =
      (openDomains req.nodes (normalizeRouters req.routers) owner).domains.foldl
        (runDomain req.nodes (mergeZones req.customZones)
          (domainNodeIndexes req.nodes (normalizeRouters req.routers) owner))
        (startResponse req owner) :=
  rfl

theorem upcoming_startResponse (req : AllocateRequest) (owner : String → Option Nat) :
    Upcoming req.nodes (domainNodeIndexes req.nodes (normalizeRouters req.routers) owner)
      (openDomains req.nodes (normalizeRouters req.routers) owner).domains
      (startResponse req owner) where
  keys := (opened_openDomains req.routers req.nodes owner).keys
  wellFormed := (opened_openDomains req.routers req.nodes owner).wellFormed
  lists := resultID_emptyResults req.nodes
  texts := fun entity => .inl (assignedIPIn_emptyResults req.nodes entity)
  unassigned := fun _ _ entity _ => assignedIPIn_emptyResults req.nodes entity

end HomelabBuilder.Ipam
