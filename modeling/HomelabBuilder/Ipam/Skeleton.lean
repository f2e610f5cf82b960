import HomelabBuilder.Ipam.Allocator

/-! # What the placement of devices reads

Existing addresses matter only while a domain reserves them, and connections
only for ownership. The rest of the allocator sees the bare nodes.
-/

namespace HomelabBuilder.Ipam

open Net

/-- The two halves of `allocateDomain`: first the existing addresses, -/
def reserveMembers (nodes : List NodeDTO) (nodeIndexes : List Nat) (state : DomainState) :
    DomainState :=
  (networkIndexes nodes nodeIndexes).foldl (preReserveNode nodes) { state with accepted := [] }

def placeMembers (nodes : List NodeDTO) (zones : List (String × ZoneConfig))
    (nodeIndexes : List Nat) (step : Int) (state : DomainState) : DomainState :=
  let members := networkIndexes nodes nodeIndexes
  let domainZones := domainZonesOf zones step
  let infra := members.filter fun index => !isHost nodes domainZones index
  let reported := infra.foldl (reportInfraGuests nodes) state
  let placed := infra.foldl (placeInfra nodes domainZones) reported
  let placedHosts :=
    (orderedHosts nodes (members.filter (isHost nodes domainZones))).foldl
      (fun state index => placeHost nodes (stepOf nodes domainZones index) state index)
      (placed, hostStartOffset placed.allocator)
  placedHosts.1

/-- The block size `allocateDomain` works with. -/
def memberStep (nodes : List NodeDTO) (zones : List (String × ZoneConfig))
    (nodeIndexes : List Nat) (sa : SubnetAllocator) : Int :=
  domainStep sa ((networkIndexes nodes nodeIndexes).filter (isHost nodes zones)).length

theorem allocateDomain_eq (nodes : List NodeDTO) (zones : List (String × ZoneConfig))
    (nodeIndexes : List Nat) (state : DomainState) :
    allocateDomain nodes zones nodeIndexes state =
      placeMembers nodes zones nodeIndexes (memberStep nodes zones nodeIndexes state.allocator)
        (reserveMembers nodes nodeIndexes state) :=
  rfl

/-! ## Bare nodes -/

def VMDTO.bare (vm : VMDTO) : VMDTO := { vm with existingIP := "" }

/-- A node without its connections and existing addresses. -/
def NodeDTO.bare (node : NodeDTO) : NodeDTO :=
  { node with connections := [], existingIP := "", vms := node.vms.map VMDTO.bare }

section Bare

variable (nodes : List NodeDTO) (zones : List (String × ZoneConfig))

private theorem placeInfra_bare :
    placeInfra (nodes.map NodeDTO.bare) zones = placeInfra nodes zones := by
  funext state index
  cases found : nodes[index]? <;> simp [placeInfra, NodeDTO.bare, found]

private theorem fillHost_bare (node : NodeDTO) : fillHost node.bare = fillHost node := by
  funext step index hostIP state
  simp only [fillHost, NodeDTO.bare, List.zipIdx_map, List.foldl_map]
  rfl

private theorem placeHost_bare : placeHost (nodes.map NodeDTO.bare) = placeHost nodes := by
  funext step state index
  cases found : nodes[index]? with
  | none => simp [placeHost, found]
  | some node =>
      simp only [placeHost, List.getElem?_map, found, Option.map_some, fillHost_bare]
      rfl

private theorem reportInfraGuests_bare :
    reportInfraGuests (nodes.map NodeDTO.bare) = reportInfraGuests nodes := by
  funext state index
  cases found : nodes[index]? <;> simp [reportInfraGuests, NodeDTO.bare, found]

private theorem networkIndexes_bare :
    networkIndexes (nodes.map NodeDTO.bare) = networkIndexes nodes := by
  funext nodeIndexes
  unfold networkIndexes
  congr 1
  funext index
  cases found : nodes[index]? <;> simp [NodeDTO.bare, found]

private theorem isHost_bare : isHost (nodes.map NodeDTO.bare) zones = isHost nodes zones := by
  funext index
  cases found : nodes[index]? <;> simp [isHost, NodeDTO.bare, found]

private theorem orderedHosts_bare :
    orderedHosts (nodes.map NodeDTO.bare) = orderedHosts nodes := by
  funext hosts
  have types : orderedTypes (nodes.map NodeDTO.bare) hosts = orderedTypes nodes hosts := by
    simp [orderedTypes, Function.comp_def, NodeDTO.bare]
  simp only [orderedHosts, types, List.getElem?_map, Option.any_map]
  rfl

private theorem stepOf_bare : stepOf (nodes.map NodeDTO.bare) zones = stepOf nodes zones := by
  funext index
  simp [stepOf, Function.comp_def, NodeDTO.bare]

theorem placeMembers_bare :
    placeMembers (nodes.map NodeDTO.bare) zones = placeMembers nodes zones := by
  funext nodeIndexes step state
  simp only [placeMembers, placeInfra_bare, placeHost_bare, reportInfraGuests_bare,
    networkIndexes_bare, isHost_bare, orderedHosts_bare, stepOf_bare]

theorem memberStep_bare : memberStep (nodes.map NodeDTO.bare) zones = memberStep nodes zones := by
  funext nodeIndexes sa
  simp only [memberStep, networkIndexes_bare, isHost_bare]

end Bare

/-! ## Requests with the same bare nodes -/

/-- Two lists of nodes that differ in connections and existing addresses only. -/
def SameBare (left right : List NodeDTO) : Prop :=
  left.map NodeDTO.bare = right.map NodeDTO.bare

namespace SameBare

variable {left right : List NodeDTO}

theorem symm (same : SameBare left right) : SameBare right left := Eq.symm same

theorem exists_bare (same : SameBare left right) {node : NodeDTO} (member : node ∈ left) :
    ∃ other ∈ right, other.bare = node.bare := by
  have image : node.bare ∈ right.map NodeDTO.bare := same ▸ List.mem_map_of_mem member
  exact List.mem_map.mp image

theorem getElem? (same : SameBare left right) (index : Nat) :
    left[index]?.map NodeDTO.bare = right[index]?.map NodeDTO.bare := by
  simpa using congrArg (fun nodes : List NodeDTO => nodes[index]?) same

theorem networkIndexes (same : SameBare left right) :
    networkIndexes left = Ipam.networkIndexes right := by
  rw [← networkIndexes_bare left, same, networkIndexes_bare right]

theorem placeMembers (same : SameBare left right) (zones : List (String × ZoneConfig)) :
    placeMembers left zones = Ipam.placeMembers right zones := by
  rw [← placeMembers_bare left, same, placeMembers_bare right]

theorem memberStep (same : SameBare left right) (zones : List (String × ZoneConfig)) :
    memberStep left zones = Ipam.memberStep right zones := by
  rw [← memberStep_bare left, same, memberStep_bare right]

theorem emptyResults (same : SameBare left right) :
    emptyResults left = Ipam.emptyResults right := by
  have ofBare (nodes : List NodeDTO) :
      Ipam.emptyResults nodes = Ipam.emptyResults (nodes.map NodeDTO.bare) := by
    simp [Ipam.emptyResults, NodeDTO.bare, VMDTO.bare, Function.comp_def]
  rw [ofBare left, same, ← ofBare right]

theorem domainDemand (same : SameBare left right) (normal : List NormalRouter)
    (owner : String → Option Nat) :
    domainDemand left normal owner = Ipam.domainDemand right normal owner := by
  have ofBare (nodes : List NodeDTO) : Ipam.domainDemand nodes normal owner =
      Ipam.domainDemand (nodes.map NodeDTO.bare) normal owner := by
    funext key
    simp only [Ipam.domainDemand, List.foldl_map]
    rfl
  rw [ofBare left, same, ← ofBare right]

theorem domainNodeIndexes (same : SameBare left right) (normal : List NormalRouter)
    (owner : String → Option Nat) :
    domainNodeIndexes left normal owner = Ipam.domainNodeIndexes right normal owner := by
  have ofBare (nodes : List NodeDTO) : Ipam.domainNodeIndexes nodes normal owner =
      Ipam.domainNodeIndexes (nodes.map NodeDTO.bare) normal owner := by
    funext key
    simp only [Ipam.domainNodeIndexes, List.length_map, List.getElem?_map, Option.any_map]
    rfl
  rw [ofBare left, same, ← ofBare right]

theorem unreachableWarnings (same : SameBare left right) (routers : List RouterDTO)
    (owner : String → Option Nat) :
    unreachableWarnings routers left owner = Ipam.unreachableWarnings routers right owner := by
  have ofBare (nodes : List NodeDTO) : Ipam.unreachableWarnings routers nodes owner =
      Ipam.unreachableWarnings routers (nodes.map NodeDTO.bare) owner := by
    simp only [Ipam.unreachableWarnings, List.filterMap_map]
    rfl
  rw [ofBare left, same, ← ofBare right]

theorem allocateDomain (same : SameBare left right)
    (reserve : preReserveNode left = preReserveNode right) (zones : List (String × ZoneConfig)) :
    allocateDomain left zones = Ipam.allocateDomain right zones := by
  funext nodeIndexes state
  rw [allocateDomain_eq, allocateDomain_eq, same.placeMembers, same.memberStep, reserveMembers,
    reserveMembers, same.networkIndexes, reserve]

theorem allocateOwned {left right : AllocateRequest} (same : SameBare left.nodes right.nodes)
    (routers : left.routers = right.routers) (customZones : left.customZones = right.customZones)
    (reserve : preReserveNode left.nodes = preReserveNode right.nodes)
    (owner : String → Option Nat) : allocateOwned left owner = Ipam.allocateOwned right owner := by
  have run : runDomain left.nodes = runDomain right.nodes := by
    funext zones members resp domain
    simp only [runDomain, same.allocateDomain reserve]
  simp only [Ipam.allocateOwned, openDomains, routers, customZones, same.domainDemand,
    same.domainNodeIndexes, same.unreachableWarnings, same.emptyResults, run]

end SameBare

end HomelabBuilder.Ipam
