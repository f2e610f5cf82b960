import HomelabBuilder.Foundation.Keyed
import HomelabBuilder.Services.SaveValidation

/-! # The shape of a virtual network

What `validateVirtualNetworks` accepts, said once for all of its loops, and
which guests a network that is accepted joins to the uplink.
-/

namespace HomelabBuilder.Services

/-! ## Endpoints -/

theorem guestEndpoints_eq_ok_iff {runtime : Runtime} : ∀ {vms : List VMDTO}
    {endpoints result : List String},
    guestEndpoints runtime endpoints vms = .ok result ↔
      result = (vms.map (·.id)).reverse ++ endpoints ∧ (vms.map (·.id)).Nodup ∧
        ∀ vm ∈ vms, vm.id ∉ endpoints ∧ (runtime.parseUUID vm.id).isSome = true ∧
          staticIPFits vm.details = true
  | [], endpoints, result => by
      refine ⟨fun accepted => ?_, fun accepted => ?_⟩
      · cases accepted
        simp
      · rw [accepted.1]
        rfl
  | head :: tail, endpoints, result => by
      have rest := @guestEndpoints_eq_ok_iff runtime tail (head.id :: endpoints) result
      unfold guestEndpoints
      by_cases unread : (runtime.parseUUID head.id).isNone = true
      · rw [if_pos unread]
        refine ⟨fun failed => (nomatch failed), fun accepted => ?_⟩
        have read := (accepted.2.2 head List.mem_cons_self).2.1
        rw [Option.isSome_iff_ne_none] at read
        exact absurd (Option.isNone_iff_eq_none.mp unread) read
      · rw [if_neg unread]
        by_cases taken : head.id ∈ endpoints
        · rw [if_pos taken]
          refine ⟨fun failed => (nomatch failed), fun accepted => ?_⟩
          exact absurd taken (accepted.2.2 head List.mem_cons_self).1
        · rw [if_neg taken]
          cases fits : staticIPFits head.details with
          | false =>
              rw [if_pos (by rfl)]
              refine ⟨fun failed => (nomatch failed), fun accepted => ?_⟩
              have own := (accepted.2.2 head List.mem_cons_self).2.2
              rw [fits] at own
              cases own
          | true =>
              rw [if_neg (by decide), rest, List.map_cons, List.reverse_cons, List.append_assoc,
                List.singleton_append, List.nodup_cons, List.forall_mem_cons]
              have read : (runtime.parseUUID head.id).isSome = true := by
                cases parsed : runtime.parseUUID head.id with
                | none => simp [parsed] at unread
                | some _ => rfl
              have apart : (∀ vm ∈ tail, vm.id ∉ head.id :: endpoints ∧
                  (runtime.parseUUID vm.id).isSome = true ∧ staticIPFits vm.details = true) ↔
                    head.id ∉ tail.map (·.id) ∧ ∀ vm ∈ tail, vm.id ∉ endpoints ∧
                      (runtime.parseUUID vm.id).isSome = true ∧ staticIPFits vm.details = true := by
                constructor
                · intro each
                  refine ⟨fun member => ?_, fun vm member => ?_⟩
                  · rcases List.mem_map.mp member with ⟨vm, inside, same⟩
                    exact (each vm inside).1 (same ▸ List.mem_cons_self)
                  · exact ⟨fun old => (each vm member).1 (List.mem_cons_of_mem _ old),
                      (each vm member).2⟩
                · rintro ⟨absent, each⟩ vm member
                  refine ⟨fun inside => ?_, (each vm member).2⟩
                  rcases List.mem_cons.mp inside with same | old
                  · exact absent (List.mem_map.mpr ⟨vm, member, same⟩)
                  · exact (each vm member).1 old
              rw [apart]
              tauto

theorem switchEndpoints_eq_ok_iff : ∀ {switches : List VirtualSwitch} {endpoints result : List String},
    switchEndpoints endpoints switches = .ok result ↔
      result = (switches.map (·.id)).reverse ++ endpoints ∧ (switches.map (·.id)).Nodup ∧
        ∀ virtualSwitch ∈ switches, virtualSwitch.id ∉ endpoints ∧ virtualSwitch.id ≠ ""
  | [], endpoints, result => by
      refine ⟨fun accepted => ?_, fun accepted => ?_⟩
      · cases accepted
        simp
      · rw [accepted.1]
        rfl
  | head :: tail, endpoints, result => by
      have rest := @switchEndpoints_eq_ok_iff tail (head.id :: endpoints) result
      unfold switchEndpoints
      by_cases unfit : head.id = "" ∨ head.id ∈ endpoints
      · rw [if_pos unfit]
        refine ⟨fun failed => (nomatch failed), fun accepted => ?_⟩
        have own := accepted.2.2 head List.mem_cons_self
        rcases unfit with empty | taken
        · exact absurd empty own.2
        · exact absurd taken own.1
      · rw [if_neg unfit, rest, List.map_cons, List.reverse_cons, List.append_assoc,
          List.singleton_append, List.nodup_cons, List.forall_mem_cons]
        rw [not_or] at unfit
        have apart : (∀ other ∈ tail, other.id ∉ head.id :: endpoints ∧ other.id ≠ "") ↔
            head.id ∉ tail.map (·.id) ∧ ∀ other ∈ tail, other.id ∉ endpoints ∧ other.id ≠ "" := by
          constructor
          · intro each
            refine ⟨fun member => ?_, fun other member => ?_⟩
            · rcases List.mem_map.mp member with ⟨other, inside, same⟩
              exact (each other inside).1 (same ▸ List.mem_cons_self)
            · exact ⟨fun old => (each other member).1 (List.mem_cons_of_mem _ old),
                (each other member).2⟩
          · rintro ⟨absent, each⟩ other member
            refine ⟨fun inside => ?_, (each other member).2⟩
            rcases List.mem_cons.mp inside with same | old
            · exact absent (List.mem_map.mpr ⟨other, member, same⟩)
            · exact (each other member).1 old
        rw [apart]
        tauto

/-! ## Cables -/

/-- The key under which a cable is remembered. -/
def VirtualEdge.pair (edge : VirtualEdge) : String := edge.source ++ "/" ++ edge.target

def VirtualEdge.reverse (edge : VirtualEdge) : String := edge.target ++ "/" ++ edge.source

structure VirtualEdge.Fits (endpoints : List String) (edge : VirtualEdge) : Prop where
  source : edge.source ∈ endpoints
  target : edge.target ∈ endpoints
  different : edge.source ≠ edge.target
  named : edge.id ≠ ""

/-- A later cable has another id and joins other endpoints. -/
structure VirtualEdge.Apart (early late : VirtualEdge) : Prop where
  ids : late.id ≠ early.id
  pairs : late.pair ≠ early.pair
  reverses : late.reverse ≠ early.pair

theorem virtualEdgesFit_iff {endpoints : List String} : ∀ {edges : List VirtualEdge}
    {ids pairs : List String},
    virtualEdgesFit endpoints ids pairs edges = true ↔
      (∀ edge ∈ edges, edge.Fits endpoints) ∧ edges.Pairwise VirtualEdge.Apart ∧
        ∀ edge ∈ edges, edge.id ∉ ids ∧ edge.pair ∉ pairs ∧ edge.reverse ∉ pairs
  | [], _, _ => by simp [virtualEdgesFit]
  | head :: tail, ids, pairs => by
      have rest := @virtualEdgesFit_iff endpoints tail (head.id :: ids) (head.pair :: pairs)
      have fits : head.Fits endpoints ↔ head.source ∈ endpoints ∧ head.target ∈ endpoints ∧
          head.source ≠ head.target ∧ head.id ≠ "" :=
        ⟨fun fits => ⟨fits.source, fits.target, fits.different, fits.named⟩,
          fun parts => ⟨parts.1, parts.2.1, parts.2.2.1, parts.2.2.2⟩⟩
      have apart : (∀ edge ∈ tail, edge.id ∉ head.id :: ids ∧ edge.pair ∉ head.pair :: pairs ∧
          edge.reverse ∉ head.pair :: pairs) ↔ (∀ edge ∈ tail, head.Apart edge) ∧
            ∀ edge ∈ tail, edge.id ∉ ids ∧ edge.pair ∉ pairs ∧ edge.reverse ∉ pairs := by
        rw [← forall₂_and]
        refine forall₂_congr fun edge _ => ?_
        simp only [List.mem_cons, not_or]
        constructor
        · rintro ⟨⟨ids, oldIDs⟩, ⟨pairs, oldPairs⟩, reverses, oldReverses⟩
          exact ⟨⟨ids, pairs, reverses⟩, oldIDs, oldPairs, oldReverses⟩
        · rintro ⟨⟨ids, pairs, reverses⟩, oldIDs, oldPairs, oldReverses⟩
          exact ⟨⟨ids, oldIDs⟩, ⟨pairs, oldPairs⟩, reverses, oldReverses⟩
      unfold virtualEdgesFit
      simp only [Bool.and_eq_true, decide_eq_true_eq]
      change ((((((_ ∧ _) ∧ _) ∧ _) ∧ _) ∧ head.pair ∉ pairs) ∧ head.reverse ∉ pairs) ∧
        virtualEdgesFit endpoints (head.id :: ids) (head.pair :: pairs) tail = true ↔ _
      rw [rest, apart, List.pairwise_cons, List.forall_mem_cons, List.forall_mem_cons, fits]
      tauto

/-! ## Whole networks -/

def endpointsOf (vms : List VMDTO) (switches : List VirtualSwitch) : List String :=
  uplink :: (vms.map (·.id) ++ switches.map (·.id))

structure NetworkFits (runtime : Runtime) (vms : List VMDTO) (switches : List VirtualSwitch)
    (positions : List (String × Position)) (edges : List VirtualEdge) : Prop where
  endpoints : (endpointsOf vms switches).Nodup
  guests : ∀ vm ∈ vms, (runtime.parseUUID vm.id).isSome = true ∧ staticIPFits vm.details = true
  named : ∀ virtualSwitch ∈ switches, virtualSwitch.id ≠ ""
  joins : ∀ edge ∈ edges, edge.Fits (endpointsOf vms switches)
  apart : edges.Pairwise VirtualEdge.Apart
  placed : ∀ position ∈ positions, position.1 ∈ endpointsOf vms switches

theorem VirtualEdge.Fits.mono {left right : List String} {edge : VirtualEdge}
    (fits : edge.Fits left) (subset : left ⊆ right) : edge.Fits right :=
  ⟨subset fits.source, subset fits.target, fits.different, fits.named⟩

theorem validateNetwork_eq_ok_iff {runtime : Runtime} {node : NodeDTO} {network : VirtualNetwork} :
    validateNetwork runtime node network = .ok () ↔
      ∃ switches positions edges, network = ⟨some switches, some positions, some edges⟩ ∧
        NetworkFits runtime node.vms switches positions edges := by
  have members (switches : List VirtualSwitch) (id : String) :
      id ∈ (switches.map (·.id)).reverse ++ ((node.vms.map (·.id)).reverse ++ [uplink]) ↔
        id ∈ endpointsOf node.vms switches := by
    simp only [endpointsOf, List.mem_append, List.mem_reverse, List.mem_cons, List.not_mem_nil,
      or_false]
    tauto
  have nodup (switches : List VirtualSwitch) : (endpointsOf node.vms switches).Nodup ↔
      ((node.vms.map (·.id)).Nodup ∧ ∀ vm ∈ node.vms, vm.id ∉ [uplink]) ∧
        (switches.map (·.id)).Nodup ∧ ∀ virtualSwitch ∈ switches,
          virtualSwitch.id ∉ (node.vms.map (·.id)).reverse ++ [uplink] := by
    unfold endpointsOf
    rw [List.nodup_cons, List.nodup_append]
    simp only [List.mem_append, List.mem_map, List.mem_reverse, List.mem_singleton, not_or,
      not_exists, not_and]
    constructor
    · rintro ⟨⟨noGuest, noSwitch⟩, guests, switches, apart⟩
      refine ⟨⟨guests, noGuest⟩, switches, fun other member => ⟨fun vm inside same => ?_, ?_⟩⟩
      · exact apart vm.id ⟨vm, inside, rfl⟩ other.id ⟨other, member, rfl⟩ same
      · exact noSwitch other member
    · rintro ⟨⟨guests, noGuest⟩, switches, apart⟩
      refine ⟨⟨noGuest, fun other member => (apart other member).2⟩, guests, switches, ?_⟩
      rintro _ ⟨vm, inside, rfl⟩ _ ⟨other, member, rfl⟩ same
      exact (apart other member).1 vm inside same
  rcases network with ⟨switches, positions, edges⟩
  unfold validateNetwork VirtualNetwork.parts
  cases switches with
  | none => simp
  | some switches =>
  cases positions with
  | none => simp
  | some positions =>
  cases edges with
  | none => simp
  | some edges =>
  have exact : (∃ others, ∃ spots, ∃ cables, (⟨some switches, some positions, some edges⟩ :
      VirtualNetwork) = ⟨some others, some spots, some cables⟩ ∧
        NetworkFits runtime node.vms others spots cables) ↔
          NetworkFits runtime node.vms switches positions edges := by
    refine ⟨?_, fun fits => ⟨switches, positions, edges, rfl, fits⟩⟩
    rintro ⟨_, _, _, same, fits⟩
    cases same
    exact fits
  rw [exact]
  dsimp only [Option.bind_eq_bind, Option.bind_some]
  have cables (endpoints : List String) : (if !virtualEdgesFit endpoints [] [] edges then
      Except.error ("invalid virtual connection on " ++ node.name)
    else if positions.any fun position => decide (position.1 ∉ endpoints) then
      Except.error "unknown virtual endpoint position"
    else Except.ok ()) = .ok () ↔ virtualEdgesFit endpoints [] [] edges = true ∧
      ∀ position ∈ positions, position.1 ∈ endpoints := by
    cases fits : virtualEdgesFit endpoints [] [] edges with
    | false => simp
    | true =>
        by_cases placed : (positions.any fun position => decide (position.1 ∉ endpoints)) = true
        · rw [if_neg (by decide), if_pos placed]
          rw [List.any_eq_true] at placed
          rcases placed with ⟨position, member, unknown⟩
          refine ⟨fun failed => (nomatch failed), fun accepted => ?_⟩
          exact absurd (accepted.2 position member) (by simpa using unknown)
        · rw [if_neg (by decide), if_neg placed]
          rw [List.any_eq_true] at placed
          refine ⟨fun _ => ⟨rfl, fun position member => ?_⟩, fun _ => rfl⟩
          by_contra unknown
          exact placed ⟨position, member, by simpa using unknown⟩
  simp only [Fallible.bind_eq_ok, guestEndpoints_eq_ok_iff, switchEndpoints_eq_ok_iff]
  constructor
  · rintro ⟨_, ⟨rfl, uniqueGuests, guests⟩, _, ⟨rfl, uniqueSwitches, named⟩, accepted⟩
    rw [cables, virtualEdgesFit_iff] at accepted
    refine ⟨(nodup switches).mpr ⟨⟨uniqueGuests, fun vm member => (guests vm member).1⟩,
        uniqueSwitches, fun other member => (named other member).1⟩,
      fun vm member => (guests vm member).2, fun other member => (named other member).2,
      fun edge member => (accepted.1.1 edge member).mono fun id => (members switches id).mp,
      accepted.1.2.1, fun position member => (members switches _).mp (accepted.2 position member)⟩
  · intro fits
    rcases (nodup switches).mp fits.endpoints with ⟨⟨uniqueGuests, noUplink⟩, uniqueSwitches, apart⟩
    refine ⟨_, ⟨rfl, uniqueGuests, fun vm member => ⟨noUplink vm member, fits.guests vm member⟩⟩,
      _, ⟨rfl, uniqueSwitches, fun other member => ⟨apart other member, fits.named other member⟩⟩, ?_⟩
    rw [cables, virtualEdgesFit_iff]
    refine ⟨⟨fun edge member => (fits.joins edge member).mono fun id => (members switches id).mpr,
      fits.apart, fun edge _ => ?_⟩, fun position member =>
        (members switches _).mpr (fits.placed position member)⟩
    exact ⟨List.not_mem_nil, List.not_mem_nil, List.not_mem_nil⟩

theorem validateNetwork_of_read {runtime : Runtime} {node : NodeDTO}
    (valid : validateVirtualNetwork runtime node = .ok ()) {network : VirtualNetwork}
    (read : readVirtualNetwork (.obj node.details) = some network) :
    validateNetwork runtime node network = .ok () := by
  unfold validateVirtualNetwork at valid
  unfold readVirtualNetwork at read
  change (Json.field some node.details "virtual_network").bind _ = some network at read
  cases found : Json.field some node.details "virtual_network" with
  | none =>
      rw [found] at read
      cases read
  | some value =>
      rw [found, Option.bind_some] at read
      rw [found] at valid
      cases value with
      | obj members =>
          dsimp only at valid
          rw [read] at valid
          exact valid
      | null | bool | num | str | arr => cases read

theorem mem_reachable_iff (network : VirtualNetwork) {id : String} :
    id ∈ network.reachable ↔
      Worklist.Reaches network.neighbors (· ∈ network.switchIDs) uplink id := by
  apply Worklist.mem_seen_drain_iff network.switchIDs
  · intro vertex member
    simpa using member
  · exact Nat.le_refl _

end HomelabBuilder.Services
