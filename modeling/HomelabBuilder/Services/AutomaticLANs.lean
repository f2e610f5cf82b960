import Mathlib
import HomelabBuilder.Ipam.Opening
import HomelabBuilder.Services.PlanIPAM

/-! # Automatic LANs

`planIPAM` picks a /24 for every NAT gateway that has none stored. A candidate
is turned down when its own gateway address is in use, whatever the subnets
around it are.
-/

namespace HomelabBuilder.Services

open Net

/-! ## Whole /24 networks -/

/-- The addresses of a subnet, its network and broadcast address included. -/
def addresses (subnet : Ipam.Subnet) : Set Nat :=
  Set.Icc subnet.network (subnet.network + subnet.capacity)

/-- The addresses of the /24 around an address. -/
def neighbourhood (address : Nat) : Set Nat :=
  Set.Icc (address / 2 ^ 8 * 2 ^ 8) (address / 2 ^ 8 * 2 ^ 8 + 255)

theorem parseCIDR_formatIPv4 {address : Nat} (bound : address < 2 ^ 32) :
    Ipam.parseCIDR (formatIPv4 address ++ "/24") =
      some (.ofMask (address / 2 ^ 8 * 2 ^ 8) (2 ^ 32 - 2 ^ 8)) := by
  have read := parseAddr_formatIPv4 address bound
  have parts : cut '/' (formatIPv4 address ++ "/24").toList =
      some ((formatIPv4 address).toList, ['2', '4']) := by
    rw [String.toList_append]
    exact cut_append _ (slash_not_mem_of_parseAddr read)
  have length : decimal ['2', '4'] = some 24 := by decide
  have noDot : ¬ '.' ∈ ['2', '4'] := by decide
  have parsed : netParseCIDR (formatIPv4 address ++ "/24") =
      some (mapped (address / 2 ^ 8 * 2 ^ 8), mapped (2 ^ 32 - 2 ^ 8)) := by
    rw [netParseCIDR, parts]
    simp only [Option.bind_eq_bind, Option.bind_some, read, length, Addr.bitLen, cidrMask]
    norm_num
  have network : address / 2 ^ 8 * 2 ^ 8 < 2 ^ 32 := by omega
  simp only [Ipam.parseCIDR, parts, noDot, if_false, Ipam.parsePrefix, parsed]
  rw [to4_mapped _ network, to4_mapped _ (by decide)]
  rfl

theorem addresses_normalizeRouter (index : Nat) {router : Ipam.RouterDTO} {address : Nat}
    (bound : address < 2 ^ 32) (gateway : router.gatewayIP = formatIPv4 address)
    (own : router.subnet = formatIPv4 address ++ "/24") :
    addresses (Ipam.normalizeRouter index router).subnet = neighbourhood address := by
  have readable : Ipam.isValidIPv4 router.gatewayIP = true := by
    rw [Ipam.isValidIPv4, gateway, parseIPTo4_formatIPv4 address bound]
    rfl
  have given : router.gatewayIP ≠ "" := gateway ▸ formatIPv4_ne_empty address
  have kept : Ipam.normalizeGateway index router = (router, []) := by
    unfold Ipam.normalizeGateway
    dsimp only
    rw [if_neg given, if_pos readable]
  have subnet : (Ipam.normalizeRouter index router).subnet =
      (Ipam.normalizeSubnet router).subnet := by
    unfold Ipam.normalizeRouter
    rw [kept]
    rfl
  have asked : router.subnet ≠ "" := by
    rw [own]
    intro empty
    have characters := congrArg String.toList empty
    simp [String.toList_append] at characters
  have text : (Ipam.normalizeSubnet router).router.subnet = formatIPv4 address ++ "/24" := by
    unfold Ipam.normalizeSubnet
    dsimp only
    rw [if_neg asked, own, gateway]
    split
    · rfl
    · split <;> rfl
  rw [subnet, Ipam.NormalRouter.subnet, text, parseCIDR_formatIPv4 bound, Option.getD_some]
  rfl

/-! ## Candidates -/

/-- The text of a first address in a /24. -/
def IsFirst (gateway : String) (address : Nat) : Prop :=
  address < 2 ^ 32 ∧ address % 2 ^ 8 = 1 ∧ gateway = formatIPv4 address

theorem neighbourhood_disjoint {left right : Nat} (leftFirst : left % 2 ^ 8 = 1)
    (rightFirst : right % 2 ^ 8 = 1) (different : left ≠ right) :
    Disjoint (neighbourhood left) (neighbourhood right) := by
  rw [Set.disjoint_left]
  rintro ip ⟨leftLow, leftHigh⟩ ⟨rightLow, rightHigh⟩
  omega

namespace Lookups

variable (plan : Lookups)

theorem isFirst_of_mem_lanCandidates {parent : Nat} (bound : parent < 2 ^ 32) {gateway : String}
    (member : gateway ∈ lanCandidates parent) : ∃ address, IsFirst gateway address := by
  rcases List.mem_map.mp member with ⟨step, _, rfl⟩
  dsimp only
  have small : (parent / 2 ^ 8 % 256 + (step + 1)) % 255 < 255 := Nat.mod_lt _ (by decide)
  generalize (parent / 2 ^ 8 % 256 + (step + 1)) % 255 = third at small ⊢
  have byte : (if third = 0 then 1 else third) < 256 := by split <;> omega
  generalize (if third = 0 then 1 else third) = third at byte ⊢
  refine ⟨parent / 2 ^ 16 * 2 ^ 16 + third * 2 ^ 8 + 1, by omega, by omega, ?_⟩
  have first : (parent / 2 ^ 16 * 2 ^ 16 + third * 2 ^ 8 + 1) / 2 ^ 24 % 256 =
      parent / 2 ^ 24 % 256 := by omega
  have second : (parent / 2 ^ 16 * 2 ^ 16 + third * 2 ^ 8 + 1) / 2 ^ 16 % 256 =
      parent / 2 ^ 16 % 256 := by omega
  have thirdByte : (parent / 2 ^ 16 * 2 ^ 16 + third * 2 ^ 8 + 1) / 2 ^ 8 % 256 = third := by omega
  have last : (parent / 2 ^ 16 * 2 ^ 16 + third * 2 ^ 8 + 1) % 256 = 1 := by omega
  have tail : toString ".1" = toString "." ++ toString 1 := by decide
  rw [formatIPv4, first, second, thirdByte, last, tail]
  exact String.append_assoc.symm

/-- All gateways tried for the LAN of a node, in order. -/
def candidates (connections : List Connection) (id : String) : List String :=
  (((plan.neighbors connections id).filter plan.realGateway).filterMap fun neighbor =>
    parseIPTo4 (((plan.nodeByID neighbor).map (·.ip)).getD "")).flatMap lanCandidates

theorem isFirst_of_mem_candidates {connections : List Connection} {id gateway : String}
    (member : gateway ∈ plan.candidates connections id) : ∃ address, IsFirst gateway address := by
  rcases List.mem_flatMap.mp member with ⟨parent, isParent, tried⟩
  rcases List.mem_filterMap.mp isParent with ⟨neighbor, _, parsed⟩
  exact isFirst_of_mem_lanCandidates (Ipam.parseIPTo4_lt parsed) tried

/-! ## Turns -/

/-- A NAT-capable node, and the gateways in use when its LAN is picked. -/
structure Turn where
  id : String
  routerID : String
  used : List String
  deriving DecidableEq

def lacksLAN (node : Node) : Bool := (plan.detailsByID node.id.text).lanGatewayIP = ""

def Turn.unstored (turn : Turn) : Prop := (plan.detailsByID turn.id).lanGatewayIP = ""

/-- The first candidate that is not in use. -/
def Turn.picks (turn : Turn) (connections : List Connection) (gateway : String) : Prop :=
  ∃ before after, plan.candidates connections turn.id = before ++ gateway :: after ∧
    (∀ earlier ∈ before, earlier ∈ turn.used) ∧ gateway ∉ turn.used

def natTurns (connections : List Connection) : List Node → List String → List Turn
  | [], _ => []
  | node :: rest, used =>
      match plan.natGatewayID node.id.text with
      | none => natTurns connections rest used
      | some natRouterID =>
          { id := node.id.text, routerID := natRouterID, used := used } ::
            natTurns connections rest (plan.nextNATLAN connections used node.id.text).2

/-- The router of a NAT-capable node with this gateway and subnet. -/
def lanRouter (id routerID : String) (lan : String × String) : Ipam.RouterDTO :=
  let details := plan.detailsByID id
  { id := routerID
    gatewayIP := lan.1
    subnet := if lan.2 = "" ∧ lan.1 ≠ "" then lan.1 ++ "/24" else lan.2
    dhcpEnabled := details.dhcpEnabled || details.natEnabled }

def Turn.router (turn : Turn) (connections : List Connection) : Ipam.RouterDTO :=
  plan.lanRouter turn.id turn.routerID (plan.nextNATLAN connections turn.used turn.id).1

theorem natRouters_eq (connections : List Connection) : ∀ (nodes : List Node) (used : List String),
    plan.natRouters connections nodes used =
      (plan.natTurns connections nodes used).map (·.router plan connections)
  | [], _ => rfl
  | node :: rest, used => by
      rw [natRouters, natTurns]
      cases plan.natGatewayID node.id.text with
      | none => exact natRouters_eq connections rest used
      | some natRouterID =>
          dsimp only
          rw [List.map_cons, ← natRouters_eq connections rest]
          rfl

theorem subset_nextNATLAN (connections : List Connection) (used : List String) (id : String) :
    used ⊆ (plan.nextNATLAN connections used id).2 := by
  unfold nextNATLAN
  dsimp only
  split
  · exact List.Subset.refl used
  · split
    · exact List.subset_cons_self _ _
    · exact List.Subset.refl used

theorem nextNATLAN_of_unstored (connections : List Connection) {turn : Turn}
    (unstored : turn.unstored plan) :
    plan.nextNATLAN connections turn.used turn.id =
      match (plan.candidates connections turn.id).find? (· ∉ turn.used) with
      | some gateway => ((gateway, gateway ++ "/24"), gateway :: turn.used)
      | none => (("", ""), turn.used) := by
  unfold Turn.unstored at unstored
  unfold nextNATLAN
  dsimp only
  rw [if_neg (not_not_intro unstored)]
  rfl

theorem nextNATLAN_of_stored (connections : List Connection) (used : List String) {node : Node}
    (stored : plan.lacksLAN node = false) :
    plan.nextNATLAN connections used node.id.text =
      (((plan.detailsByID node.id.text).lanGatewayIP,
        (plan.detailsByID node.id.text).lanSubnet), used) := by
  unfold nextNATLAN
  dsimp only
  rw [if_pos (of_decide_eq_false stored)]

theorem Turn.picks_iff {connections : List Connection} {turn : Turn} {gateway : String} :
    turn.picks plan connections gateway ↔
      (plan.candidates connections turn.id).find? (· ∉ turn.used) = some gateway := by
  rw [List.find?_eq_some_iff_append]
  unfold Turn.picks
  constructor
  · rintro ⟨before, after, split, taken, free⟩
    exact ⟨by simpa using free, before, after, split, by simpa using taken⟩
  · rintro ⟨free, before, after, split, taken⟩
    exact ⟨before, after, split, by simpa using taken, by simpa using free⟩

theorem used_of_mem_natTurns (connections : List Connection) :
    ∀ (nodes : List Node) (used : List String), ∀ turn ∈ plan.natTurns connections nodes used,
      used ⊆ turn.used
  | [], _, _, member => absurd member List.not_mem_nil
  | node :: rest, used, turn, member => by
      rw [natTurns] at member
      cases capable : plan.natGatewayID node.id.text with
      | none =>
          rw [capable] at member
          exact used_of_mem_natTurns connections rest used turn member
      | some natRouterID =>
          rw [capable] at member
          rcases List.mem_cons.mp member with rfl | later
          · exact List.Subset.refl used
          · exact List.Subset.trans (plan.subset_nextNATLAN connections used node.id.text)
              (used_of_mem_natTurns connections rest _ turn later)

theorem pairwise_natTurns (connections : List Connection) :
    ∀ (nodes : List Node) (used : List String),
      (plan.natTurns connections nodes used).Pairwise fun early late =>
        (plan.nextNATLAN connections early.used early.id).2 ⊆ late.used
  | [], _ => .nil
  | node :: rest, used => by
      rw [natTurns]
      cases plan.natGatewayID node.id.text with
      | none => exact pairwise_natTurns connections rest used
      | some natRouterID =>
          rw [List.pairwise_cons]
          exact ⟨used_of_mem_natTurns plan connections rest _,
            pairwise_natTurns connections rest _⟩

/-! ## What is stored -/

def natNodesOf (rows : List Node) : List Node :=
  rows.filter fun node => (plan.natGatewayID node.id.text).isSome

def seekers : Nat := (plan.natNodesOf plan.nodes).countP plan.lacksLAN

/-- Of the candidates before this one, fewer are free by what is stored than LANs are to be
picked. -/
def InReach (connections : List Connection) (id gateway : String) : Prop :=
  ∃ before after, plan.candidates connections id = before ++ gateway :: after ∧
    gateway ∉ plan.usedGatewayIPs ∧
    (before.toFinset \ plan.usedGatewayIPs.toFinset).card < plan.seekers

/-- Fewer candidates are free by what is stored than LANs are to be picked. -/
def MayStarve (connections : List Connection) (id : String) : Prop :=
  ((plan.candidates connections id).toFinset \ plan.usedGatewayIPs.toFinset).card < plan.seekers

theorem used_nextNATLAN (connections : List Connection) (used : List String) (node : Node) :
    ∃ extra, (plan.nextNATLAN connections used node.id.text).2 = extra ++ used ∧
      extra.length ≤ if plan.lacksLAN node then 1 else 0 := by
  unfold nextNATLAN lacksLAN
  dsimp only
  split
  · exact ⟨[], rfl, Nat.zero_le _⟩
  · rename_i stored
    rw [if_pos (decide_eq_true (not_not.mp stored))]
    split
    · exact ⟨[_], rfl, Nat.le_refl _⟩
    · exact ⟨[], rfl, Nat.zero_le _⟩

/-- The turn of a node, and that each earlier one has put at most one LAN in use. -/
structure TurnOf (rows : List Node) (used : List String) (position : Nat) (turn : Turn)
    (node : Node) : Prop where
  located : (plan.natNodesOf rows)[position]? = some node
  id : turn.id = node.id.text
  routerID : turn.routerID = node.id.text ++ ":lan"
  used : ∃ extra, turn.used = extra ++ used ∧
    extra.length ≤ ((plan.natNodesOf rows).take position).countP plan.lacksLAN

theorem natGatewayID_eq_some {id routerID : String} (capable : plan.natGatewayID id = some routerID) :
    routerID = id ++ ":lan" := by
  unfold natGatewayID at capable
  split at capable
  · exact (Option.some.inj capable).symm
  · cases capable

theorem turnOf_natTurns (connections : List Connection) :
    ∀ (rows : List Node) (used : List String) {position : Nat} {turn : Turn},
      (plan.natTurns connections rows used)[position]? = some turn →
        ∃ node, plan.TurnOf rows used position turn node
  | [], _, _, _, located => by cases located
  | node :: rest, used, position, turn, located => by
      rw [natTurns] at located
      cases capable : plan.natGatewayID node.id.text with
      | none =>
          have skipped : plan.natNodesOf (node :: rest) = plan.natNodesOf rest :=
            List.filter_cons_of_neg (by simp [capable])
          rw [capable] at located
          rcases turnOf_natTurns connections rest used located with
            ⟨other, at_, id, routerID, later⟩
          rw [← skipped] at at_ later
          exact ⟨other, at_, id, routerID, later⟩
      | some routerID =>
          have first : plan.natNodesOf (node :: rest) = node :: plan.natNodesOf rest :=
            List.filter_cons_of_pos (by simp [capable])
          rw [capable] at located
          cases position with
          | zero =>
              cases located
              exact ⟨node, by rw [first]; rfl, rfl, plan.natGatewayID_eq_some capable, [], rfl,
                Nat.zero_le _⟩
          | succ position =>
              rcases turnOf_natTurns connections rest _ located with
                ⟨other, at_, id, routerID, extra, isExtra, few⟩
              rcases plan.used_nextNATLAN connections used node with ⟨added, isAdded, one⟩
              refine ⟨other, by rw [first]; exact at_, id, routerID, extra ++ added, ?_, ?_⟩
              · rw [isExtra, isAdded, List.append_assoc]
              · rw [first, List.take_succ_cons, List.countP_cons, List.length_append]
                omega

theorem length_natTurns (connections : List Connection) : ∀ (rows : List Node)
    (used : List String), (plan.natTurns connections rows used).length =
      (plan.natNodesOf rows).length
  | [], _ => rfl
  | node :: rest, used => by
      rw [natTurns]
      cases capable : plan.natGatewayID node.id.text with
      | none =>
          have skipped : plan.natNodesOf (node :: rest) = plan.natNodesOf rest :=
            List.filter_cons_of_neg (by simp [capable])
          rw [skipped]
          exact length_natTurns connections rest used
      | some routerID =>
          have first : plan.natNodesOf (node :: rest) = node :: plan.natNodesOf rest :=
            List.filter_cons_of_pos (by simp [capable])
          rw [first, List.length_cons, List.length_cons, length_natTurns connections rest]

theorem countP_take_lt {α : Type} {test : α → Bool} {item : α} : ∀ {items : List α}
    {position : Nat}, items[position]? = some item → test item = true →
      (items.take position).countP test < items.countP test
  | head :: rest, 0, located, passes => by
      cases located
      rw [List.take_zero, List.countP_nil, List.countP_cons_of_pos passes]
      exact Nat.succ_pos _
  | head :: rest, position + 1, located, passes => by
      have later : (rest.take position).countP test < rest.countP test :=
        countP_take_lt located passes
      rw [List.take_succ_cons, List.countP_cons, List.countP_cons]
      exact Nat.add_lt_add_right later _

/-- Where a LAN is to be picked, fewer are in use beyond the stored ones than are to be picked. -/
theorem TurnOf.few {position : Nat} {turn : Turn} {node : Node} {plan : Lookups}
    (turnOf : plan.TurnOf plan.nodes plan.usedGatewayIPs position turn node)
    (lacks : plan.lacksLAN node = true) :
    ∃ extra, turn.used = extra ++ plan.usedGatewayIPs ∧ extra.length < plan.seekers := by
  rcases turnOf.used with ⟨extra, used, few⟩
  exact ⟨extra, used, Nat.lt_of_le_of_lt few (countP_take_lt turnOf.located lacks)⟩

/-- What is taken at a turn and was free by what is stored was picked in an earlier one. -/
theorem card_taken_lt {taken used extra : List String} {count : Nat}
    (covered : ∀ text ∈ taken, text ∈ extra ++ used) (few : extra.length < count) :
    (taken.toFinset \ used.toFinset).card < count := by
  have subset : taken.toFinset \ used.toFinset ⊆ extra.toFinset := by
    intro text member
    rw [Finset.mem_sdiff, List.mem_toFinset, List.mem_toFinset] at member
    exact List.mem_toFinset.mpr
      ((List.mem_append.mp (covered text member.1)).resolve_right member.2)
  exact Nat.lt_of_le_of_lt ((Finset.card_le_card subset).trans extra.toFinset_card_le) few

end Lookups

/-! ## Requests -/

section Requests

variable (sorting : SliceSort) (nodes : List Node) (edges : List Edge)

/-- The turns of the NAT-capable nodes of a topology. -/
def natTurnsOf : List Lookups.Turn :=
  Lookups.natTurns ⟨sorting, nodes⟩ (Lookups.connections ⟨sorting, nodes⟩ edges) nodes
    (Lookups.usedGatewayIPs ⟨sorting, nodes⟩)

/-- The gateway that is picked in a turn without a stored LAN. -/
def PicksAt (position : Nat) (gateway : String) : Prop :=
  ∃ turn, (natTurnsOf sorting nodes edges)[position]? = some turn ∧
    turn.unstored ⟨sorting, nodes⟩ ∧
    turn.picks ⟨sorting, nodes⟩ (Lookups.connections ⟨sorting, nodes⟩ edges) gateway

/-- Where the router of a turn stands in the request. -/
def lanPosition (position : Nat) : Nat :=
  (Lookups.realRouters ⟨sorting, nodes⟩).length + position

/-- The routers of a topology as the allocator reads them. -/
def readRouters : List Ipam.NormalRouter :=
  Ipam.normalizeRouters (planIPAM sorting nodes edges).routers

/-- The /24 of a NAT gateway that was picked meets no subnet of another router. -/
def LANsApart : Prop :=
  ∀ position gateway, PicksAt sorting nodes edges position gateway →
    ∀ lan, (readRouters sorting nodes edges)[lanPosition sorting nodes position]? = some lan →
      ∀ index other, index ≠ lanPosition sorting nodes position →
        (readRouters sorting nodes edges)[index]? = some other →
          Disjoint (addresses lan.subnet) (addresses other.subnet)

/-- A router that asks for the first address of a /24 and stays inside it. -/
def Regular (router : Ipam.RouterDTO) (entry : Ipam.NormalRouter) : Prop :=
  ∃ address, IsFirst router.gatewayIP address ∧ addresses entry.subnet ⊆ neighbourhood address

/-- The first candidate of a NAT gateway that is not in use meets no subnet of
an irregular router. -/
def IrregularApart : Prop :=
  ∀ (index : Nat) router entry, (planIPAM sorting nodes edges).routers[index]? = some router →
    (readRouters sorting nodes edges)[index]? = some entry → ¬ Regular router entry →
      ∀ position gateway, PicksAt sorting nodes edges position gateway →
        ∀ address, IsFirst gateway address →
          Disjoint (neighbourhood address) (addresses entry.subnet)

/-- A router by what is stored, and where it stands in the request: a router of the canvas, a
LAN that is stored, a port gateway, or a LAN without a gateway, where none may be free to pick. -/
inductive StoredRouter : Nat → Ipam.RouterDTO → Prop where
  | canvas {index : Nat} {router : Ipam.RouterDTO} :
      (Lookups.realRouters ⟨sorting, nodes⟩)[index]? = some router → StoredRouter index router
  | lan {position : Nat} {node : Node} :
      (Lookups.natNodesOf ⟨sorting, nodes⟩ nodes)[position]? = some node →
      Lookups.lacksLAN ⟨sorting, nodes⟩ node = false →
      StoredRouter (lanPosition sorting nodes position)
        (Lookups.lanRouter ⟨sorting, nodes⟩ node.id.text (node.id.text ++ ":lan")
          ((Lookups.detailsByID ⟨sorting, nodes⟩ node.id.text).lanGatewayIP,
            (Lookups.detailsByID ⟨sorting, nodes⟩ node.id.text).lanSubnet))
  | starved {position : Nat} {node : Node} :
      (Lookups.natNodesOf ⟨sorting, nodes⟩ nodes)[position]? = some node →
      Lookups.lacksLAN ⟨sorting, nodes⟩ node = true →
      Lookups.MayStarve ⟨sorting, nodes⟩ (Lookups.connections ⟨sorting, nodes⟩ edges)
        node.id.text →
      StoredRouter (lanPosition sorting nodes position)
        (Lookups.lanRouter ⟨sorting, nodes⟩ node.id.text (node.id.text ++ ":lan") ("", ""))
  | port {index : Nat} {router : Ipam.RouterDTO} :
      (Lookups.portRouterDTOs ⟨sorting, nodes⟩)[index]? = some router →
      StoredRouter (lanPosition sorting nodes (Lookups.natNodesOf ⟨sorting, nodes⟩ nodes).length +
        index) router

/-- Every stored router is regular, or its subnet meets no /24 that is in reach of another NAT
gateway without a stored LAN. -/
def StoredApart : Prop :=
  ∀ index router, StoredRouter sorting nodes edges index router →
    Regular router (Ipam.normalizeRouter index router) ∨
    ∀ position node, (Lookups.natNodesOf ⟨sorting, nodes⟩ nodes)[position]? = some node →
      Lookups.lacksLAN ⟨sorting, nodes⟩ node = true → index ≠ lanPosition sorting nodes position →
        ∀ gateway, Lookups.InReach ⟨sorting, nodes⟩ (Lookups.connections ⟨sorting, nodes⟩ edges)
          node.id.text gateway → ∀ address, IsFirst gateway address →
            Disjoint (neighbourhood address)
              (addresses (Ipam.normalizeRouter index router).subnet)

variable {sorting nodes edges}

theorem routers_planIPAM : (planIPAM sorting nodes edges).routers =
    Lookups.realRouters ⟨sorting, nodes⟩ ++ (natTurnsOf sorting nodes edges).map
        (·.router ⟨sorting, nodes⟩ (Lookups.connections ⟨sorting, nodes⟩ edges)) ++
      Lookups.portRouterDTOs ⟨sorting, nodes⟩ := by
  rw [natTurnsOf, ← Lookups.natRouters_eq]
  rfl

theorem getElem?_readRouters (index : Nat) :
    (readRouters sorting nodes edges)[index]? =
      (planIPAM sorting nodes edges).routers[index]?.map (Ipam.normalizeRouter index) := by
  rw [readRouters, Ipam.normalizeRouters, List.getElem?_map, List.getElem?_zipIdx, Option.map_map]
  simp [Function.comp_def]

theorem router_of_picksAt {position : Nat} {gateway : String}
    (picks : PicksAt sorting nodes edges position gateway) :
    ∃ router turn, (natTurnsOf sorting nodes edges)[position]? = some turn ∧
      router = turn.router ⟨sorting, nodes⟩ (Lookups.connections ⟨sorting, nodes⟩ edges) ∧
      (planIPAM sorting nodes edges).routers[lanPosition sorting nodes position]? = some router ∧
      router.gatewayIP = gateway ∧ router.subnet = gateway ++ "/24" ∧
      gateway ∉ turn.used ∧ (Lookups.nextNATLAN ⟨sorting, nodes⟩
        (Lookups.connections ⟨sorting, nodes⟩ edges) turn.used turn.id).2 = gateway :: turn.used := by
  rcases picks with ⟨turn, located, unstored, picked⟩
  have fresh : gateway ∉ turn.used := by
    rcases picked with ⟨_, _, _, _, free⟩
    exact free
  have chosen := Lookups.nextNATLAN_of_unstored ⟨sorting, nodes⟩
    (Lookups.connections ⟨sorting, nodes⟩ edges) unstored
  rw [(Lookups.Turn.picks_iff _).mp picked] at chosen
  refine ⟨_, turn, located, rfl, ?_, ?_, ?_, fresh, by rw [chosen]⟩
  · rw [routers_planIPAM, lanPosition, List.getElem?_append_left, List.getElem?_append_right,
      Nat.add_sub_cancel_left, List.getElem?_map, located]
    · rfl
    · omega
    · have bound := (List.getElem?_eq_some_iff.mp located).1
      rw [List.length_append, List.length_map]
      omega
  · rw [Lookups.Turn.router, chosen]
    rfl
  · rw [Lookups.Turn.router, Lookups.lanRouter, chosen]
    dsimp only
    rw [if_neg]
    rintro ⟨empty, _⟩
    have characters := congrArg String.toList empty
    simp [String.toList_append] at characters

theorem mem_usedGatewayIPs_of_ip {node : Node} (member : node ∈ nodes) (given : node.ip ≠ "") :
    node.ip ∈ Lookups.usedGatewayIPs ⟨sorting, nodes⟩ := by
  apply List.mem_append_left
  apply List.mem_flatMap.mpr
  exact ⟨node, member, List.mem_append_left _ (by simp [given])⟩

theorem mem_usedGatewayIPs_of_lan {node : Node} (member : node ∈ nodes)
    (stored : (Lookups.detailsByID ⟨sorting, nodes⟩ node.id.text).lanGatewayIP ≠ "") :
    (Lookups.detailsByID ⟨sorting, nodes⟩ node.id.text).lanGatewayIP ∈
      Lookups.usedGatewayIPs ⟨sorting, nodes⟩ := by
  apply List.mem_append_left
  apply List.mem_flatMap.mpr
  exact ⟨node, member, List.mem_append_right _ (by simp [stored])⟩

/-! ## Stored routers -/

theorem turnOf_natTurnsOf {position : Nat} {turn : Lookups.Turn}
    (located : (natTurnsOf sorting nodes edges)[position]? = some turn) :
    ∃ node, Lookups.TurnOf ⟨sorting, nodes⟩ nodes (Lookups.usedGatewayIPs ⟨sorting, nodes⟩)
      position turn node :=
  Lookups.turnOf_natTurns _ _ nodes _ located

theorem exists_turn (edges : List Edge) {position : Nat} {node : Node}
    (located : (Lookups.natNodesOf ⟨sorting, nodes⟩ nodes)[position]? = some node) :
    ∃ turn, (natTurnsOf sorting nodes edges)[position]? = some turn ∧
      Lookups.TurnOf ⟨sorting, nodes⟩ nodes (Lookups.usedGatewayIPs ⟨sorting, nodes⟩)
        position turn node := by
  have bound := (List.getElem?_eq_some_iff.mp located).1
  rw [← Lookups.length_natTurns ⟨sorting, nodes⟩ (Lookups.connections ⟨sorting, nodes⟩ edges) nodes
    (Lookups.usedGatewayIPs ⟨sorting, nodes⟩)] at bound
  have atTurn : (natTurnsOf sorting nodes edges)[position]? = some _ :=
    List.getElem?_eq_getElem bound
  rcases turnOf_natTurnsOf atTurn with ⟨other, turnOf⟩
  have same := turnOf.located
  rw [located] at same
  cases same
  exact ⟨_, atTurn, turnOf⟩

theorem inReach_of_picksAt {position : Nat} {gateway : String}
    (picks : PicksAt sorting nodes edges position gateway) :
    ∃ node, (Lookups.natNodesOf ⟨sorting, nodes⟩ nodes)[position]? = some node ∧
      Lookups.lacksLAN ⟨sorting, nodes⟩ node = true ∧
      Lookups.InReach ⟨sorting, nodes⟩ (Lookups.connections ⟨sorting, nodes⟩ edges) node.id.text
        gateway := by
  rcases picks with ⟨turn, located, unstored, before, after, split, taken, free⟩
  rcases turnOf_natTurnsOf located with ⟨node, turnOf⟩
  have lacks : Lookups.lacksLAN ⟨sorting, nodes⟩ node = true := by
    rw [Lookups.Turn.unstored, turnOf.id] at unstored
    exact decide_eq_true unstored
  rcases turnOf.few lacks with ⟨extra, used, few⟩
  refine ⟨node, turnOf.located, lacks, before, after, turnOf.id ▸ split, ?_, ?_⟩
  · intro stored
    exact free (used ▸ List.mem_append_right _ stored)
  · exact Lookups.card_taken_lt (fun text member => used ▸ taken text member) few

theorem storedRouter_or_picksAt {position : Nat} {turn : Lookups.Turn}
    (atTurn : (natTurnsOf sorting nodes edges)[position]? = some turn) :
    StoredRouter sorting nodes edges (lanPosition sorting nodes position)
        (turn.router ⟨sorting, nodes⟩ (Lookups.connections ⟨sorting, nodes⟩ edges)) ∨
      ∃ gateway, PicksAt sorting nodes edges position gateway := by
  rcases turnOf_natTurnsOf atTurn with ⟨node, turnOf⟩
  rw [Lookups.Turn.router, turnOf.id, turnOf.routerID]
  cases lacks : Lookups.lacksLAN ⟨sorting, nodes⟩ node with
  | false =>
      have stored := Lookups.nextNATLAN_of_stored ⟨sorting, nodes⟩
        (Lookups.connections ⟨sorting, nodes⟩ edges) turn.used lacks
      rw [stored]
      exact .inl (.lan turnOf.located lacks)
  | true =>
      have unstored : turn.unstored ⟨sorting, nodes⟩ := by
        rw [Lookups.Turn.unstored, turnOf.id]
        exact of_decide_eq_true lacks
      have chosen := Lookups.nextNATLAN_of_unstored ⟨sorting, nodes⟩
        (Lookups.connections ⟨sorting, nodes⟩ edges) unstored
      rw [turnOf.id] at chosen
      cases found : (Lookups.candidates ⟨sorting, nodes⟩
          (Lookups.connections ⟨sorting, nodes⟩ edges) node.id.text).find?
            (· ∉ turn.used) with
      | some gateway =>
          refine .inr ⟨gateway, turn, atTurn, unstored, ?_⟩
          rw [Lookups.Turn.picks_iff, turnOf.id]
          exact found
      | none =>
          rw [found] at chosen
          rw [chosen]
          refine .inl (.starved turnOf.located lacks ?_)
          rcases turnOf.few lacks with ⟨extra, used, few⟩
          refine Lookups.card_taken_lt (fun text member => ?_) few
          have taken := List.find?_eq_none.mp found text member
          rw [← used]
          simpa using taken

theorem stored_or_picked {index : Nat} {router : Ipam.RouterDTO}
    (located : (planIPAM sorting nodes edges).routers[index]? = some router) :
    StoredRouter sorting nodes edges index router ∨
      ∃ position gateway, index = lanPosition sorting nodes position ∧
        PicksAt sorting nodes edges position gateway := by
  rw [routers_planIPAM, List.append_assoc] at located
  by_cases real : index < (Lookups.realRouters ⟨sorting, nodes⟩).length
  · rw [List.getElem?_append_left real] at located
    exact .inl (.canvas located)
  · rw [List.getElem?_append_right (Nat.le_of_not_lt real)] at located
    rcases Nat.exists_eq_add_of_le (Nat.le_of_not_lt real) with ⟨position, rfl⟩
    rw [Nat.add_sub_cancel_left] at located
    by_cases nat : position < (natTurnsOf sorting nodes edges).length
    · rw [List.getElem?_append_left (by rwa [List.length_map]), List.getElem?_map] at located
      rcases Option.map_eq_some_iff.mp located with ⟨turn, atTurn, rfl⟩
      rcases storedRouter_or_picksAt atTurn with stored | ⟨gateway, picks⟩
      · exact .inl stored
      · exact .inr ⟨position, gateway, rfl, picks⟩
    · rw [List.getElem?_append_right (by rw [List.length_map]; omega), List.length_map, natTurnsOf,
        Lookups.length_natTurns] at located
      rw [natTurnsOf, Lookups.length_natTurns] at nat
      rcases Nat.exists_eq_add_of_le (Nat.le_of_not_lt nat) with ⟨port, rfl⟩
      rw [Nat.add_sub_cancel_left] at located
      rw [← Nat.add_assoc]
      exact .inl (.port located)

/-- A stored gateway is in use from the beginning. -/
theorem StoredRouter.used {index : Nat} {router : Ipam.RouterDTO}
    (stored : StoredRouter sorting nodes edges index router) (named : router.gatewayIP ≠ "") :
    router.gatewayIP ∈ Lookups.usedGatewayIPs ⟨sorting, nodes⟩ := by
  cases stored with
  | canvas located =>
      rcases List.mem_map.mp (List.mem_of_getElem? located) with ⟨node, member, rfl⟩
      exact mem_usedGatewayIPs_of_ip (List.mem_filter.mp member).1 named
  | lan located _ =>
      exact mem_usedGatewayIPs_of_lan (List.mem_filter.mp (List.mem_of_getElem? located)).1 named
  | starved => exact absurd rfl named
  | port located =>
      rcases List.mem_map.mp (List.mem_of_getElem? located) with ⟨entry, member, rfl⟩
      exact List.mem_append_right _ (List.mem_map_of_mem member)

/-! ## Irregular routers -/

theorem used_of_earlier {early late : Nat} (before : early < late) {first second : Lookups.Turn}
    (atEarly : (natTurnsOf sorting nodes edges)[early]? = some first)
    (atLate : (natTurnsOf sorting nodes edges)[late]? = some second) :
    (Lookups.nextNATLAN ⟨sorting, nodes⟩ (Lookups.connections ⟨sorting, nodes⟩ edges) first.used
      first.id).2 ⊆ second.used := by
  rcases List.getElem?_eq_some_iff.mp atEarly with ⟨earlyBound, rfl⟩
  rcases List.getElem?_eq_some_iff.mp atLate with ⟨lateBound, rfl⟩
  exact List.pairwise_iff_getElem.mp (Lookups.pairwise_natTurns _ _ _ _) _ _ earlyBound lateBound
    before

/-- Of two LANs that are picked, the later one avoids the earlier one. -/
theorem PicksAt.ne_of_lt {early late : Nat} {first second : String} (before : early < late)
    (earlyPicks : PicksAt sorting nodes edges early first)
    (latePicks : PicksAt sorting nodes edges late second) : first ≠ second := by
  rcases router_of_picksAt earlyPicks with ⟨_, _, atEarly, _, _, _, _, _, chosen⟩
  rcases router_of_picksAt latePicks with ⟨_, _, atLate, _, _, _, _, fresh, _⟩
  have later := used_of_earlier before atEarly atLate
  rw [chosen] at later
  exact fun same => fresh (same ▸ later List.mem_cons_self)

theorem gatewayIP_ne_of_picksAt {position : Nat} {gateway : String}
    (picks : PicksAt sorting nodes edges position gateway) {index : Nat}
    (different : index ≠ lanPosition sorting nodes position) {router : Ipam.RouterDTO}
    (located : (planIPAM sorting nodes edges).routers[index]? = some router)
    (named : router.gatewayIP ≠ "") : router.gatewayIP ≠ gateway := by
  rcases stored_or_picked located with stored | ⟨other, otherGateway, rfl, otherPicks⟩
  · rcases router_of_picksAt picks with ⟨_, turn, atTurn, _, _, _, _, fresh, _⟩
    have early : Lookups.usedGatewayIPs ⟨sorting, nodes⟩ ⊆ turn.used :=
      Lookups.used_of_mem_natTurns _ _ _ _ turn (List.mem_of_getElem? atTurn)
    exact fun same => fresh (same ▸ early (stored.used named))
  · rcases router_of_picksAt otherPicks with ⟨_, _, _, _, otherLocated, isOther, _⟩
    rw [otherLocated] at located
    cases located
    rw [isOther]
    rcases Nat.lt_or_gt_of_ne (mt (congrArg (lanPosition sorting nodes)) different) with
      before | after
    · exact PicksAt.ne_of_lt before otherPicks picks
    · exact (PicksAt.ne_of_lt after picks otherPicks).symm

theorem lan_of_picksAt {position address : Nat} {gateway : String}
    (picks : PicksAt sorting nodes edges position gateway) (first : IsFirst gateway address) :
    ∃ router lan, (planIPAM sorting nodes edges).routers[lanPosition sorting nodes position]? =
        some router ∧ (readRouters sorting nodes edges)[lanPosition sorting nodes position]? =
        some lan ∧ router.gatewayIP = gateway ∧ addresses lan.subnet = neighbourhood address := by
  rcases router_of_picksAt picks with ⟨router, _, _, _, located, named, own, _, _⟩
  have text : router.gatewayIP = formatIPv4 address := named.trans first.2.2
  refine ⟨router, _, located, by rw [getElem?_readRouters, located, Option.map_some], named, ?_⟩
  exact addresses_normalizeRouter _ first.1 text (by rw [own, first.2.2])

theorem isFirst_of_picksAt {position : Nat} {gateway : String}
    (picks : PicksAt sorting nodes edges position gateway) : ∃ address, IsFirst gateway address := by
  rcases picks with ⟨turn, _, _, before, after, split, _⟩
  have member : gateway ∈ Lookups.candidates ⟨sorting, nodes⟩
      (Lookups.connections ⟨sorting, nodes⟩ edges) turn.id := by
    rw [split]
    exact List.mem_append_right _ List.mem_cons_self
  exact Lookups.isFirst_of_mem_candidates _ member

theorem regular_of_picksAt {position : Nat} {gateway : String} {router : Ipam.RouterDTO}
    {entry : Ipam.NormalRouter} (picks : PicksAt sorting nodes edges position gateway)
    (located : (planIPAM sorting nodes edges).routers[lanPosition sorting nodes position]? =
      some router)
    (read : (readRouters sorting nodes edges)[lanPosition sorting nodes position]? = some entry) :
    Regular router entry := by
  rcases isFirst_of_picksAt picks with ⟨address, first⟩
  rcases lan_of_picksAt picks first with ⟨lanRouter, lan, lanLocated, lanRead, named, own⟩
  rw [lanLocated] at located
  rw [lanRead] at read
  cases located
  cases read
  exact ⟨address, named ▸ first, own.subset⟩

/-- The subnets that are picked meet no others exactly when none is picked that
meets the subnet of an irregular router. -/
theorem lansApart_iff_irregularApart :
    LANsApart sorting nodes edges ↔ IrregularApart sorting nodes edges := by
  constructor
  · intro apart index router entry located read irregular position gateway picks address first
    rcases lan_of_picksAt picks first with ⟨_, lan, _, lanRead, _, own⟩
    rw [← own]
    refine apart position gateway picks lan lanRead index entry ?_ read
    rintro rfl
    exact irregular (regular_of_picksAt picks located read)
  · intro apart position gateway picks lan lanRead index other different read
    rcases isFirst_of_picksAt picks with ⟨address, first⟩
    rcases lan_of_picksAt picks first with ⟨_, sameLAN, _, sameRead, _, own⟩
    rw [lanRead] at sameRead
    cases sameRead
    rw [own]
    rw [getElem?_readRouters] at read
    rcases Option.map_eq_some_iff.mp read with ⟨router, located, isOther⟩
    have otherRead : (readRouters sorting nodes edges)[index]? = some other := by
      rw [getElem?_readRouters, located, Option.map_some, isOther]
    by_cases regular : Regular router other
    · rcases regular with ⟨otherAddress, otherFirst, inside⟩
      have named : router.gatewayIP ≠ "" := otherFirst.2.2 ▸ formatIPv4_ne_empty otherAddress
      have differs := gatewayIP_ne_of_picksAt picks different located named
      apply (neighbourhood_disjoint first.2.1 otherFirst.2.1 ?_).mono_right inside
      rintro rfl
      exact differs (otherFirst.2.2.trans first.2.2.symm)
    · exact apart index router other located otherRead regular position gateway picks address first

theorem picksAt_of_inReach (single : Lookups.seekers ⟨sorting, nodes⟩ ≤ 1) {position : Nat}
    {node : Node} (located : (Lookups.natNodesOf ⟨sorting, nodes⟩ nodes)[position]? = some node)
    (lacks : Lookups.lacksLAN ⟨sorting, nodes⟩ node = true) {gateway : String}
    (inReach : Lookups.InReach ⟨sorting, nodes⟩ (Lookups.connections ⟨sorting, nodes⟩ edges)
      node.id.text gateway) : PicksAt sorting nodes edges position gateway := by
  rcases exists_turn edges located with ⟨turn, atTurn, turnOf⟩
  rcases turnOf.few lacks with ⟨extra, used, few⟩
  have none : extra = [] := List.eq_nil_of_length_eq_zero (by omega)
  rw [none, List.nil_append] at used
  rcases inReach with ⟨before, after, split, free, taken⟩
  refine ⟨turn, atTurn, ?_, before, after, turnOf.id ▸ split, ?_, used ▸ free⟩
  · rw [Lookups.Turn.unstored, turnOf.id]
    exact of_decide_eq_true lacks
  · have nothing : before.toFinset \ (Lookups.usedGatewayIPs ⟨sorting, nodes⟩).toFinset = ∅ :=
      Finset.card_eq_zero.mp (by omega)
    intro earlier member
    rw [used]
    exact List.mem_toFinset.mp
      (Finset.sdiff_eq_empty_iff_subset.mp nothing (List.mem_toFinset.mpr member))

theorem not_lt_of_lacks (single : Lookups.seekers ⟨sorting, nodes⟩ ≤ 1) {left right : Nat}
    {first second : Node}
    (atLeft : (Lookups.natNodesOf ⟨sorting, nodes⟩ nodes)[left]? = some first)
    (firstLacks : Lookups.lacksLAN ⟨sorting, nodes⟩ first = true)
    (atRight : (Lookups.natNodesOf ⟨sorting, nodes⟩ nodes)[right]? = some second)
    (secondLacks : Lookups.lacksLAN ⟨sorting, nodes⟩ second = true) : ¬ left < right := by
  intro before
  have fewer := Lookups.countP_take_lt atRight secondLacks
  have found : first ∈ (Lookups.natNodesOf ⟨sorting, nodes⟩ nodes).take right :=
    List.mem_of_getElem? ((List.getElem?_take_of_lt before).trans atLeft)
  have some := List.countP_pos_iff.mpr ⟨first, found, firstLacks⟩
  unfold Lookups.seekers at single
  dsimp only at single
  omega

/-- A stored router is in the request, unless it stands for a LAN that may be picked. -/
theorem located_of_stored (single : Lookups.seekers ⟨sorting, nodes⟩ ≤ 1) {index : Nat}
    {router : Ipam.RouterDTO} (stored : StoredRouter sorting nodes edges index router)
    {position : Nat} {node : Node}
    (seeks : (Lookups.natNodesOf ⟨sorting, nodes⟩ nodes)[position]? = some node)
    (lacks : Lookups.lacksLAN ⟨sorting, nodes⟩ node = true)
    (different : index ≠ lanPosition sorting nodes position) :
    (planIPAM sorting nodes edges).routers[index]? = some router := by
  rw [routers_planIPAM, List.append_assoc]
  cases stored with
  | canvas located =>
      rw [List.getElem?_append_left (List.getElem?_eq_some_iff.mp located).1]
      exact located
  | @lan place other located stored =>
      rcases exists_turn edges located with ⟨turn, atTurn, turnOf⟩
      have bound := (List.getElem?_eq_some_iff.mp atTurn).1
      rw [lanPosition, List.getElem?_append_right (Nat.le_add_right _ _), Nat.add_sub_cancel_left,
        List.getElem?_append_left (by rwa [List.length_map]), List.getElem?_map, atTurn,
        Option.map_some, Lookups.Turn.router, turnOf.id, turnOf.routerID,
        Lookups.nextNATLAN_of_stored _ _ _ stored]
  | @starved place other located starves =>
      -- The only LAN that is to be picked is the other one.
      rcases Nat.lt_trichotomy place position with before | rfl | after
      · exact absurd before (not_lt_of_lacks single located starves seeks lacks)
      · exact absurd rfl different
      · exact absurd after (not_lt_of_lacks single seeks lacks located starves)
  | @port place _ located =>
      have length := Lookups.length_natTurns ⟨sorting, nodes⟩
        (Lookups.connections ⟨sorting, nodes⟩ edges) nodes
        (Lookups.usedGatewayIPs ⟨sorting, nodes⟩)
      rw [lanPosition, Nat.add_assoc, List.getElem?_append_right (Nat.le_add_right _ _),
        Nat.add_sub_cancel_left, natTurnsOf, List.getElem?_append_right, List.length_map, length,
        Nat.add_sub_cancel_left]
      · exact located
      · rw [List.length_map, length]
        exact Nat.le_add_right _ _

/-- The subnets that are picked meet no others when every other subnet is regular or meets no
/24 in reach, by what is stored; where at most one is picked, exactly then. -/
theorem automatic_lans_apart (sorting : SliceSort) (nodes : List Node) (edges : List Edge) :
    (StoredApart sorting nodes edges → LANsApart sorting nodes edges) ∧
    (Lookups.seekers ⟨sorting, nodes⟩ ≤ 1 →
      (LANsApart sorting nodes edges ↔ StoredApart sorting nodes edges)) := by
  have enough : StoredApart sorting nodes edges → LANsApart sorting nodes edges := by
    intro apart
    apply lansApart_iff_irregularApart.mpr
    intro index router entry located read irregular position gateway picks address first
    have isEntry : Ipam.normalizeRouter index router = entry := by
      rw [getElem?_readRouters, located] at read
      exact Option.some.inj read
    have different : index ≠ lanPosition sorting nodes position := by
      rintro rfl
      exact irregular (regular_of_picksAt picks located read)
    rcases stored_or_picked located with stored | ⟨other, otherGateway, rfl, otherPicks⟩
    · rcases inReach_of_picksAt picks with ⟨node, atNode, lacks, inReach⟩
      rw [← isEntry] at irregular ⊢
      exact (apart index router stored).resolve_left irregular position node atNode lacks different
        gateway inReach address first
    · exact absurd (regular_of_picksAt otherPicks located read) irregular
  refine ⟨enough, fun single => ⟨fun apart => ?_, enough⟩⟩
  rw [lansApart_iff_irregularApart] at apart
  intro index router stored
  by_cases regular : Regular router (Ipam.normalizeRouter index router)
  · exact .inl regular
  · right
    intro position node seeks lacks different gateway inReach address first
    have located := located_of_stored single stored seeks lacks different
    have read : (readRouters sorting nodes edges)[index]? =
        some (Ipam.normalizeRouter index router) := by
      rw [getElem?_readRouters, located, Option.map_some]
    exact apart index router _ located read regular position gateway
      (picksAt_of_inReach single seeks lacks inReach) address first

end Requests

/-- Two routers, and two servers that share their uplink with the first one. -/
def roomyRouters : List Node :=
  [ { id := .numbered 1, type := "router", ip := "192.168.1.1" },
    { id := .numbered 2, type := "router", ip := "192.168.2.1" },
    { id := .numbered 3, type := "server_v2", details := .obj [("nat_enabled", .bool true)] },
    { id := .numbered 4, type := "server_v2", details := .obj [("nat_enabled", .bool true)] } ]

def roomyCables : List Edge :=
  [ { sourceNodeID := .numbered 1, targetNodeID := .numbered 3 },
    { sourceNodeID := .numbered 1, targetNodeID := .numbered 4 } ]

theorem automatic_lans_apart_roomyRouters :
    LANsApart SliceSort.insertion roomyRouters roomyCables := by
  apply (automatic_lans_apart SliceSort.insertion roomyRouters roomyCables).1
  have seeking : ∀ node ∈ Lookups.natNodesOf ⟨SliceSort.insertion, roomyRouters⟩ roomyRouters,
      Lookups.lacksLAN ⟨SliceSort.insertion, roomyRouters⟩ node = true ∧
      ∀ gateway ∈ ["192.168.3.1", "192.168.4.1"],
        gateway ∈ Lookups.candidates ⟨SliceSort.insertion, roomyRouters⟩
          (Lookups.connections ⟨SliceSort.insertion, roomyRouters⟩ roomyCables) node.id.text ∧
        gateway ∉ Lookups.usedGatewayIPs ⟨SliceSort.insertion, roomyRouters⟩ := by
    decide
  intro index router stored
  cases stored with
  | canvas located =>
      have listed : Lookups.realRouters ⟨SliceSort.insertion, roomyRouters⟩ =
          [ { id := (UUID.numbered 1).text, gatewayIP := "192.168.1.1" },
            { id := (UUID.numbered 2).text, gatewayIP := "192.168.2.1" } ] := by decide
      have first : (Ipam.normalizeRouter 0
          { id := (UUID.numbered 1).text, gatewayIP := "192.168.1.1" }).subnet =
            .ofMask 3232235776 4294967040 := by decide +kernel
      have second : (Ipam.normalizeRouter 1
          { id := (UUID.numbered 2).text, gatewayIP := "192.168.2.1" }).subnet =
            .ofMask 3232236032 4294967040 := by decide +kernel
      left
      rw [listed] at located
      match index with
      | 0 =>
          cases located
          exact ⟨3232235777, ⟨by decide, by decide, by decide⟩, first ▸ Set.Subset.refl _⟩
      | 1 =>
          cases located
          exact ⟨3232236033, ⟨by decide, by decide, by decide⟩, second ▸ Set.Subset.refl _⟩
  | lan located stored =>
      have lacks := (seeking _ (List.mem_of_getElem? located)).1
      rw [stored] at lacks
      cases lacks
  | @starved _ node located _ few =>
      have free : ["192.168.3.1", "192.168.4.1"].toFinset ⊆
          (Lookups.candidates ⟨SliceSort.insertion, roomyRouters⟩
            (Lookups.connections ⟨SliceSort.insertion, roomyRouters⟩ roomyCables)
            node.id.text).toFinset \
              (Lookups.usedGatewayIPs ⟨SliceSort.insertion, roomyRouters⟩).toFinset := by
        intro gateway listed
        have both := (seeking _ (List.mem_of_getElem? located)).2 gateway
          (List.mem_toFinset.mp listed)
        rw [Finset.mem_sdiff, List.mem_toFinset, List.mem_toFinset]
        exact both
      have enough := Finset.card_le_card free
      have two : Lookups.seekers ⟨SliceSort.insertion, roomyRouters⟩ = 2 := by decide
      have pair : ["192.168.3.1", "192.168.4.1"].toFinset.card = 2 := by decide
      unfold Lookups.MayStarve at few
      omega
  | port located =>
      have none : Lookups.portRouterDTOs ⟨SliceSort.insertion, roomyRouters⟩ = [] := by decide
      rw [none] at located
      cases located

/-- A router, another one with the last address of the next /24, and a server
that shares its uplink with the first router. -/
def crowdedRouters : List Node :=
  [ { id := .numbered 1, type := "router", ip := "192.168.1.1" },
    { id := .numbered 2, type := "router", ip := "192.168.2.254" },
    { id := .numbered 3, type := "server_v2", details := .obj [("nat_enabled", .bool true)] } ]

def crowdedCables : List Edge := [{ sourceNodeID := .numbered 1, targetNodeID := .numbered 3 }]

/-- The server takes 192.168.2.1, where the second router has its subnet. -/
theorem crowdedRouters_overlap :
    ¬ ∀ (sorting : SliceSort) (nodes : List Node) (edges : List Edge),
      LANsApart sorting nodes edges := by
  intro claim
  have turn : (natTurnsOf SliceSort.insertion crowdedRouters crowdedCables)[0]? =
      some ⟨(UUID.numbered 3).text, (UUID.numbered 3).text ++ ":lan",
        ["192.168.1.1", "192.168.2.254"]⟩ := by
    decide
  have picks : PicksAt SliceSort.insertion crowdedRouters crowdedCables 0 "192.168.2.1" := by
    refine ⟨_, turn, ?_, (Lookups.Turn.picks_iff _).mpr ?_⟩
    · unfold Lookups.Turn.unstored
      decide
    · decide
  have lan : ((readRouters SliceSort.insertion crowdedRouters crowdedCables)[2]?.map (·.subnet)) =
      some (.ofMask 3232236032 4294967040) := by
    decide +kernel
  have second : ((readRouters SliceSort.insertion crowdedRouters crowdedCables)[1]?.map
      (·.subnet)) = some (.ofMask 3232236032 4294967040) := by
    decide +kernel
  rcases Option.map_eq_some_iff.mp lan with ⟨picked, isPicked, pickedSubnet⟩
  rcases Option.map_eq_some_iff.mp second with ⟨other, isOther, otherSubnet⟩
  have apart := claim _ _ _ 0 _ picks picked isPicked 1 other (by decide) isOther
  rw [pickedSubnet, otherSubnet, Set.disjoint_left] at apart
  have network : 3232236032 ∈ addresses (.ofMask 3232236032 4294967040) :=
    ⟨Nat.le_refl _, Nat.le_add_right _ _⟩
  exact apart network network

end HomelabBuilder.Services
