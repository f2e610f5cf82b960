import Mathlib.Data.Set.Card
import Mathlib.Order.Interval.Finset.Nat
import HomelabBuilder.Ipam.AddressSafety

/-! # Lease pools

Where `NewSubnetAllocator` puts the DHCP pool of a subnet, and how many of its
addresses are left for leases.
-/

namespace HomelabBuilder.Ipam

open Net

/-! ## Subnets that do not wrap -/

theorem decimal_eq_none {text : List Char} {char : Char} (member : char ∈ text)
    (noDigit : char.isDigit = false) : decimal text = none := by
  unfold decimal
  rw [if_neg]
  rintro ⟨_, digits⟩
  rw [List.all_eq_true] at digits
  rw [digits char member] at noDigit
  cases noDigit

theorem netParseCIDR_own_le {gateway : String} {network mask : Nat}
    (parsed : netParseCIDR (gateway ++ "/24") = some (network, mask)) :
    (to4 network).getD 0 ≤ (to4 mask).getD 0 := by
  have whole : (gateway ++ "/24").toList = gateway.toList ++ '/' :: ['2', '4'] := by
    rw [String.toList_append]
    rfl
  by_cases slash : '/' ∈ gateway.toList
  · rcases List.eq_append_cons_of_mem slash with ⟨front, rest, split, absent⟩
    have parts : cut '/' (gateway ++ "/24").toList = some (front, rest ++ '/' :: ['2', '4']) := by
      rw [whole, split, List.append_assoc, List.cons_append, cut_append _ absent]
    have noNumber : decimal (rest ++ '/' :: ['2', '4']) = none :=
      decimal_eq_none (List.mem_append_right _ List.mem_cons_self) (by decide)
    rw [netParseCIDR, parts] at parsed
    simp [noNumber] at parsed
  · have parts : cut '/' (gateway ++ "/24").toList = some (gateway.toList, ['2', '4']) := by
      rw [whole, cut_append _ slash]
    have length : decimal ['2', '4'] = some 24 := by decide
    rw [netParseCIDR, parts] at parsed
    simp only [Option.bind_eq_bind, Option.bind_some, length] at parsed
    cases read : parseAddr gateway.toList with
    | none => simp [read] at parsed
    | some addr =>
        rw [read, Option.bind_some] at parsed
        cases addr with
        | v4 value =>
            simp only [Addr.bitLen] at parsed
            norm_num at parsed
            rcases parsed with ⟨rfl, rfl⟩
            have isMask : to4 (cidrMask 24 32) = some (2 ^ 32 - 2 ^ 8) := by decide
            rw [isMask, Option.getD_some]
            unfold to4 mapped
            split
            · rw [Option.getD_some]
              omega
            · exact Nat.zero_le _
        | v6 value =>
            simp only [Addr.bitLen] at parsed
            norm_num at parsed
            rcases parsed with ⟨rfl, rfl⟩
            rw [to4, if_neg (by omega)]
            exact Nat.zero_le _

theorem parseCIDR_own_le {gateway : String} {subnet : Subnet}
    (parsed : parseCIDR (gateway ++ "/24") = some subnet) : subnet.network ≤ subnet.mask := by
  have ofPrefix {subnet : Subnet} (parsed : parsePrefix (gateway ++ "/24") = some subnet) :
      subnet.network ≤ subnet.mask := by
    unfold parsePrefix at parsed
    split at parsed
    · rename_i network mask own
      cases parsed
      exact netParseCIDR_own_le own
    · rcases Option.map_eq_some_iff.mp parsed with ⟨_, _, rfl⟩
      exact Nat.and_le_right
  unfold parseCIDR at parsed
  split at parsed
  · split at parsed
    · split at parsed
      · cases parsed
      · split at parsed
        · cases parsed
          exact Nat.and_le_right
        · exact ofPrefix parsed
    · exact ofPrefix parsed
  · exact ofPrefix parsed

theorem IsNormal.subnet_inside {entry : NormalRouter} (normal : IsNormal entry) :
    entry.subnet.network + entry.subnet.capacity < 2 ^ 32 := by
  rcases normal with ⟨router, issues, rfl⟩
  change (normalizeSubnet router).subnet.network + (normalizeSubnet router).subnet.capacity < 2 ^ 32
  unfold NormalRouter.subnet
  rcases normalizeSubnet_cases router with ⟨gateway, ⟨subnet, parsed, fits, _⟩ | ⟨own, _⟩⟩
  · rw [parsed, Option.getD_some]
    have bounds := parseCIDR_lt parsed
    simp only [gatewayFits, Bool.and_eq_true, decide_eq_true_eq] at fits
    unfold wrap32 at fits
    omega
  · rw [own, gateway]
    cases parsed : parseCIDR (router.gatewayIP ++ "/24") with
    | none => decide
    | some subnet =>
        have low := parseCIDR_own_le parsed
        have bounds := parseCIDR_lt parsed
        have capacity := parseCIDR_capacity parsed
        simp only [Option.getD_some]
        omega

/-! ## The bounds of a pool -/

/-- The offset of the first address of a pool. -/
def poolStart (capacity : Nat) : Nat := if capacity < 100 then capacity / 4 else 50

theorem poolStart_lt {capacity : Nat} (wide : 1 < capacity) : poolStart capacity < capacity := by
  unfold poolStart
  split <;> omega

/-- How far a pool reaches behind its first address where the subnet lets it:
a third of the subnet, half of a small one, or the leases asked for with a
quarter of headroom. -/
def poolReach (capacity : Nat) (demand : Int) : Nat :=
  max (if capacity / 3 < 10 then capacity / 2 else capacity / 3)
    (leasesWithHeadroom demand.toNat - 1)

theorem leasesWithHeadroom_lt (demand : Nat) : leasesWithHeadroom demand < 2 ^ 32 := by
  unfold leasesWithHeadroom uint32OfDouble
  split
  · exact wrap32_lt _
  · exact Nat.two_pow_pos 32

theorem dhcpPoolOffset_eq (capacity : Nat) (demand : Int) :
    dhcpPoolOffset capacity demand = poolReach capacity demand := by
  unfold dhcpPoolOffset poolReach
  dsimp only
  generalize (if capacity / 3 < 10 then capacity / 2 else capacity / 3) = third
  by_cases asked : 0 < demand
  · simp only [asked, true_and]
    split <;> omega
  · have none : demand.toNat = 0 := by omega
    have nothing : leasesWithHeadroom 0 = 0 := by decide
    rw [if_neg (fun both => asked both.1), none, nothing]
    omega

theorem poolReach_lt {network capacity : Nat} (inside : network + capacity < 2 ^ 32)
    (demand : Int) : poolReach capacity demand < 2 ^ 32 := by
  have bound := leasesWithHeadroom_lt demand.toNat
  unfold poolReach
  split <;> omega

/-- The pool of a subnet that does not wrap. It is cut off at the last usable
address, unless its end has wrapped before. -/
theorem dhcpPool_eq {network capacity : Nat} (inside : network + capacity < 2 ^ 32)
    (wide : 1 < capacity) (demand : Int) :
    dhcpPool network capacity demand =
      (network + poolStart capacity,
        if network + poolStart capacity + poolReach capacity demand < 2 ^ 32 then
          min (network + poolStart capacity + poolReach capacity demand) (network + capacity - 1)
        else network + poolStart capacity + poolReach capacity demand - 2 ^ 32) := by
  have early := poolStart_lt wide
  have reach := poolReach_lt inside demand
  unfold dhcpPool
  dsimp only
  rw [dhcpPoolOffset_eq, ← poolStart]
  have start : wrap32 (network + poolStart capacity) = network + poolStart capacity :=
    wrap32_of_lt (by omega)
  have last : wrap32 (network + capacity - 1) = network + capacity - 1 :=
    wrap32_of_lt (by omega)
  rw [start, last, if_neg (by omega)]
  unfold wrap32
  split <;> split <;> simp only [Prod.mk.injEq, true_and] <;> omega

theorem newSubnetAllocator_subnet {subnetText : String} {subnet : Subnet} (gatewayIP : String)
    (dhcp : Bool) (demand : Int) (parsed : parseCIDR subnetText = some subnet) :
    (newSubnetAllocator subnetText gatewayIP dhcp demand).network = subnet.network ∧
      (newSubnetAllocator subnetText gatewayIP dhcp demand).capacity = subnet.capacity := by
  unfold newSubnetAllocator
  dsimp only
  rw [parsed, Option.getD_some]
  split <;> exact ⟨rfl, rfl⟩

theorem newSubnetAllocator_pool (subnetText gatewayIP : String) (dhcp : Bool) (demand : Int) :
    ((newSubnetAllocator subnetText gatewayIP dhcp demand).dhcpStart,
        (newSubnetAllocator subnetText gatewayIP dhcp demand).dhcpEnd) =
      if dhcp = true ∧ 1 < (newSubnetAllocator subnetText gatewayIP dhcp demand).capacity then
        dhcpPool (newSubnetAllocator subnetText gatewayIP dhcp demand).network
          (newSubnetAllocator subnetText gatewayIP dhcp demand).capacity demand
      else (0, 0) := by
  unfold newSubnetAllocator
  dsimp only
  generalize (parseCIDR subnetText).getD ((parseCIDR (gatewayIP ++ "/24")).getD .zero) = subnet
  by_cases enabled : dhcp = true ∧ 1 < subnet.capacity
  · rw [if_pos (by simpa using enabled)]
    dsimp only
    rw [if_pos enabled]
  · rw [if_neg (by simpa using enabled)]
    dsimp only
    rw [if_neg enabled]

/-! ## The size of a pool -/

/-- There is a pool: DHCP is on, the subnet has more than one address, and the
pool does not start at the address zero. -/
def HasPool (network capacity : Nat) (dhcp : Bool) : Prop :=
  dhcp = true ∧ 1 < capacity ∧ 0 < network + poolStart capacity

instance (network capacity : Nat) (dhcp : Bool) : Decidable (HasPool network capacity dhcp) :=
  inferInstanceAs (Decidable (_ ∧ _ ∧ _))

/-- The pool ends before the addresses wrap. -/
def PoolInside (network capacity : Nat) (demand : Int) : Prop :=
  network + poolStart capacity + poolReach capacity demand < 2 ^ 32

instance (network capacity : Nat) (demand : Int) : Decidable (PoolInside network capacity demand) :=
  inferInstanceAs (Decidable (_ < _))

def poolAddresses (network capacity : Nat) (dhcp : Bool) (demand : Int) : Finset Nat :=
  if HasPool network capacity dhcp ∧ PoolInside network capacity demand then
    Finset.Icc (network + poolStart capacity)
      (min (network + poolStart capacity + poolReach capacity demand) (network + capacity - 1))
  else ∅

/-- The number of addresses a pool shows: a pool whose end has wrapped shows
all it has reached for. -/
def shownLeases (network capacity : Nat) (dhcp : Bool) (demand : Int) : Nat :=
  if HasPool network capacity dhcp then
    if PoolInside network capacity demand then
      min (poolReach capacity demand) (capacity - 1 - poolStart capacity) + 1
    else poolReach capacity demand + 1
  else 0

section Size

variable {sa : SubnetAllocator} {dhcp : Bool} {demand : Int}

/-- The pool of an allocator as its addresses. -/
def SubnetAllocator.leases (sa : SubnetAllocator) : Set Nat := {ip | sa.isDHCPReserved ip = true}

theorem mem_leases {ip : Nat} :
    ip ∈ sa.leases ↔ sa.dhcpStart ≠ 0 ∧ sa.dhcpStart ≤ ip ∧ ip ≤ sa.dhcpEnd := by
  simp [SubnetAllocator.leases, SubnetAllocator.isDHCPReserved, and_assoc]

theorem bounds_of_hasPool (inside : sa.network + sa.capacity < 2 ^ 32)
    (pool : (sa.dhcpStart, sa.dhcpEnd) = if dhcp = true ∧ 1 < sa.capacity then
      dhcpPool sa.network sa.capacity demand else (0, 0)) :
    if HasPool sa.network sa.capacity dhcp then
      sa.dhcpStart = sa.network + poolStart sa.capacity ∧ 0 < sa.dhcpStart ∧
        sa.dhcpEnd = if PoolInside sa.network sa.capacity demand then
            min (sa.network + poolStart sa.capacity + poolReach sa.capacity demand)
              (sa.network + sa.capacity - 1)
          else sa.network + poolStart sa.capacity + poolReach sa.capacity demand - 2 ^ 32
    else sa.dhcpStart = 0 := by
  by_cases carved : dhcp = true ∧ 1 < sa.capacity
  · rw [if_pos carved, dhcpPool_eq inside carved.2, Prod.mk.injEq] at pool
    split
    · rename_i some
      exact ⟨pool.1, pool.1 ▸ some.2.2, pool.2⟩
    · rename_i none
      have start : ¬ 0 < sa.network + poolStart sa.capacity := fun start =>
        none ⟨carved.1, carved.2, start⟩
      omega
  · rw [if_neg carved, Prod.mk.injEq] at pool
    rw [if_neg fun some => carved ⟨some.1, some.2.1⟩]
    exact pool.1

theorem leases_eq (inside : sa.network + sa.capacity < 2 ^ 32)
    (pool : (sa.dhcpStart, sa.dhcpEnd) = if dhcp = true ∧ 1 < sa.capacity then
      dhcpPool sa.network sa.capacity demand else (0, 0)) :
    sa.leases = poolAddresses sa.network sa.capacity dhcp demand := by
  have bounds := bounds_of_hasPool inside pool
  unfold poolAddresses
  by_cases some : HasPool sa.network sa.capacity dhcp
  · rw [if_pos some] at bounds
    rcases bounds with ⟨start, positive, stop⟩
    have asInterval : sa.leases = Set.Icc sa.dhcpStart sa.dhcpEnd := by
      ext ip
      rw [mem_leases, Set.mem_Icc]
      exact and_iff_right (Nat.ne_of_gt positive)
    have reach := poolReach_lt inside demand
    rw [asInterval]
    by_cases unwrapped : PoolInside sa.network sa.capacity demand
    · rw [if_pos unwrapped] at stop
      rw [if_pos ⟨some, unwrapped⟩, Finset.coe_Icc, start, stop]
    · -- The end has wrapped, so it comes before the start.
      rw [if_neg unwrapped] at stop
      rw [if_neg fun both => unwrapped both.2, Finset.coe_empty]
      unfold PoolInside at unwrapped
      exact Set.Icc_eq_empty (by omega)
  · rw [if_neg some] at bounds
    rw [if_neg fun both => some both.1, Finset.coe_empty]
    ext ip
    simp [mem_leases, bounds]

theorem dhcpPoolSize_eq (inside : sa.network + sa.capacity < 2 ^ 32)
    (pool : (sa.dhcpStart, sa.dhcpEnd) = if dhcp = true ∧ 1 < sa.capacity then
      dhcpPool sa.network sa.capacity demand else (0, 0)) :
    sa.dhcpPoolSize = shownLeases sa.network sa.capacity dhcp demand := by
  have bounds := bounds_of_hasPool inside pool
  unfold shownLeases SubnetAllocator.dhcpPoolSize
  by_cases some : HasPool sa.network sa.capacity dhcp
  · rw [if_pos some] at bounds ⊢
    rcases bounds with ⟨start, positive, stop⟩
    have early := poolStart_lt some.2.1
    have reach := poolReach_lt inside demand
    rw [if_neg (Nat.ne_of_gt positive)]
    unfold sub32
    by_cases unwrapped : PoolInside sa.network sa.capacity demand
    · rw [if_pos unwrapped] at stop ⊢
      omega
    · rw [if_neg unwrapped] at stop ⊢
      unfold PoolInside at unwrapped
      omega
  · rw [if_neg some] at bounds ⊢
    rw [if_pos bounds]
    rfl

end Size

/-! ## Well-formed pools -/

/-- The pool lies between the network and the broadcast address and leaves out
the gateway. -/
structure WellFormedPool (sa : SubnetAllocator) (gateway : Nat) : Prop where
  above : sa.network < sa.dhcpStart
  ordered : sa.dhcpStart ≤ sa.dhcpEnd
  below : sa.dhcpEnd < sa.network + sa.capacity
  outside : ¬ (sa.dhcpStart ≤ gateway ∧ gateway ≤ sa.dhcpEnd)

/-- The subnet has four addresses or more, its pool ends before the addresses
wrap, and the gateway lies before its first address or behind its reach. -/
structure PoolFits (subnet : Subnet) (gateway : Nat) (demand : Int) : Prop where
  wide : 4 ≤ subnet.capacity
  inside : subnet.network + poolStart subnet.capacity + poolReach subnet.capacity demand < 2 ^ 32
  apart : gateway < subnet.network + poolStart subnet.capacity ∨
    subnet.network + poolStart subnet.capacity + poolReach subnet.capacity demand < gateway

/-- A pool is well formed exactly when it fits its subnet. The smallest subnets
that start at the address zero have no pool. -/
theorem pool_wellFormed_iff {subnetText gatewayIP : String} {subnet : Subnet} {demand : Int}
    (parsed : parseCIDR subnetText = some subnet) (wide : 1 < subnet.capacity)
    (usable : (newSubnetAllocator subnetText gatewayIP true demand).isUsable
      (ipToUint32 gatewayIP) = true) :
    ((newSubnetAllocator subnetText gatewayIP true demand).dhcpStart ≠ 0 →
        WellFormedPool (newSubnetAllocator subnetText gatewayIP true demand)
          (ipToUint32 gatewayIP)) ↔
      PoolFits subnet (ipToUint32 gatewayIP) demand ∨
        (subnet.network = 0 ∧ subnet.capacity < 4) := by
  have fields := newSubnetAllocator_subnet gatewayIP true demand parsed
  have pool := newSubnetAllocator_pool subnetText gatewayIP true demand
  generalize newSubnetAllocator subnetText gatewayIP true demand = sa at usable fields pool ⊢
  generalize ipToUint32 gatewayIP = gateway at usable ⊢
  have bounds : sa.network < 2 ^ 32 ∧ sa.capacity < 2 ^ 32 := by
    rw [fields.1, fields.2]
    exact parseCIDR_lt parsed
  rcases SubnetAllocator.usable_bounds bounds usable with ⟨above, below, inside⟩
  rw [fields.1] at above
  rw [fields.1, fields.2] at below inside
  rw [fields.1, fields.2, if_pos ⟨rfl, wide⟩, dhcpPool_eq inside wide, Prod.mk.injEq] at pool
  have early := poolStart_lt wide
  have later : 4 ≤ subnet.capacity ↔ 0 < poolStart subnet.capacity := by
    unfold poolStart
    split <;> omega
  generalize isLast : subnet.network + poolStart subnet.capacity +
    poolReach subnet.capacity demand = last at pool
  have reach := Nat.le_add_right (subnet.network + poolStart subnet.capacity)
    (poolReach subnet.capacity demand)
  constructor
  · intro wellFormed
    by_cases none : sa.dhcpStart = 0
    · right
      omega
    · left
      have well := wellFormed none
      have start := well.above
      have ordered := well.ordered
      have outside := well.outside
      have bound : poolReach subnet.capacity demand < 2 ^ 32 := poolReach_lt inside demand
      have unwrapped : last < 2 ^ 32 := by
        by_contra wrapped
        rw [if_neg wrapped] at pool
        omega
      rw [if_pos unwrapped] at pool
      refine ⟨by omega, by omega, ?_⟩
      omega
  · rintro (fits | ⟨zero, small⟩) some
    · have start := fits.wide
      have unwrapped := fits.inside
      have apart := fits.apart
      rw [isLast] at unwrapped apart
      rw [if_pos unwrapped] at pool
      refine ⟨?_, ?_, ?_, ?_⟩ <;> omega
    · omega

/-- A /24 whose router has the address 192.168.1.100. -/
def middleGateway : Subnet := .ofMask 3232235776 4294967040

theorem pool_wellFormed_iff_middleGateway :
    ((newSubnetAllocator "192.168.1.0/24" "192.168.1.100" true 0).dhcpStart ≠ 0 →
        WellFormedPool (newSubnetAllocator "192.168.1.0/24" "192.168.1.100" true 0)
          (ipToUint32 "192.168.1.100")) ↔
      PoolFits middleGateway (ipToUint32 "192.168.1.100") 0 ∨
        (middleGateway.network = 0 ∧ middleGateway.capacity < 4) :=
  pool_wellFormed_iff (by decide +kernel) (by decide) (by decide +kernel)

/-- Its pool from .50 to .135 contains the gateway. -/
theorem middleGateway_leased :
    ¬ ∀ (subnetText gatewayIP : String) (subnet : Subnet) (demand : Int),
      parseCIDR subnetText = some subnet → 1 < subnet.capacity →
      (newSubnetAllocator subnetText gatewayIP true demand).isUsable (ipToUint32 gatewayIP) = true →
      0 ≤ demand → (newSubnetAllocator subnetText gatewayIP true demand).dhcpStart ≠ 0 →
      WellFormedPool (newSubnetAllocator subnetText gatewayIP true demand)
        (ipToUint32 gatewayIP) := by
  intro claim
  have outside := (claim "192.168.1.0/24" "192.168.1.100" middleGateway 0 (by decide +kernel)
    (by decide) (by decide) (by decide) (by decide)).outside
  exact outside (by decide)

end HomelabBuilder.Ipam
