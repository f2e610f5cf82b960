import HomelabBuilder.Ipam.LeaseDemand

/-! # Room for the hosts

When the VM hosts of a domain find as many free addresses in a row as their
blocks need, all of them and all their guests are given an address.
-/

namespace HomelabBuilder.Ipam

open Net

/-! ## What a search finds -/

namespace SubnetAllocator

variable {sa : SubnetAllocator}

/-- The address a search from an offset starts at. -/
def searchStart (sa : SubnetAllocator) (offset : Int) : Nat :=
  sa.network + if offset < 1 ∨ (sa.capacity : Int) ≤ offset then 1 else offset.toNat

/-- The first free address of a search: from its start on, or else from the
beginning of the subnet. -/
structure Finds (sa : SubnetAllocator) (start ip : Nat) : Prop where
  free : sa.isAvailable ip = true
  first : (start ≤ ip ∧ ∀ other, start ≤ other → other < ip → sa.isAvailable other = false) ∨
    (ip < start ∧ (∀ other, start ≤ other → sa.isAvailable other = false) ∧
      ∀ other < ip, sa.isAvailable other = false)

theorem slotOrder_eq (inside : sa.network + sa.capacity < 2 ^ 32) (wide : 1 < sa.capacity)
    {offset : Int} (small : offset < 2 ^ 32) :
    sa.slotOrder offset =
      addressesFrom (sa.searchStart offset) (sa.network + sa.capacity) ++
        addressesFrom (sa.network + 1) (sa.searchStart offset) := by
  have width (positive : 1 ≤ offset) : toUint32 offset = offset.toNat := by
    unfold toUint32
    rw [Int.emod_eq_of_lt (by omega) small]
  have start : (if offset < 1 ∨ sa.capacity ≤ 1 ∨ sa.capacity ≤ toUint32 offset then 1
      else toUint32 offset) =
        if offset < 1 ∨ (sa.capacity : Int) ≤ offset then 1 else offset.toNat := by
    by_cases low : offset < 1
    · rw [if_pos (.inl low), if_pos (.inl low)]
    · rw [width (by omega)]
      by_cases high : (sa.capacity : Int) ≤ offset
      · rw [if_pos (.inr (.inr (by omega))), if_pos (.inr high)]
      · rw [if_neg (by omega), if_neg (by omega)]
  have bound : sa.searchStart offset < 2 ^ 32 := by
    unfold searchStart
    split <;> omega
  unfold slotOrder
  dsimp only
  rw [start, ← searchStart, wrap32_of_lt bound, wrap32_of_lt inside,
    wrap32_of_lt (by omega)]

theorem available_bounds (inside : sa.network + sa.capacity < 2 ^ 32) {ip : Nat}
    (available : sa.isAvailable ip = true) :
    1 < sa.capacity ∧ sa.network < ip ∧ ip < sa.network + sa.capacity := by
  have usable := isUsable_iff.mp (isAvailable_iff.mp available).1
  rw [wrap32_of_lt inside] at usable
  exact usable

theorem allocateSlot_eq (inside : sa.network + sa.capacity < 2 ^ 32) {offset : Int}
    (small : offset < 2 ^ 32) {ip : Nat} (finds : sa.Finds (sa.searchStart offset) ip) :
    sa.allocateSlot offset = ip := by
  rcases available_bounds inside finds.free with ⟨wide, above, below⟩
  unfold allocateSlot
  rw [slotOrder_eq inside wide small, FirstFit.pick, List.find?_append]
  rcases finds.first with ⟨low, none⟩ | ⟨high, upper, lower⟩
  · have found : (addressesFrom (sa.searchStart offset) (sa.network + sa.capacity)).find?
        sa.isAvailable = some ip := by
      unfold addressesFrom
      rw [List.find?_range'_eq_some]
      refine ⟨finds.free, ?_, ?_⟩
      · rw [List.mem_range'_1]
        omega
      · intro other after before
        rw [none other after before]
        rfl
    rw [found]
    rfl
  · have nothing : (addressesFrom (sa.searchStart offset) (sa.network + sa.capacity)).find?
        sa.isAvailable = none := by
      rw [List.find?_eq_none]
      intro other member
      rw [upper other (mem_addressesFrom.mp member).1]
      decide
    have found : (addressesFrom (sa.network + 1) (sa.searchStart offset)).find?
        sa.isAvailable = some ip := by
      unfold addressesFrom
      rw [List.find?_range'_eq_some]
      refine ⟨finds.free, ?_, ?_⟩
      · rw [List.mem_range'_1]
        omega
      · intro other _ before
        rw [lower other before]
        rfl
    rw [nothing, found]
    rfl

theorem finds_allocateSlot (inside : sa.network + sa.capacity < 2 ^ 32) {offset : Int}
    (small : offset < 2 ^ 32) (found : sa.allocateSlot offset ≠ 0) :
    sa.Finds (sa.searchStart offset) (sa.allocateSlot offset) := by
  have free := isAvailable_allocateSlot found
  have bounds {ip : Nat} (outside : ip ≤ sa.network ∨ sa.network + sa.capacity ≤ ip) :
      sa.isAvailable ip = false := by
    by_contra available
    have within := available_bounds inside (Bool.not_eq_false _ ▸ available)
    omega
  refine ⟨free, ?_⟩
  have wide := (available_bounds inside free).1
  unfold allocateSlot at found ⊢
  rw [slotOrder_eq inside wide small, FirstFit.pick, List.find?_append] at found ⊢
  cases upper : (addressesFrom (sa.searchStart offset) (sa.network + sa.capacity)).find?
      sa.isAvailable with
  | some ip =>
      left
      rw [Option.some_or, Option.getD_some]
      unfold addressesFrom at upper
      rw [List.find?_range'_eq_some, List.mem_range'_1] at upper
      refine ⟨upper.2.1.1, fun other after before => ?_⟩
      simpa using upper.2.2 other after before
  | none =>
      right
      rw [upper, Option.none_or] at found
      rw [Option.none_or]
      rw [List.find?_eq_none] at upper
      cases lower : (addressesFrom (sa.network + 1) (sa.searchStart offset)).find?
          sa.isAvailable with
      | none => simp [lower] at found
      | some ip =>
          rw [Option.getD_some]
          unfold addressesFrom at lower
          rw [List.find?_range'_eq_some, List.mem_range'_1] at lower
          refine ⟨by omega, fun other after => ?_, fun other before => ?_⟩
          · by_cases last : other < sa.network + sa.capacity
            · simpa using upper other (mem_addressesFrom.mpr ⟨after, last⟩)
            · exact bounds (.inr (by omega))
          · by_cases low : sa.network + 1 ≤ other
            · simpa using lower.2.2 other low before
            · exact bounds (.inl (by omega))

theorem Finds.next {later : SubnetAllocator} (inside : sa.network + sa.capacity < 2 ^ 32)
    (grows : sa.Grows later) {offset : Int} (positive : 1 ≤ offset) {ip step : Nat}
    (finds : sa.Finds (sa.searchStart offset) ip) (wide : 0 < step)
    (left : ∀ other, later.isAvailable other = true ↔
      sa.isAvailable other = true ∧ ¬ (ip ≤ other ∧ other < ip + step))
    (free : later.isAvailable (ip + step) = true) :
    later.Finds (later.searchStart (max offset ((ip - sa.network : Nat) + step : Nat)))
      (ip + step) := by
  have wasFree := ((left _).mp free).1
  have bounds := available_bounds inside finds.free
  have nextBounds := available_bounds inside wasFree
  have gone {other : Nat} (taken : sa.isAvailable other = false ∨
      (ip ≤ other ∧ other < ip + step)) : later.isAvailable other = false := by
    by_contra available
    rcases (left other).mp (Bool.not_eq_false _ ▸ available) with ⟨was, outside⟩
    rcases taken with none | inBlock
    · rw [none] at was
      cases was
    · exact outside inBlock
  refine ⟨free, ?_⟩
  unfold searchStart at finds ⊢
  rw [grows.network, grows.capacity]
  by_cases beyond : (sa.capacity : Int) ≤ offset
  · -- Both searches start at the beginning of the subnet.
    rw [if_pos (.inr beyond)] at finds
    rw [if_pos (.inr (by omega))]
    left
    refine ⟨by omega, fun other after before => gone ?_⟩
    rcases finds.first with ⟨_, none⟩ | ⟨early, _⟩
    · by_cases inBlock : ip ≤ other
      · exact .inr ⟨inBlock, before⟩
      · exact .inl (none other after (by omega))
    · omega
  · rw [if_neg (by omega)] at finds
    rcases finds.first with ⟨low, none⟩ | ⟨high, upper, lower⟩
    · -- The search moves on behind the block.
      have moved : max offset ((ip - sa.network : Nat) + step : Nat) =
          ((ip - sa.network + step : Nat) : Int) := by omega
      rw [moved, if_neg (by omega)]
      left
      refine ⟨by omega, fun other after before => ?_⟩
      omega
    · -- The search has come round, and starts where it did.
      have early : ip + step < sa.network + offset.toNat := by
        by_contra late
        rw [upper (ip + step) (by omega)] at wasFree
        cases wasFree
      have stays : max offset ((ip - sa.network : Nat) + step : Nat) = offset := by omega
      rw [stays, if_neg (by omega)]
      right
      refine ⟨early, fun other after => gone (.inl (upper other after)), fun other before => ?_⟩
      by_cases inBlock : ip ≤ other
      · exact gone (.inr ⟨inBlock, before⟩)
      · exact gone (.inl (lower other (by omega)))

end SubnetAllocator

/-! ## Guests in a free block -/

/-- Between two states of a domain, the addresses of an interval were taken. -/
structure Takes (before after : DomainState) (first stop : Nat) : Prop where
  grows : before.allocator.Grows after.allocator
  warnings : after.warnings = before.warnings
  accepted : after.accepted = before.accepted
  left : ∀ ip, after.allocator.isAvailable ip = true ↔
    before.allocator.isAvailable ip = true ∧ ¬ (first ≤ ip ∧ ip < stop)

theorem Takes.trans {one two three : DomainState} {first start middle stop : Nat}
    (left : Takes one two first middle) (right : Takes two three start stop)
    (low : first ≤ start) (touch : start ≤ middle) (high : middle ≤ stop) :
    Takes one three first stop where
  grows := left.grows.trans right.grows
  warnings := right.warnings.trans left.warnings
  accepted := right.accepted.trans left.accepted
  left := by
    intro ip
    rw [right.left, left.left]
    constructor
    · rintro ⟨⟨free, early⟩, late⟩
      exact ⟨free, by omega⟩
    · rintro ⟨free, outside⟩
      exact ⟨⟨free, by omega⟩, by omega⟩

theorem isAvailable_markUsed (sa : SubnetAllocator) (ip other : Nat) :
    (sa.markUsed ip).isAvailable other = true ↔ sa.isAvailable other = true ∧ other ≠ ip := by
  rw [SubnetAllocator.isAvailable_iff, SubnetAllocator.isAvailable_iff]
  have usable : (sa.markUsed ip).isUsable other = sa.isUsable other := rfl
  have leased : (sa.markUsed ip).isDHCPReserved other = sa.isDHCPReserved other := rfl
  have used : other ∈ (sa.markUsed ip).used ↔ other = ip ∨ other ∈ sa.used := List.mem_cons
  rw [usable, leased, used]
  tauto

section Fill

variable {nodes : List NodeDTO} {state : DomainState}

theorem settle_takes (entity : Entity) {id : String} (message : String) {found : Nat}
    (unknown : state.accepted.lookup id = none) (nonzero : found ≠ 0) :
    Takes state (state.settle entity id message found) found (found + 1) := by
  have settled : state.settle entity id message found =
      (state.reserve found id).assign entity found := by
    unfold DomainState.settle
    rw [unknown]
    exact if_neg nonzero
  rw [settled]
  refine ⟨⟨rfl, rfl, rfl, rfl, List.subset_cons_self _ _⟩, rfl, rfl, fun ip => ?_⟩
  have marked : ((state.reserve found id).assign entity found).allocator =
      state.allocator.markUsed found := rfl
  rw [marked, isAvailable_markUsed]
  constructor
  · rintro ⟨free, other⟩
    exact ⟨free, by omega⟩
  · rintro ⟨free, outside⟩
    exact ⟨free, by omega⟩

theorem markBlock_takes (state : DomainState) (hostIP blockEnd : Nat) :
    Takes state { state with allocator := markBlock state.allocator hostIP blockEnd } (hostIP + 1)
      (blockEnd + 1) := by
  have marked := markBlock_used state.allocator hostIP blockEnd
  generalize markBlock state.allocator hostIP blockEnd = later at marked
  subst marked
  refine ⟨⟨rfl, rfl, rfl, rfl, List.subset_append_right _ _⟩, rfl, rfl, fun ip => ?_⟩
  simp only [SubnetAllocator.isAvailable_iff, SubnetAllocator.isUsable,
    SubnetAllocator.isDHCPReserved, List.mem_append, List.mem_reverse, List.mem_filter,
    mem_addressesFrom]
  constructor
  · rintro ⟨usable, outside, unused⟩
    refine ⟨⟨usable, outside, fun used => unused (.inr used)⟩, fun inBlock => unused (.inl ?_)⟩
    exact ⟨inBlock, by rw [outside]; rfl⟩
  · rintro ⟨⟨usable, outside, unused⟩, apart⟩
    refine ⟨usable, outside, ?_⟩
    rintro (inBlock | used)
    · exact apart inBlock.1
    · exact unused used

theorem allocateInRange_eq {sa : SubnetAllocator} (inside : sa.network + sa.capacity < 2 ^ 32)
    {start stop ip : Nat} (above : sa.network < start) (low : start ≤ ip) (high : ip ≤ stop)
    (free : sa.isAvailable ip = true)
    (taken : ∀ other, start ≤ other → other < ip → sa.isAvailable other = false) :
    sa.allocateInRange start stop = ip := by
  have bounds := SubnetAllocator.available_bounds inside free
  have last : wrap32 (sa.network + sa.capacity - 1) = sa.network + sa.capacity - 1 :=
    wrap32_of_lt (by omega)
  unfold SubnetAllocator.allocateInRange
  rw [if_neg (Nat.not_le.mpr above), if_neg (Nat.not_le.mpr bounds.1), last]
  dsimp only
  have found (stop : Nat) (inRange : ip ≤ stop) :
      FirstFit.pick sa.isAvailable (addressesFrom start (stop + 1)) = some ip := by
    unfold FirstFit.pick addressesFrom
    rw [List.find?_range'_eq_some, List.mem_range'_1]
    refine ⟨free, by omega, fun other after before => ?_⟩
    rw [taken other after before]
    rfl
  rw [found _ (by split <;> omega)]
  rfl

/-- Guests that still wait for an address find enough of them, one after the
other, behind the ones their host and the guests before them have taken. -/
structure Waiting (nodes : List NodeDTO) (node : NodeDTO) (hostIP blockEnd : Nat)
    (entries : List (VMDTO × Nat)) (state : DomainState) (first : Nat) : Prop where
  lists : Lists nodes state.results
  accepted : state.accepted = []
  inside : state.allocator.network + state.allocator.capacity < 2 ^ 32
  low : state.allocator.network ≤ hostIP
  above : hostIP < first
  room : first + entries.length ≤ blockEnd + 1
  small : blockEnd < 2 ^ 32
  free : ∀ ip, first ≤ ip → ip < first + entries.length → state.allocator.isAvailable ip = true
  taken : ∀ ip, hostIP < ip → ip < first → state.allocator.isAvailable ip = false
  listed : ∀ entry ∈ entries, node.vms[entry.2]? = some entry.1
  nodup : (entries.map (·.2)).Nodup

variable {host : Nat} {node : NodeDTO} {hostIP blockEnd first : Nat}

theorem Waiting.placeVM (found : nodes[host]? = some node) {head : VMDTO × Nat}
    {tail : List (VMDTO × Nat)}
    (waiting : Waiting nodes node hostIP blockEnd (head :: tail) state first) :
    Takes state (placeVM host node.id hostIP blockEnd state head) first (first + 1) ∧
      assignedIPIn (Ipam.placeVM host node.id hostIP blockEnd state head).results
        (.vm host head.2) ≠ "" := by
  have room := waiting.room
  have above := waiting.above
  have low := waiting.low
  have small := waiting.small
  rw [List.length_cons] at room
  have start : wrap32 (hostIP + 1) = hostIP + 1 := wrap32_of_lt (by omega)
  have free := waiting.free first (Nat.le_refl _) (by rw [List.length_cons]; omega)
  have isFound : state.allocator.allocateInRange (wrap32 (hostIP + 1)) blockEnd = first := by
    rw [start]
    refine allocateInRange_eq waiting.inside (by omega) (by omega) (by omega) free ?_
    exact fun other after before => waiting.taken other (by omega) before
  have unknown : state.accepted.lookup head.1.id = none := by
    rw [waiting.accepted]
    rfl
  have named : entityID nodes (.vm host head.2) = some head.1.id := by
    simp [entityID, found, waiting.listed head List.mem_cons_self]
  have nonzero : first ≠ 0 := by omega
  have chosen : state.choose head.1.id first = some first := by
    rw [DomainState.choose, unknown]
    exact if_neg nonzero
  rw [placeVM_eq, isFound]
  refine ⟨settle_takes _ _ unknown nonzero, ?_⟩
  rw [settle_of_choose waiting.lists named chosen]
  exact formatIPv4_ne_empty first

theorem Waiting.next (found : nodes[host]? = some node) {head : VMDTO × Nat}
    {tail : List (VMDTO × Nat)}
    (waiting : Waiting nodes node hostIP blockEnd (head :: tail) state first) :
    Waiting nodes node hostIP blockEnd tail
      (Ipam.placeVM host node.id hostIP blockEnd state head) (first + 1) := by
  have takes := (waiting.placeVM found).1
  have room := waiting.room
  have above := waiting.above
  rw [List.length_cons] at room
  have run : DomainRun nodes [host] state (Ipam.placeVM host node.id hostIP blockEnd state head) :=
    placeVM_run found (List.mem_singleton.mpr rfl) hostIP blockEnd state
      (waiting.listed head List.mem_cons_self)
  refine ⟨DomainRun.lists run waiting.lists, takes.accepted.trans waiting.accepted, ?_, ?_, by omega,
    by omega, waiting.small, ?_, ?_, fun entry member =>
      waiting.listed entry (List.mem_cons_of_mem head member), (List.nodup_cons.mp waiting.nodup).2⟩
  · rw [takes.grows.network, takes.grows.capacity]
    exact waiting.inside
  · rw [takes.grows.network]
    exact waiting.low
  · intro ip after before
    rw [takes.left]
    refine ⟨waiting.free ip (by omega) ?_, by omega⟩
    rw [List.length_cons]
    omega
  · intro ip after before
    by_contra free
    have was := (takes.left ip).mp (Bool.not_eq_false _ ▸ free)
    by_cases last : ip = first
    · omega
    · rw [waiting.taken ip after (by omega)] at was
      cases was.1

theorem Waiting.foldl (found : nodes[host]? = some node) :
    ∀ (entries : List (VMDTO × Nat)) {state : DomainState} {first : Nat},
    Waiting nodes node hostIP blockEnd entries state first →
    Takes state (entries.foldl (Ipam.placeVM host node.id hostIP blockEnd) state) first
        (first + entries.length) ∧
      ∀ entry ∈ entries, assignedIPIn
        (entries.foldl (Ipam.placeVM host node.id hostIP blockEnd) state).results
          (.vm host entry.2) ≠ ""
  | [], state, first, _ => by
      refine ⟨⟨.refl _, rfl, rfl, fun ip => ?_⟩, fun _ member => absurd member List.not_mem_nil⟩
      exact ⟨fun free => ⟨free, by simp⟩, fun free => free.1⟩
  | head :: tail, state, first, waiting => by
      have own := waiting.placeVM found
      have rest := Waiting.foldl found tail (waiting.next found)
      rw [List.foldl_cons, List.length_cons]
      refine ⟨?_, fun entry member => ?_⟩
      · have both := own.1.trans rest.1 (Nat.le_succ _) (Nat.le_refl _) (Nat.le_add_right _ _)
        rwa [Nat.add_right_comm] at both
      · rcases List.mem_cons.mp member with rfl | later
        · rw [foldl_placeVM_frame tail fun other inTail same => ?_]
          · exact own.2
          · rw [Entity.vm.injEq] at same
            apply (List.nodup_cons.mp waiting.nodup).1
            exact List.mem_map.mpr ⟨other, inTail, same.2.symm⟩
        · exact rest.2 entry later

/-! ## Hosts in a row -/

/-- A host and all of its guests have an address. -/
def Filled (nodes : List NodeDTO) (host : Nat) (results : List NodeResult) : Prop :=
  assignedIPIn results (.node host) ≠ "" ∧ ∀ node, nodes[host]? = some node →
    ∀ guest < node.vms.length, assignedIPIn results (.vm host guest) ≠ ""

theorem placeHost_takes (found : nodes[host]? = some node) {step : Nat} (narrow : 2 ≤ step)
    (wide : step ≤ 50) (room : node.vms.length + 1 ≤ step) {turn : DomainState × Int}
    (lists : Lists nodes turn.1.results) (accepted : turn.1.accepted = [])
    (inside : turn.1.allocator.network + turn.1.allocator.capacity < 2 ^ 32)
    {ip : Nat} (finds : hostSearch turn = ip) (free : ∀ other, ip ≤ other → other < ip + step →
      turn.1.allocator.isAvailable other = true) :
    Takes turn.1 (placeHost nodes step turn host).1 ip (ip + step) ∧
      (placeHost nodes step turn host).2 =
        max turn.2 ((ip - turn.1.allocator.network : Nat) + step : Nat) ∧
      Filled nodes host (placeHost nodes step turn host).1.results := by
  have own := free ip (Nat.le_refl _) (by omega)
  have last := free (ip + step - 1) (by omega) (by omega)
  have ownBounds := SubnetAllocator.available_bounds inside own
  have lastBounds := SubnetAllocator.available_bounds inside last
  have unknown : turn.1.accepted.lookup node.id = none := by
    rw [accepted]
    rfl
  have nonzero : ip ≠ 0 := by omega
  have chosen : turn.1.choose node.id (hostSearch turn) = some ip := by
    rw [DomainState.choose, unknown, finds]
    exact if_neg nonzero
  have named : entityID nodes (.node host) = some node.id := by simp [entityID, found]
  have settled : Takes turn.1 (settledHost turn host node).1 ip (ip + 1) := by
    unfold settledHost
    rw [finds]
    exact settle_takes _ _ unknown nonzero
  have hostAssigned := assigned_host lists found (step : Int)
  rw [chosen] at hostAssigned
  have settledRun : DomainRun nodes [host] turn.1 (settledHost turn host node).1 :=
    settle_run (.node host) (List.mem_singleton.mpr rfl) named
      SubnetAllocator.isAvailable_allocateSlot _
  have settledLists := DomainRun.lists settledRun lists
  have offset : (settledHost turn host node).2 = turn.2 := rfl
  rw [placeHost_eq step turn found, chosen] at hostAssigned ⊢
  dsimp only at hostAssigned ⊢
  generalize settledHost turn host node = state at settled settledLists offset hostAssigned ⊢
  have bounds : state.1.allocator.network < 2 ^ 32 ∧ state.1.allocator.capacity < 2 ^ 32 := by
    rw [settled.grows.network, settled.grows.capacity]
    omega
  have usable : state.1.allocator.isUsable ip = true := by
    rw [settled.grows.isUsable_eq]
    exact (SubnetAllocator.isAvailable_iff.mp own).1
  have isEnd : blockEndOf state.1.allocator ip step = ip + step - 1 := by
    have exact : (blockEndOf state.1.allocator ip step : Int) = _ :=
      blockEndOf_eq_min bounds usable (by omega) (by omega)
    rw [settled.grows.network, settled.grows.capacity] at exact
    omega
  have waiting : Waiting nodes node ip (ip + step - 1) node.vms.zipIdx state.1 (ip + 1) := by
    refine ⟨settledLists, settled.accepted.trans accepted, ?_, ?_, by omega, ?_, by omega, ?_, ?_,
      fun entry member => List.mem_zipIdx_iff_getElem?.mp member, ?_⟩
    · rw [settled.grows.network, settled.grows.capacity]
      exact inside
    · rw [settled.grows.network]
      omega
    · rw [List.length_zipIdx]
      omega
    · intro other after before
      rw [List.length_zipIdx] at before
      rw [settled.left]
      exact ⟨free other (by omega) (by omega), by omega⟩
    · omega
    · rw [List.zipIdx_map_snd]
      exact List.nodup_range'
  have guests := waiting.foldl found
  rw [List.length_zipIdx] at guests
  have results := finishHost_results node step host ip state
  rw [isEnd] at results
  refine ⟨?_, ?_, ?_, ?_⟩
  · simp only [finishHost, isEnd]
    have filled := (settled.trans guests.1 (by omega) (by omega) (by omega)).trans
      (markBlock_takes _ ip (ip + step - 1)) (by omega) (by omega) (by omega)
    have whole : ip + step - 1 + 1 = ip + step := by omega
    rwa [whole] at filled
  · have network := (settled.trans guests.1 (by omega) (by omega) (by omega)).grows.network
    simp only [finishHost, isEnd, offset, markBlock_used]
    rw [network]
    unfold sub32
    split <;> omega
  · rw [hostAssigned]
    exact formatIPv4_ne_empty ip
  · intro other isNode guest small
    rw [found] at isNode
    cases isNode
    rw [results]
    have located : node.vms[guest]? = some (node.vms.get ⟨guest, small⟩) :=
      List.getElem?_eq_getElem small
    exact guests.2 (_, guest) (List.mem_zipIdx_iff_getElem?.mpr located)

theorem Filled.frame {results later : List NodeResult} (filled : Filled nodes host results)
    (same : ∀ entity : Entity, entity.nodeIndex = host →
      assignedIPIn later entity = assignedIPIn results entity) : Filled nodes host later := by
  refine ⟨by rw [same (.node host) rfl]; exact filled.1, fun node found guest small => ?_⟩
  rw [same (.vm host guest) rfl]
  exact filled.2 node found guest small

/-- The block of the address that is found for a host is free all over. -/
def WholeBlock (step : Nat) (turn : DomainState × Int) : Prop :=
  ∀ ip, hostSearch turn ≤ ip → ip < hostSearch turn + step → turn.1.allocator.isAvailable ip = true

/-- A host whose guests leave room for its own address in a block. -/
def Seated (nodes : List NodeDTO) (steps : Nat → Int) (step host : Nat) : Prop :=
  steps host = step ∧ ∃ node, nodes[host]? = some node ∧ node.vms.length + 1 ≤ step

theorem foldl_placeHost_fills (steps : Nat → Int) {step : Nat} (narrow : 2 ≤ step)
    (wide : step ≤ 50) : ∀ (hosts : List Nat) {turn : DomainState × Int}, hosts.Nodup →
    (∀ host ∈ hosts, Seated nodes steps step host) →
    Lists nodes turn.1.results → turn.1.accepted = [] →
    turn.1.allocator.network + turn.1.allocator.capacity < 2 ^ 32 →
    (∀ front host rest, hosts = front ++ host :: rest → WholeBlock step
      (front.foldl (fun turn host => placeHost nodes (steps host) turn host) turn)) →
    (hosts.foldl (fun turn host => placeHost nodes (steps host) turn host) turn).1.warnings =
        turn.1.warnings ∧
      ∀ host ∈ hosts, Filled nodes host
        (hosts.foldl (fun turn host => placeHost nodes (steps host) turn host) turn).1.results
  | [], turn, _, _, _, _, _, _ => ⟨rfl, fun _ member => absurd member List.not_mem_nil⟩
  | head :: tail, turn, nodup, seated, lists, accepted, inside, whole => by
      rcases seated head List.mem_cons_self with ⟨width, node, found, room⟩
      rcases placeHost_takes found narrow wide room lists accepted inside rfl
        (whole [] head tail rfl) with ⟨takes, _, filled⟩
      have run : DomainRun nodes [head] turn.1 (placeHost nodes step turn head).1 :=
        placeHost_run _ _ (List.mem_singleton.mpr rfl)
      have rest := foldl_placeHost_fills steps narrow wide tail (List.nodup_cons.mp nodup).2
        (fun host member => seated host (List.mem_cons_of_mem head member))
        (DomainRun.lists run lists) (takes.accepted.trans accepted)
        (by rw [takes.grows.network, takes.grows.capacity]; exact inside)
        (fun front host rest split => by
          have later := whole (head :: front) host rest (by rw [split, List.cons_append])
          rwa [List.foldl_cons, width] at later)
      rw [List.foldl_cons, width]
      refine ⟨rest.1.trans takes.warnings, fun host member => ?_⟩
      rcases List.mem_cons.mp member with rfl | later
      · apply filled.frame
        intro entity here
        exact DomainRun.frame (foldl_placeHost_run steps tail _ fun _ member => member) entity
          (here ▸ (List.nodup_cons.mp nodup).1)
      · exact rest.2 host later

theorem foldl_placeHost_whole (steps : Nat → Int) {step : Nat} (narrow : 2 ≤ step)
    (wide : step ≤ 50) : ∀ (hosts : List Nat) {turn : DomainState × Int} {ip : Nat},
    (∀ host ∈ hosts, Seated nodes steps step host) →
    Lists nodes turn.1.results → turn.1.accepted = [] →
    turn.1.allocator.network + turn.1.allocator.capacity < 2 ^ 32 → 1 ≤ turn.2 →
    (hosts ≠ [] → turn.2 < 2 ^ 32 ∧
      turn.1.allocator.Finds (turn.1.allocator.searchStart turn.2) ip) →
    (∀ other, ip ≤ other → other < ip + hosts.length * step →
      turn.1.allocator.isAvailable other = true) →
    ∀ front host rest, hosts = front ++ host :: rest → WholeBlock step
      (front.foldl (fun turn host => placeHost nodes (steps host) turn host) turn)
  | [], _, _, _, _, _, _, _, _, _, front, _, _, split => by
      have nonempty := congrArg List.length split
      rw [List.length_append, List.length_cons] at nonempty
      cases nonempty
  | head :: tail, turn, ip, seated, lists, accepted, inside, positive, finds, free, front, host,
      rest, split => by
      rcases seated head List.mem_cons_self with ⟨width, node, found, room⟩
      rcases finds (List.cons_ne_nil head tail) with ⟨small, here⟩
      have search : hostSearch turn = ip := SubnetAllocator.allocateSlot_eq inside small here
      rw [List.length_cons, Nat.add_mul, Nat.one_mul] at free
      have own : ∀ other, ip ≤ other → other < ip + step →
          turn.1.allocator.isAvailable other = true :=
        fun other after before => free other after (by omega)
      cases front with
      | nil =>
          intro other after before
          rw [List.foldl_nil, search] at after before
          exact own other after before
      | cons first front =>
          rw [List.cons_append, List.cons.injEq] at split
          rcases split with ⟨rfl, split⟩
          rw [List.foldl_cons, width]
          rcases placeHost_takes found narrow wide room lists accepted inside search own with
            ⟨takes, offset, _⟩
          have run : DomainRun nodes [head] turn.1 (placeHost nodes step turn head).1 :=
            placeHost_run _ _ (List.mem_singleton.mpr rfl)
          have more : tail ≠ [] := by
            rintro rfl
            cases front <;> cases split
          have atLeast : step ≤ tail.length * step :=
            Nat.le_mul_of_pos_left step (List.length_pos_of_ne_nil more)
          have wasFree := free (ip + step) (by omega) (by omega)
          have behind : (placeHost nodes step turn head).1.allocator.isAvailable (ip + step) =
              true := by
            rw [takes.left]
            exact ⟨wasFree, by omega⟩
          have bounds := SubnetAllocator.available_bounds inside wasFree
          have next := here.next inside takes.grows positive (by omega) takes.left behind
          rw [← offset] at next
          refine foldl_placeHost_whole steps narrow wide tail
            (fun host member => seated host (List.mem_cons_of_mem head member))
            (DomainRun.lists run lists) (takes.accepted.trans accepted) ?_ ?_
            (fun _ => ⟨?_, next⟩) (fun other after before => ?_) front host rest split
          · rw [takes.grows.network, takes.grows.capacity]
            exact inside
          · rw [offset]
            omega
          · rw [offset]
            omega
          · rw [takes.left]
            exact ⟨free other (by omega) (by omega), by omega⟩

end Fill

end HomelabBuilder.Ipam
