import Mathlib.Order.Interval.Finset.Nat
import HomelabBuilder.Ipam.HostRoom

/-! # Host capacity

The block size of a domain is a share of its addresses, so that no device goes
without one. A guest does when the block of its host is no whole one.
-/

namespace HomelabBuilder.Ipam

open Net

/-! ## Free addresses -/

namespace SubnetAllocator

variable {sa : SubnetAllocator}

/-- The addresses that can still be handed out. -/
def free (sa : SubnetAllocator) : Finset Nat :=
  (Finset.Ioo sa.network (sa.network + sa.capacity)).filter fun ip => sa.isAvailable ip = true

theorem mem_free (inside : sa.network + sa.capacity < 2 ^ 32) {ip : Nat} :
    ip ∈ sa.free ↔ sa.isAvailable ip = true := by
  rw [free, Finset.mem_filter, Finset.mem_Ioo]
  refine ⟨fun both => both.2, fun available => ⟨?_, available⟩⟩
  exact (available_bounds inside available).2

theorem mem_slotOrder (inside : sa.network + sa.capacity < 2 ^ 32) (offset : Int) {ip : Nat}
    (above : sa.network < ip) (below : ip < sa.network + sa.capacity) : ip ∈ sa.slotOrder offset := by
  unfold slotOrder
  dsimp only
  have start : (if offset < 1 ∨ sa.capacity ≤ 1 ∨ sa.capacity ≤ toUint32 offset then 1
      else toUint32 offset) ≤ sa.capacity := by
    split <;> omega
  generalize (if offset < 1 ∨ sa.capacity ≤ 1 ∨ sa.capacity ≤ toUint32 offset then 1
    else toUint32 offset) = base at start ⊢
  rw [wrap32_of_lt inside, wrap32_of_lt (show sa.network + base < 2 ^ 32 by omega),
    wrap32_of_lt (show sa.network + 1 < 2 ^ 32 by omega), List.mem_append, mem_addressesFrom,
    mem_addressesFrom]
  omega

theorem allocateSlot_ne_zero (inside : sa.network + sa.capacity < 2 ^ 32) (offset : Int)
    (room : 0 < sa.free.card) : sa.allocateSlot offset ≠ 0 := by
  rcases Finset.card_pos.mp room with ⟨ip, isFree⟩
  have available := (mem_free inside).mp isFree
  rcases available_bounds inside available with ⟨_, above, below⟩
  unfold allocateSlot
  cases picked : FirstFit.pick sa.isAvailable (sa.slotOrder offset) with
  | none =>
      rw [FirstFit.pick_eq_none_iff.mp picked ip (mem_slotOrder inside offset above below)]
        at available
      cases available
  | some other =>
      have bounds := available_bounds inside (FirstFit.free_of_pick picked)
      rw [Option.getD_some]
      omega

end SubnetAllocator

/-! ## What is spent -/

/-- Between two states of a domain, only addresses of an interval were taken. -/
structure Within (before after : DomainState) (first stop : Nat) : Prop where
  grows : before.allocator.Grows after.allocator
  accepted : after.accepted = before.accepted
  kept : ∀ ip, before.allocator.isAvailable ip = true → ip < first ∨ stop ≤ ip →
    after.allocator.isAvailable ip = true

theorem Within.refl (state : DomainState) (first stop : Nat) : Within state state first stop :=
  ⟨.refl _, rfl, fun _ available _ => available⟩

theorem Within.trans {one two three : DomainState} {first stop : Nat}
    (left : Within one two first stop) (right : Within two three first stop) :
    Within one three first stop where
  grows := left.grows.trans right.grows
  accepted := right.accepted.trans left.accepted
  kept := fun ip available outside => right.kept ip (left.kept ip available outside) outside

theorem Takes.within {before after : DomainState} {first start middle stop : Nat}
    (takes : Takes before after start middle) (low : first ≤ start) (high : middle ≤ stop) :
    Within before after first stop where
  grows := takes.grows
  accepted := takes.accepted
  kept := fun ip available outside => (takes.left ip).mpr ⟨available, by omega⟩

/-- Between two states of a domain, no more than a number of addresses were taken. -/
structure Spends (before after : DomainState) (count : Nat) : Prop where
  grows : before.allocator.Grows after.allocator
  accepted : after.accepted = before.accepted
  card : before.allocator.free.card ≤ after.allocator.free.card + count

theorem Spends.trans {one two three : DomainState} {left right : Nat} (first : Spends one two left)
    (second : Spends two three right) : Spends one three (left + right) where
  grows := first.grows.trans second.grows
  accepted := second.accepted.trans first.accepted
  card := by
    have early := first.card
    have late := second.card
    omega

theorem Within.spends {before after : DomainState} {first stop : Nat}
    (within : Within before after first stop)
    (inside : before.allocator.network + before.allocator.capacity < 2 ^ 32) :
    Spends before after (stop - first) where
  grows := within.grows
  accepted := within.accepted
  card := by
    have stillInside : after.allocator.network + after.allocator.capacity < 2 ^ 32 := by
      rw [within.grows.network, within.grows.capacity]
      exact inside
    have cover : before.allocator.free ⊆ after.allocator.free ∪ Finset.Ico first stop := by
      intro ip isFree
      rw [SubnetAllocator.mem_free inside] at isFree
      rw [Finset.mem_union, SubnetAllocator.mem_free stillInside, Finset.mem_Ico]
      by_cases inBlock : first ≤ ip ∧ ip < stop
      · exact .inr inBlock
      · exact .inl (within.kept ip isFree (by omega))
    calc before.allocator.free.card
        ≤ (after.allocator.free ∪ Finset.Ico first stop).card := Finset.card_le_card cover
      _ ≤ after.allocator.free.card + (Finset.Ico first stop).card := Finset.card_union_le _ _
      _ = after.allocator.free.card + (stop - first) := by rw [Nat.card_Ico]

section Serve

variable {nodes : List NodeDTO}

/-! ## Infrastructure -/

theorem placeInfra_serves (zones : List (String × ZoneConfig)) {state : DomainState} {index : Nat}
    {node : NodeDTO} (found : nodes[index]? = some node) (lists : Lists nodes state.results)
    (accepted : state.accepted = [])
    (inside : state.allocator.network + state.allocator.capacity < 2 ^ 32)
    (room : 0 < state.allocator.free.card) :
    Spends state (placeInfra nodes zones state index) 1 ∧
      (placeInfra nodes zones state index).warnings = state.warnings ∧
      assignedIPIn (placeInfra nodes zones state index).results (.node index) ≠ "" := by
  have named : entityID nodes (.node index) = some node.id := by simp [entityID, found]
  have unknown : state.accepted.lookup node.id = none := by
    rw [accepted]
    rfl
  have nonzero := SubnetAllocator.allocateSlot_ne_zero inside (getZone node.type zones).baseOffset
    room
  rw [placeInfra_eq zones state found]
  generalize state.allocator.allocateSlot (getZone node.type zones).baseOffset = ip at nonzero ⊢
  have chosen : state.choose node.id ip = some ip := by
    rw [DomainState.choose, unknown]
    exact if_neg nonzero
  have takes := settle_takes (.node index)
    s!"subnet exhausted for infrastructure type {quoted node.type}" unknown nonzero
  have spends := (takes.within (Nat.le_refl ip) (Nat.le_refl (ip + 1))).spends inside
  rw [Nat.add_sub_cancel_left] at spends
  refine ⟨spends, takes.warnings, ?_⟩
  rw [settle_of_choose lists named chosen]
  exact formatIPv4_ne_empty ip

theorem foldl_placeInfra_serves (zones : List (String × ZoneConfig)) :
    ∀ (infra : List Nat) {state : DomainState}, infra.Nodup →
    (∀ index ∈ infra, ∃ node, nodes[index]? = some node) → Lists nodes state.results →
    state.accepted = [] → state.allocator.network + state.allocator.capacity < 2 ^ 32 →
    infra.length ≤ state.allocator.free.card →
    Spends state (infra.foldl (placeInfra nodes zones) state) infra.length ∧
      (infra.foldl (placeInfra nodes zones) state).warnings = state.warnings ∧
      ∀ index ∈ infra,
        assignedIPIn (infra.foldl (placeInfra nodes zones) state).results (.node index) ≠ ""
  | [], state, _, _, _, _, _, _ =>
      ⟨⟨.refl _, rfl, Nat.le_refl _⟩, rfl, fun _ member => absurd member List.not_mem_nil⟩
  | head :: tail, state, nodup, known, lists, accepted, inside, room => by
      rcases known head List.mem_cons_self with ⟨node, found⟩
      rw [List.length_cons] at room
      rcases placeInfra_serves zones found lists accepted inside (by omega) with
        ⟨spends, quiet, served⟩
      have run : DomainRun nodes [head] state (placeInfra nodes zones state head) :=
        placeInfra_run zones state (List.mem_singleton.mpr rfl)
      have card := spends.card
      have rest := foldl_placeInfra_serves zones tail (List.nodup_cons.mp nodup).2
        (fun index member => known index (List.mem_cons_of_mem head member))
        (DomainRun.lists run lists) (spends.accepted.trans accepted)
        (by rw [spends.grows.network, spends.grows.capacity]; exact inside) (by omega)
      rw [List.foldl_cons, List.length_cons, Nat.add_comm tail.length 1]
      refine ⟨spends.trans rest.1, rest.2.1.trans quiet, fun index member => ?_⟩
      rcases List.mem_cons.mp member with rfl | later
      · have tailRun : DomainRun nodes tail (placeInfra nodes zones state index)
            (tail.foldl (placeInfra nodes zones) (placeInfra nodes zones state index)) :=
          DomainRun.foldl _ fun state index member => placeInfra_run zones state member
        rw [DomainRun.frame tailRun (.node index) (List.nodup_cons.mp nodup).1]
        exact served
      · exact rest.2.2 index later

/-! ## Hosts -/

/-- A guest without an address is reported for its host. -/
def GuestWarning (nodes : List NodeDTO) (issue : Issue) : Prop :=
  ∃ node ∈ nodes, ∃ vm ∈ node.vms,
    issue = { nodeID := vm.id, message := s!"IP block for host {node.id} is exhausted" }

def WarnsGuests (nodes : List NodeDTO) (before after : List Issue) : Prop :=
  ∀ issue ∈ after, issue ∈ before ∨ GuestWarning nodes issue

theorem WarnsGuests.trans {one two three : List Issue} (left : WarnsGuests nodes one two)
    (right : WarnsGuests nodes two three) : WarnsGuests nodes one three :=
  fun issue member => (right issue member).elim (left issue) .inr

theorem placeVM_within {host : Nat} {node : NodeDTO} (found : nodes[host]? = some node)
    {hostIP : Nat} (blockEnd : Nat) {state : DomainState} (accepted : state.accepted = [])
    (low : state.allocator.network ≤ hostIP) (small : hostIP + 1 < 2 ^ 32) {entry : VMDTO × Nat}
    (listed : node.vms[entry.2]? = some entry.1) :
    Within state (placeVM host node.id hostIP blockEnd state entry) hostIP (blockEnd + 1) ∧
      WarnsGuests nodes state.warnings
        (placeVM host node.id hostIP blockEnd state entry).warnings := by
  have unknown : state.accepted.lookup entry.1.id = none := by
    rw [accepted]
    rfl
  rw [placeVM_eq, wrap32_of_lt small]
  by_cases exhausted : state.allocator.allocateInRange (hostIP + 1) blockEnd = 0
  · have told : state.settle (.vm host entry.2) entry.1.id
        s!"IP block for host {node.id} is exhausted"
        (state.allocator.allocateInRange (hostIP + 1) blockEnd) =
          state.warn entry.1.id s!"IP block for host {node.id} is exhausted" := by
      unfold DomainState.settle
      rw [unknown]
      exact if_pos exhausted
    rw [told]
    refine ⟨⟨.refl _, rfl, fun _ available _ => available⟩, fun issue member => ?_⟩
    refine (List.mem_append.mp member).imp_right fun new => ?_
    exact ⟨node, List.mem_of_getElem? found, entry.1, List.mem_of_getElem? listed,
      List.mem_singleton.mp new⟩
  · have above : state.allocator.network < hostIP + 1 := by omega
    have range := SubnetAllocator.allocateInRange_mem above exhausted
    have takes := settle_takes (.vm host entry.2) s!"IP block for host {node.id} is exhausted"
      unknown exhausted
    refine ⟨takes.within (by omega) (by omega), fun issue member => ?_⟩
    rw [takes.warnings] at member
    exact .inl member

theorem foldl_placeVM_within {host : Nat} {node : NodeDTO} (found : nodes[host]? = some node)
    (hostIP blockEnd : Nat) (small : hostIP + 1 < 2 ^ 32) :
    ∀ (entries : List (VMDTO × Nat)) {state : DomainState}, state.accepted = [] →
    state.allocator.network ≤ hostIP →
    (∀ entry ∈ entries, node.vms[entry.2]? = some entry.1) →
    Within state (entries.foldl (placeVM host node.id hostIP blockEnd) state) hostIP
        (blockEnd + 1) ∧
      WarnsGuests nodes state.warnings
        (entries.foldl (placeVM host node.id hostIP blockEnd) state).warnings
  | [], state, _, _, _ => ⟨.refl _ _ _, fun _ => .inl⟩
  | head :: tail, state, accepted, low, listed => by
      rcases placeVM_within found blockEnd accepted low small (listed head List.mem_cons_self) with
        ⟨own, told⟩
      have rest := foldl_placeVM_within found hostIP blockEnd small tail (own.accepted.trans accepted)
        (own.grows.network ▸ low) fun entry member => listed entry (List.mem_cons_of_mem head member)
      exact ⟨own.trans rest.1, told.trans rest.2⟩

/-- A host is given an address as long as there is one, and takes no more of
them than the block size. -/
theorem placeHost_serves {host : Nat} {node : NodeDTO} (found : nodes[host]? = some node)
    {step : Nat} (narrow : 2 ≤ step) (wide : step ≤ 50) {turn : DomainState × Int}
    (lists : Lists nodes turn.1.results) (accepted : turn.1.accepted = [])
    (inside : turn.1.allocator.network + turn.1.allocator.capacity < 2 ^ 32)
    (room : 0 < turn.1.allocator.free.card) :
    Spends turn.1 (placeHost nodes step turn host).1 step ∧
      WarnsGuests nodes turn.1.warnings (placeHost nodes step turn host).1.warnings ∧
      assignedIPIn (placeHost nodes step turn host).1.results (.node host) ≠ "" := by
  have nonzero := SubnetAllocator.allocateSlot_ne_zero inside turn.2 room
  have available := SubnetAllocator.isAvailable_allocateSlot nonzero
  have unknown : turn.1.accepted.lookup node.id = none := by
    rw [accepted]
    rfl
  have chosen : turn.1.choose node.id (hostSearch turn) = some (hostSearch turn) := by
    rw [DomainState.choose, unknown]
    exact if_neg nonzero
  have assigned := assigned_host lists found (step : Int)
  have settled : Takes turn.1 (settledHost turn host node).1 (hostSearch turn)
      (hostSearch turn + 1) := by
    unfold settledHost
    exact settle_takes _ _ unknown nonzero
  change turn.1.allocator.isAvailable (hostSearch turn) = true at available
  rw [placeHost_eq step turn found, chosen] at assigned ⊢
  dsimp only at assigned ⊢
  generalize settledHost turn host node = state at settled assigned ⊢
  generalize hostSearch turn = ip at available settled assigned ⊢
  have bounds := SubnetAllocator.available_bounds inside available
  have network := settled.grows.network
  have capacity := settled.grows.capacity
  have usable : state.1.allocator.isUsable ip = true := by
    rw [settled.grows.isUsable_eq]
    exact (SubnetAllocator.isAvailable_iff.mp available).1
  have isEnd : (blockEndOf state.1.allocator ip step : Int) = _ :=
    blockEndOf_eq_min ⟨by omega, by omega⟩ usable (by omega) (by omega)
  rw [network, capacity] at isEnd
  have guests (blockEnd : Nat) := foldl_placeVM_within found ip blockEnd (by omega)
    node.vms.zipIdx (settled.accepted.trans accepted) (by omega)
    fun entry member => List.mem_zipIdx_iff_getElem?.mp member
  refine ⟨?_, ?_, ?_⟩
  · simp only [finishHost]
    generalize blockEndOf state.1.allocator ip step = blockEnd at isEnd ⊢
    have marked := markBlock_takes
      (node.vms.zipIdx.foldl (placeVM host node.id ip blockEnd) state.1) ip blockEnd
    have whole := ((settled.within (Nat.le_refl ip) (by omega)).trans (guests blockEnd).1).trans
      (marked.within (by omega) (by omega))
    have spends := whole.spends inside
    refine ⟨spends.grows, spends.accepted, spends.card.trans ?_⟩
    omega
  · simp only [finishHost]
    generalize blockEndOf state.1.allocator ip step = blockEnd
    have told := (guests blockEnd).2
    rw [settled.warnings] at told
    exact told
  · rw [assigned]
    exact formatIPv4_ne_empty ip

theorem foldl_placeHost_serves (steps : Nat → Int) {step : Nat} (narrow : 2 ≤ step)
    (wide : step ≤ 50) : ∀ (hosts : List Nat) {turn : DomainState × Int}, hosts.Nodup →
    (∀ host ∈ hosts, steps host = step ∧ ∃ node, nodes[host]? = some node) →
    Lists nodes turn.1.results → turn.1.accepted = [] →
    turn.1.allocator.network + turn.1.allocator.capacity < 2 ^ 32 →
    hosts.length * step ≤ turn.1.allocator.free.card →
    WarnsGuests nodes turn.1.warnings
        (hosts.foldl (fun turn host => placeHost nodes (steps host) turn host) turn).1.warnings ∧
      ∀ host ∈ hosts, assignedIPIn
        (hosts.foldl (fun turn host => placeHost nodes (steps host) turn host) turn).1.results
          (.node host) ≠ ""
  | [], turn, _, _, _, _, _, _ => ⟨fun _ => .inl, fun _ member => absurd member List.not_mem_nil⟩
  | head :: tail, turn, nodup, known, lists, accepted, inside, room => by
      rcases known head List.mem_cons_self with ⟨width, node, found⟩
      rw [List.length_cons, Nat.add_mul, Nat.one_mul] at room
      rcases placeHost_serves found narrow wide lists accepted inside (by omega) with
        ⟨spends, told, served⟩
      have run : DomainRun nodes [head] turn.1 (placeHost nodes step turn head).1 :=
        placeHost_run _ _ (List.mem_singleton.mpr rfl)
      have card := spends.card
      have rest := foldl_placeHost_serves steps narrow wide tail (List.nodup_cons.mp nodup).2
        (fun host member => known host (List.mem_cons_of_mem head member))
        (DomainRun.lists run lists) (spends.accepted.trans accepted)
        (by rw [spends.grows.network, spends.grows.capacity]; exact inside) (by omega)
      rw [List.foldl_cons, width]
      refine ⟨told.trans rest.1, fun host member => ?_⟩
      rcases List.mem_cons.mp member with rfl | later
      · rw [DomainRun.frame (foldl_placeHost_run steps tail _ fun _ member => member) (.node host)
          (List.nodup_cons.mp nodup).1]
        exact served
      · exact rest.2 host later

/-! ## All members of a domain -/

/-- The state of a domain when its infrastructure has been placed, and where
the search for its hosts starts. -/
def infraTurn (nodes : List NodeDTO) (zones : List (String × ZoneConfig)) (nodeIndexes : List Nat)
    (step : Int) (state : DomainState) : DomainState × Int :=
  let infra := (networkIndexes nodes nodeIndexes).filter fun index =>
    !isHost nodes (domainZonesOf zones step) index
  let placed := infra.foldl (placeInfra nodes (domainZonesOf zones step))
    (infra.foldl (reportInfraGuests nodes) state)
  (placed, hostStartOffset placed.allocator)

/-- A domain before its turn, with an address for everybody. -/
structure Spacious (nodes : List NodeDTO) (zones : List (String × ZoneConfig))
    (nodeIndexes : List Nat) (step : Nat) (state : DomainState) : Prop where
  nodup : nodeIndexes.Nodup
  lists : Lists nodes state.results
  accepted : state.accepted = []
  inside : state.allocator.network + state.allocator.capacity < 2 ^ 32
  narrow : 2 ≤ step
  wide : step ≤ 50
  widths : ∀ host ∈ servedHosts nodes zones nodeIndexes step,
    stepOf nodes (domainZonesOf zones step) host = step
  room : ((networkIndexes nodes nodeIndexes).filter fun index => !isHost nodes zones index).length +
    (servedHosts nodes zones nodeIndexes step).length * step ≤ state.allocator.free.card

variable {zones : List (String × ZoneConfig)} {nodeIndexes : List Nat} {step : Nat}
  {state : DomainState}

theorem exists_of_mem_networkIndexes {index : Nat}
    (member : index ∈ networkIndexes nodes nodeIndexes) : ∃ node, nodes[index]? = some node := by
  have network := (List.mem_filter.mp member).2
  cases found : nodes[index]? with
  | none => simp [found] at network
  | some node => exact ⟨node, rfl⟩

@[simp]
theorem foldl_reportInfraGuests_allocator (infra : List Nat) (state : DomainState) :
    (infra.foldl (reportInfraGuests nodes) state).allocator = state.allocator := by
  refine foldl_keeps DomainState.allocator (fun state index => ?_) infra state
  unfold reportInfraGuests
  split
  · rfl
  · split <;> rfl

/-- After the infrastructure of a spacious domain, its hosts can be served. -/
structure HostsNext (nodes : List NodeDTO) (infra hosts : List Nat) (step : Nat)
    (state : DomainState) (turn : DomainState × Int) : Prop where
  lists : Lists nodes turn.1.results
  accepted : turn.1.accepted = []
  inside : turn.1.allocator.network + turn.1.allocator.capacity < 2 ^ 32
  room : hosts.length * step ≤ turn.1.allocator.free.card
  warnings : turn.1.warnings = state.warnings
  served : ∀ index ∈ infra, assignedIPIn turn.1.results (.node index) ≠ ""

theorem Spacious.hostsNext (spacious : Spacious nodes zones nodeIndexes step state) :
    HostsNext nodes ((networkIndexes nodes nodeIndexes).filter fun index =>
        !isHost nodes zones index)
      (servedHosts nodes zones nodeIndexes step) step state
      (infraTurn nodes zones nodeIndexes step state) := by
  have room := spacious.room
  unfold infraTurn
  dsimp only
  rw [isHost_domainZonesOf]
  generalize isInfra : (networkIndexes nodes nodeIndexes).filter
    (fun index => !isHost nodes zones index) = infra at room ⊢
  generalize servedHosts nodes zones nodeIndexes step = hosts at room ⊢
  generalize domainZonesOf zones step = domainZones
  have nodup : infra.Nodup := isInfra ▸ (nodup_networkIndexes spacious.nodup).filter _
  have known : ∀ index ∈ infra, ∃ node, nodes[index]? = some node := by
    intro index member
    rw [← isInfra] at member
    exact exists_of_mem_networkIndexes (List.mem_filter.mp member).1
  have reportRun : DomainRun nodes [] state (infra.foldl (reportInfraGuests nodes) state) :=
    DomainRun.foldl _ fun state index _ => reportInfraGuests_run state index
  have quiet : (infra.foldl (reportInfraGuests nodes) state).warnings = state.warnings :=
    foldl_keeps DomainState.warnings reportInfraGuests_warnings infra state
  have accepted : (infra.foldl (reportInfraGuests nodes) state).accepted = state.accepted :=
    foldl_reportInfraGuests_accepted infra state
  have allocator : (infra.foldl (reportInfraGuests nodes) state).allocator = state.allocator :=
    foldl_reportInfraGuests_allocator infra state
  generalize infra.foldl (reportInfraGuests nodes) state = reported
    at reportRun quiet accepted allocator ⊢
  have placed := foldl_placeInfra_serves domainZones infra nodup known
    (DomainRun.lists reportRun spacious.lists) (accepted.trans spacious.accepted)
    (by rw [allocator]; exact spacious.inside) (by rw [allocator]; omega)
  have infraRun : DomainRun nodes infra reported
      (infra.foldl (placeInfra nodes domainZones) reported) :=
    DomainRun.foldl _ fun state index member => placeInfra_run _ state member
  have card := placed.1.card
  rw [allocator] at card
  refine ⟨DomainRun.lists infraRun (DomainRun.lists reportRun spacious.lists),
    placed.1.accepted.trans (accepted.trans spacious.accepted), ?_, ?_, placed.2.1.trans quiet,
    placed.2.2⟩
  · dsimp only
    rw [placed.1.grows.network, placed.1.grows.capacity, allocator]
    exact spacious.inside
  · dsimp only
    omega

theorem placeMembers_eq (nodes : List NodeDTO) (zones : List (String × ZoneConfig))
    (nodeIndexes : List Nat) (step : Int) (state : DomainState) :
    placeMembers nodes zones nodeIndexes step state =
      ((servedHosts nodes zones nodeIndexes step).foldl
        (fun turn host => placeHost nodes (stepOf nodes (domainZonesOf zones step) host) turn host)
        (infraTurn nodes zones nodeIndexes step state)).1 :=
  rfl

theorem nodup_servedHosts (nodup : nodeIndexes.Nodup) :
    (servedHosts nodes zones nodeIndexes step).Nodup :=
  nodup_orderedHosts ((nodup_networkIndexes nodup).filter _)

theorem mem_servedHosts {host : Nat} (member : host ∈ networkIndexes nodes nodeIndexes)
    (hosting : isHost nodes zones host = true) : host ∈ servedHosts nodes zones nodeIndexes step := by
  rcases exists_of_mem_networkIndexes member with ⟨node, found⟩
  refine mem_orderedHosts (List.mem_filter.mpr ⟨member, ?_⟩) found
  rw [isHost_domainZonesOf]
  exact hosting

theorem of_mem_servedHosts {host : Nat} (member : host ∈ servedHosts nodes zones nodeIndexes step) :
    host ∈ networkIndexes nodes nodeIndexes ∧ isHost nodes zones host = true := by
  have listed := List.mem_filter.mp (mem_of_mem_orderedHosts member)
  rw [isHost_domainZonesOf] at listed
  exact listed

/-- In a spacious domain every network node is given an address, and only
guests are reported. -/
theorem Spacious.serves (spacious : Spacious nodes zones nodeIndexes step state) :
    (∀ index ∈ networkIndexes nodes nodeIndexes,
      assignedIPIn (placeMembers nodes zones nodeIndexes step state).results (.node index) ≠ "") ∧
      WarnsGuests nodes state.warnings
        (placeMembers nodes zones nodeIndexes step state).warnings := by
  have next := spacious.hostsNext
  have hosts := foldl_placeHost_serves (stepOf nodes (domainZonesOf zones step)) spacious.narrow
    spacious.wide (servedHosts nodes zones nodeIndexes step) (nodup_servedHosts spacious.nodup)
    (fun host member => ⟨spacious.widths host member,
      exists_of_mem_networkIndexes (of_mem_servedHosts member).1⟩)
    next.lists next.accepted next.inside next.room
  rw [placeMembers_eq]
  refine ⟨fun index member => ?_, next.warnings ▸ hosts.1⟩
  cases hosting : isHost nodes zones index with
  | true => exact hosts.2 index (mem_servedHosts member hosting)
  | false =>
      have foreign : index ∉ servedHosts nodes zones nodeIndexes step := by
        intro served
        rw [(of_mem_servedHosts served).2] at hosting
        cases hosting
      rw [DomainRun.frame (foldl_placeHost_run (stepOf nodes (domainZonesOf zones step)) _
        (infraTurn nodes zones nodeIndexes step state) fun _ member => member) (.node index) foreign]
      exact next.served index (List.mem_filter.mpr ⟨member, by rw [hosting]; rfl⟩)

/-- Where every host of a spacious domain finds a whole block, no guest goes without. -/
theorem Spacious.fills (spacious : Spacious nodes zones nodeIndexes step state)
    (small : ∀ host ∈ servedHosts nodes zones nodeIndexes step, ∀ node, nodes[host]? = some node →
      node.vms.length + 1 ≤ step)
    (whole : ∀ host ∈ servedHosts nodes zones nodeIndexes step,
      WholeBlock step (hostTurn nodes zones nodeIndexes step state host)) :
    (placeMembers nodes zones nodeIndexes step state).warnings = state.warnings ∧
      ∀ host ∈ servedHosts nodes zones nodeIndexes step,
        Filled nodes host (placeMembers nodes zones nodeIndexes step state).results := by
  have next := spacious.hostsNext
  have nodup : (servedHosts nodes zones nodeIndexes step).Nodup := nodup_servedHosts spacious.nodup
  have filled := foldl_placeHost_fills (stepOf nodes (domainZonesOf zones step)) spacious.narrow
    spacious.wide (servedHosts nodes zones nodeIndexes step) nodup
    (fun host member => by
      rcases exists_of_mem_networkIndexes (of_mem_servedHosts member).1 with ⟨node, found⟩
      exact ⟨spacious.widths host member, node, found, small host member node found⟩)
    next.lists next.accepted next.inside
    (fun front host rest split => by
      have member : host ∈ servedHosts nodes zones nodeIndexes step := by
        rw [split]
        exact List.mem_append_right _ List.mem_cons_self
      have before : (servedHosts nodes zones nodeIndexes step).takeWhile (· ≠ host) = front := by
        rw [split] at nodup ⊢
        have absent : ∀ other ∈ front, other ≠ host := fun other inFront same =>
          (List.nodup_append.mp nodup).2.2 other inFront host List.mem_cons_self same
        rw [List.takeWhile_append_of_pos fun other inFront => by simpa using absent other inFront]
        simp
      rw [← before]
      exact whole host member)
  rw [placeMembers_eq]
  exact ⟨filled.1.trans next.warnings, filled.2⟩

/-- Where the addresses from the first one that is found for a host are free in
a row, every host of a spacious domain finds a whole block. -/
theorem Spacious.whole (spacious : Spacious nodes zones nodeIndexes step state)
    (small : ∀ host ∈ servedHosts nodes zones nodeIndexes step, ∀ node, nodes[host]? = some node →
      node.vms.length + 1 ≤ step)
    (offset : (infraTurn nodes zones nodeIndexes step state).2 < 2 ^ 32)
    (positive : 1 ≤ (infraTurn nodes zones nodeIndexes step state).2)
    (row : WholeBlock ((servedHosts nodes zones nodeIndexes step).length * step)
      (infraTurn nodes zones nodeIndexes step state)) :
    ∀ host ∈ servedHosts nodes zones nodeIndexes step,
      WholeBlock step (hostTurn nodes zones nodeIndexes step state host) := by
  intro host member
  have next := spacious.hostsNext
  have narrow := spacious.narrow
  rcases takeWhile_split (nodup_servedHosts spacious.nodup) member with ⟨rest, split, _, _⟩
  have some : 0 < (servedHosts nodes zones nodeIndexes step).length :=
    List.length_pos_of_mem member
  have enough : 0 < (servedHosts nodes zones nodeIndexes step).length * step :=
    Nat.mul_pos some (by omega)
  have first := row _ (Nat.le_refl _) (by omega)
  have nonzero : hostSearch (infraTurn nodes zones nodeIndexes step state) ≠ 0 := by
    have bounds := SubnetAllocator.available_bounds next.inside first
    omega
  exact foldl_placeHost_whole (stepOf nodes (domainZonesOf zones step)) narrow spacious.wide
    (servedHosts nodes zones nodeIndexes step)
    (fun host member => by
      rcases exists_of_mem_networkIndexes (of_mem_servedHosts member).1 with ⟨node, found⟩
      exact ⟨spacious.widths host member, node, found, small host member node found⟩)
    next.lists next.accepted next.inside positive
    (fun _ => ⟨offset, SubnetAllocator.finds_allocateSlot next.inside offset nonzero⟩)
    row _ host rest split

end Serve

/-! ## Requests -/

def infraOf (req : AllocateRequest) (domain : AllocationDomain) : List Nat :=
  (networkIndexes req.nodes (membersOf req domain)).filter fun index =>
    !isHost req.nodes (mergeZones req.customZones) index

/-- What `allocateDomain` sets aside for leases. -/
def SubnetAllocator.reservedLeases (sa : SubnetAllocator) : Nat :=
  if sa.dhcpStart ≠ 0 then wrap32 (sub32 sa.dhcpEnd sa.dhcpStart + 1) else 0

/-- A network behind one router, whose subnet is large enough for its devices. -/
structure Planned (req : AllocateRequest) (domain : AllocationDomain) : Prop where
  listed : domain ∈
    (openDomains req.nodes (normalizeRouters req.routers) (ownerRouter req)).domains
  oneRouter : req.routers.length = 1
  /-- The mask is contiguous. -/
  contiguous : ∃ length ≤ 32, domain.allocator.capacity + 1 = 2 ^ (32 - length)
  gateway : IsGateway req domain.key (domain.allocator.network + 1)
  blank : ∀ entity, existingOf req.nodes entity = ""
  defaultZones : req.customZones = []
  infra : (infraOf req domain).length ≤ 28
  hosts : 1 ≤ (hostsOf req domain).length
  room : 2 * (hostsOf req domain).length + 30 + domain.allocator.reservedLeases ≤
    domain.allocator.capacity

/-- Every host has at most as many guests as its block has places for them. -/
def GuestsFit (req : AllocateRequest) (domain : AllocationDomain) : Prop :=
  ∀ host ∈ hostsOf req domain, ∀ node, req.nodes[host]? = some node →
    (node.vms.length : Int) ≤ stepIn req domain - 1

/-- Every network node of a domain has an address. -/
def NodesServed (req : AllocateRequest) (domain : AllocationDomain) : Prop :=
  ∀ index ∈ networkIndexes req.nodes (membersOf req domain),
    (allocate req).assignedIP (.node index) ≠ ""

def GuestsServed (req : AllocateRequest) (domain : AllocationDomain) : Prop :=
  ∀ host ∈ hostsOf req domain, ∀ node, req.nodes[host]? = some node →
    ∀ guest < node.vms.length, (allocate req).assignedIP (.vm host guest) ≠ ""

/-- The only warnings are about leases and about nodes no router reaches. -/
def NothingExhausted (req : AllocateRequest) : Prop :=
  (allocate req).warnings = (startResponse req (ownerRouter req)).warnings

abbrev turnOf (req : AllocateRequest) (domain : AllocationDomain) (host : Nat) :
    DomainState × Int :=
  turnIn req domain (startResponse req (ownerRouter req)) host

/-- What the first host finds, and all that comes behind it. -/
abbrev firstTurn (req : AllocateRequest) (domain : AllocationDomain) : DomainState × Int :=
  infraTurn req.nodes (mergeZones req.customZones) (membersOf req domain) (stepIn req domain)
    (reservedState req domain (startResponse req (ownerRouter req)))

/-- When the infrastructure has its addresses, the addresses from the first one
that is found for a host are free for the blocks of all hosts. -/
def RowFree (req : AllocateRequest) (domain : AllocationDomain) : Prop :=
  WholeBlock ((hostsOf req domain).length * (stepIn req domain).toNat) (firstTurn req domain)

section Promise

variable {req : AllocateRequest} {domain : AllocationDomain}

theorem Planned.opened (planned : Planned req domain) : ∃ entry : NormalRouter,
    domain = (joinDomain (newDomain (normalizeRouters req.routers)
      (domainDemand req.nodes (normalizeRouters req.routers) (ownerRouter req)) entry)
      entry.router).1 ∧
    (openDomains req.nodes (normalizeRouters req.routers) (ownerRouter req)).domains = [domain] := by
  have listed := planned.listed
  rcases List.length_eq_one_iff.mp planned.oneRouter with ⟨router, single⟩
  have one : normalizeRouters req.routers = [normalizeRouter 0 router] := by
    rw [single]
    rfl
  refine ⟨normalizeRouter 0 router, ?_⟩
  rw [one] at listed ⊢
  unfold openDomains at listed ⊢
  rw [List.foldl_cons, List.foldl_nil] at listed ⊢
  unfold openDomain at listed ⊢
  dsimp only [List.find?_nil, List.nil_append] at listed ⊢
  rw [List.mem_singleton.mp listed]
  exact ⟨rfl, rfl⟩

theorem Planned.allocate_eq (planned : Planned req domain) :
    allocate req = runDomain req.nodes (mergeZones req.customZones)
      (domainNodeIndexes req.nodes (normalizeRouters req.routers) (ownerRouter req))
      (startResponse req (ownerRouter req)) domain := by
  rcases planned.opened with ⟨_, _, domains⟩
  rw [allocate_of_listed planned.listed, allocateOwned_eq, domains]
  rfl

theorem Planned.reservedState_eq (planned : Planned req domain) :
    reservedState req domain (startResponse req (ownerRouter req)) =
      domain.turn (startResponse req (ownerRouter req)) := by
  unfold reservedState
  rw [reserveMembers_eq]
  have none (entities : List Entity) (state : DomainState) :
      reserveAll req.nodes (existingOf req.nodes) entities state = state := by
    refine foldl_keeps id (fun state entity => ?_) entities state
    rw [planned.blank entity]
    rfl
  rw [none]
  rfl

theorem mem_used_newSubnetAllocator {subnetText gatewayIP : String} {dhcp : Bool} {demand : Int}
    {ip : Nat} (member : ip ∈ (newSubnetAllocator subnetText gatewayIP dhcp demand).used) :
    ip = ipToUint32 gatewayIP ∨ ip = (newSubnetAllocator subnetText gatewayIP dhcp demand).network ∨
      ip = wrap32 ((newSubnetAllocator subnetText gatewayIP dhcp demand).network +
        (newSubnetAllocator subnetText gatewayIP dhcp demand).capacity) := by
  unfold newSubnetAllocator at member ⊢
  dsimp only at member ⊢
  generalize (parseCIDR subnetText).getD ((parseCIDR (gatewayIP ++ "/24")).getD .zero) = subnet
    at member ⊢
  split at member <;> rename_i pool <;> simp only [pool] <;> split_ifs at member <;>
    simp only [List.mem_cons, List.not_mem_nil, or_false] at member <;> tauto

theorem Planned.card_free (planned : Planned req domain) :
    domain.allocator.capacity ≤
      domain.allocator.free.card + domain.allocator.reservedLeases + 2 := by
  have inside := (domain_pool planned.listed).1
  have wellFormed := (opened_openDomains req.routers req.nodes (ownerRouter req)).wellFormed domain
    planned.listed
  have room := planned.room
  rcases planned.opened with ⟨entry, isDomain, _⟩
  have used : ∀ ip ∈ domain.allocator.used, domain.allocator.isUsable ip = true →
      ip = ipToUint32 entry.router.gatewayIP := by
    intro ip taken usable
    have bounds := SubnetAllocator.isUsable_iff.mp usable
    have own (old : ip ∈ (newDomain (normalizeRouters req.routers)
        (domainDemand req.nodes (normalizeRouters req.routers) (ownerRouter req))
        entry).allocator.used)
        (network : domain.allocator.network = (newDomain (normalizeRouters req.routers)
          (domainDemand req.nodes (normalizeRouters req.routers) (ownerRouter req))
          entry).allocator.network)
        (capacity : domain.allocator.capacity = (newDomain (normalizeRouters req.routers)
          (domainDemand req.nodes (normalizeRouters req.routers) (ownerRouter req))
          entry).allocator.capacity) : ip = ipToUint32 entry.router.gatewayIP := by
      rw [network, capacity] at bounds
      rcases mem_used_newSubnetAllocator old with gateway | isNetwork | broadcast
      · exact gateway
      · exact absurd isNetwork (Nat.ne_of_gt bounds.2.1)
      · exact absurd broadcast (Nat.ne_of_lt bounds.2.2)
    rcases joinDomain_cases (newDomain (normalizeRouters req.routers)
      (domainDemand req.nodes (normalizeRouters req.routers) (ownerRouter req)) entry)
      entry.router with ⟨_, same, _⟩ | ⟨_, joined⟩
    · rw [same] at isDomain
      rw [isDomain] at taken
      exact own taken (by rw [isDomain]) (by rw [isDomain])
    · rw [joined] at isDomain
      rw [isDomain] at taken
      rcases List.mem_cons.mp taken with gateway | old
      · exact gateway
      · exact own old (by rw [isDomain]; rfl) (by rw [isDomain]; rfl)
  have leases : (if domain.allocator.dhcpStart = 0 then ∅ else
      Finset.Icc domain.allocator.dhcpStart domain.allocator.dhcpEnd).card ≤
        domain.allocator.reservedLeases := by
    have start := wellFormed.dhcpStart
    have stop := wellFormed.dhcpEnd
    unfold SubnetAllocator.reservedLeases
    split
    · simp
    · rw [Nat.card_Icc]
      unfold sub32 wrap32
      omega
  have cover : Finset.Ioo domain.allocator.network
      (domain.allocator.network + domain.allocator.capacity) ⊆
        (domain.allocator.free ∪ if domain.allocator.dhcpStart = 0 then ∅ else
          Finset.Icc domain.allocator.dhcpStart domain.allocator.dhcpEnd) ∪
            {ipToUint32 entry.router.gatewayIP} := by
    intro ip between
    have usable : domain.allocator.isUsable ip = true := by
      rw [Finset.mem_Ioo] at between
      rw [SubnetAllocator.isUsable_iff, wrap32_of_lt inside]
      omega
    rw [Finset.mem_union, Finset.mem_union, Finset.mem_singleton,
      SubnetAllocator.mem_free inside, SubnetAllocator.isAvailable_iff]
    by_cases taken : ip ∈ domain.allocator.used
    · exact .inr (used ip taken usable)
    · left
      cases leased : domain.allocator.isDHCPReserved ip with
      | false => exact .inl ⟨usable, rfl, taken⟩
      | true =>
          right
          simp only [SubnetAllocator.isDHCPReserved, Bool.and_eq_true, decide_eq_true_eq] at leased
          rw [if_neg leased.1.1, Finset.mem_Icc]
          exact ⟨leased.1.2, leased.2⟩
  have card := Finset.card_le_card cover
  rw [Nat.card_Ioo] at card
  have gateway := Finset.card_union_le (domain.allocator.free ∪ if domain.allocator.dhcpStart = 0
    then ∅ else Finset.Icc domain.allocator.dhcpStart domain.allocator.dhcpEnd)
    {ipToUint32 entry.router.gatewayIP}
  have apart := Finset.card_union_le domain.allocator.free (if domain.allocator.dhcpStart = 0
    then ∅ else Finset.Icc domain.allocator.dhcpStart domain.allocator.dhcpEnd)
  rw [Finset.card_singleton] at gateway
  omega

theorem calculateDynamicStep_share {hosts capacity reserved : Nat} (small : capacity < 2 ^ 32)
    (room : 2 * hosts + 30 + reserved ≤ capacity) :
    ∃ step : Nat, calculateDynamicStep hosts capacity reserved = step ∧
      hosts * step + 30 + reserved ≤ capacity := by
  rcases Nat.eq_zero_or_pos hosts with rfl | some
  · exact ⟨20, rfl, by omega⟩
  · have margin : wrap32 (30 + reserved) = 30 + reserved := wrap32_of_lt (by omega)
    have count : wrap32 hosts = hosts := wrap32_of_lt (by omega)
    have double : wrap32 (hosts * 2) = hosts * 2 := wrap32_of_lt (by omega)
    have left : sub32 (sub32 capacity 30) reserved = capacity - 30 - reserved := by
      unfold sub32
      omega
    have share : hosts * ((capacity - 30 - reserved) / hosts) ≤ capacity - 30 - reserved :=
      Nat.mul_div_le _ _
    have narrow : 2 ≤ (capacity - 30 - reserved) / hosts := by
      rw [Nat.le_div_iff_mul_le some]
      omega
    unfold calculateDynamicStep
    dsimp only
    have enough : ¬ capacity - 30 - reserved < hosts * 2 := by omega
    have below : 30 + reserved < capacity := by omega
    rw [if_neg (Nat.ne_of_gt some), margin, if_pos below, left, count, double, if_neg enough]
    generalize (capacity - 30 - reserved) / hosts = step at share narrow ⊢
    by_cases high : 50 < step
    · refine ⟨50, if_pos high, ?_⟩
      have less : hosts * 50 ≤ hosts * step := Nat.mul_le_mul_left hosts (by omega)
      omega
    · refine ⟨step, ?_, by omega⟩
      rw [if_neg high, if_neg (by omega)]

@[simp]
theorem length_servedHosts (req : AllocateRequest) (domain : AllocationDomain) :
    (servedHosts req.nodes (mergeZones req.customZones) (membersOf req domain)
      (stepIn req domain)).length = (hostsOf req domain).length := by
  have nodup : (hostsOf req domain).Nodup :=
    (nodup_networkIndexes (List.nodup_range.filter _)).filter _
  have served : (servedHosts req.nodes (mergeZones req.customZones) (membersOf req domain)
      (stepIn req domain)).Nodup :=
    nodup_orderedHosts ((nodup_networkIndexes (List.nodup_range.filter _)).filter _)
  exact ((List.perm_ext_iff_of_nodup served nodup).mpr fun _ => mem_servedHosts_iff).length_eq

theorem stepIn_eq (req : AllocateRequest) (domain : AllocationDomain) :
    stepIn req domain = calculateDynamicStep (hostsOf req domain).length domain.allocator.capacity
      domain.allocator.reservedLeases :=
  rfl

theorem Planned.spacious (planned : Planned req domain) : ∃ step : Nat, stepIn req domain = step ∧
    Spacious req.nodes (mergeZones req.customZones) (membersOf req domain) step
      (reservedState req domain (startResponse req (ownerRouter req))) := by
  have inside := (domain_pool planned.listed).1
  have card := planned.card_free
  have infra := planned.infra
  have shown := stepIn_eq req domain
  have bounds := calculateDynamicStep_bounds (hostsOf req domain).length
    domain.allocator.capacity domain.allocator.reservedLeases
  rcases calculateDynamicStep_share (by omega) planned.room with ⟨step, isStep, share⟩
  rw [isStep] at shown bounds
  have served := length_servedHosts req domain
  rw [shown] at served
  rw [planned.reservedState_eq]
  refine ⟨step, shown, ?_⟩
  refine ⟨List.nodup_range.filter _, resultID_emptyResults req.nodes, rfl, inside, by omega,
    by omega, fun host member => stepOf_host (of_mem_servedHosts member).2, ?_⟩
  rw [served]
  change (infraOf req domain).length + (hostsOf req domain).length * step ≤
    domain.allocator.free.card
  omega

theorem hostStartOffset_bounds (listed : domain ∈
      (openDomains req.nodes (normalizeRouters req.routers) (ownerRouter req)).domains)
    {later : SubnetAllocator} (grows : domain.allocator.Grows later) :
    1 ≤ hostStartOffset later ∧ hostStartOffset later < 2 ^ 32 := by
  rcases domain_pool listed with ⟨inside, pool⟩
  have bounds := bounds_of_hasPool inside pool
  unfold hostStartOffset
  rw [grows.isDHCPReserved_eq, grows.network, grows.dhcpEnd]
  split
  · rename_i reserved
    simp only [SubnetAllocator.isDHCPReserved, Bool.and_eq_true, decide_eq_true_eq] at reserved
    -- The pool covers an address, so that its last address is a lease.
    have last : domain.allocator.dhcpEnd ∈ domain.allocator.leases := by
      rw [mem_leases]
      omega
    have below := lease_below listed (leases_eq_domainPool listed ▸ last)
    split at bounds
    · have start := bounds.1
      unfold sub32
      omega
    · exact absurd bounds reserved.1.1
  · unfold vmHostStartOffset
    omega

theorem infraTurn_run (nodes : List NodeDTO) (zones : List (String × ZoneConfig))
    (nodeIndexes : List Nat) (step : Int) (state : DomainState) :
    DomainRun nodes nodeIndexes state (infraTurn nodes zones nodeIndexes step state).1 := by
  unfold infraTurn
  refine Relation.ReflTransGen.trans ?_
    (DomainRun.foldl _ fun state index member => placeInfra_run _ state ?_)
  · exact DomainRun.foldl _ fun state index _ => reportInfraGuests_run state index
  · exact (List.mem_filter.mp (List.mem_filter.mp member).1).1

theorem Planned.firstTurn_bounds (planned : Planned req domain) :
    1 ≤ (firstTurn req domain).2 ∧ (firstTurn req domain).2 < 2 ^ 32 := by
  have run := infraTurn_run req.nodes (mergeZones req.customZones) (membersOf req domain)
    (stepIn req domain) (reservedState req domain (startResponse req (ownerRouter req)))
  have grows := DomainRun.grows run
  rw [planned.reservedState_eq] at grows
  have bounds := hostStartOffset_bounds planned.listed grows
  rw [← planned.reservedState_eq] at bounds
  exact bounds

theorem Planned.outcome (planned : Planned req domain) :
    (∀ entity, (allocate req).assignedIP entity = assignedIPIn
      (placeMembers req.nodes (mergeZones req.customZones) (membersOf req domain)
        (stepIn req domain)
        (reservedState req domain (startResponse req (ownerRouter req)))).results entity) ∧
      (allocate req).warnings = (placeMembers req.nodes (mergeZones req.customZones)
        (membersOf req domain) (stepIn req domain)
        (reservedState req domain (startResponse req (ownerRouter req)))).warnings := by
  rw [planned.allocate_eq]
  exact ⟨fun _ => rfl, rfl⟩

end Promise

theorem existingOf_eq_empty {nodes : List NodeDTO}
    (blank : ∀ node ∈ nodes, node.existingIP = "" ∧ ∀ vm ∈ node.vms, vm.existingIP = "")
    (entity : Entity) : existingOf nodes entity = "" := by
  cases entity with
  | node index =>
      cases found : nodes[index]? with
      | none => simp [existingOf, found]
      | some node =>
          rw [existingOf, found]
          exact (blank node (List.mem_of_getElem? found)).1
  | vm host guest =>
      cases found : nodes[host]? with
      | none => simp [existingOf, found]
      | some node =>
          rw [existingOf, found, Option.bind_some]
          cases listed : node.vms[guest]? with
          | none => rfl
          | some vm =>
              exact (blank node (List.mem_of_getElem? found)).2 vm (List.mem_of_getElem? listed)

theorem planned_twoHosts : Planned twoHosts twoHostsDomain where
  listed := by decide +kernel
  oneRouter := rfl
  contiguous := ⟨24, by decide, rfl⟩
  gateway := by
    unfold IsGateway
    decide
  blank := existingOf_eq_empty (by decide)
  defaultZones := rfl
  infra := by decide
  hosts := by decide
  room := by decide

theorem stepIn_twoHosts : stepIn twoHosts twoHostsDomain = 50 := by decide

theorem guestsFit_of_few {req : AllocateRequest} {domain : AllocationDomain} {step : Int}
    (isStep : stepIn req domain = step)
    (few : ∀ node ∈ req.nodes, (node.vms.length : Int) ≤ step - 1) : GuestsFit req domain := by
  intro host _ node found
  rw [isStep]
  exact few node (List.mem_of_getElem? found)

theorem guestsFit_twoHosts : GuestsFit twoHosts twoHostsDomain :=
  guestsFit_of_few stepIn_twoHosts (by decide)

theorem wholeBlock_of_free {step first : Nat} {turn : DomainState × Int}
    (search : hostSearch turn = first)
    (free : ∀ offset < step, turn.1.allocator.isAvailable (first + offset) = true) :
    WholeBlock step turn := by
  intro ip low high
  rw [search] at low high
  rw [← Nat.add_sub_cancel' low]
  exact free (ip - first) (by omega)

theorem rowFree_twoHosts : RowFree twoHosts twoHostsDomain := by
  unfold RowFree
  rw [stepIn_twoHosts]
  have hosts : (hostsOf twoHosts twoHostsDomain).length = 2 := by decide
  rw [hosts]
  exact wholeBlock_of_free (show hostSearch _ = 167772260 by decide) (by decide)

set_option maxRecDepth 4000 in
theorem wholeBlocks_twoHosts : ∀ host ∈ hostsOf twoHosts twoHostsDomain,
    WholeBlock (stepIn twoHosts twoHostsDomain).toNat (turnOf twoHosts twoHostsDomain host) := by
  have hosts : hostsOf twoHosts twoHostsDomain = [0, 1] := by decide
  -- the storage device comes before the server
  have storage : WholeBlock 50 (turnOf twoHosts twoHostsDomain 1) :=
    wholeBlock_of_free (show hostSearch _ = 167772260 by decide) (by decide)
  have server : WholeBlock 50 (turnOf twoHosts twoHostsDomain 0) :=
    wholeBlock_of_free (show hostSearch _ = 167772310 by decide) (by decide)
  rw [hosts, stepIn_twoHosts]
  exact List.forall_mem_cons.mpr ⟨server, List.forall_mem_singleton.mpr storage⟩

/-- Four servers behind one router, the last one with five guests. -/
def fourServers : AllocateRequest where
  routers := [{ id := "r1", gatewayIP := "10.0.0.1", subnet := "10.0.0.0/24" }]
  nodes :=
    [ { id := "server1", type := "server", connections := ["r1"] },
      { id := "server2", type := "server", connections := ["r1"] },
      { id := "server3", type := "server", connections := ["r1"] },
      { id := "server4", type := "server", connections := ["r1"],
        vms :=
          [ { id := "vm1" }, { id := "vm2" }, { id := "vm3" }, { id := "vm4" }, { id := "vm5" } ] } ]

theorem planned_fourServers : Planned fourServers twoHostsDomain where
  listed := by decide +kernel
  oneRouter := rfl
  contiguous := ⟨24, by decide, rfl⟩
  gateway := by
    unfold IsGateway
    decide
  blank := existingOf_eq_empty (by decide)
  defaultZones := rfl
  infra := by decide
  hosts := by decide
  room := by decide

end HomelabBuilder.Ipam
