import HomelabBuilder.Ipam.DomainLedger
import HomelabBuilder.Ipam.Skeleton

/-! # Running a domain again

A domain is run twice. In the second run some devices bring the address they
were given in the first one. They then reserve it before anything is placed,
and nobody else notices: every search still stops at the address it found.
-/

namespace HomelabBuilder.Ipam

open Net

/-- The address a run has given to an entity so far. -/
def givenIP (final : DomainState) (entity : Entity) : Option Nat :=
  parseIPTo4 (assignedIPIn final.results entity)

theorem granted_ledgerOf {nodes : List NodeDTO} {members : List Nat} {final : DomainState}
    {entity : Entity} (member : entity.nodeIndex ∈ members) :
    (ledgerOf nodes members final).granted entity = givenIP final entity := by
  simp only [ledgerOf, member, if_true, givenIP]

/-! ## Reserved addresses are kept -/

/-- Whoever has reserved an address has that one or none. -/
def Honoured (nodes : List NodeDTO) (members : List Nat) (state : DomainState) : Prop :=
  ∀ (entity : Entity) (id : String) (ip : Nat), entity.nodeIndex ∈ members →
    entityID nodes entity = some id → state.accepted.lookup id = some ip →
    assignedIPIn state.results entity = "" ∨ givenIP state entity = some ip

section Honoured

variable {nodes : List NodeDTO} {members : List Nat} {before after : DomainState}

theorem DomainStep.accepted_suffix (step : DomainStep nodes members before after) :
    before.accepted <:+ after.accepted := by
  cases step with
  | accept => exact List.suffix_cons _ _
  | report | keep | place | block => exact List.suffix_refl _

theorem DomainRun.accepted_suffix (run : DomainRun nodes members before after) :
    before.accepted <:+ after.accepted := by
  induction run with
  | refl => exact List.suffix_refl _
  | tail _ step induction => exact induction.trans step.accepted_suffix

theorem DomainStep.honoured (step : DomainStep nodes members before after)
    (lists : Lists nodes before.results) (addresses : Addresses before)
    (same : after.accepted = before.accepted) (honoured : Honoured nodes members before) :
    Honoured nodes members after := by
  cases step with
  | report | block => exact honoured
  | accept => exact absurd (congrArg List.length same) (by simp [DomainState.accept])
  | @keep entity id ip member named known =>
      intro other otherID value inside otherNamed otherKnown
      by_cases equal : other = entity
      · subst equal
        have listed : (resultID before.results other).isSome = true := by
          rw [lists other, named]
          rfl
        rw [named] at otherNamed
        cases otherNamed
        have sameValue := Option.some.inj (known.symm.trans otherKnown)
        right
        simp only [givenIP, DomainState.assign, assignedIPIn_setNodeIP_self, listed, if_true]
        rw [← sameValue]
        exact parseIPTo4_formatIPv4 ip (addresses.accepted (Table.mem_of_lookup known))
      · simp only [givenIP, DomainState.assign, assignedIPIn_setNodeIP_other _ _ equal]
        exact honoured other otherID value inside otherNamed otherKnown
  | @place entity id ip member named available fresh =>
      intro other otherID value inside otherNamed otherKnown
      by_cases equal : other = entity
      · subst equal
        rw [named] at otherNamed
        cases otherNamed
        exact absurd (fresh.symm.trans otherKnown) (by simp)
      · simp only [givenIP, DomainState.assign, DomainState.reserve,
          assignedIPIn_setNodeIP_other _ _ equal]
        exact honoured other otherID value inside otherNamed otherKnown

theorem DomainRun.honoured (run : DomainRun nodes members before after)
    (lists : Lists nodes before.results) (addresses : Addresses before)
    (same : after.accepted = before.accepted) (honoured : Honoured nodes members before) :
    Honoured nodes members after := by
  induction run with
  | refl => exact honoured
  | @tail middle after run step induction =>
      have grown := DomainRun.accepted_suffix run
      have last := step.accepted_suffix
      have unchanged : middle.accepted = before.accepted := by
        rw [same] at last
        exact (grown.eq_of_length_le last.length_le).symm
      have stillLists : Lists nodes middle.results := fun entity =>
        (DomainRun.resultID_eq run entity).trans (lists entity)
      exact step.honoured stillLists (DomainRun.addresses run addresses) (same.trans unchanged.symm)
        (induction unchanged)

end Honoured

/-! ## Two runs -/

/-- The second run next to the first: whatever is taken on top belongs to
members that have reserved what the first run gives them in the end. -/
structure Replaying (nodes : List NodeDTO) (members : List Nat) (final : DomainState)
    (first second : DomainState) : Prop where
  allocator : second.allocator = { first.allocator with used := second.allocator.used }
  covers : first.allocator.used ⊆ second.allocator.used
  results : second.results = first.results
  kept : ∀ {id ip}, first.accepted.lookup id = some ip → second.accepted.lookup id = some ip
  promised : ∀ {entity id ip}, entity.nodeIndex ∈ members → entityID nodes entity = some id →
    second.accepted.lookup id = some ip →
    first.accepted.lookup id = some ip ∨ givenIP final entity = some ip
  taken : ∀ {id ip}, second.accepted.lookup id = some ip → ip ∈ second.allocator.used
  extra : ∀ {ip}, ip ∈ second.allocator.used → ip ∈ first.allocator.used ∨
    ∃ entity id, entity.nodeIndex ∈ members ∧ entityID nodes entity = some id ∧
      second.accepted.lookup id = some ip ∧ givenIP final entity = some ip

/-! ## Both runs do the same -/

section Relation

variable {nodes : List NodeDTO} {members : List Nat} {final first second : DomainState}

theorem Replaying.isAvailable_of (replaying : Replaying nodes members final first second)
    {ip : Nat} (available : second.allocator.isAvailable ip = true) :
    first.allocator.isAvailable ip = true := by
  rw [SubnetAllocator.isAvailable_iff] at available ⊢
  rw [replaying.allocator] at available
  exact ⟨available.1, available.2.1, fun taken =>
    available.2.2 (replaying.covers taken)⟩

theorem Replaying.isAvailable_iff (replaying : Replaying nodes members final first second)
    {ip : Nat} (available : first.allocator.isAvailable ip = true) :
    second.allocator.isAvailable ip = true ↔ ip ∉ second.allocator.used := by
  rw [SubnetAllocator.isAvailable_iff] at available ⊢
  rw [replaying.allocator]
  exact ⟨fun parts => parts.2.2, fun fresh => ⟨available.1, available.2.1, fresh⟩⟩

theorem Replaying.issues (replaying : Replaying nodes members final first second)
    (firstConflicts firstWarnings secondConflicts secondWarnings : List Issue) :
    Replaying nodes members final
      { first with conflicts := firstConflicts, warnings := firstWarnings }
      { second with conflicts := secondConflicts, warnings := secondWarnings } :=
  ⟨replaying.allocator, replaying.covers, replaying.results, replaying.kept, replaying.promised,
    replaying.taken, replaying.extra⟩

theorem Replaying.assign (replaying : Replaying nodes members final first second)
    (entity : Entity) (ip : Nat) :
    Replaying nodes members final (first.assign entity ip) (second.assign entity ip) :=
  ⟨replaying.allocator, replaying.covers,
    congrArg (fun results => setNodeIP results entity (formatIPv4 ip)) replaying.results,
    replaying.kept, replaying.promised, replaying.taken, replaying.extra⟩

theorem Replaying.reserve (replaying : Replaying nodes members final first second)
    (ip : Nat) (id : String) :
    Replaying nodes members final (first.reserve ip id) (second.reserve ip id) := by
  refine ⟨?_, List.cons_subset_cons ip replaying.covers, replaying.results, replaying.kept,
    replaying.promised, fun known => List.mem_cons_of_mem ip (replaying.taken known), ?_⟩
  · have shape := replaying.allocator
    generalize second.allocator.used = used at shape
    simp only [DomainState.reserve, SubnetAllocator.markUsed, shape]
  · intro other member
    rcases List.mem_cons.mp member with rfl | member
    · exact .inl List.mem_cons_self
    · exact (replaying.extra member).imp_left (List.mem_cons_of_mem ip)

theorem Replaying.reserve_first (replaying : Replaying nodes members final first second)
    {ip : Nat} (id : String) (taken : ip ∈ second.allocator.used) :
    Replaying nodes members final (first.reserve ip id) second :=
  ⟨replaying.allocator, List.cons_subset.mpr ⟨taken, replaying.covers⟩, replaying.results,
    replaying.kept, replaying.promised, replaying.taken, fun member =>
    (replaying.extra member).imp_left (List.mem_cons_of_mem ip)⟩

end Relation

/-! ## One device -/

section Settle

variable {nodes : List NodeDTO} {members : List Nat} {final first second : DomainState}

/-- A device gets the same address in both runs, if the second search finds
what the first one has found as long as that is still free. -/
theorem Replaying.settle {pool barred : Set Nat}
    (sound : Ledger.Sound pool barred (ledgerOf nodes members final))
    (replaying : Replaying nodes members final first second) (entity : Entity) {id : String}
    (member : entity.nodeIndex ∈ members) (named : entityID nodes entity = some id)
    {found other : Nat} (available : found ≠ 0 → first.allocator.isAvailable found = true)
    (outcome : givenIP final entity = first.choose id found)
    (search : found = 0 ∨ found ∉ second.allocator.used → other = found)
    (message : String) :
    second.choose id other = first.choose id found ∧
      Replaying nodes members final (first.settle entity id message found)
        (second.settle entity id message other) := by
  unfold DomainState.choose DomainState.settle at *
  cases known : first.accepted.lookup id with
  | some ip =>
      rw [replaying.kept known]
      exact ⟨rfl, replaying.assign entity ip⟩
  | none =>
      rw [known] at outcome
      dsimp only at outcome ⊢
      cases secondKnown : second.accepted.lookup id with
      | some ip =>
          -- The second run has reserved what the first one finds just now.
          have given := (replaying.promised member named secondKnown).resolve_left (by simp [known])
          rw [given] at outcome
          split at outcome
          · cases outcome
          · rename_i nonzero
            cases outcome
            have caughtUp := replaying.reserve_first id (replaying.taken secondKnown)
            simp only [nonzero, if_false]
            exact ⟨trivial, caughtUp.assign entity found⟩
      | none =>
          by_cases exhausted : found = 0
          · have same := search (.inl exhausted)
            simp only [same, exhausted, if_true]
            exact ⟨trivial, replaying.issues _ _ _ _⟩
          · have stillFree : found ∉ second.allocator.used := by
              intro taken
              rcases replaying.extra taken with old | ⟨holder, holderID, inside, holderNamed,
                  reserved, given⟩
              · exact (SubnetAllocator.isAvailable_iff.mp (available exhausted)).2.2 old
              · simp only [exhausted, if_false] at outcome
                have same : holder = entity :=
                  sound.grantedOnce ((granted_ledgerOf inside).trans given)
                    ((granted_ledgerOf member).trans outcome)
                rw [same, named] at holderNamed
                cases holderNamed
                rw [secondKnown] at reserved
                cases reserved
            have same := search (.inr stillFree)
            simp only [same, exhausted, if_false]
            exact ⟨trivial, (replaying.reserve found id).assign entity found⟩

end Settle

/-! ## Reserving existing addresses -/

/-- The id and existing address of an entity, empty for none. -/
def idOf (nodes : List NodeDTO) (entity : Entity) : String := (entityID nodes entity).getD ""

def existingOf (nodes : List NodeDTO) : Entity → String
  | .node index => (nodes[index]?.map (·.existingIP)).getD ""
  | .vm host index => ((nodes[host]?.bind (·.vms[index]?)).map (·.existingIP)).getD ""

/-- A node and its guests, in the order they reserve their addresses. -/
def entitiesOf (nodes : List NodeDTO) (index : Nat) : List Entity :=
  match nodes[index]? with
  | none => []
  | some node => .node index :: node.vms.zipIdx.map fun entry => .vm index entry.2

/-- The members of a domain in the order they reserve their addresses. -/
def reservingEntities (nodes : List NodeDTO) (nodeIndexes : List Nat) : List Entity :=
  (networkIndexes nodes nodeIndexes).flatMap (entitiesOf nodes)

def reserveAll (nodes : List NodeDTO) (values : Entity → String) (entities : List Entity)
    (state : DomainState) : DomainState :=
  entities.foldl (fun state entity =>
    preReserveExisting state (idOf nodes entity) (values entity)) state

theorem mem_entitiesOf {nodes : List NodeDTO} {index : Nat} {entity : Entity}
    (member : entity ∈ entitiesOf nodes index) :
    entity.nodeIndex = index ∧ entityID nodes entity = some (idOf nodes entity) := by
  unfold entitiesOf at member
  cases found : nodes[index]? with
  | none => simp [found] at member
  | some node =>
      rw [found] at member
      rcases List.mem_cons.mp member with rfl | guest
      · simp [Entity.nodeIndex, entityID, idOf, found]
      · rcases List.mem_map.mp guest with ⟨⟨vm, position⟩, listed, rfl⟩
        have located := List.mem_zipIdx_iff_getElem?.mp listed
        simp [Entity.nodeIndex, entityID, idOf, found, located]

theorem preReserveNode_eq (nodes : List NodeDTO) (state : DomainState) (index : Nat) :
    preReserveNode nodes state index =
      reserveAll nodes (existingOf nodes) (entitiesOf nodes index) state := by
  unfold preReserveNode entitiesOf reserveAll
  cases found : nodes[index]? with
  | none => rfl
  | some node =>
      dsimp only
      rw [List.foldl_cons, List.foldl_map]
      have withoutIndex : node.vms = node.vms.zipIdx.map (·.1) := by simp
      conv_lhs => rw [withoutIndex, List.foldl_map]
      have own : idOf nodes (.node index) = node.id ∧
          existingOf nodes (.node index) = node.existingIP := by
        simp [idOf, entityID, existingOf, found]
      rw [own.1, own.2]
      apply List.foldl_ext
      intro state entry listed
      have located := List.mem_zipIdx_iff_getElem?.mp listed
      simp [idOf, entityID, existingOf, found, located]

theorem reserveMembers_eq (nodes : List NodeDTO) (nodeIndexes : List Nat) (state : DomainState) :
    reserveMembers nodes nodeIndexes state =
      reserveAll nodes (existingOf nodes) (reservingEntities nodes nodeIndexes)
        { state with accepted := [] } := by
  unfold reserveMembers reservingEntities
  rw [reserveAll, List.foldl_flatMap]
  apply List.foldl_ext
  intro state index _
  rw [preReserveNode_eq, reserveAll]

/-- While addresses are reserved, what has an owner is taken. -/
def Owned (state : DomainState) : Prop :=
  ∀ ip, state.allocator.isUsable ip = true → (state.owners.lookup ip).isSome = true →
    ip ∈ state.allocator.used

theorem preReserveExisting_cases {state : DomainState} (owned : Owned state) (id value : String) :
    (∃ ip, parseIPTo4 value = some ip ∧ state.allocator.isAvailable ip = true ∧
      preReserveExisting state id value = state.accept id ip) ∨
    ((∀ ip, parseIPTo4 value = some ip → state.allocator.isAvailable ip = false) ∧
      ∃ issues : List Issue, (∀ issue ∈ issues, issue.nodeID = id) ∧
        preReserveExisting state id value =
          { state with conflicts := state.conflicts ++ issues }) := by
  have reported (message : String) : ∃ issues : List Issue,
      (∀ issue ∈ issues, issue.nodeID = id) ∧ state.conflict id message =
        { state with conflicts := state.conflicts ++ issues } :=
    ⟨[{ nodeID := id, message := message }], by simp, rfl⟩
  unfold preReserveExisting
  split
  · rename_i empty
    refine .inr ⟨?_, [], by simp, by simp⟩
    intro ip parsed
    rw [empty] at parsed
    cases parsed
  · cases parsed : parseIPTo4 value with
    | none => exact .inr ⟨by simp, reported _⟩
    | some ip =>
        dsimp only
        split
        · rename_i unusable
          refine .inr ⟨?_, reported _⟩
          rintro other same
          cases same
          simp_all [SubnetAllocator.isAvailable]
        · rename_i usable
          split
          · rename_i leased
            refine .inr ⟨?_, reported _⟩
            rintro other same
            cases same
            simp_all [SubnetAllocator.isAvailable]
          · rename_i outside
            split
            · rename_i taken
              refine .inr ⟨?_, reported _⟩
              rintro other same
              cases same
              have used : ip ∈ state.allocator.used := by
                rw [Bool.or_eq_true] at taken
                rcases taken with known | contained
                · exact owned ip (by simpa using usable) known
                · simpa using contained
              simp [SubnetAllocator.isAvailable, used]
            · rename_i fresh
              refine .inl ⟨ip, rfl, ?_, rfl⟩
              simp_all [SubnetAllocator.isAvailable]

@[simp] theorem lookup_accept (state : DomainState) (id other : String) (ip : Nat) :
    (state.accept id ip).accepted.lookup other =
      if other = id then some ip else state.accepted.lookup other := by
  simp only [DomainState.accept, Table.lookup_cons]

theorem Owned.accept {state : DomainState} (owned : Owned state) (id : String) (ip : Nat) :
    Owned (state.accept id ip) := by
  intro other usable known
  simp only [DomainState.accept, DomainState.reserve, Table.lookup_cons] at known
  split at known
  · rename_i same
    exact same ▸ List.mem_cons_self
  · exact List.mem_cons_of_mem _ (owned other usable known)

theorem Owned.reserveExisting {state : DomainState} (owned : Owned state) (id value : String) :
    Owned (preReserveExisting state id value) := by
  rcases preReserveExisting_cases owned id value with ⟨ip, _, _, equal⟩ | ⟨_, issues, _, equal⟩
  · exact equal ▸ owned.accept id ip
  · exact equal ▸ owned

theorem accepted_preReserveExisting {state : DomainState} (owned : Owned state)
    {id other : String} (value : String) (different : other ≠ id) :
    (preReserveExisting state id value).accepted.lookup other = state.accepted.lookup other := by
  rcases preReserveExisting_cases owned id value with ⟨ip, _, _, equal⟩ | ⟨_, issues, _, equal⟩
  · rw [equal, lookup_accept, if_neg different]
  · rw [equal]

section Reserve

variable {nodes : List NodeDTO} {members : List Nat} {final first second : DomainState}

/-- What a device may bring to the second run: the address it had reserved in
the first, and otherwise its old text, no address, or the one it was given. -/
def Restates (reserved given : Option Nat) (value restated : String) : Prop :=
  match reserved with
  | some ip => parseIPTo4 restated = some ip
  | none => restated = value ∨ parseIPTo4 restated = none ∨ parseIPTo4 restated = given

private theorem Replaying.accept (replaying : Replaying nodes members final first second)
    {id : String} (ip : Nat) (fresh : second.accepted.lookup id = none) :
    Replaying nodes members final (first.accept id ip) (second.accept id ip) := by
  have reserved := replaying.reserve ip id
  refine ⟨reserved.allocator, reserved.covers, reserved.results, ?_, ?_, ?_, ?_⟩
  · intro other value known
    rw [lookup_accept] at known ⊢
    split
    · rwa [if_pos ‹_›] at known
    · rw [if_neg ‹_›] at known
      exact replaying.kept known
  · intro entity other value member named known
    rw [lookup_accept] at known ⊢
    split
    · rw [if_pos ‹_›] at known
      exact .inl known
    · rw [if_neg ‹_›] at known
      exact replaying.promised member named known
  · intro other value known
    rw [lookup_accept] at known
    split at known
    · cases known
      exact List.mem_cons_self
    · exact List.mem_cons_of_mem _ (replaying.taken known)
  · intro value member
    rcases List.mem_cons.mp member with rfl | old
    · exact .inl List.mem_cons_self
    · rcases replaying.extra old with taken | ⟨entity, other, inside, named, known, given⟩
      · exact .inl (List.mem_cons_of_mem _ taken)
      · have different : other ≠ id := by
          rintro rfl
          rw [fresh] at known
          cases known
        refine .inr ⟨entity, other, inside, named, ?_, given⟩
        rwa [lookup_accept, if_neg different]

private theorem Replaying.accept_second (distinct : DistinctEntities nodes)
    (replaying : Replaying nodes members final first second) {entity : Entity} {id : String}
    {ip : Nat} (member : entity.nodeIndex ∈ members) (named : entityID nodes entity = some id)
    (fresh : second.accepted.lookup id = none) (given : givenIP final entity = some ip) :
    Replaying nodes members final first (second.accept id ip) := by
  refine ⟨?_, List.subset_cons_of_subset ip replaying.covers, replaying.results, ?_, ?_, ?_, ?_⟩
  · have shape := replaying.allocator
    generalize second.allocator.used = used at shape
    simp only [DomainState.accept, DomainState.reserve, SubnetAllocator.markUsed, shape]
  · intro other value known
    have different : other ≠ id := by
      rintro rfl
      rw [replaying.kept known] at fresh
      cases fresh
    rw [lookup_accept, if_neg different]
    exact replaying.kept known
  · intro holder other value inside holderNamed known
    rw [lookup_accept] at known
    split at known
    · rename_i same
      cases known
      rw [distinct holder entity id (same ▸ holderNamed) named]
      exact .inr given
    · exact replaying.promised inside holderNamed known
  · intro other value known
    rw [lookup_accept] at known
    split at known
    · cases known
      exact List.mem_cons_self
    · exact List.mem_cons_of_mem _ (replaying.taken known)
  · intro value taken
    rcases List.mem_cons.mp taken with rfl | old
    · exact .inr ⟨entity, id, member, named, by simp, given⟩
    · rcases replaying.extra old with taken | ⟨holder, other, inside, holderNamed, known, gave⟩
      · exact .inl taken
      · have different : other ≠ id := by
          rintro rfl
          rw [fresh] at known
          cases known
        refine .inr ⟨holder, other, inside, holderNamed, ?_, gave⟩
        rwa [lookup_accept, if_neg different]

theorem Replaying.reserveExisting (distinct : DistinctEntities nodes) {pool barred : Set Nat}
    (sound : Ledger.Sound pool barred (ledgerOf nodes members final))
    (replaying : Replaying nodes members final first second) (firstOwned : Owned first)
    (secondOwned : Owned second) {entity : Entity} {id : String}
    (member : entity.nodeIndex ∈ members) (named : entityID nodes entity = some id)
    (fresh : second.accepted.lookup id = none) {value restated : String}
    (settled : final.accepted.lookup id = (preReserveExisting first id value).accepted.lookup id)
    (restates : Restates (final.accepted.lookup id) (givenIP final entity) value restated) :
    Replaying nodes members final (preReserveExisting first id value)
      (preReserveExisting second id restated) := by
  have firstFresh : first.accepted.lookup id = none := by
    cases known : first.accepted.lookup id with
    | none => rfl
    | some ip =>
        rw [replaying.kept known] at fresh
        cases fresh
  rcases preReserveExisting_cases firstOwned id value with
    ⟨ip, _, available, equal⟩ | ⟨rejected, issues, _, equal⟩
  · -- The first run accepts: nobody has taken the address in the second.
    rw [equal, lookup_accept, if_pos rfl] at settled
    have parsed : parseIPTo4 restated = some ip := by
      simpa only [Restates, settled] using restates
    have free : ip ∉ second.allocator.used := by
      intro taken
      rcases replaying.extra taken with old | ⟨holder, other, inside, holderNamed, known, given⟩
      · exact (SubnetAllocator.isAvailable_iff.mp available).2.2 old
      · have same : entity = holder := by
          refine sound.apart ((granted_ledgerOf inside).trans given) ?_
          simpa [ledgerOf, named] using settled
        rw [← same, named] at holderNamed
        cases holderNamed
        rw [fresh] at known
        cases known
    rw [equal]
    rcases preReserveExisting_cases secondOwned id restated with
      ⟨other, secondParsed, _, secondEqual⟩ | ⟨secondRejected, _⟩
    · rw [parsed] at secondParsed
      cases secondParsed
      rw [secondEqual]
      exact replaying.accept ip fresh
    · have stillAvailable := (replaying.isAvailable_iff available).mpr free
      rw [secondRejected ip parsed] at stillAvailable
      cases stillAvailable
  · -- The first run turns the address down.
    rw [equal] at settled ⊢
    dsimp only at settled
    rw [firstFresh] at settled
    simp only [Restates, settled] at restates
    rcases preReserveExisting_cases secondOwned id restated with
      ⟨ip, parsed, available, secondEqual⟩ | ⟨_, secondIssues, _, secondEqual⟩
    · rw [secondEqual]
      rcases restates with same | unreadable | given
      · have contradiction := rejected ip (same ▸ parsed)
        rw [replaying.isAvailable_of available] at contradiction
        cases contradiction
      · rw [parsed] at unreadable
        cases unreadable
      · have accepted := replaying.accept_second distinct member named fresh
          (given.symm.trans parsed)
        exact accepted.issues _ _ _ _
    · rw [secondEqual]
      exact replaying.issues _ _ _ _

theorem accepted_reserveAll (values : Entity → String) {other : String} :
    ∀ (entities : List Entity) {state : DomainState}, Owned state →
    (∀ entity ∈ entities, idOf nodes entity ≠ other) →
    (reserveAll nodes values entities state).accepted.lookup other = state.accepted.lookup other
  | [], _, _, _ => rfl
  | head :: tail, state, owned, foreign => by
      have rest := accepted_reserveAll values tail
        (owned.reserveExisting (idOf nodes head) (values head))
        fun entity member => foreign entity (List.mem_cons_of_mem head member)
      exact rest.trans (accepted_preReserveExisting owned _
        (foreign head List.mem_cons_self).symm)

/-- Entities of the request that have an id, none of them twice. -/
structure Named (nodes : List NodeDTO) (members : List Nat) (entities : List Entity) : Prop where
  nodup : entities.Nodup
  member : ∀ entity ∈ entities, entity.nodeIndex ∈ members
  named : ∀ entity ∈ entities, entityID nodes entity = some (idOf nodes entity)

theorem Named.tail {head : Entity} {tail : List Entity}
    (names : Named nodes members (head :: tail)) : Named nodes members tail where
  nodup := (List.nodup_cons.mp names.nodup).2
  member := fun entity member => names.member entity (List.mem_cons_of_mem head member)
  named := fun entity member => names.named entity (List.mem_cons_of_mem head member)

theorem Named.ne_head (distinct : DistinctEntities nodes) {head : Entity} {tail : List Entity}
    (names : Named nodes members (head :: tail)) :
    ∀ entity ∈ tail, idOf nodes entity ≠ idOf nodes head := by
  intro entity member same
  have named := names.named entity (List.mem_cons_of_mem head member)
  have equal := distinct entity head _ (same ▸ named) (names.named head List.mem_cons_self)
  exact (List.nodup_cons.mp names.nodup).1 (equal ▸ member)

theorem parse_of_accepted_reserveAll (distinct : DistinctEntities nodes)
    {values : Entity → String} {entity : Entity} {ip : Nat} :
    ∀ (entities : List Entity) {state : DomainState}, Named nodes members entities → Owned state →
    entity ∈ entities → state.accepted.lookup (idOf nodes entity) = none →
    (reserveAll nodes values entities state).accepted.lookup (idOf nodes entity) = some ip →
    parseIPTo4 (values entity) = some ip
  | head :: tail, state, names, owned, listed, fresh, known => by
      have stillOwned := owned.reserveExisting (idOf nodes head) (values head)
      have apart := names.ne_head distinct
      rcases List.mem_cons.mp listed with rfl | later
      · rw [reserveAll, List.foldl_cons, ← reserveAll, accepted_reserveAll _ tail stillOwned apart]
          at known
        rcases preReserveExisting_cases owned (idOf nodes entity) (values entity) with
          ⟨given, parsed, _, equal⟩ | ⟨_, issues, _, equal⟩
        · rw [equal, lookup_accept, if_pos rfl] at known
          rw [parsed, known]
        · rw [equal] at known
          exact absurd (fresh.symm.trans known) (by simp)
      · refine parse_of_accepted_reserveAll distinct tail names.tail stillOwned later ?_ known
        rw [accepted_preReserveExisting owned _ (apart entity later)]
        exact fresh

theorem Replaying.reserveAll (distinct : DistinctEntities nodes) {pool barred : Set Nat}
    (sound : Ledger.Sound pool barred (ledgerOf nodes members final))
    {values restated : Entity → String} :
    ∀ (entities : List Entity) {first second : DomainState},
    Named nodes members entities → Replaying nodes members final first second →
    Owned first → Owned second →
    (∀ entity ∈ entities, second.accepted.lookup (idOf nodes entity) = none) →
    (∀ entity ∈ entities, final.accepted.lookup (idOf nodes entity) =
      (Ipam.reserveAll nodes values entities first).accepted.lookup (idOf nodes entity)) →
    (∀ entity ∈ entities, Restates (final.accepted.lookup (idOf nodes entity))
      (givenIP final entity) (values entity) (restated entity)) →
    Replaying nodes members final (Ipam.reserveAll nodes values entities first)
      (Ipam.reserveAll nodes restated entities second)
  | [], _, _, _, replaying, _, _, _, _, _ => replaying
  | head :: tail, first, second, names, replaying, firstOwned, secondOwned, fresh, settled,
      restates => by
      have apart := names.ne_head distinct
      have settledHead := settled head List.mem_cons_self
      rw [Ipam.reserveAll, List.foldl_cons, ← Ipam.reserveAll,
        accepted_reserveAll _ tail (firstOwned.reserveExisting _ _) apart] at settledHead
      have step := replaying.reserveExisting distinct sound firstOwned secondOwned
        (names.member head List.mem_cons_self) (names.named head List.mem_cons_self)
        (fresh head List.mem_cons_self) settledHead (restates head List.mem_cons_self)
      refine Replaying.reserveAll distinct sound tail names.tail step
        (firstOwned.reserveExisting _ _) (secondOwned.reserveExisting _ _) ?_ ?_ ?_
      · intro entity member
        rw [accepted_preReserveExisting secondOwned _ (apart entity member)]
        exact fresh entity (List.mem_cons_of_mem head member)
      · intro entity member
        exact settled entity (List.mem_cons_of_mem head member)
      · intro entity member
        exact restates entity (List.mem_cons_of_mem head member)

end Reserve

end HomelabBuilder.Ipam
