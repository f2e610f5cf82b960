import HomelabBuilder.Foundation.Table
import HomelabBuilder.Ipam.Steps

/-! # The response under steps

A domain only writes addresses of its own members, and what it writes is the
text of an address or nothing.
-/

namespace HomelabBuilder.Ipam

open Net

/-! ## Writing one address -/

/-- The id the response carries for an entity. -/
def resultID (results : List NodeResult) : Entity → Option String
  | .node index => results[index]?.map (·.id)
  | .vm host index => (results[host]?.bind (·.vms[index]?)).map (·.id)

theorem resultID_emptyResults (nodes : List NodeDTO) (entity : Entity) :
    resultID (emptyResults nodes) entity = entityID nodes entity := by
  cases entity with
  | node index => cases found : nodes[index]? <;> simp [resultID, entityID, emptyResults, found]
  | vm host index =>
      cases found : nodes[host]? <;> simp [resultID, entityID, emptyResults, found, Function.comp_def]

theorem assignedIPIn_emptyResults (nodes : List NodeDTO) (entity : Entity) :
    assignedIPIn (emptyResults nodes) entity = "" := by
  cases entity with
  | node index => cases found : nodes[index]? <;> simp [assignedIPIn, emptyResults, found]
  | vm host index =>
      cases found : nodes[host]? with
      | none => simp [assignedIPIn, emptyResults, found]
      | some node =>
          cases guest : node.vms[index]? <;> simp [assignedIPIn, emptyResults, found, guest]

@[simp] theorem resultID_setNodeIP (results : List NodeResult) (entity other : Entity)
    (ip : String) : resultID (setNodeIP results entity ip) other = resultID results other := by
  cases entity with
  | node index =>
      cases other with
      | node position => by_cases equal : index = position <;>
          simp [resultID, setNodeIP, equal, Function.comp_def]
      | vm host position =>
          by_cases equal : index = host
          · cases found : results[host]? <;>
              simp [resultID, setNodeIP, equal, found]
          · simp [resultID, setNodeIP, equal]
  | vm host index =>
      cases other with
      | node position => by_cases equal : host = position <;>
          simp [resultID, setNodeIP, equal, Function.comp_def]
      | vm otherHost position =>
          by_cases equal : host = otherHost
          · cases found : results[otherHost]? with
            | none => simp [resultID, setNodeIP, equal, found]
            | some result =>
                by_cases same : index = position <;>
                  simp [resultID, setNodeIP, equal, found, same,
                    Function.comp_def]
          · simp [resultID, setNodeIP, equal]

theorem assignedIPIn_setNodeIP_other (results : List NodeResult) {entity other : Entity}
    (ip : String) (different : other ≠ entity) :
    assignedIPIn (setNodeIP results entity ip) other = assignedIPIn results other := by
  cases entity with
  | node index =>
      cases other with
      | node position =>
          have apart : index ≠ position := fun equal => different (by rw [equal])
          simp [assignedIPIn, setNodeIP, apart]
      | vm host position =>
          by_cases equal : index = host
          · cases found : results[host]? <;>
              simp [assignedIPIn, setNodeIP, equal, found]
          · simp [assignedIPIn, setNodeIP, equal]
  | vm host index =>
      cases other with
      | node position =>
          by_cases equal : host = position
          · cases found : results[position]? <;>
              simp [assignedIPIn, setNodeIP, equal, found]
          · simp [assignedIPIn, setNodeIP, equal]
      | vm otherHost position =>
          by_cases equal : host = otherHost
          · have apart : index ≠ position := fun same => different (by rw [equal, same])
            cases found : results[otherHost]? <;>
              simp [assignedIPIn, setNodeIP, equal, found, apart]
          · simp [assignedIPIn, setNodeIP, equal]

theorem assignedIPIn_setNodeIP_self (results : List NodeResult) (entity : Entity)
    (ip : String) :
    assignedIPIn (setNodeIP results entity ip) entity =
      if (resultID results entity).isSome then ip else "" := by
  cases entity with
  | node index =>
      cases found : results[index]? <;>
        simp [assignedIPIn, setNodeIP, resultID, found]
  | vm host index =>
      cases found : results[host]? with
      | none => simp [assignedIPIn, setNodeIP, resultID, found]
      | some result =>
          cases guest : result.vms[index]? <;>
            simp [assignedIPIn, setNodeIP, resultID, found, guest]

/-! ## What a run writes -/

def IsAddressText (text : String) : Prop := text = "" ∨ ∃ ip < 2 ^ 32, text = formatIPv4 ip

section Run

variable {nodes : List NodeDTO} {members : List Nat} {before after : DomainState}

theorem DomainStep.resultID_eq (step : DomainStep nodes members before after)
    (entity : Entity) : resultID after.results entity = resultID before.results entity := by
  cases step with
  | report | accept | block => rfl
  | keep | place => exact resultID_setNodeIP _ _ _ _

theorem DomainRun.resultID_eq (run : DomainRun nodes members before after)
    (entity : Entity) : resultID after.results entity = resultID before.results entity := by
  induction run with
  | refl => rfl
  | tail _ step induction => exact (step.resultID_eq entity).trans induction

theorem DomainStep.frame (step : DomainStep nodes members before after) (entity : Entity)
    (outside : entity.nodeIndex ∉ members) :
    assignedIPIn after.results entity = assignedIPIn before.results entity := by
  cases step with
  | report | accept | block => rfl
  | keep _ member | place _ member =>
      refine assignedIPIn_setNodeIP_other _ _ ?_
      rintro rfl
      exact outside member

theorem DomainRun.frame (run : DomainRun nodes members before after) (entity : Entity)
    (outside : entity.nodeIndex ∉ members) :
    assignedIPIn after.results entity = assignedIPIn before.results entity := by
  induction run with
  | refl => rfl
  | tail _ step induction => exact (step.frame entity outside).trans induction

private theorem isAddressText_setNodeIP {results : List NodeResult}
    (texts : ∀ entity, IsAddressText (assignedIPIn results entity)) (entity : Entity) {ip : Nat}
    (bound : ip < 2 ^ 32) (other : Entity) :
    IsAddressText (assignedIPIn (setNodeIP results entity (formatIPv4 ip)) other) := by
  by_cases equal : other = entity
  · subst equal
    rw [assignedIPIn_setNodeIP_self]
    split
    · exact .inr ⟨ip, bound, rfl⟩
    · exact .inl rfl
  · rw [assignedIPIn_setNodeIP_other _ _ equal]
    exact texts other

/-- Addresses on their way into a response are `uint32` values. -/
structure Addresses (state : DomainState) : Prop where
  accepted : ∀ {id ip}, (id, ip) ∈ state.accepted → ip < 2 ^ 32
  texts : ∀ entity, IsAddressText (assignedIPIn state.results entity)

theorem SubnetAllocator.usable_bounds {sa : SubnetAllocator}
    (bounds : sa.network < 2 ^ 32 ∧ sa.capacity < 2 ^ 32) {ip : Nat}
    (usable : sa.isUsable ip = true) :
    sa.network < ip ∧ ip < sa.network + sa.capacity ∧ sa.network + sa.capacity < 2 ^ 32 := by
  rcases SubnetAllocator.isUsable_iff.mp usable with ⟨_, above, below⟩
  unfold wrap32 at below
  omega

theorem SubnetAllocator.lt_of_isUsable {sa : SubnetAllocator} {ip : Nat}
    (usable : sa.isUsable ip = true) : ip < 2 ^ 32 :=
  (SubnetAllocator.isUsable_iff.mp usable).2.2.trans (wrap32_lt _)

theorem SubnetAllocator.lt_of_isAvailable {sa : SubnetAllocator} {ip : Nat}
    (available : sa.isAvailable ip = true) : ip < 2 ^ 32 :=
  SubnetAllocator.lt_of_isUsable (SubnetAllocator.isAvailable_iff.mp available).1

theorem DomainStep.addresses (step : DomainStep nodes members before after)
    (addresses : Addresses before) : Addresses after := by
  cases step with
  | report | block => exact ⟨addresses.accepted, addresses.texts⟩
  | accept _ _ _ available =>
      refine ⟨?_, addresses.texts⟩
      intro id ip member
      rcases List.mem_cons.mp member with equal | member
      · cases equal
        exact SubnetAllocator.lt_of_isAvailable available
      · exact addresses.accepted member
  | keep _ _ _ known =>
      have bound := addresses.accepted (Table.mem_of_lookup known)
      exact ⟨addresses.accepted, isAddressText_setNodeIP addresses.texts _ bound⟩
  | place _ _ _ available =>
      exact ⟨addresses.accepted, isAddressText_setNodeIP addresses.texts _
        (SubnetAllocator.lt_of_isAvailable available)⟩

theorem DomainRun.addresses (run : DomainRun nodes members before after)
    (addresses : Addresses before) : Addresses after := by
  induction run with
  | refl => exact addresses
  | tail _ step induction => exact step.addresses induction

theorem DomainStep.conflicts_grow (step : DomainStep nodes members before after) :
    before.conflicts <+: after.conflicts := by
  cases step with
  | report conflicts => exact ⟨conflicts, rfl⟩
  | accept | keep | place | block => exact List.prefix_refl _

theorem DomainRun.conflicts_grow (run : DomainRun nodes members before after) :
    before.conflicts <+: after.conflicts := by
  induction run with
  | refl => exact List.prefix_refl _
  | tail _ step induction => exact induction.trans step.conflicts_grow

end Run

end HomelabBuilder.Ipam
