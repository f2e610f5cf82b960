import Mathlib.Data.List.Sigma
import HomelabBuilder.Proxmox.Reconcile

/-! # Every guest in one row

What a comparison accounts for: no device for two hosts, each guest of a host and
each planned guest in one row, and totals that add the rows and hosts up.
-/

namespace HomelabBuilder.Proxmox

open Matching (taken)

/-! ## Hosts -/

def PairedOnce (pairs : Pairings) : Prop :=
  ∀ left right decision other id, pairs.lookup left = some decision →
    pairs.lookup right = some other → decision.target = some id → other.target = some id →
      left = right

theorem chooseHost_cases (planned : List PlannedHost) (choices : String → String)
    (pairs : Pairings) (node : Node) :
    (chooseHost planned choices pairs node = pairs ∧ choices node.name ≠ choiceSkip) ∨
    ∃ decision, chooseHost planned choices pairs node = (node.name, decision) :: pairs ∧
      (decision.reason.skip = true ↔ choices node.name = choiceSkip) ∧
      ∀ id, decision.target = some id →
        id ∉ taken pairs ∧ ∃ host ∈ planned, host.id = id := by
  unfold chooseHost
  dsimp only
  split
  · rename_i skipped
    exact .inr ⟨_, rfl, ⟨fun _ => skipped, fun _ => rfl⟩, nofun⟩
  · rename_i kept
    split
    · exact .inr ⟨_, rfl, ⟨nofun, fun skipped => absurd skipped kept⟩, nofun⟩
    · split
      · rename_i chosen
        rw [Bool.and_eq_true, Bool.and_eq_true, decide_eq_true_iff, decide_eq_true_iff] at chosen
        refine .inr ⟨_, rfl, ⟨nofun, fun skipped => absurd skipped kept⟩, ?_⟩
        rintro id ⟨⟩
        rcases List.any_eq_true.mp chosen.1.2 with ⟨host, listed, named⟩
        exact ⟨chosen.2, host, listed, of_decide_eq_true named⟩
      · exact .inl ⟨rfl, kept⟩

@[simp]
theorem taken_leaveOpen (pairs : Pairings) (node : Node) :
    taken (leaveOpen pairs node) = taken pairs := by
  unfold leaveOpen
  split <;> rfl

theorem lookup_leaveOpen {pairs : Pairings} {name : String} {decision : Pairing}
    (found : pairs.lookup name = some decision) (node : Node) :
    (leaveOpen pairs node).lookup name = some decision := by
  unfold leaveOpen
  split
  · exact found
  · rename_i undecided
    rw [Table.lookup_cons, if_neg]
    · exact found
    · rintro rfl
      exact undecided (by rw [found]; rfl)

theorem lookup_foldl_leaveOpen {pairs : Pairings} {name : String} {decision : Pairing}
    (found : pairs.lookup name = some decision) (nodes : List Node) :
    (nodes.foldl leaveOpen pairs).lookup name = some decision := by
  apply List.foldlRecOn (motive := fun pairs : Pairings => pairs.lookup name = some decision)
  · exact found
  · intro pairs found node _
    exact lookup_leaveOpen found node

theorem lookup_leaveOpen_self (pairs : Pairings) (node : Node) :
    ((leaveOpen pairs node).lookup node.name).isSome := by
  unfold leaveOpen
  split
  · assumption
  · rw [Table.lookup_cons, if_pos rfl]
    rfl

section

variable {planned : List PlannedHost} {itemNode choices : String → String}

theorem nodup_taken_choose {pairs : Pairings} (once : (taken pairs).Nodup) (node : Node) :
    (taken (chooseHost planned choices pairs node)).Nodup := by
  rcases chooseHost_cases planned choices pairs node with
    ⟨same, _⟩ | ⟨⟨target, reason⟩, added, _, free⟩
  · rw [same]
    exact once
  · rw [added]
    cases target with
    | none => exact once
    | some id => exact List.nodup_cons.mpr ⟨(free id rfl).1, once⟩

theorem lookup_choose {pairs : Pairings} {name : String} (found : (pairs.lookup name).isSome)
    (node : Node) : ((chooseHost planned choices pairs node).lookup name).isSome := by
  rcases chooseHost_cases planned choices pairs node with ⟨same, _⟩ | ⟨_, added, _⟩
  · rw [same]
    exact found
  · rw [added, Table.lookup_cons]
    split
    · rfl
    · exact found

variable (planned itemNode choices)

theorem pairHosts_eq (nodes : List Node) : ∃ linked stocked named : Node → PlannedHost → Bool,
    pairHosts planned itemNode choices nodes =
      nodes.foldl leaveOpen (pairPass planned .name named nodes
        (pairPass planned .inventory stocked nodes
          (pairPass planned .link linked nodes (nodes.foldl (chooseHost planned choices) [])))) :=
  ⟨_, _, _, rfl⟩

theorem nodup_taken_pairHosts (nodes : List Node) :
    (taken (pairHosts planned itemNode choices nodes)).Nodup := by
  have chosen : (taken (nodes.foldl (chooseHost planned choices) [])).Nodup := by
    apply List.foldlRecOn (motive := fun pairs : Pairings => (taken pairs).Nodup)
    · exact List.nodup_nil
    · intro pairs once node _
      exact nodup_taken_choose once node
  rcases pairHosts_eq planned itemNode choices nodes with ⟨linked, stocked, named, pairs⟩
  rw [pairs]
  apply List.foldlRecOn (motive := fun pairs : Pairings => (taken pairs).Nodup)
  · apply Matching.nodup_taken_pass
    apply Matching.nodup_taken_pass
    apply Matching.nodup_taken_pass
    exact chosen
  · intro pairs once node _
    rw [taken_leaveOpen]
    exact once

theorem pairedOnce_pairHosts (nodes : List Node) :
    PairedOnce (pairHosts planned itemNode choices nodes) := by
  intro left right decision other id leftFound rightFound leftTarget rightTarget
  exact Matching.key_eq_of_target (nodup_taken_pairHosts planned itemNode choices nodes)
    (Table.mem_of_lookup leftFound) (Table.mem_of_lookup rightFound) leftTarget rightTarget

/-- A decision leaves a host out only where its owner does, and gives it a device of
the plan or none. -/
structure Fair (entry : String × Pairing) : Prop where
  skip : entry.2.reason.skip = true → choices entry.1 = choiceSkip
  known : ∀ id, entry.2.target = some id → ∃ host ∈ planned, host.id = id

variable {planned choices} in
theorem fair_pass {pairedBy : PairedBy} {fits : Node → PlannedHost → Bool} {nodes : List Node}
    {pairs : Pairings} (fair : ∀ entry ∈ pairs, Fair planned choices entry) :
    ∀ entry ∈ pairPass planned pairedBy fits nodes pairs, Fair planned choices entry := by
  intro entry listed
  rcases Matching.mem_pass _ listed with earlier | ⟨_, _, host, hostListed, _, _, split⟩
  · exact fair entry earlier
  · rw [split]
    refine ⟨nofun, ?_⟩
    rintro id ⟨⟩
    exact ⟨host, hostListed, rfl⟩

variable {planned choices} in
theorem fair_choose {pairs : Pairings} (fair : ∀ entry ∈ pairs, Fair planned choices entry)
    (node : Node) : ∀ entry ∈ chooseHost planned choices pairs node, Fair planned choices entry := by
  rcases chooseHost_cases planned choices pairs node with
    ⟨same, _⟩ | ⟨decision, added, skip, known⟩
  · rw [same]
    exact fair
  · rw [added]
    exact List.forall_mem_cons.mpr ⟨⟨skip.mp, fun id target => (known id target).2⟩, fair⟩

variable {planned choices} in
theorem fair_leaveOpen {pairs : Pairings} (fair : ∀ entry ∈ pairs, Fair planned choices entry)
    (node : Node) : ∀ entry ∈ leaveOpen pairs node, Fair planned choices entry := by
  unfold leaveOpen
  split
  · exact fair
  · exact List.forall_mem_cons.mpr ⟨⟨nofun, nofun⟩, fair⟩

theorem fair_pairHosts (nodes : List Node) :
    ∀ entry ∈ pairHosts planned itemNode choices nodes, Fair planned choices entry := by
  have chosen : ∀ entry ∈ nodes.foldl (chooseHost planned choices) [],
      Fair planned choices entry := by
    apply List.foldlRecOn
      (motive := fun pairs : Pairings => ∀ entry ∈ pairs, Fair planned choices entry)
    · exact List.forall_mem_nil _
    · intro pairs fair node _
      exact fair_choose fair node
  rcases pairHosts_eq planned itemNode choices nodes with ⟨linked, stocked, named, pairs⟩
  rw [pairs]
  apply List.foldlRecOn
    (motive := fun pairs : Pairings => ∀ entry ∈ pairs, Fair planned choices entry)
  · exact fair_pass (fair_pass (fair_pass chosen))
  · intro pairs fair node _
    exact fair_leaveOpen fair node

variable {planned} in
theorem lookup_pairPass {pairedBy : PairedBy} {fits : Node → PlannedHost → Bool}
    {nodes : List Node} {pairs : Pairings} {name : String} {decision : Pairing}
    (found : pairs.lookup name = some decision) :
    (pairPass planned pairedBy fits nodes pairs).lookup name = some decision :=
  Matching.lookup_pass_of_some nodes found

theorem lookup_chosen_of_skip {nodes : List Node} {node : Node} (listed : node ∈ nodes)
    (skipped : choices node.name = choiceSkip) :
    ((nodes.foldl (chooseHost planned choices) []).lookup node.name).isSome := by
  rcases List.append_of_mem listed with ⟨before, after, rfl⟩
  rw [List.foldl_append, List.foldl_cons]
  apply List.foldlRecOn (motive := fun pairs : Pairings => (pairs.lookup node.name).isSome)
  · rcases chooseHost_cases planned choices (before.foldl (chooseHost planned choices) []) node with
      ⟨_, kept⟩ | ⟨decision, added, _⟩
    · exact absurd skipped kept
    · rw [added, Table.lookup_cons, if_pos rfl]
      rfl
  · intro pairs found other _
    exact lookup_choose found other

theorem skip_of_chosen {nodes : List Node} {name : String} (skipped : choices name = choiceSkip)
    {decision : Pairing}
    (found : (nodes.foldl (chooseHost planned choices) []).lookup name = some decision) :
    decision.reason.skip = true := by
  have left : ∀ decision, (nodes.foldl (chooseHost planned choices) []).lookup name =
      some decision → decision.reason.skip = true := by
    apply List.foldlRecOn (motive := fun pairs : Pairings =>
      ∀ decision, pairs.lookup name = some decision → decision.reason.skip = true)
    · exact nofun
    · intro pairs left node _ decision
      rcases chooseHost_cases planned choices pairs node with ⟨same, _⟩ | ⟨fresh, added, skip, _⟩
      · rw [same]
        exact left decision
      · rw [added, Table.lookup_cons]
        split
        · rename_i isNode
          rintro ⟨⟩
          exact skip.mpr (isNode ▸ skipped)
        · exact left decision
  exact left decision found

theorem lookup_pairHosts_of_skip {nodes : List Node} {node : Node} (listed : node ∈ nodes)
    (skipped : choices node.name = choiceSkip) :
    ∃ decision, (pairHosts planned itemNode choices nodes).lookup node.name = some decision ∧
      decision.reason.skip = true := by
  rcases Option.isSome_iff_exists.mp (lookup_chosen_of_skip planned choices listed skipped) with
    ⟨decision, found⟩
  rcases pairHosts_eq planned itemNode choices nodes with ⟨linked, stocked, named, pairs⟩
  refine ⟨decision, ?_, skip_of_chosen planned choices skipped found⟩
  rw [pairs]
  exact lookup_foldl_leaveOpen (lookup_pairPass (lookup_pairPass (lookup_pairPass found))) nodes

theorem lookup_pairHosts_isSome {nodes : List Node} {node : Node} (listed : node ∈ nodes) :
    ((pairHosts planned itemNode choices nodes).lookup node.name).isSome := by
  rcases pairHosts_eq planned itemNode choices nodes with ⟨linked, stocked, named, pairs⟩
  rw [pairs]
  generalize pairPass planned .name named nodes _ = passed
  rcases List.append_of_mem listed with ⟨before, after, rfl⟩
  rw [List.foldl_append, List.foldl_cons]
  rcases Option.isSome_iff_exists.mp
    (lookup_leaveOpen_self (before.foldl leaveOpen passed) node) with ⟨decision, decided⟩
  rw [lookup_foldl_leaveOpen decided after]
  rfl

/-- What is decided for the hosts: each has a decision, only its owner's choice leaves one
out, and a device that is given is one of the plan and given once. -/
structure Paired (nodes : List Node) (pairs : Pairings) : Prop where
  once : PairedOnce pairs
  skip : ∀ node ∈ nodes, ∃ decision, pairs.lookup node.name = some decision ∧
    (decision.reason.skip = true ↔ choices node.name = choiceSkip)
  known : ∀ node decision id, pairs.lookup node = some decision → decision.target = some id →
    ∃ host ∈ planned, host.id = id

theorem paired_pairHosts (nodes : List Node) :
    Paired planned choices nodes (pairHosts planned itemNode choices nodes) := by
  have fair := fair_pairHosts planned itemNode choices nodes
  refine ⟨pairedOnce_pairHosts planned itemNode choices nodes, ?_, ?_⟩
  · intro node listed
    rcases Option.isSome_iff_exists.mp
      (lookup_pairHosts_isSome planned itemNode choices listed) with ⟨decision, decided⟩
    refine ⟨decision, decided, (fair _ (Table.mem_of_lookup decided)).skip, ?_⟩
    intro skipped
    rcases lookup_pairHosts_of_skip planned itemNode choices listed skipped with
      ⟨other, found, skip⟩
    cases decided.symm.trans found
    exact skip
  · intro node decision id decided target
    exact (fair _ (Table.mem_of_lookup decided)).known id target

end

/-! ## Guests -/

inductive Origin
  | matched (guest : Guest) (plan : PlannedGuest) (how : MatchedBy)
  | discovered (guest : Guest)
  | missing (plan : PlannedGuest)

namespace Origin

def row : Origin → GuestRow
  | matched guest plan how => matchedRow guest plan how
  | discovered guest => discoveredRow guest
  | missing plan => missingRow plan

def guest : Origin → Option Guest
  | matched guest _ _ => some guest
  | discovered guest => some guest
  | missing _ => none

def plan : Origin → Option PlannedGuest
  | matched _ plan _ => some plan
  | discovered _ => none
  | missing plan => some plan

end Origin

/-- The rows of a host take up each of its guests and each guest planned for it once.
A planned guest with a VMID is matched with nothing else, and a guest of that VMID
is matched by it. -/
structure RowsAccount (actual : List Guest) (planned : List PlannedGuest) (origins : List Origin) :
    Prop where
  guests : origins.filterMap Origin.guest = actual
  plans : (origins.filterMap Origin.plan).Perm planned
  ownVMID : ∀ guest plan how, Origin.matched guest plan how ∈ origins → plan.vmid ≠ 0 →
    plan.vmid = guest.vmid
  byVMID : ∀ guest ∈ actual, ∀ plan ∈ planned, 0 < plan.vmid → plan.vmid = guest.vmid →
    ∃ other ∈ planned, other.vmid = guest.vmid ∧ Origin.matched guest other .id ∈ origins

theorem eq_of_mem_zipIdx {α : Type*} {items : List α} {left right : α × Nat}
    (leftListed : left ∈ items.zipIdx) (rightListed : right ∈ items.zipIdx)
    (same : left.2 = right.2) : left = right := by
  have leftAt := List.mem_zipIdx_iff_getElem?.mp leftListed
  have rightAt := List.mem_zipIdx_iff_getElem?.mp rightListed
  rw [same, rightAt] at leftAt
  exact Prod.ext (Option.some.inj leftAt).symm same

/-- A decision of `matchGuests` is for an actual guest and a planned one that fit. -/
theorem mem_matchGuests {planned : List PlannedGuest} {actual : List Guest}
    {entry : Nat × Matching.Decision Nat MatchedBy} (listed : entry ∈ matchGuests planned actual) :
    ∃ guest ∈ actual.zipIdx, ∃ plan ∈ planned.zipIdx, entry.1 = guest.2 ∧
      entry.2.target = some plan.2 ∧
      ((entry.2.reason = .id ∧ sameVMID guest plan) ∨
        (entry.2.reason = .name ∧ sameName guest plan)) := by
  rcases Matching.mem_pass _ listed with earlier | ⟨guest, guestListed, plan, planListed, fits, _,
    split⟩
  · rcases Matching.mem_pass _ earlier with none | ⟨guest, guestListed, plan, planListed, fits, _,
      split⟩
    · cases none
    · rw [split]
      exact ⟨guest, guestListed, plan, planListed, rfl, rfl, .inl ⟨rfl, fits⟩⟩
  · rw [split]
    exact ⟨guest, guestListed, plan, planListed, rfl, rfl, .inr ⟨rfl, fits⟩⟩

theorem nodup_taken_matchGuests (planned : List PlannedGuest) (actual : List Guest) :
    (taken (matchGuests planned actual)).Nodup :=
  Matching.nodup_taken_pass _ (Matching.nodup_taken_pass _ List.nodup_nil)

/-- With one guest for each VMID, a guest that some plan was imported from is matched
by its id. -/
theorem matched_by_id {planned : List PlannedGuest} {actual : List Guest}
    (vmids : (actual.map Guest.vmid).Nodup) {guest : Guest × Nat} {plan : PlannedGuest × Nat}
    (guestListed : guest ∈ actual.zipIdx) (planListed : plan ∈ planned.zipIdx)
    (same : sameVMID guest plan) :
    ∃ decision, (matchGuests planned actual).lookup guest.2 = some decision ∧
      decision.reason = .id := by
  generalize first : Matching.pass sameVMID Prod.snd Prod.snd MatchedBy.id planned.zipIdx []
    actual.zipIdx = byID
  have fitting : ∀ entry ∈ byID, ∃ other ∈ actual.zipIdx, ∃ plan ∈ planned.zipIdx,
      sameVMID other plan ∧ entry = (other.2, ⟨some plan.2, .id⟩) := by
    intro entry listed
    rw [← first] at listed
    rcases Matching.mem_pass _ listed with none | ⟨other, otherListed, plan, planListed, fits, _,
      split⟩
    · cases none
    · exact ⟨other, otherListed, plan, planListed, fits, split⟩
  cases found : byID.lookup guest.2 with
  | some decision =>
      refine ⟨decision, ?_, ?_⟩
      · unfold matchGuests
        rw [first]
        exact Matching.lookup_pass_of_some _ found
      · rcases fitting _ (Table.mem_of_lookup found) with ⟨_, _, _, _, _, split⟩
        rw [(Prod.mk.inj split).2]
  | none =>
      -- The plan was given to another guest, which has the same VMID.
      have given := Matching.taken_of_undecided guestListed (by rw [first]; exact found) plan
        planListed same
      rw [first] at given
      rcases Matching.mem_taken_iff.mp given with ⟨entry, listed, target⟩
      rcases fitting entry listed with ⟨other, otherListed, otherPlan, otherPlanListed, fits, split⟩
      have samePlan : otherPlan = plan := by
        rw [split] at target
        exact eq_of_mem_zipIdx otherPlanListed planListed (Option.some.inj target)
      rw [samePlan] at fits
      have sameGuest : guest.1.vmid = other.1.vmid := by
        unfold sameVMID at same fits
        rw [Bool.and_eq_true, decide_eq_true_iff, decide_eq_true_iff] at same fits
        rw [← same.2, ← fits.2]
      have sameEntry : guest = other := by
        have once : (actual.zipIdx.map fun entry => entry.1.vmid).Nodup := by
          have forgotten : actual.zipIdx.map (fun entry => entry.1.vmid) =
              (actual.zipIdx.map Prod.fst).map Guest.vmid := by
            rw [List.map_map]
            rfl
          rw [forgotten, List.zipIdx_map_fst]
          exact vmids
        exact List.inj_on_of_nodup_map once guestListed otherListed sameGuest
      have open_ := List.lookup_eq_none_iff.mp found entry listed
      rw [split, sameEntry, bne_self_eq_false] at open_
      cases open_

section

variable {planned : List PlannedGuest} {pairs : GuestPairs}

theorem matchOf_eq_some_iff {place index : Nat} {plan : PlannedGuest} {how : MatchedBy} :
    matchOf planned pairs place = some (index, plan, how) ↔
      pairs.lookup place = some ⟨some index, how⟩ ∧ planned[index]? = some plan := by
  unfold matchOf
  constructor
  · intro found
    rcases Option.bind_eq_some_iff.mp found with ⟨⟨target, reason⟩, decided, targeted⟩
    rcases Option.bind_eq_some_iff.mp targeted with ⟨place, isTarget, read⟩
    rcases Option.map_eq_some_iff.mp read with ⟨other, listed, same⟩
    cases same
    dsimp only at isTarget
    rw [isTarget] at decided
    exact ⟨decided, listed⟩
  · rintro ⟨decided, listed⟩
    rw [decided]
    dsimp only [Option.bind_some]
    rw [listed]
    rfl

variable (planned pairs)

def originOf (entry : Guest × Nat) : Origin :=
  match matchOf planned pairs entry.2 with
  | some (_, plan, how) => .matched entry.1 plan how
  | none => .discovered entry.1

theorem row_originOf (entry : Guest × Nat) : (originOf planned pairs entry).row =
    match matchOf planned pairs entry.2 with
    | some (_, plan, how) => matchedRow entry.1 plan how
    | none => discoveredRow entry.1 := by
  unfold originOf
  cases matchOf planned pairs entry.2 <;> rfl

theorem foldl_compareActual : ∀ (entries : List (Guest × Nat)) (state : Comparison),
    (entries.foldl (compareActual planned pairs) state).rows =
        state.rows ++ (entries.map (originOf planned pairs)).map Origin.row ∧
      (entries.foldl (compareActual planned pairs) state).counts =
        ((entries.map (originOf planned pairs)).map Origin.row).foldl Counts.count state.counts ∧
      ∀ index, index ∈ (entries.foldl (compareActual planned pairs) state).seen ↔
        index ∈ state.seen ∨ index ∈ entries.filterMap fun entry =>
          (matchOf planned pairs entry.2).map Prod.fst
  | [], state => by simp
  | entry :: rest, state => by
      rcases foldl_compareActual rest (compareActual planned pairs state entry) with
        ⟨rows, counts, seen⟩
      rw [List.foldl_cons, rows, counts]
      have first : (compareActual planned pairs state entry).rows =
          state.rows ++ [(originOf planned pairs entry).row] := by
        rw [row_originOf]
        rfl
      have counted : (compareActual planned pairs state entry).counts =
          state.counts.count (originOf planned pairs entry).row := by
        rw [row_originOf]
        rfl
      refine ⟨?_, ?_, ?_⟩
      · rw [first, List.append_assoc]
        rfl
      · rw [counted]
        rfl
      · intro index
        rw [seen, List.filterMap_cons]
        have also : (compareActual planned pairs state entry).seen =
            match matchOf planned pairs entry.2 with
            | some (index, _, _) => index :: state.seen
            | none => state.seen := rfl
        rw [also]
        cases matchOf planned pairs entry.2 with
        | none => rfl
        | some found =>
            simp only [Option.map_some, List.mem_cons]
            tauto

omit planned pairs in
theorem foldl_comparePlanned : ∀ (entries : List (PlannedGuest × Nat)) (state : Comparison),
    (entries.foldl comparePlanned state).rows = state.rows ++
        ((entries.filter fun entry => entry.2 ∉ state.seen).map fun entry =>
          Origin.missing entry.1).map Origin.row ∧
      (entries.foldl comparePlanned state).counts =
        (((entries.filter fun entry => entry.2 ∉ state.seen).map fun entry =>
          Origin.missing entry.1).map Origin.row).foldl Counts.count state.counts
  | [], state => by simp
  | entry :: rest, state => by
      rcases foldl_comparePlanned rest (comparePlanned state entry) with ⟨rows, counts⟩
      have seen : (comparePlanned state entry).seen = state.seen := rfl
      rw [List.foldl_cons, rows, counts, seen, List.filter_cons]
      by_cases unseen : entry.2 ∉ state.seen
      · have first : (comparePlanned state entry).rows = state.rows ++ [missingRow entry.1] :=
          if_pos unseen
        have counted : (comparePlanned state entry).counts =
            state.counts.count (missingRow entry.1) := if_pos unseen
        rw [first, counted, if_pos (decide_eq_true unseen), List.append_assoc]
        exact ⟨rfl, rfl⟩
      · have first : (comparePlanned state entry).rows = state.rows := if_neg unseen
        have counted : (comparePlanned state entry).counts = state.counts := if_neg unseen
        rw [first, counted, if_neg (by rw [decide_eq_false unseen]; exact Bool.false_ne_true)]
        exact ⟨rfl, rfl⟩

end

/-- Some of the entries of a list and the others at places of their own are all of it. -/
theorem perm_of_places {α : Type*} {entries some : List (α × Nat)}
    (places : (entries.map Prod.snd).Nodup) (once : (some.map Prod.snd).Nodup)
    (subset : some ⊆ entries) {seen : List Nat}
    (covered : ∀ place, place ∈ seen ↔ place ∈ some.map Prod.snd) :
    (some ++ entries.filter fun entry => entry.2 ∉ seen).Perm entries := by
  have distinct : (some ++ entries.filter fun entry => entry.2 ∉ seen).Nodup := by
    apply List.Nodup.append (List.Nodup.of_map _ once)
      ((List.Nodup.of_map _ places).filter _)
    intro entry taken left
    have unseen := of_decide_eq_true (List.mem_filter.mp left).2
    exact unseen ((covered _).mpr (List.mem_map_of_mem taken))
  apply (List.perm_ext_iff_of_nodup distinct (List.Nodup.of_map _ places)).mpr
  intro entry
  rw [List.mem_append, List.mem_filter, decide_eq_true_iff]
  constructor
  · rintro (taken | left)
    · exact subset taken
    · exact left.1
  · intro listed
    by_cases place : entry.2 ∈ seen
    · rcases List.mem_map.mp ((covered _).mp place) with ⟨other, taken, same⟩
      rw [List.inj_on_of_nodup_map places (subset taken) listed same] at taken
      exact .inl taken
    · exact .inr ⟨listed, place⟩

/-! ## One host -/

section

variable (planned : List PlannedGuest) (actual : List Guest)

/-- The planned guests that are matched, with their places. -/
def matchedPlans : List (PlannedGuest × Nat) :=
  actual.zipIdx.filterMap fun entry =>
    (matchOf planned (matchGuests planned actual) entry.2).map fun found => (found.2.1, found.1)

theorem matchedPlans_subset : matchedPlans planned actual ⊆ planned.zipIdx := by
  intro entry listed
  rcases List.mem_filterMap.mp listed with ⟨guest, _, matched⟩
  rcases Option.map_eq_some_iff.mp matched with ⟨⟨index, plan, how⟩, found, rfl⟩
  exact List.mem_zipIdx_iff_getElem?.mpr (matchOf_eq_some_iff.mp found).2

theorem nodup_matchedPlans : ((matchedPlans planned actual).map Prod.snd).Nodup := by
  have places : (matchedPlans planned actual).map Prod.snd =
      (actual.zipIdx.map Prod.snd).filterMap fun place =>
        (matchOf planned (matchGuests planned actual) place).map Prod.fst := by
    rw [matchedPlans, List.map_filterMap, List.filterMap_map]
    apply List.filterMap_congr
    intro entry _
    rw [Option.map_map]
    rfl
  rw [places]
  apply List.Nodup.filterMap _ (List.nodup_zipIdx_map_snd actual)
  intro left right index leftFound rightFound
  rcases Option.map_eq_some_iff.mp leftFound with ⟨⟨_, plan, how⟩, leftMatch, rfl⟩
  rcases Option.map_eq_some_iff.mp rightFound with ⟨⟨_, other, how'⟩, rightMatch, same⟩
  cases same
  exact Matching.key_eq_of_target (nodup_taken_matchGuests planned actual)
    (Table.mem_of_lookup (matchOf_eq_some_iff.mp leftMatch).1)
    (Table.mem_of_lookup (matchOf_eq_some_iff.mp rightMatch).1) rfl rfl

variable {planned actual}

theorem fits_of_originOf {entry : Guest × Nat} (listed : entry ∈ actual.zipIdx) {guest : Guest}
    {plan : PlannedGuest} {how : MatchedBy}
    (origin : originOf planned (matchGuests planned actual) entry = .matched guest plan how) :
    guest = entry.1 ∧ (plan.vmid ≠ 0 → plan.vmid = guest.vmid) := by
  unfold originOf at origin
  cases found : matchOf planned (matchGuests planned actual) entry.2 with
  | none =>
      rw [found] at origin
      cases origin
  | some match_ =>
      rcases match_ with ⟨index, other, reason⟩
      rw [found] at origin
      cases origin
      rcases matchOf_eq_some_iff.mp found with ⟨decided, planAt⟩
      rcases mem_matchGuests (Table.mem_of_lookup decided) with ⟨guest, guestListed, source,
        sourceListed, place, target, fits⟩
      have sameGuest := eq_of_mem_zipIdx listed guestListed place
      have samePlan : source.1 = plan := by
        have sourceAt := List.mem_zipIdx_iff_getElem?.mp sourceListed
        rw [← Option.some.inj target, planAt] at sourceAt
        exact (Option.some.inj sourceAt).symm
      refine ⟨rfl, ?_⟩
      intro imported
      rw [sameGuest, ← samePlan]
      rw [← samePlan] at imported
      rcases fits with ⟨_, sameID⟩ | ⟨_, named⟩
      · unfold sameVMID at sameID
        rw [Bool.and_eq_true, decide_eq_true_iff, decide_eq_true_iff] at sameID
        exact sameID.2
      · unfold sameName at named
        rw [Bool.and_eq_true, Bool.and_eq_true, decide_eq_true_iff, decide_eq_true_iff] at named
        exact absurd named.1.2 imported

@[simp]
theorem guest_originOf (pairs : GuestPairs) (entry : Guest × Nat) :
    (originOf planned pairs entry).guest = some entry.1 := by
  unfold originOf
  cases matchOf planned pairs entry.2 <;> rfl

theorem plan_originOf (pairs : GuestPairs) (entry : Guest × Nat) :
    (originOf planned pairs entry).plan =
      (matchOf planned pairs entry.2).map fun found => found.2.1 := by
  unfold originOf
  cases matchOf planned pairs entry.2 <;> rfl

theorem rowsAccount_of_seen (vmids : (actual.map Guest.vmid).Nodup) {seen : List Nat}
    (covered : ∀ index, index ∈ seen ↔ index ∈ (matchedPlans planned actual).map Prod.snd) :
    RowsAccount actual planned
      (actual.zipIdx.map (originOf planned (matchGuests planned actual)) ++
        (planned.zipIdx.filter fun entry => entry.2 ∉ seen).map fun entry => .missing entry.1) := by
  constructor
  · have found : (actual.zipIdx.map (originOf planned (matchGuests planned actual))).filterMap
        Origin.guest = actual := by
      have each : Origin.guest ∘ originOf planned (matchGuests planned actual) =
          fun entry => some entry.1 := funext (guest_originOf _)
      rw [List.filterMap_map, each, List.filterMap_eq_map']
      exact List.zipIdx_map_fst 0 actual
    have none : ((planned.zipIdx.filter fun entry => entry.2 ∉ seen).map fun entry =>
        Origin.missing entry.1).filterMap Origin.guest = [] := by
      rw [List.filterMap_map]
      exact List.filterMap_eq_nil_iff.mpr fun _ _ => rfl
    rw [List.filterMap_append, found, none, List.append_nil]
  · have matched : (actual.zipIdx.map (originOf planned (matchGuests planned actual))).filterMap
        Origin.plan = (matchedPlans planned actual).map Prod.fst := by
      rw [List.filterMap_map, matchedPlans, List.map_filterMap]
      apply List.filterMap_congr
      intro entry _
      rw [Option.map_map]
      exact plan_originOf _ entry
    have missing : ((planned.zipIdx.filter fun entry => entry.2 ∉ seen).map fun entry =>
        Origin.missing entry.1).filterMap Origin.plan =
          (planned.zipIdx.filter fun entry => entry.2 ∉ seen).map Prod.fst := by
      rw [List.filterMap_map]
      exact congrFun List.filterMap_eq_map' _
    have all := (perm_of_places (List.nodup_zipIdx_map_snd planned)
      (nodup_matchedPlans planned actual) (matchedPlans_subset planned actual) covered).map Prod.fst
    rw [List.map_append, List.zipIdx_map_fst] at all
    rw [List.filterMap_append, matched, missing]
    exact all
  · intro guest plan how listed
    rcases List.mem_append.mp listed with found | missing
    · rcases List.mem_map.mp found with ⟨entry, entryListed, origin⟩
      exact (fits_of_originOf entryListed origin).2
    · rcases List.mem_map.mp missing with ⟨entry, _, origin⟩
      cases origin
  · intro guest guestListed plan planListed imported same
    rcases List.mem_iff_getElem?.mp guestListed with ⟨place, guestAt⟩
    rcases List.mem_iff_getElem?.mp planListed with ⟨index, planAt⟩
    have guestIn : (guest, place) ∈ actual.zipIdx := List.mem_zipIdx_iff_getElem?.mpr guestAt
    have planIn : (plan, index) ∈ planned.zipIdx := List.mem_zipIdx_iff_getElem?.mpr planAt
    rcases matched_by_id vmids guestIn planIn (by
      unfold sameVMID
      rw [Bool.and_eq_true, decide_eq_true_iff, decide_eq_true_iff]
      exact ⟨imported, same⟩) with ⟨⟨target, reason⟩, decided, byID⟩
    rcases mem_matchGuests (Table.mem_of_lookup decided) with ⟨found, foundListed, other,
      otherListed, samePlace, isTarget, fits⟩
    dsimp only at byID isTarget
    cases byID
    have sameGuest := eq_of_mem_zipIdx guestIn foundListed samePlace
    rw [← sameGuest] at fits
    rcases fits with ⟨_, sameID⟩ | ⟨isName, _⟩
    · unfold sameVMID at sameID
      rw [Bool.and_eq_true, decide_eq_true_iff, decide_eq_true_iff] at sameID
      have otherAt := List.mem_zipIdx_iff_getElem?.mp otherListed
      refine ⟨other.1, List.mem_of_getElem? otherAt, sameID.2, ?_⟩
      apply List.mem_append_left
      refine List.mem_map.mpr ⟨(guest, place), guestIn, ?_⟩
      have matched : matchOf planned (matchGuests planned actual) place =
          some (other.2, other.1, .id) := by
        rw [isTarget] at decided
        exact matchOf_eq_some_iff.mpr ⟨decided, otherAt⟩
      unfold originOf
      dsimp only
      rw [matched]
    · cases isName

theorem compareGuests_accounts (vmids : (actual.map Guest.vmid).Nodup) (counts : Counts) :
    ∃ origins, RowsAccount actual planned origins ∧
      (compareGuests planned actual counts).rows = origins.map Origin.row ∧
      (compareGuests planned actual counts).counts =
        (origins.map Origin.row).foldl Counts.count counts := by
  generalize paired : matchGuests planned actual = pairs
  rcases foldl_compareActual planned pairs actual.zipIdx { counts := counts } with
    ⟨rows, counted, seen⟩
  generalize first : actual.zipIdx.foldl (compareActual planned pairs) { counts := counts } =
    state at rows counted seen
  rcases foldl_comparePlanned planned.zipIdx state with ⟨allRows, allCounted⟩
  have compared : compareGuests planned actual counts =
      planned.zipIdx.foldl comparePlanned state := by
    rw [← first, ← paired]
    rfl
  refine ⟨actual.zipIdx.map (originOf planned pairs) ++
    (planned.zipIdx.filter fun entry => entry.2 ∉ state.seen).map fun entry => .missing entry.1,
    ?_, ?_, ?_⟩
  · subst paired
    apply rowsAccount_of_seen vmids
    intro index
    rw [seen, matchedPlans, List.map_filterMap]
    simp only [Option.map_map, List.not_mem_nil, false_or]
    rfl
  · rw [compared, allRows, rows, List.map_append]
    rfl
  · rw [compared, allCounted, counted, List.map_append, List.foldl_append]

end

/-! ## All hosts -/

def tally (rows : List GuestRow) : Counts where
  matched := rows.countP fun row => row.state = .matched
  differing := rows.countP GuestRow.differs
  discovered := rows.countP fun row => row.state = .discovered
  missing := rows.countP fun row => row.state = .missing

def Load.sum (loads : List Load) : Load where
  capacity := (loads.map Load.capacity).sum
  planned := (loads.map Load.planned).sum
  actual := (loads.map Load.actual).sum

def plannedGuests (planned : List PlannedHost) (id : String) : List PlannedGuest :=
  ((plannedByID planned id).map PlannedHost.guests).getD []

/-- A host that is left out has no rows; any other is compared with the device it is
paired with, guest by guest. -/
structure HostAccount (snapshot : Snapshot) (planned : List PlannedHost) (pairs : Pairings)
    (host : HostReport) : Prop where
  decided : ∃ decision, pairs.lookup host.node = some decision ∧
    host.skipped = decision.reason.skip ∧
    (decision.reason.skip = false → host.plannedID = decision.target.getD "")
  rows : host.skipped = false → ∃ origins,
    RowsAccount (snapshot.guestsOn host.node) (plannedGuests planned host.plannedID) origins ∧
      host.guests = origins.map Origin.row
  skipped : host.skipped = true → host.plannedID = "" ∧ host.guests = []

/-- One report for each host, no device in two of them, every guest in one row, and
sums that add up. -/
structure Accounted (snapshot : Snapshot) (planned : List PlannedHost) (pairs : Pairings)
    (result : Reconciliation) : Prop where
  hosts : (result.hosts.map HostReport.node).Perm (snapshot.nodes.map Node.name)
  devices : result.hosts.Pairwise fun left right =>
    left.plannedID ≠ "" → left.plannedID ≠ right.plannedID
  each : ∀ host ∈ result.hosts, HostAccount snapshot planned pairs host
  counts : result.counts = tally (result.hosts.flatMap HostReport.guests)
  vcpus : result.totals.vcpus = Load.sum (result.hosts.map HostReport.vcpus)
  memoryMB : result.totals.memoryMB = Load.sum (result.hosts.map HostReport.memoryMB)
  diskGB : result.totals.diskGB = Load.sum (result.hosts.map HostReport.diskGB)

theorem Load.sum_append_singleton (loads : List Load) (load : Load) :
    Load.sum (loads ++ [load]) = (Load.sum loads).add load := by
  simp [Load.sum, Load.add]

theorem matched_of_differs (origin : Origin) (differs : origin.row.differs = true) :
    origin.row.state = .matched := by
  cases origin with
  | matched guest plan how => rfl
  | discovered guest => cases differs
  | missing plan => cases differs

theorem foldl_count (more : List Origin) : ∀ rows : List GuestRow,
    (more.map Origin.row).foldl Counts.count (tally rows) = tally (rows ++ more.map Origin.row) := by
  induction more with
  | nil => simp
  | cons origin rest induction =>
      intro rows
      have first : (tally rows).count origin.row = tally (rows ++ [origin.row]) := by
        have onlyMatched := matched_of_differs origin
        unfold Counts.count tally
        cases state : origin.row.state with
        | matched => cases differs : origin.row.differs <;> simp [state, differs]
        | discovered =>
            cases differs : origin.row.differs with
            | false => simp [state, differs]
            | true => rw [onlyMatched differs] at state; cases state
        | missing =>
            cases differs : origin.row.differs with
            | false => simp [state, differs]
            | true => rw [onlyMatched differs] at state; cases state
      rw [List.map_cons, List.foldl_cons, first, induction, List.append_assoc]
      rfl

section

variable {reader : Reader} {snapshot : Snapshot} {planned : List PlannedHost} {pairs : Pairings}

theorem nodup_vmid_guestsOn (vmids : (snapshot.guests.map Guest.vmid).Nodup) (node : String) :
    ((snapshot.guestsOn node).map Guest.vmid).Nodup := by
  have sorted := (List.perm_insertionSort (fun left right : Guest => left.vmid ≤ right.vmid)
    (snapshot.guests.filter fun guest => guest.node = node && !guest.template)).map Guest.vmid
  apply sorted.nodup_iff.mpr
  exact vmids.sublist (List.filter_sublist.map _)

theorem plannedGuests_of_pair (named : ∀ host ∈ planned, host.id ≠ "") (target : Option String) :
    plannedGuests planned (((target.bind (plannedByID planned)).map PlannedHost.id).getD "") =
      ((target.bind (plannedByID planned)).map PlannedHost.guests).getD [] := by
  cases found : target.bind (plannedByID planned) with
  | none =>
      have unnamed : plannedByID planned "" = none := by
        apply List.find?_eq_none.mpr
        intro host listed isEmpty
        exact named host (List.mem_reverse.mp listed) (of_decide_eq_true isEmpty)
      rw [Option.map_none, Option.getD_none, plannedGuests, unnamed]
  | some plan =>
      rcases Option.bind_eq_some_iff.mp found with ⟨id, _, byID⟩
      have same : plan.id = id := of_decide_eq_true (List.find?_some byID :)
      rw [Option.map_some, Option.getD_some, plannedGuests, same, byID]

theorem id_of_pair {target : Option String}
    (known : ∀ id, target = some id → ∃ host ∈ planned, host.id = id) :
    ((target.bind (plannedByID planned)).map PlannedHost.id).getD "" = target.getD "" := by
  cases target with
  | none => rfl
  | some id =>
      rcases known id rfl with ⟨host, listed, named⟩
      have found : (plannedByID planned id).isSome := by
        rw [plannedByID, List.find?_isSome]
        exact ⟨host, List.mem_reverse.mpr listed, decide_eq_true named⟩
      rcases Option.isSome_iff_exists.mp found with ⟨plan, byID⟩
      have same : plan.id = id := of_decide_eq_true (List.find?_some byID :)
      rw [Option.bind_some, byID, Option.map_some, Option.getD_some, Option.getD_some, same]

theorem hostAccount_skipped {node : Node} {pair : Pairing}
    (decided : pairs.lookup node.name = some pair) (skip : pair.reason.skip = true) :
    HostAccount snapshot planned pairs
      { node := node.name, online := node.online, skipped := true,
        pairedBy := pair.reason.pairedBy } where
  decided := ⟨pair, decided, skip.symm, fun kept => absurd (skip.symm.trans kept) nofun⟩
  rows compared := nomatch compared
  skipped _ := ⟨rfl, rfl⟩

theorem HostAccount.device {host : HostReport} (account : HostAccount snapshot planned pairs host)
    (shown : host.plannedID ≠ "") :
    ∃ decision, pairs.lookup host.node = some decision ∧
      decision.target = some host.plannedID := by
  rcases account.decided with ⟨decision, found, skipped, shownID⟩
  refine ⟨decision, found, ?_⟩
  cases skip : decision.reason.skip with
  | true => exact absurd (account.skipped (skipped.trans skip)).1 shown
  | false =>
      cases target : decision.target with
      | none => exact absurd ((shownID skip).trans (by rw [target]; rfl)) shown
      | some id => rw [shownID skip, target, Option.getD_some]

structure Running (snapshot : Snapshot) (planned : List PlannedHost) (pairs : Pairings)
    (done : List Node) (result : Reconciliation) : Prop where
  hosts : result.hosts.map HostReport.node = done.map Node.name
  each : ∀ host ∈ result.hosts, HostAccount snapshot planned pairs host
  counts : result.counts = tally (result.hosts.flatMap HostReport.guests)
  vcpus : result.totals.vcpus = Load.sum (result.hosts.map HostReport.vcpus)
  memoryMB : result.totals.memoryMB = Load.sum (result.hosts.map HostReport.memoryMB)
  diskGB : result.totals.diskGB = Load.sum (result.hosts.map HostReport.diskGB)

theorem Load.add_empty (load : Load) : load.add {} = load := by simp [Load.add]

theorem Running.skip {done : List Node} {result : Reconciliation}
    (running : Running snapshot planned pairs done result) {node : Node} {pair : Pairing}
    (decided : pairs.lookup node.name = some pair) (skip : pair.reason.skip = true) :
    Running snapshot planned pairs (done ++ [node])
      { result with
        hosts := result.hosts ++
          [{ node := node.name, online := node.online, skipped := true,
             pairedBy := pair.reason.pairedBy }] } := by
  constructor
  · rw [List.map_append, List.map_append, running.hosts]
    rfl
  · intro host listed
    rcases List.mem_append.mp listed with before | last
    · exact running.each host before
    · rw [List.mem_singleton.mp last]
      exact hostAccount_skipped decided skip
  · rw [List.flatMap_append, running.counts]
    simp
  · rw [List.map_append, List.map_singleton, Load.sum_append_singleton, running.vcpus,
      Load.add_empty]
  · rw [List.map_append, List.map_singleton, Load.sum_append_singleton, running.memoryMB,
      Load.add_empty]
  · rw [List.map_append, List.map_singleton, Load.sum_append_singleton, running.diskGB,
      Load.add_empty]

theorem Running.compare (named : ∀ host ∈ planned, host.id ≠ "")
    (vmids : (snapshot.guests.map Guest.vmid).Nodup) {done : List Node} {result : Reconciliation}
    (running : Running snapshot planned pairs done result) {node : Node} {pair : Pairing}
    (decided : pairs.lookup node.name = some pair) (kept : pair.reason.skip = false)
    (known : ∀ id, pair.target = some id → ∃ host ∈ planned, host.id = id)
    {compared : Comparison}
    (comparison : compareGuests
      (((pair.target.bind (plannedByID planned)).map PlannedHost.guests).getD [])
        (snapshot.guestsOn node.name) result.counts = compared) {report : HostReport}
    (reported : hostReport reader snapshot node pair.reason.pairedBy
      (pair.target.bind (plannedByID planned)) compared = report) :
    Running snapshot planned pairs (done ++ [node])
      { hosts := result.hosts ++ [report]
        totals :=
          { vcpus := result.totals.vcpus.add report.vcpus
            memoryMB := result.totals.memoryMB.add report.memoryMB
            diskGB := result.totals.diskGB.add report.diskGB }
        counts := compared.counts } := by
  have nodeName : report.node = node.name := by rw [← reported]; rfl
  have unskipped : report.skipped = false := by rw [← reported]; rfl
  have device : report.plannedID =
      ((pair.target.bind (plannedByID planned)).map PlannedHost.id).getD "" := by
    rw [← reported]
    rfl
  have guests : report.guests = compared.rows := by rw [← reported]; rfl
  rcases compareGuests_accounts (nodup_vmid_guestsOn vmids node.name) result.counts with
    ⟨origins, account, rows, counts⟩
  rw [comparison] at rows counts
  constructor
  · rw [List.map_append, List.map_append, running.hosts, List.map_singleton, nodeName]
    rfl
  · intro host listed
    rcases List.mem_append.mp listed with before | last
    · exact running.each host before
    · rw [List.mem_singleton.mp last]
      constructor
      · rw [nodeName, unskipped, device, id_of_pair known]
        exact ⟨pair, decided, kept.symm, fun _ => rfl⟩
      · intro _
        rw [nodeName, device, plannedGuests_of_pair named, guests]
        exact ⟨origins, account, rows⟩
      · intro isSkipped
        rw [unskipped] at isSkipped
        cases isSkipped
  · rw [counts, running.counts, foldl_count, List.flatMap_append, List.flatMap_singleton, guests,
      rows]
  · rw [List.map_append, List.map_singleton, Load.sum_append_singleton, running.vcpus]
  · rw [List.map_append, List.map_singleton, Load.sum_append_singleton, running.memoryMB]
  · rw [List.map_append, List.map_singleton, Load.sum_append_singleton, running.diskGB]

theorem Running.step (reader : Reader) (named : ∀ host ∈ planned, host.id ≠ "")
    (vmids : (snapshot.guests.map Guest.vmid).Nodup) {done : List Node} {result : Reconciliation}
    (running : Running snapshot planned pairs done result) {node : Node} {pair : Pairing}
    (decided : pairs.lookup node.name = some pair)
    (known : ∀ id, pair.target = some id → ∃ host ∈ planned, host.id = id) :
    Running snapshot planned pairs (done ++ [node])
      (reconcileHost reader snapshot planned pairs result node) := by
  unfold reconcileHost
  dsimp only
  rw [decided, Option.getD_some]
  split
  · rename_i skip
    exact running.skip decided skip
  · rename_i kept
    exact running.compare named vmids decided (Bool.eq_false_iff.mpr kept) known rfl rfl

theorem Running.foldl (reader : Reader) (named : ∀ host ∈ planned, host.id ≠ "")
    (vmids : (snapshot.guests.map Guest.vmid).Nodup)
    (known : ∀ node decision id, pairs.lookup node = some decision → decision.target = some id →
      ∃ host ∈ planned, host.id = id) (nodes : List Node) :
    ∀ {done : List Node} {result : Reconciliation},
      (∀ node ∈ nodes, ∃ decision, pairs.lookup node.name = some decision) →
        Running snapshot planned pairs done result →
          Running snapshot planned pairs (done ++ nodes)
            (nodes.foldl (reconcileHost reader snapshot planned pairs) result) := by
  induction nodes with
  | nil =>
      intro done result _ running
      rw [List.append_nil]
      exact running
  | cons node rest induction =>
      intro done result decided running
      rcases decided node List.mem_cons_self with ⟨pair, found⟩
      have later := induction (fun other listed => decided other (List.mem_cons_of_mem _ listed))
        (running.step reader named vmids found fun id target => known _ _ id found target)
      rw [List.append_assoc] at later
      exact later

end

/-! ### A host with a guest that was renamed, and a host that is left out -/
def exactReader : Reader where
  cpuKey model := model
  toUpper text := text
  times left right := left * right

def homelab : Snapshot where
  nodes :=
    [{ name := "pve01", cores := 6, threads := 12, memoryMB := 31985, diskGB := 58 },
     { name := "pve02", cores := 4, threads := 4, memoryMB := 15872, diskGB := 94 }]
  guests :=
    [{ vmid := 101, name := "pihole", kind := "lxc", node := "pve01", status := "running", cpus := 1,
       memoryMB := 512, diskGB := 8 },
     { vmid := 102, name := "grafana", kind := "lxc", node := "pve01", status := "running", cpus := 2,
       memoryMB := 2048, diskGB := 16 }]

def plannedM75q : PlannedHost where
  id := "node-1"
  name := "M75q"
  cpus := 12
  ramGB := 32
  storageGB := 240
  guests :=
    [{ id := "g-pi", name := "Pi-hole", kind := "container", cpus := 1, memoryMB := 1024 },
     { id := "g-mon", name := "Monitoring", kind := "lxc", cpus := 2, memoryMB := 2048, vmid := 102 }]

def homelabChoices (node : String) : String := if node = "pve02" then choiceSkip else "node-1"

end HomelabBuilder.Proxmox
