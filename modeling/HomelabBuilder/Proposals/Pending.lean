import HomelabBuilder.Proposals.Locks

/-! # One pending proposal

A `Propose` supersedes what is pending and inserts its own proposal in two
statements. What another `Propose` commits in between is not superseded.
-/

namespace HomelabBuilder.Proposals

def World.AtMostOnePending (world : World) : Prop := world.proposals.countP (·.isPending) ≤ 1

/-- A `Propose` commits while a proposal is pending that another one committed
since it superseded the older ones. -/
def Visit.overtaken (visit : Visit) : Bool :=
  visit.action = .commit &&
    (visit.world.clients.lookup visit.client).any fun txn =>
      txn.created.isSome &&
        txn.missed.any fun id => visit.world.proposals.any fun row => row.id = id && row.isPending

def Call.isPropose : Call → Bool
  | .propose _ => true
  | _ => false

/-! ## What a `Propose` has seen -/

/-- A pending proposal is one this transaction supersedes, or one it missed. -/
structure Transaction.Watches (world : World) (txn : Transaction) : Prop where
  fresh : txn.phase = .begun → txn.updated = []
  created : txn.created.isSome = true → txn.call.isPropose = true ∧ txn.phase ≠ .begun
  settled : txn.call.isPropose = true → ∀ row ∈ txn.updated, row.isPending = false
  watched : txn.call.isPropose = true → txn.phase ≠ .begun → ∀ id, world.Pending id →
    (∃ changed ∈ txn.updated, changed.id = id) ∨ id ∈ txn.missed

section Step

variable {world : World} {client : Nat} {txn after : Transaction}

theorem Executes.watches (watches : txn.Watches world) (ran : Executes world client txn after)
    (ids : List Nat) : after.Watches { world with issued := ids ++ world.issued } := by
  -- A transaction of another kind has nothing to watch.
  have other (kind : after.call.isPropose = false) (begun : after.phase ≠ .begun)
      (kept : after.created = txn.created) (call : after.call = txn.call) :
      after.Watches { world with issued := ids ++ world.issued } := by
    refine ⟨fun early => absurd early begun, ?_, ?_, ?_⟩
    · intro inserted
      rw [kept] at inserted
      rw [call, (watches.created inserted).1] at kind
      cases kind
    · intro proposes
      rw [kind] at proposes
      cases proposes
    · intro proposes
      rw [kind] at proposes
      cases proposes
  cases ran with
  | supersede call phase free =>
      refine ⟨nofun, ?_, ?_, ?_⟩
      · intro inserted
        exact absurd phase (watches.created inserted).2
      · intro _ row member
        rw [watches.fresh phase, List.append_nil] at member
        rcases List.mem_map.mp member with ⟨old, _, rfl⟩
        rfl
      · intro _ _ id pending
        rcases pending with ⟨row, listed, rfl, waiting⟩
        refine .inl ⟨{ row with status := .superseded }, ?_, rfl⟩
        apply List.mem_append_left
        exact List.mem_map.mpr ⟨row, List.mem_filter.mpr ⟨listed, waiting⟩, rfl⟩
  | create call phase =>
      refine ⟨nofun, ?_, watches.settled, ?_⟩
      · intro _
        exact ⟨by rw [call]; rfl, nofun⟩
      · intro proposes _
        exact watches.watched proposes (by rw [phase]; exact nofun)
  | pluck phase =>
      refine ⟨nofun, ?_, watches.settled, ?_⟩
      · exact fun inserted => ⟨(watches.created inserted).1, nofun⟩
      · intro proposes _
        exact watches.watched proposes (by rw [phase]; exact nofun)
  | prune phase =>
      refine ⟨nofun, ?_, watches.settled, ?_⟩
      · exact fun inserted => ⟨(watches.created inserted).1, nofun⟩
      · intro proposes _
        exact watches.watched proposes (by rw [phase]; exact nofun)
  | lockPending call =>
      apply other _ nofun rfl rfl
      rcases call with call | call <;> simp [call, Call.isPropose]
  | lockBuild order =>
      apply other _ nofun rfl rfl
      rcases order with ⟨first, _⟩ | ⟨id, call, _⟩
      · revert first
        cases txn.call <;> simp [Call.startsWithBuild, Call.isPropose]
      · simp [call, Call.isPropose]
  | save first =>
      apply other _ nofun rfl rfl
      revert first
      cases txn.call <;> simp [Call.startsWithBuild, Call.isPropose]
  | replay call | keep call | refuse call | reject call | apply call | conflict call
  | refreshSettled call | refresh call =>
      apply other _ nofun rfl rfl
      simp [call, Call.isPropose]

theorem Transaction.Watches.commit (sound : world.Sound)
    (opened : world.clients.lookup client = some txn) {before : Transaction}
    (watches : before.Watches world) :
    (World.note txn.created before).Watches (world.commit client txn) where
  fresh := watches.fresh
  created := watches.created
  settled := watches.settled
  watched := by
    intro proposes begun id pending
    rcases sound.pending_of_commit opened pending with old | ⟨row, created, rfl⟩
    · exact (watches.watched proposes begun id old).imp_right (List.mem_append_right _)
    · apply Or.inr
      apply List.mem_append_left
      simp [created]

end Step

/-- Every open transaction knows what is pending. -/
def World.Watched (world : World) : Prop :=
  ∀ {client txn}, world.clients.lookup client = some txn → txn.Watches world

theorem Steps.watched {world result : World} {client : Nat} (step : Steps world client result)
    (sound : world.Sound) (watched : world.Watched) : result.Watched := by
  intro other before opened
  cases step with
  | start call =>
      rw [Table.lookup_set] at opened
      split at opened
      · cases opened
        exact ⟨fun _ => rfl, nofun, fun _ row member => absurd member List.not_mem_nil,
          fun _ begun => absurd rfl begun⟩
      · have facts := watched opened
        exact ⟨facts.fresh, facts.created, facts.settled, facts.watched⟩
  | run wasOpen ran =>
      rw [Table.lookup_set] at opened
      split at opened
      · cases opened
        have facts := ran.watches (watched wasOpen) (before.created.toList.map (·.id))
        exact ⟨facts.fresh, facts.created, facts.settled, facts.watched⟩
      · have facts := watched opened
        exact ⟨facts.fresh, facts.created, facts.settled, facts.watched⟩
  | commit wasOpen =>
      rcases lookup_commit opened with ⟨_, earlier, isOpen, rfl⟩
      exact (watched isOpen).commit sound wasOpen
  | rollback =>
      rw [Table.lookup_erase] at opened
      split at opened
      · cases opened
      · have facts := watched opened
        exact ⟨facts.fresh, facts.created, facts.settled, facts.watched⟩

theorem Run.watched {start final : World} {visits : List Visit} (run : Run start visits final)
    (idle : start.Idle) : final.Watched := by
  induction run with
  | nil =>
      intro client txn opened
      rw [idle.clients] at opened
      cases opened
  | step earlier stepped induction =>
      exact (World.steps stepped).watched (earlier.sound idle) induction

/-! ## At most one -/

theorem World.Sound.isPending_of_latest {world : World} {client : Nat} {txn : Transaction}
    (sound : world.Sound) (opened : world.clients.lookup client = some txn) {row : Proposal}
    (listed : row ∈ world.proposals) (waiting : (txn.latest row).isPending = true) :
    row.isPending = true := by
  unfold Transaction.latest at waiting
  cases found : txn.updated.find? (·.id = row.id) with
  | none =>
      rw [found] at waiting
      exact waiting
  | some changed =>
      have same : changed.id = row.id := by simpa using List.find?_some found
      rcases ((sound.holds opened).updated changed (List.mem_of_find?_eq_some found)).2 with
        ⟨other, otherListed, identified, pending⟩
      have equal : other = row :=
        List.inj_on_of_nodup_map sound.ids otherListed listed (identified.trans same)
      exact equal ▸ pending

theorem World.commit_proposals {world : World} {client : Nat} {txn : Transaction} :
    (world.commit client txn).proposals.countP (·.isPending) =
      (world.proposals.filter (·.id ∉ txn.deleted)).countP (fun row => (txn.latest row).isPending) +
        txn.created.toList.countP (·.isPending) := by
  simp only [World.commit, Transaction.view, List.countP_append, List.countP_map]
  rfl

theorem World.Sound.countP_commit {world : World} {client : Nat} {txn : Transaction}
    (sound : world.Sound) (opened : world.clients.lookup client = some txn)
    (nothing : txn.created = none) :
    (world.commit client txn).proposals.countP (·.isPending) ≤
      world.proposals.countP (·.isPending) := by
  rw [World.commit_proposals, nothing, Option.toList_none, List.countP_nil, Nat.add_zero]
  calc (world.proposals.filter (·.id ∉ txn.deleted)).countP (fun row => (txn.latest row).isPending)
      ≤ (world.proposals.filter (·.id ∉ txn.deleted)).countP (·.isPending) := by
        apply List.countP_mono_left
        intro row listed waiting
        exact sound.isPending_of_latest opened (List.mem_filter.mp listed).1 waiting
    _ ≤ world.proposals.countP (·.isPending) := List.Sublist.countP_le List.filter_sublist

/-- A `Propose` that is not overtaken leaves only its own proposal pending. -/
theorem World.Sound.countP_propose {world : World} {client : Nat} {txn : Transaction}
    (sound : world.Sound) (opened : world.clients.lookup client = some txn)
    (watches : txn.Watches world) {proposal : Proposal} (created : txn.created = some proposal)
    (seen : ∀ id ∈ txn.missed, ¬world.Pending id) :
    (world.commit client txn).proposals.countP (·.isPending) ≤ 1 := by
  have inserted : txn.created.isSome = true := by rw [created]; rfl
  have proposes := watches.created inserted
  have older : (world.proposals.filter (·.id ∉ txn.deleted)).countP
      (fun row => (txn.latest row).isPending) = 0 := by
    rw [List.countP_eq_zero]
    intro row listed waiting
    have member := (List.mem_filter.mp listed).1
    have pending : world.Pending row.id :=
      ⟨row, member, rfl, sound.isPending_of_latest opened member waiting⟩
    rcases watches.watched proposes.1 proposes.2 row.id pending with ⟨changed, isChanged, same⟩ | missed
    · -- The row was superseded by this very transaction.
      unfold Transaction.latest at waiting
      cases found : txn.updated.find? (·.id = row.id) with
      | none =>
          rw [List.find?_eq_none] at found
          exact found changed isChanged (by simpa using same)
      | some latest =>
          rw [found, Option.getD_some,
            watches.settled proposes.1 latest (List.mem_of_find?_eq_some found)] at waiting
          cases waiting
    · exact seen row.id missed pending
  rw [World.commit_proposals, older, Nat.zero_add, created]
  exact List.countP_le_length

theorem Visit.seen_of_not_overtaken {world : World} {client : Nat} {txn : Transaction}
    (clear : Visit.overtaken ⟨world, client, .commit⟩ = false)
    (opened : world.clients.lookup client = some txn) (inserted : txn.created.isSome = true) :
    ∀ id ∈ txn.missed, ¬world.Pending id := by
  intro id missed pending
  rcases pending with ⟨row, listed, identified, waiting⟩
  simp only [overtaken, opened, Option.any_some, inserted, decide_true, Bool.true_and,
    List.any_eq_false] at clear
  apply clear id missed
  rw [List.any_eq_true]
  exact ⟨row, listed, by simp [identified, waiting]⟩

/-- One step keeps the number of pending proposals, unless it is a commit that
has been overtaken. -/
theorem World.next_atMostOnePending {world result : World} {client : Nat} {action : World.Action}
    (stepped : world.next client action = some result) (sound : world.Sound)
    (watched : world.Watched) (clear : Visit.overtaken ⟨world, client, action⟩ = false)
    (single : world.AtMostOnePending) : result.AtMostOnePending := by
  cases action with
  | commit =>
      simp only [next, Option.bind_eq_bind, Option.bind_eq_some_iff] at stepped
      rcases stepped with ⟨txn, opened, finished⟩
      split at finished
      · cases finished
        cases created : txn.created with
        | none => exact (sound.countP_commit opened created).trans single
        | some proposal =>
            exact sound.countP_propose opened (watched opened) created
              (Visit.seen_of_not_overtaken clear opened (by rw [created]; rfl))
      · cases finished
  | start call =>
      simp only [next] at stepped
      split at stepped
      · cases stepped
        exact single
      · cases stepped
  | run statement =>
      simp only [next, Option.bind_eq_bind, Option.bind_eq_some_iff] at stepped
      rcases stepped with ⟨txn, opened, after, ran, equal⟩
      cases equal
      exact single
  | rollback =>
      cases stepped
      exact single

/-- **One pending proposal.** In every interleaving in which no `Propose` is
overtaken, at most one proposal is pending wherever the run comes by. -/
theorem at_most_one_pending {start final : World} {visits : List Visit}
    (run : Run start visits final) (idle : start.Idle) (single : start.AtMostOnePending)
    (clear : ∀ visit ∈ visits, visit.overtaken = false) :
    final.AtMostOnePending ∧ ∀ visit ∈ visits, visit.world.AtMostOnePending := by
  induction run with
  | nil => exact ⟨single, nofun⟩
  | @step visits world result client action earlier stepped induction =>
      have before := induction fun visit member => clear visit (List.mem_cons_of_mem _ member)
      have here := clear ⟨world, client, action⟩ List.mem_cons_self
      refine ⟨World.next_atMostOnePending stepped (earlier.sound idle) (earlier.watched idle) here
        before.1, ?_⟩
      intro visit member
      rcases List.mem_cons.mp member with rfl | old
      · exact before.1
      · exact before.2 visit old

/-! ## Examples -/

/-- One after the other. -/
theorem at_most_one_pending_in_turn :
    ∃ visits final, Run emptyTable visits final ∧ final.proposals.length = 2 ∧
      final.AtMostOnePending := by
  rcases exists_run_of_replay emptyTable (proposing 0 7 ++ proposing 1 8)
      (fun result => result.1.all (!·.overtaken) && result.2.proposals.length = 2)
      (by decide +kernel) with ⟨visits, final, run, checked⟩
  simp only [Bool.and_eq_true, List.all_eq_true, Bool.not_eq_true', decide_eq_true_eq] at checked
  exact ⟨visits, final, run, checked.2,
    (at_most_one_pending run emptyTable_idle (Nat.zero_le _) checked.1).1⟩

/-- The second `Propose` supersedes before the first one commits. -/
def interleaved : List (Nat × World.Action) :=
  (proposing 0 7).take 2 ++ (proposing 1 8).take 2 ++ (proposing 0 7).drop 2 ++
    (proposing 1 8).drop 2

/-- Two clients propose at the same time, and both proposals stay pending. -/
theorem two_proposals_pending :
    ∃ visits final, Run emptyTable visits final ∧ emptyTable.Idle ∧
      emptyTable.AtMostOnePending ∧ final.clients = [] ∧ ¬final.AtMostOnePending := by
  rcases exists_run_of_replay emptyTable interleaved
      (fun result =>
        result.2.clients.isEmpty && 1 < result.2.proposals.countP (·.isPending))
      (by decide +kernel) with ⟨visits, final, run, checked⟩
  simp only [Bool.and_eq_true, List.isEmpty_iff, decide_eq_true_eq] at checked
  exact ⟨visits, final, run, emptyTable_idle, Nat.zero_le _, checked.1, Nat.not_le.mpr checked.2⟩

end HomelabBuilder.Proposals
