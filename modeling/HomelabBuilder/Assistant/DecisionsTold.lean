import HomelabBuilder.Assistant.ContextNotes

/-! # Decisions are told once

When notes miss no decision, each decision on a proposal of the thread is in the first
note behind it and in no other. Why a note can miss one is said by `World.tells`.
-/

namespace HomelabBuilder.Assistant

open Reports (Complete decided open_ reports)

theorem Decision.settlement_closes (decision : Decision) (refused : Option String) (now : Int) :
    (decision.settlement refused now).resolvedAt ≤ now ∧
      (decision.settlement refused now).status ≠ .pending := by
  cases decision with
  | apply => cases refused <;> exact ⟨le_refl _, nofun⟩
  | reject reason => exact ⟨le_refl _, nofun⟩

namespace World

/-! ## Steps, one by one -/

inductive Steps (world : World) : Event → World → Prop
  | prepare {build : OpenBuild} {selected : List SelectedNode} :
      Steps world (.prepare build selected)
        { world with
          turn := some { build := build, selected := selected, since := world.last } }
  | compose {failed : Bool} {turn : Turn} : world.turn = some turn → turn.phase = .prepared →
      Steps world (.compose failed) (world.compose turn failed)
  | send {now : Int} {turn : Turn} {note : Note} : world.turn = some turn →
      turn.phase = .noted note → world.now ≤ now →
      Steps world (.send now) ((world.tick now).send turn note)
  | append {now : Int} : world.running = true → world.now ≤ now →
      Steps world (.append now) (world.tick now).append
  | finish : Steps world .finish { world with turn := none }
  | lockPending {client id : Nat} {decision : Decision} {row : Proposal} :
      world.rowFree client id = true → world.proposal id = some row → row.status = .pending →
      Steps world (.lockPending client id decision)
        (world.continueWith client (.deciding id decision))
  | settle {client id : Nat} {decision : Decision} {refused : Option String} {now : Int} :
      world.clients.lookup client = some (.deciding id decision) → world.now ≤ now →
      Steps world (.settle client refused now)
        ((world.tick now).continueWith client (.settling id (decision.settlement refused now)))
  | refresh {client id : Nat} {reason : String} {now : Int} : world.now ≤ now →
      Steps world (.refresh client id reason now)
        ((world.tick now).continueWith client (.refreshing id ⟨.conflict, reason, now⟩))
  | supersede {client : Nat} {ours : Bool} {summary : String} {now : Int} : world.now ≤ now →
      (ours = true → world.running = true) →
      (∀ row ∈ world.proposals, row.status = .pending → world.rowFree client row.id = true) →
      Steps world (.supersede client ours summary now)
        ((world.tick now).continueWith client (.proposing
          ((world.proposals.filter (·.status = .pending)).map (·.id)) now ours summary))
  | create {client id : Nat} {now since : Int} {superseded : List Nat} {ours : Bool}
        {summary : String} :
      world.clients.lookup client = some (.proposing superseded since ours summary) →
      world.now ≤ now → id ∉ world.issued →
      Steps world (.create client id now)
        ((world.tick now).create client superseded since
          { id := id, ours := ours, summary := summary, createdAt := now })
  | resolve {client id : Nat} {work : Work} {settlement : Settlement} {row : Proposal} :
      world.clients.lookup client = some work →
      work = .settling id settlement ∨
        (work = .refreshing id settlement ∧ world.rowFree client id = true ∧
          row.status = .pending) →
      world.proposal id = some row →
      Steps world (.commit client) (world.resolve client row settlement)
  | leave {client : Nat} {event : Event} : event = .commit client ∨ event = .abort client →
      Steps world event { world with clients := Table.erase world.clients client }

theorem steps_of_nextTurn {world after : World} {event : Event}
    (done : world.nextTurn event = some after) : Steps world event after := by
  cases event with
  | prepare build selected =>
      simp only [nextTurn] at done
      split at done
      · cases done
        exact .prepare
      · cases done
  | compose failed =>
      simp only [nextTurn] at done
      split at done
      · rename_i turn isTurn
        split at done
        · rename_i phase
          cases done
          exact .compose isTurn phase
        · cases done
      · cases done
  | send now =>
      simp only [nextTurn] at done
      split at done
      · rename_i turn isTurn
        split at done
        · rename_i note phase
          split at done
          · rename_i later
            cases done
            exact .send isTurn phase later
          · cases done
        · cases done
      · cases done
  | append now =>
      simp only [nextTurn] at done
      split at done
      · rename_i condition
        cases done
        exact .append condition.1 condition.2
      · cases done
  | finish =>
      cases done
      exact .finish
  | lockPending | settle | refresh | supersede | create | commit | abort => cases done

theorem steps_of_commit {world after : World} {client : Nat} {work : Work}
    (opened : world.clients.lookup client = some work) (done : world.commit client work = some after) :
    Steps world (.commit client) after := by
  cases work with
  | deciding id decision => cases done
  | proposing superseded settlement ours summary => cases done
  | settling id settlement =>
      rcases Option.map_eq_some_iff.mp done with ⟨row, found, rfl⟩
      exact .resolve opened (.inl rfl) found
  | refreshing id settlement =>
      simp only [commit] at done
      split at done
      · cases done
        exact .leave (.inl rfl)
      · rename_i row search
        rw [Option.filter_eq_some_iff] at search
        split at done
        · rename_i free
          cases done
          exact .resolve opened (.inr ⟨rfl, free, of_decide_eq_true search.2⟩) search.1
        · cases done

theorem steps_of_nextWork {world after : World} {event : Event}
    (done : world.nextWork event = some after) : Steps world event after := by
  cases event with
  | lockPending client id decision =>
      simp only [nextWork] at done
      split at done
      · rename_i condition
        rcases condition with ⟨_, free, pending⟩
        rcases (Option.any_eq_true _ _).mp pending with ⟨row, found, waiting⟩
        cases done
        exact .lockPending free found (of_decide_eq_true waiting)
      · cases done
  | settle client refused now =>
      simp only [nextWork] at done
      split at done
      · rename_i id decision opened
        split at done
        · rename_i later
          cases done
          exact .settle opened later
        · cases done
      · cases done
  | refresh client id reason now =>
      simp only [nextWork] at done
      split at done
      · rename_i condition
        cases done
        exact .refresh condition.2
      · cases done
  | supersede client ours summary now =>
      simp only [nextWork] at done
      split at done
      · rename_i condition
        rcases condition with ⟨_, later, inTurn⟩
        simp only [World.supersede] at done
        split at done
        · rename_i free
          cases done
          refine .supersede later inTurn fun row member pending => ?_
          exact List.all_eq_true.mp free row.id (List.mem_map_of_mem
            (List.mem_filter.mpr ⟨member, decide_eq_true pending⟩))
        · cases done
      · cases done
  | create client id now =>
      simp only [nextWork] at done
      split at done
      · rename_i superseded since ours summary opened
        split at done
        · rename_i condition
          cases done
          exact .create opened condition.1 condition.2
        · cases done
      · cases done
  | commit client =>
      rcases Option.bind_eq_some_iff.mp done with ⟨work, opened, committed⟩
      exact steps_of_commit opened committed
  | abort client =>
      cases done
      exact .leave (.inr rfl)
  | prepare | compose | send | append | finish => cases done

theorem steps {world after : World} {event : Event}
    (done : world.next event = some after) : Steps world event after := by
  unfold next at done
  cases turn : world.nextTurn event with
  | some middle =>
      rw [turn] at done
      cases done
      exact steps_of_nextTurn turn
  | none =>
      rw [turn] at done
      exact steps_of_nextWork done

/-! ## Rows and locks -/

structure Sound (world : World) : Prop where
  ids : (world.proposals.map (·.id)).Nodup
  issued : ∀ row ∈ world.proposals, row.id ∈ world.issued
  holds : ∀ {client work}, world.clients.lookup client = some work → ∀ id ∈ work.locks,
    ∃ row ∈ world.proposals, row.id = id ∧ row.status = .pending
  apart : ∀ {left right first second}, left ≠ right →
    world.clients.lookup left = some first → world.clients.lookup right = some second →
    ∀ id ∈ first.locks, id ∉ second.locks
  settled : ∀ told ∈ decided world.history, told.id ∈ world.issued ∧
    ∀ row ∈ world.proposals, row.id = told.id → row.status ≠ .pending
  distinct : ((decided world.history).map (·.id)).Nodup
  stamps : ∀ row ∈ world.proposals, ∀ {time}, row.resolvedAt = some time → time ≤ world.now
  works : ∀ {client work}, world.clients.lookup client = some work → ∀ {settlement},
    work.settlement = some settlement →
      settlement.resolvedAt ≤ world.now ∧ settlement.status ≠ .pending

theorem lookup_of_rowFree {world : World} {client id : Nat}
    (free : world.rowFree client id = true) {other : Nat} {work : Work} (different : other ≠ client)
    (opened : world.clients.lookup other = some work) : id ∉ work.locks := by
  have entry := List.all_eq_true.mp free _ (Table.mem_of_lookup opened)
  simpa [different] using entry

theorem mem_of_proposal {world : World} {id : Nat} {row : Proposal}
    (found : world.proposal id = some row) : row ∈ world.proposals ∧ row.id = id :=
  ⟨List.mem_of_find?_eq_some found, by simpa using List.find?_some found⟩

section Sound

variable {world : World} {client : Nat} {work : Work}

theorem Sound.tick (sound : world.Sound) {now : Int} (later : world.now ≤ now) :
    (world.tick now).Sound where
  ids := sound.ids
  issued := sound.issued
  holds := sound.holds
  apart := sound.apart
  settled := sound.settled
  distinct := sound.distinct
  stamps := fun row member _ stamped => (sound.stamps row member stamped).trans later
  works := fun opened _ writes =>
    ⟨(sound.works opened writes).1.trans later, (sound.works opened writes).2⟩

theorem Sound.continueWith (sound : world.Sound)
    (holds : ∀ id ∈ work.locks, ∃ row ∈ world.proposals, row.id = id ∧ row.status = .pending)
    (free : ∀ id ∈ work.locks, ∀ {other held}, other ≠ client →
      world.clients.lookup other = some held → id ∉ held.locks)
    (writes : ∀ {settlement}, work.settlement = some settlement →
      settlement.resolvedAt ≤ world.now ∧ settlement.status ≠ .pending) :
    (world.continueWith client work).Sound where
  ids := sound.ids
  issued := sound.issued
  holds := by
    intro other held opened
    rw [World.continueWith, Table.lookup_set] at opened
    split at opened
    · cases opened
      exact holds
    · exact sound.holds opened
  apart := by
    intro left right first second different openedFirst openedSecond id locked
    rw [World.continueWith, Table.lookup_set] at openedFirst openedSecond
    split at openedFirst
    · rename_i isClient
      cases openedFirst
      rw [if_neg fun same => different (isClient.trans same.symm)] at openedSecond
      exact free id locked (fun same => different (isClient.trans same.symm)) openedSecond
    · rename_i other
      split at openedSecond
      · cases openedSecond
        exact fun also => free id also other openedFirst locked
      · exact sound.apart different openedFirst openedSecond id locked
  settled := sound.settled
  distinct := sound.distinct
  stamps := sound.stamps
  works := by
    intro other held opened
    rw [World.continueWith, Table.lookup_set] at opened
    split at opened
    · cases opened
      exact writes
    · exact sound.works opened

theorem Sound.leave (sound : world.Sound) :
    Sound { world with clients := Table.erase world.clients client } where
  ids := sound.ids
  issued := sound.issued
  holds := fun opened => sound.holds (Table.lookup_of_lookup_erase opened)
  apart := fun different first second => sound.apart different
    (Table.lookup_of_lookup_erase first) (Table.lookup_of_lookup_erase second)
  settled := sound.settled
  distinct := sound.distinct
  stamps := sound.stamps
  works := fun opened => sound.works (Table.lookup_of_lookup_erase opened)

theorem Sound.mapRows (sound : world.Sound) {change : Proposal → Proposal}
    (sameId : ∀ row, (change row).id = row.id)
    (free : ∀ {other held}, other ≠ client → world.clients.lookup other = some held →
      ∀ row ∈ world.proposals, row.id ∈ held.locks → change row = row)
    (settles : ∀ row ∈ world.proposals, row.status ≠ .pending → (change row).status ≠ .pending)
    (stamps : ∀ row ∈ world.proposals, ∀ {time}, (change row).resolvedAt = some time →
      time ≤ world.now) :
    Sound { world with
      proposals := world.proposals.map change
      clients := Table.erase world.clients client } where
  ids := by
    rw [List.map_map, show (·.id) ∘ change = (·.id) from funext sameId]
    exact sound.ids
  issued := by
    intro row member
    rcases List.mem_map.mp member with ⟨old, listed, rfl⟩
    exact sameId old ▸ sound.issued old listed
  holds := by
    intro other held opened id locked
    rw [Table.lookup_erase] at opened
    split at opened
    · cases opened
    · rename_i different
      rcases sound.holds opened id locked with ⟨row, listed, rfl, waiting⟩
      have same := free different opened row listed locked
      exact ⟨row, List.mem_map.mpr ⟨row, listed, same⟩, rfl, waiting⟩
  apart := fun different first second => sound.apart different
    (Table.lookup_of_lookup_erase first) (Table.lookup_of_lookup_erase second)
  settled := by
    intro told member
    refine ⟨(sound.settled told member).1, fun row listed same => ?_⟩
    rcases List.mem_map.mp listed with ⟨old, oldListed, rfl⟩
    exact settles old oldListed ((sound.settled told member).2 old oldListed ((sameId old).symm.trans same))
  distinct := sound.distinct
  stamps := by
    intro row member
    rcases List.mem_map.mp member with ⟨old, listed, rfl⟩
    exact stamps old listed
  works := fun opened => sound.works (Table.lookup_of_lookup_erase opened)

theorem Sound.row_eq (sound : world.Sound) {first second : Proposal}
    (member : first ∈ world.proposals) (other : second ∈ world.proposals)
    (same : first.id = second.id) : first = second :=
  List.inj_on_of_nodup_map sound.ids member other same

theorem Sound.record (sound : world.Sound) {told : Told} (issued : told.id ∈ world.issued)
    (fresh : told.id ∉ (decided world.history).map (·.id))
    (settled : ∀ row ∈ world.proposals, row.id = told.id → row.status ≠ .pending)
    (turn : Option Turn) :
    Sound { world with turn := turn, history := .decided told :: world.history } where
  ids := sound.ids
  issued := sound.issued
  holds := sound.holds
  apart := sound.apart
  settled := by
    intro other member
    rcases List.mem_cons.mp member with rfl | before
    · exact ⟨issued, settled⟩
    · exact sound.settled other before
  distinct := List.nodup_cons.mpr ⟨fresh, sound.distinct⟩
  stamps := sound.stamps
  works := sound.works

theorem told_eq {row : Proposal} {told : Told} (tells : row.told = some told) :
    told.id = row.id ∧ row.status ≠ .pending := by
  unfold Proposal.told at tells
  split at tells
  case h_4 | h_5 => cases tells
  all_goals
    rename_i status
    cases tells
    exact ⟨rfl, by rw [status]; nofun⟩

theorem Sound.resolve (sound : world.Sound) {settlement : Settlement} {row : Proposal}
    (opened : world.clients.lookup client = some work) (writes : work.settlement = some settlement)
    (free : ∀ {other held}, other ≠ client → world.clients.lookup other = some held →
      row.id ∉ held.locks)
    (member : row ∈ world.proposals) (pending : row.status = .pending) :
    (world.resolve client row settlement).Sound := by
  have mapped : Sound { world with
      proposals := world.proposals.map fun other =>
        if other.id = row.id then other.settle settlement else other
      clients := Table.erase world.clients client } := by
    apply sound.mapRows
    · intro other
      split <;> rfl
    · intro other held different openedOther listed _ locked
      rw [if_neg]
      intro same
      exact free different openedOther (same ▸ locked)
    · intro other _ settled
      split
      · exact (sound.works opened writes).2
      · exact settled
    · intro other listed time stamped
      split at stamped
      · cases stamped
        exact (sound.works opened writes).1
      · exact sound.stamps other listed stamped
  unfold World.resolve
  by_cases ours : row.ours = true
  · rw [if_pos ours]
    cases told : (row.settle settlement).told with
    | none => exact ⟨mapped.ids, mapped.issued, mapped.holds, mapped.apart, mapped.settled,
        mapped.distinct, mapped.stamps, mapped.works⟩
    | some decision =>
        have named := told_eq told
        apply mapped.record
        · exact named.1 ▸ sound.issued row member
        · intro before
          rcases List.mem_map.mp before with ⟨other, listed, same⟩
          exact (sound.settled other listed).2 row member (same.trans named.1).symm pending
        · intro other listed same
          rcases List.mem_map.mp listed with ⟨old, _, rfl⟩
          split at same
          · rename_i here
            rw [if_pos here]
            exact named.2
          · rename_i elsewhere
            exact absurd (same.trans named.1) elsewhere
  · rw [if_neg ours]
    exact ⟨mapped.ids, mapped.issued, mapped.holds, mapped.apart, mapped.settled,
      mapped.distinct, mapped.stamps, mapped.works⟩

theorem Sound.insert (sound : world.Sound) {created : Proposal}
    (fresh : created.id ∉ world.issued) (waiting : created.resolvedAt = none) :
    Sound { world with
      proposals := world.proposals ++ [created]
      issued := created.id :: world.issued } where
  ids := by
    rw [List.map_append, List.nodup_append]
    refine ⟨sound.ids, List.nodup_singleton _, ?_⟩
    intro id member other single same
    rcases List.mem_map.mp member with ⟨row, listed, rfl⟩
    rw [List.map_singleton, List.mem_singleton] at single
    exact fresh (single ▸ same ▸ sound.issued row listed)
  issued := by
    intro row member
    rcases List.mem_append.mp member with old | single
    · exact List.mem_cons_of_mem _ (sound.issued row old)
    · rw [List.mem_singleton.mp single]
      exact List.mem_cons_self
  holds := by
    intro other held opened id locked
    rcases sound.holds opened id locked with ⟨row, listed, same, pending⟩
    exact ⟨row, List.mem_append_left _ listed, same, pending⟩
  apart := sound.apart
  settled := by
    intro told member
    refine ⟨List.mem_cons_of_mem _ (sound.settled told member).1, fun row listed same => ?_⟩
    rcases List.mem_append.mp listed with old | single
    · exact (sound.settled told member).2 row old same
    · rw [List.mem_singleton.mp single] at same
      exact absurd (same ▸ (sound.settled told member).1) fresh
  distinct := sound.distinct
  stamps := by
    intro row member time stamped
    rcases List.mem_append.mp member with old | single
    · exact sound.stamps row old stamped
    · rw [List.mem_singleton.mp single, waiting] at stamped
      cases stamped
  works := sound.works

theorem Sound.prune (sound : world.Sound) {ids : List Nat}
    (closed : ∀ row ∈ world.proposals, row.id ∈ ids → row.status ≠ .pending) :
    Sound { world with proposals := world.proposals.filter (·.id ∉ ids) } where
  ids := sound.ids.sublist (List.filter_sublist.map _)
  issued := fun row member => sound.issued row (List.mem_filter.mp member).1
  holds := by
    intro other held opened id locked
    rcases sound.holds opened id locked with ⟨row, listed, same, pending⟩
    refine ⟨row, List.mem_filter.mpr ⟨listed, decide_eq_true ?_⟩, same, pending⟩
    exact fun dropped => closed row listed dropped pending
  apart := sound.apart
  settled := fun told member => ⟨(sound.settled told member).1, fun row listed same =>
    (sound.settled told member).2 row (List.mem_filter.mp listed).1 same⟩
  distinct := sound.distinct
  stamps := fun row member => sound.stamps row (List.mem_filter.mp member).1
  works := sound.works

theorem closed_of_pruneResolved {rows : List Proposal} (distinct : (rows.map (·.id)).Nodup) :
    ∀ row ∈ rows, row.id ∈ pruneResolved rows → row.status ≠ .pending := by
  intro row member dropped
  rcases List.mem_map.mp dropped with ⟨other, taken, same⟩
  have settled := List.mem_of_mem_drop (List.mem_of_mem_take taken)
  rw [List.mem_insertionSort, List.mem_filter] at settled
  rw [← List.inj_on_of_nodup_map distinct settled.1 member same]
  exact of_decide_eq_true settled.2

theorem Sound.create (sound : world.Sound) {superseded : List Nat} {since : Int} {ours : Bool}
    {summary : String} {created : Proposal}
    (opened : world.clients.lookup client = some (.proposing superseded since ours summary))
    (fresh : created.id ∉ world.issued) (waiting : created.resolvedAt = none) :
    (world.create client superseded since created).Sound := by
  have mapped : Sound { world with
      proposals := world.proposals.map fun row =>
        if row.id ∈ superseded then row.settle (supersession since) else row
      clients := Table.erase world.clients client } := by
    apply sound.mapRows
    · intro row
      split <;> rfl
    · intro other held different openedOther row _ locked
      rw [if_neg]
      exact sound.apart different openedOther opened row.id locked
    · intro row _ settled
      split
      · exact (sound.works opened rfl).2
      · exact settled
    · intro row listed time stamped
      split at stamped
      · cases stamped
        exact (sound.works opened rfl).1
      · exact sound.stamps row listed stamped
  have inserted := mapped.insert fresh waiting
  exact inserted.prune (closed_of_pruneResolved inserted.ids)

theorem Sound.compose (sound : world.Sound) (turn : Option Turn) :
    Sound { world with turn := turn } :=
  ⟨sound.ids, sound.issued, sound.holds, sound.apart, sound.settled, sound.distinct,
    sound.stamps, sound.works⟩

end Sound

theorem Sound.free_of_locked {world : World} (sound : world.Sound) {client id : Nat} {work : Work}
    (opened : world.clients.lookup client = some work) (locked : id ∈ work.locks)
    {other : Nat} {held : Work} (different : other ≠ client)
    (openedOther : world.clients.lookup other = some held) : id ∉ held.locks :=
  sound.apart different.symm opened openedOther id locked

theorem Sound.resolves {world : World} (sound : world.Sound) {client id : Nat} {work : Work}
    {settlement : Settlement} {row : Proposal} (opened : world.clients.lookup client = some work)
    (kind : work = .settling id settlement ∨
      (work = .refreshing id settlement ∧ world.rowFree client id = true ∧ row.status = .pending))
    (found : world.proposal id = some row) :
    work.settlement = some settlement ∧
      (∀ {other held}, other ≠ client → world.clients.lookup other = some held →
        row.id ∉ held.locks) ∧ row.status = .pending := by
  rcases mem_of_proposal found with ⟨member, rfl⟩
  rcases kind with rfl | ⟨rfl, free, pending⟩
  · refine ⟨rfl, sound.free_of_locked opened List.mem_cons_self, ?_⟩
    rcases sound.holds opened row.id List.mem_cons_self with ⟨other, listed, same, pending⟩
    exact sound.row_eq listed member same ▸ pending
  · exact ⟨rfl, lookup_of_rowFree free, pending⟩

theorem Steps.sound {world after : World} {event : Event}
    (step : Steps world event after) (sound : world.Sound) : after.Sound := by
  cases step with
  | prepare | compose | finish => exact sound.compose _
  | send _ _ later =>
      have ticked := sound.tick later
      exact ⟨ticked.ids, ticked.issued, ticked.holds, ticked.apart, ticked.settled,
        ticked.distinct, ticked.stamps, ticked.works⟩
  | append _ later =>
      have ticked := sound.tick later
      exact ⟨ticked.ids, ticked.issued, ticked.holds, ticked.apart, ticked.settled,
        ticked.distinct, ticked.stamps, ticked.works⟩
  | lockPending free found pending =>
      apply sound.continueWith
      · intro id locked
        rw [List.mem_singleton.mp locked]
        exact ⟨_, (mem_of_proposal found).1, (mem_of_proposal found).2, pending⟩
      · intro id locked other held different opened
        rw [List.mem_singleton.mp locked]
        exact lookup_of_rowFree free different opened
      · nofun
  | settle opened later =>
      apply (sound.tick later).continueWith
      · exact fun id locked => sound.holds opened id locked
      · exact fun id locked => sound.free_of_locked opened locked
      · rintro _ ⟨⟩
        exact Decision.settlement_closes _ _ _
  | refresh later =>
      apply (sound.tick later).continueWith
      · nofun
      · nofun
      · rintro _ ⟨⟩
        exact ⟨le_refl _, nofun⟩
  | supersede later _ free =>
      apply (sound.tick later).continueWith
      · intro id locked
        rcases List.mem_map.mp locked with ⟨row, listed, rfl⟩
        rw [List.mem_filter] at listed
        exact ⟨row, listed.1, rfl, of_decide_eq_true listed.2⟩
      · intro id locked other held different opened
        rcases List.mem_map.mp locked with ⟨row, listed, rfl⟩
        rw [List.mem_filter] at listed
        exact lookup_of_rowFree (free row listed.1 (of_decide_eq_true listed.2)) different opened
      · rintro _ ⟨⟩
        exact ⟨le_refl _, nofun⟩
  | create opened later fresh => exact (sound.tick later).create opened fresh rfl
  | resolve opened kind found =>
      have settles := sound.resolves opened kind found
      exact sound.resolve opened settles.1 settles.2.1 (mem_of_proposal found).1 settles.2.2
  | leave => exact sound.leave

/-! ## What is left to tell -/

/-- A decision on a proposal of the thread that was stamped after the last message. -/
def untoldOf (last : Option Int) (row : Proposal) : Option Told :=
  if row.ours ∧ row.resolvedAt.any fun time => last.any (· < time) then row.told else none

def untold (world : World) : List Told := world.proposals.filterMap (untoldOf world.last)

/-- What a commit decides on a proposal of the thread, and when it was stamped. -/
def decision (world : World) : Work → Option (Told × Int)
  | .settling id settlement | .refreshing id settlement =>
      ((world.proposal id).filter fun row => row.ours ∧ row.status = .pending).bind fun row =>
        (row.settle settlement).told.map (·, settlement.resolvedAt)
  | _ => none

/-- A step after which notes still miss no decision. The query of a note works and its
limit costs no decision. No decision falls between a note and a message of its turn. A
decision is stamped after the last message. What is pruned has been told. -/
def tells (world : World) : Event → Bool
  | .compose failed =>
      match world.turn.bind (·.since) with
      | none => true
      | some since => !failed && ((world.settledAfter since).drop 10).all (·.told.isNone)
  | .send _ | .append _ => world.turn.all (·.missed.isEmpty)
  | .commit client =>
      ((world.clients.lookup client).bind world.decision).all fun decided =>
        world.last.all (· < decided.2)
  | .create client id now =>
      match world.clients.lookup client with
      | some (.proposing superseded since ours summary) =>
          let rows := world.proposed superseded since
            { id := id, ours := ours, summary := summary, createdAt := now }
          world.untold.all (·.id ∉ pruneResolved rows)
      | _ => true
  | _ => true

/-- What a turn knows of the decisions it has not told. -/
def Knows (world : World) (turn : Turn) : Prop :=
  match turn.phase with
  | .prepared => turn.since = world.last
  | .noted note => (open_ world.history).Perm (turn.missed ++ note.told)
  | .running => world.messages ≠ [] ∧ (open_ world.history).Perm turn.missed

structure Agrees (world : World) : Prop where
  begun : world.messages = [] → world.history = [] ∧ (∀ row ∈ world.proposals, row.ours = false) ∧
    ∀ {client superseded since ours summary},
      world.clients.lookup client = some (.proposing superseded since ours summary) → ours = false
  untold : (open_ world.history).Perm world.untold
  turn : ∀ turn, world.turn = some turn → world.Knows turn
  complete : Complete world.history
  notes : reports world.history = world.messages.filterMap fun message =>
    message.note.map (·.told)
  recorded : ∀ row ∈ world.proposals, row.ours = true → ∀ told, row.told = some told →
    told ∈ decided world.history

theorem told_of_pending {row : Proposal} (pending : row.status = .pending) : row.told = none := by
  unfold Proposal.told
  rw [pending]

theorem filterMap_change {rows : List Proposal} {row : Proposal} {change : Proposal → Proposal}
    {tell : Proposal → Option Told} (distinct : (rows.map (·.id)).Nodup) (member : row ∈ rows)
    (silent : tell row = none) :
    ((rows.map fun other => if other.id = row.id then change other else other).filterMap
      tell).Perm ((tell (change row)).toList ++ rows.filterMap tell) := by
  induction rows with
  | nil => cases member
  | cons head tail induction =>
      rw [List.map_cons, List.nodup_cons] at distinct
      rcases List.mem_cons.mp member with rfl | later
      · have same : (tail.map fun other => if other.id = row.id then change other else other) =
            tail := by
          conv_rhs => rw [← List.map_id tail]
          apply List.map_congr_left
          intro other listed
          exact if_neg fun equal => distinct.1 (List.mem_map.mpr ⟨other, listed, equal⟩)
        rw [List.map_cons, if_pos rfl, same, List.filterMap_cons_none silent]
        cases told : tell (change row) with
        | none => rw [List.filterMap_cons_none told]; rfl
        | some decision => rw [List.filterMap_cons_some told]; rfl
      · have different : head.id ≠ row.id := by
          intro equal
          exact distinct.1 (List.mem_map.mpr ⟨row, later, equal.symm⟩)
        rw [List.map_cons, if_neg different]
        have rest := induction distinct.2 later
        cases told : tell head with
        | none =>
            rw [List.filterMap_cons_none told, List.filterMap_cons_none told]
            exact rest
        | some decision =>
            rw [List.filterMap_cons_some told, List.filterMap_cons_some told]
            exact (rest.cons decision).trans List.perm_middle.symm

theorem Sound.untold_eq_nil {world : World} (sound : world.Sound) (last : world.last = some world.now) :
    world.untold = [] := by
  rw [untold, List.filterMap_eq_nil_iff]
  intro row member
  unfold untoldOf
  split
  · rename_i condition
    rcases (Option.any_eq_true _ _).mp condition.2 with ⟨time, stamped, later⟩
    rw [last, Option.any_some] at later
    exact absurd (sound.stamps row member stamped) (not_le.mpr (of_decide_eq_true later))
  · rfl

theorem perm_resolvedForThread {world : World} {since : Int}
    (rest : ∀ row ∈ (world.settledAfter since).drop 10, row.told = none) :
    (world.proposals.filterMap (untoldOf (some since))).Perm
      ((world.resolvedForThread since).filterMap (·.told)) := by
  have none : ((world.settledAfter since).drop 10).filterMap (·.told) = [] :=
    List.filterMap_eq_nil_iff.mpr rest
  have all : (world.resolvedForThread since).filterMap (·.told) =
      (world.settledAfter since).filterMap (·.told) := by
    conv_rhs => rw [← List.take_append_drop 10 (world.settledAfter since), List.filterMap_append,
      none, List.append_nil]
    rfl
  have sorted := (List.perm_insertionSort (fun left right : Proposal =>
    left.resolvedAt.getD 0 ≤ right.resolvedAt.getD 0) (world.proposals.filter fun row =>
      row.ours ∧ row.status ≠ .pending ∧ row.resolvedAt.any (since < ·))).filterMap (·.told)
  rw [all]
  refine List.Perm.trans (List.Perm.of_eq ?_) sorted.symm
  rw [List.filterMap_filter]
  apply List.filterMap_congr
  intro row _
  by_cases pending : row.status = .pending
  · simp [untoldOf, told_of_pending pending]
  · simp [untoldOf, pending]

section Agrees

variable {world : World}

theorem Agrees.compose (agrees : world.Agrees) {turn : Turn} {failed : Bool}
    (isTurn : world.turn = some turn) (phase : turn.phase = .prepared)
    (clear : world.tells (.compose failed) = true) : (world.compose turn failed).Agrees where
  begun := agrees.begun
  untold := agrees.untold
  turn := by
    rintro _ ⟨⟩
    have knows := agrees.turn turn isTurn
    unfold Knows at knows ⊢
    rw [phase] at knows
    dsimp only at knows ⊢
    rw [List.nil_append]
    cases since : turn.since with
    | none =>
        have empty : world.messages = [] := by
          rw [since] at knows
          unfold last at knows
          rwa [eq_comm, Option.map_eq_none_iff, List.head?_eq_none_iff] at knows
        change (open_ world.history).Perm []
        rw [(agrees.begun empty).1]
        rfl
    | some time =>
        simp only [tells, isTurn, Option.bind_some, since, Bool.and_eq_true, Bool.not_eq_true',
          List.all_eq_true, Option.isNone_iff_eq_none] at clear
        dsimp only
        rw [clear.1, if_neg Bool.false_ne_true]
        apply agrees.untold.trans
        unfold World.untold
        rw [← knows, since]
        exact perm_resolvedForThread clear.2
  complete := agrees.complete
  notes := agrees.notes
  recorded := agrees.recorded

theorem Agrees.send (agrees : world.Agrees) (sound : world.Sound) {turn : Turn} {note : Note}
    {now : Int} (isTurn : world.turn = some turn) (phase : turn.phase = .noted note)
    (later : world.now ≤ now) (clear : world.tells (.send now) = true) :
    ((world.tick now).send turn note).Agrees := by
  have knows := agrees.turn turn isTurn
  unfold Knows at knows
  rw [phase] at knows
  simp only [tells, isTurn, Option.all_some, List.isEmpty_iff] at clear
  have nothing : World.untold ((world.tick now).send turn note) = [] := by
    apply Sound.untold_eq_nil
    · have ticked := sound.tick later
      exact ⟨ticked.ids, ticked.issued, ticked.holds, ticked.apart, ticked.settled,
        ticked.distinct, ticked.stamps, ticked.works⟩
    · rfl
  refine ⟨nofun, ?_, ?_, ?_, ?_, agrees.recorded⟩
  · rw [nothing]
    rfl
  · rintro _ ⟨⟩
    refine ⟨nofun, ?_⟩
    change List.Perm [] turn.missed
    rw [clear]
  · rw [clear] at knows
    exact ⟨knows.symm, agrees.complete⟩
  · exact congrArg (note.told :: ·) agrees.notes

theorem Agrees.append (agrees : world.Agrees) (sound : world.Sound) {now : Int}
    (running : world.running = true) (later : world.now ≤ now)
    (clear : world.tells (.append now) = true) : (world.tick now).append.Agrees := by
  rcases (Option.any_eq_true _ _).mp running with ⟨turn, isTurn, inPhase⟩
  have phase : turn.phase = .running := by
    split at inPhase
    · assumption
    · cases inPhase
  have knows := agrees.turn turn isTurn
  unfold Knows at knows
  rw [phase] at knows
  simp only [tells, isTurn, Option.all_some, List.isEmpty_iff] at clear
  rw [clear] at knows
  have empty : open_ world.history = [] := List.perm_nil.mp knows.2
  have nothing : World.untold (world.tick now).append = [] := by
    apply Sound.untold_eq_nil
    · have ticked := sound.tick later
      exact ⟨ticked.ids, ticked.issued, ticked.holds, ticked.apart, ticked.settled,
        ticked.distinct, ticked.stamps, ticked.works⟩
    · rfl
  refine ⟨nofun, ?_, ?_, agrees.complete, agrees.notes, agrees.recorded⟩
  · rw [nothing]
    exact List.Perm.of_eq empty
  · intro other isOther
    cases isTurn.symm.trans isOther
    unfold Knows
    rw [phase]
    refine ⟨nofun, ?_⟩
    rw [clear]
    exact List.Perm.of_eq empty

theorem decision_eq {id : Nat} {work : Work} {settlement : Settlement} {row : Proposal} {told : Told}
    (kind : work = .settling id settlement ∨
      (work = .refreshing id settlement ∧ world.rowFree client id = true ∧ row.status = .pending))
    (found : world.proposal id = some row) (pending : row.status = .pending)
    (ours : row.ours = true) (tells : (row.settle settlement).told = some told) :
    world.decision work = some (told, settlement.resolvedAt) := by
  rcases kind with rfl | ⟨rfl, _⟩ <;> simp [decision, found, Option.filter, pending, ours, tells]

theorem Agrees.untoldOf_settle (agrees : world.Agrees) {client id : Nat} {work : Work}
    {settlement : Settlement} {row : Proposal} (opened : world.clients.lookup client = some work)
    (kind : work = .settling id settlement ∨
      (work = .refreshing id settlement ∧ world.rowFree client id = true ∧ row.status = .pending))
    (found : world.proposal id = some row) (pending : row.status = .pending)
    (clear : world.tells (.commit client) = true) :
    (untoldOf world.last (row.settle settlement)).toList =
      if row.ours then (row.settle settlement).told.toList else [] := by
  cases ours : row.ours with
  | false => simp [untoldOf, Proposal.settle, ours]
  | true =>
      cases told : (row.settle settlement).told with
      | none => simp [untoldOf, told]
      | some decided =>
          simp only [tells, opened, Option.bind_some, decision_eq kind found pending ours told,
            Option.all_some] at clear
          have begun : ∃ time, world.last = some time := by
            cases messages : world.messages with
            | nil =>
                have none := (agrees.begun messages).2.1 row (mem_of_proposal found).1
                rw [ours] at none
                cases none
            | cons message older => exact ⟨message.createdAt, by rw [last, messages]; rfl⟩
          rcases begun with ⟨time, isLast⟩
          rw [isLast, Option.all_some] at clear
          have condition : (row.settle settlement).ours = true ∧
              ((row.settle settlement).resolvedAt.any fun at_ => (some time).any (· < at_)) = true :=
            ⟨ours, by simpa [Proposal.settle] using clear⟩
          rw [untoldOf, isLast, if_pos condition, told]
          rfl

theorem Agrees.resolve (agrees : world.Agrees) (sound : world.Sound) {client id : Nat} {work : Work}
    {settlement : Settlement} {row : Proposal} (opened : world.clients.lookup client = some work)
    (kind : work = .settling id settlement ∨
      (work = .refreshing id settlement ∧ world.rowFree client id = true ∧ row.status = .pending))
    (found : world.proposal id = some row) (clear : world.tells (.commit client) = true) :
    (world.resolve client row settlement).Agrees := by
  have pending := (sound.resolves opened kind found).2.2
  have member := (mem_of_proposal found).1
  have silent : untoldOf world.last row = none := by
    unfold untoldOf
    rw [told_of_pending pending, ite_self]
  have left := @filterMap_change _ _ (·.settle settlement) _ sound.ids member silent
  rw [agrees.untoldOf_settle opened kind found pending clear] at left
  generalize isDecided : (if row.ours then (row.settle settlement).told.toList else []) = decisions
    at left
  have after : world.resolve client row settlement =
      { world with
        proposals := world.proposals.map fun other =>
          if other.id = row.id then other.settle settlement else other
        clients := Table.erase world.clients client
        turn := world.turn.map fun turn => { turn with missed := decisions ++ turn.missed }
        history := decisions.map .decided ++ world.history } := by
    rw [← isDecided]
    rfl
  rw [after]
  have opens : (open_ (decisions.map .decided ++ world.history)).Perm
      (decisions ++ world.untold) := by
    rw [Reports.open_decisions]
    exact agrees.untold.append_left decisions
  refine ⟨?_, opens.trans left.symm, ?_, Reports.complete_decisions agrees.complete, ?_, ?_⟩
  · intro empty
    rcases agrees.begun empty with ⟨none, foreign, proposing⟩
    rw [foreign row member, if_neg Bool.false_ne_true] at isDecided
    refine ⟨?_, ?_, fun opened => proposing (Table.lookup_of_lookup_erase opened)⟩
    · dsimp only
      rw [← isDecided, none]
      rfl
    · intro other listed
      rcases List.mem_map.mp listed with ⟨old, oldListed, rfl⟩
      split <;> exact foreign old oldListed
  · intro turn isTurn
    rcases Option.map_eq_some_iff.mp isTurn with ⟨before, wasTurn, rfl⟩
    have knows := agrees.turn before wasTurn
    unfold Knows at knows ⊢
    cases phase : before.phase with
    | prepared =>
        rw [phase] at knows
        exact knows
    | noted note =>
        rw [phase] at knows
        dsimp only at knows ⊢
        rw [Reports.open_decisions, List.append_assoc]
        exact knows.append_left decisions
    | running =>
        rw [phase] at knows
        dsimp only at knows ⊢
        rw [Reports.open_decisions]
        exact ⟨knows.1, knows.2.append_left decisions⟩
  · dsimp only
    rw [Reports.reports_decisions]
    exact agrees.notes
  · intro other listed ours told isTold
    dsimp only
    rw [Reports.decided_decisions]
    rcases List.mem_map.mp listed with ⟨old, oldListed, rfl⟩
    split at isTold
    · rename_i same
      rw [if_pos same] at ours
      cases sound.row_eq oldListed member same
      apply List.mem_append_left
      have here : row.ours = true := ours
      rw [← isDecided, if_pos here, isTold]
      exact List.mem_singleton_self told
    · rename_i different
      rw [if_neg different] at ours
      exact List.mem_append_right _ (agrees.recorded old oldListed ours told isTold)

theorem id_of_untoldOf {last : Option Int} {row : Proposal} {told : Told}
    (tells : untoldOf last row = some told) : told.id = row.id := by
  unfold untoldOf at tells
  split at tells
  · exact (told_eq tells).1
  · cases tells

@[simp]
theorem told_superseded (row : Proposal) (since : Int) :
    (row.settle (supersession since)).told = none := rfl

theorem Sound.told_proposed (sound : world.Sound) {client : Nat} {since : Int}
    {superseded : List Nat} {ours : Bool} {summary : String}
    (opened : world.clients.lookup client = some (.proposing superseded since ours summary))
    {row : Proposal} (member : row ∈ world.proposals) (changed : row.id ∈ superseded) :
    row.told = none := by
  rcases sound.holds opened row.id changed with ⟨other, listed, same, pending⟩
  exact told_of_pending (sound.row_eq listed member same ▸ pending)

theorem Sound.untold_proposed (sound : world.Sound) {client : Nat} {since : Int}
    {superseded : List Nat} {ours : Bool} {summary : String} {created : Proposal}
    (opened : world.clients.lookup client = some (.proposing superseded since ours summary))
    (waiting : created.status = .pending) :
    (world.proposed superseded since created).filterMap (untoldOf world.last) = world.untold := by
  have silent : untoldOf world.last created = none := by
    rw [untoldOf, told_of_pending waiting, ite_self]
  rw [proposed, List.filterMap_append, List.filterMap_cons_none silent, List.filterMap_nil,
    List.append_nil, List.filterMap_map]
  apply List.filterMap_congr
  intro row member
  rw [Function.comp_apply]
  split
  · rename_i changed
    rw [untoldOf, untoldOf, told_superseded, sound.told_proposed opened member changed, ite_self,
      ite_self]
  · rfl

theorem filterMap_pruned {rows : List Proposal} {last : Option Int} {stale : List Nat}
    (kept : ∀ told ∈ rows.filterMap (untoldOf last), told.id ∉ stale) :
    (rows.filter (·.id ∉ stale)).filterMap (untoldOf last) = rows.filterMap (untoldOf last) := by
  rw [List.filterMap_filter]
  apply List.filterMap_congr
  intro row member
  cases tells : untoldOf last row with
  | none => rw [ite_self]
  | some told =>
      have listed := kept told (List.mem_filterMap.mpr ⟨row, member, tells⟩)
      rw [id_of_untoldOf tells] at listed
      rw [if_pos (decide_eq_true listed)]

theorem Agrees.create (agrees : world.Agrees) (sound : world.Sound) {client id : Nat}
    {now since : Int} {superseded : List Nat} {ours : Bool} {summary : String}
    (opened : world.clients.lookup client = some (.proposing superseded since ours summary))
    (clear : world.tells (.create client id now) = true) :
    ((world.tick now).create client superseded since
      { id := id, ours := ours, summary := summary, createdAt := now }).Agrees := by
  simp only [tells, opened, List.all_eq_true, decide_eq_true_eq] at clear
  generalize isCreated : ({ id := id, ours := ours, summary := summary, createdAt := now } :
    Proposal) = created at clear ⊢
  have waiting : created.status = .pending := by rw [← isCreated]
  have same := sound.untold_proposed opened waiting
  have nothing : World.untold ((world.tick now).create client superseded since created) =
      world.untold := by
    have kept : ∀ told ∈ (world.proposed superseded since created).filterMap
        (untoldOf world.last), told.id ∉ pruneResolved (world.proposed superseded since created) := by
      rw [same]
      exact clear
    exact (filterMap_pruned kept).trans same
  refine ⟨?_, ?_, agrees.turn, agrees.complete, agrees.notes, ?_⟩
  · intro empty
    rcases agrees.begun empty with ⟨none, foreign, proposing⟩
    refine ⟨none, ?_, fun opened => proposing (Table.lookup_of_lookup_erase opened)⟩
    intro row listed
    rcases List.mem_append.mp (List.mem_filter.mp listed).1 with changed | single
    · rcases List.mem_map.mp changed with ⟨old, oldListed, rfl⟩
      split <;> exact foreign old oldListed
    · rw [List.mem_singleton.mp single, ← isCreated]
      exact proposing opened
  · rw [nothing]
    exact agrees.untold
  · intro row listed ours told isTold
    rcases List.mem_append.mp (List.mem_filter.mp listed).1 with changed | single
    · rcases List.mem_map.mp changed with ⟨old, oldListed, rfl⟩
      split at isTold
      · cases isTold
      · rename_i unchanged
        rw [if_neg unchanged] at ours
        exact agrees.recorded old oldListed ours told isTold
    · rw [List.mem_singleton.mp single, told_of_pending waiting] at isTold
      cases isTold

theorem Agrees.continueWith (agrees : world.Agrees) {client : Nat} {work : Work} {now : Int}
    (proposing : ∀ {superseded since ours summary}, work = .proposing superseded since ours summary →
      world.messages = [] → ours = false) :
    ((world.tick now).continueWith client work).Agrees where
  begun := by
    intro empty
    rcases agrees.begun empty with ⟨none, foreign, before⟩
    refine ⟨none, foreign, fun opened => ?_⟩
    rw [World.continueWith, Table.lookup_set] at opened
    split at opened
    · exact proposing (Option.some.inj opened) empty
    · exact before opened
  untold := agrees.untold
  turn := agrees.turn
  complete := agrees.complete
  notes := agrees.notes
  recorded := agrees.recorded

theorem Agrees.leave (agrees : world.Agrees) {client : Nat} :
    Agrees { world with clients := Table.erase world.clients client } where
  begun := fun empty => ⟨(agrees.begun empty).1, (agrees.begun empty).2.1,
    fun opened => (agrees.begun empty).2.2 (Table.lookup_of_lookup_erase opened)⟩
  untold := agrees.untold
  turn := agrees.turn
  complete := agrees.complete
  notes := agrees.notes
  recorded := agrees.recorded

theorem Agrees.begins (agrees : world.Agrees) {turn : Option Turn}
    (knows : ∀ begun, turn = some begun → world.Knows begun) :
    Agrees { world with turn := turn } :=
  ⟨agrees.begun, agrees.untold, knows, agrees.complete, agrees.notes, agrees.recorded⟩

theorem Agrees.begun_of_running (agrees : world.Agrees) (running : world.running = true) :
    world.messages ≠ [] := by
  rcases (Option.any_eq_true _ _).mp running with ⟨turn, isTurn, inPhase⟩
  have knows := agrees.turn turn isTurn
  unfold Knows at knows
  split at inPhase
  · rename_i phase
    rw [phase] at knows
    exact knows.1
  · cases inPhase

end Agrees

theorem Steps.agrees {world after : World} {event : Event} (step : Steps world event after)
    (sound : world.Sound) (agrees : world.Agrees) (clear : world.tells event = true) :
    after.Agrees := by
  cases step with
  | prepare =>
      apply agrees.begins
      rintro _ ⟨⟩
      exact rfl
  | finish => exact agrees.begins nofun
  | compose isTurn phase => exact agrees.compose isTurn phase clear
  | send isTurn phase later => exact agrees.send sound isTurn phase later clear
  | append running later => exact agrees.append sound running later clear
  | lockPending => exact @Agrees.continueWith world agrees _ _ world.now nofun
  | settle | refresh => exact agrees.continueWith nofun
  | supersede _ inTurn =>
      apply agrees.continueWith
      rintro _ _ ours _ same empty
      injection same with _ _ sameOurs
      cases isOurs : ours with
      | false => rfl
      | true =>
          exact absurd empty (agrees.begun_of_running (inTurn (sameOurs.trans isOurs)))
  | create opened => exact agrees.create sound opened clear
  | resolve opened kind found => exact agrees.resolve sound opened kind found clear
  | leave => exact agrees.leave

/-! ## Runs -/

/-- The thread is new. Its build may have proposals of others. -/
structure Fresh (world : World) : Prop where
  ids : (world.proposals.map (·.id)).Nodup
  issued : ∀ row ∈ world.proposals, row.id ∈ world.issued
  foreign : ∀ row ∈ world.proposals, row.ours = false
  stamps : ∀ row ∈ world.proposals, ∀ {time}, row.resolvedAt = some time → time ≤ world.now
  clients : world.clients = []
  messages : world.messages = []
  turn : world.turn = none
  history : world.history = []

theorem Fresh.sound {world : World} (fresh : world.Fresh) : world.Sound where
  ids := fresh.ids
  issued := fresh.issued
  holds := by
    intro client work opened
    rw [fresh.clients] at opened
    cases opened
  apart := by
    intro left right first second _ opened
    rw [fresh.clients] at opened
    cases opened
  settled := by
    rw [fresh.history]
    nofun
  distinct := by
    rw [fresh.history]
    exact List.nodup_nil
  stamps := fresh.stamps
  works := by
    intro client work opened
    rw [fresh.clients] at opened
    cases opened

theorem Fresh.agrees {world : World} (fresh : world.Fresh) : world.Agrees where
  begun := by
    intro _
    refine ⟨fresh.history, fresh.foreign, fun opened => ?_⟩
    rw [fresh.clients] at opened
    cases opened
  untold := by
    have none : world.untold = [] := by
      rw [World.untold, List.filterMap_eq_nil_iff]
      intro row member
      rw [untoldOf, if_neg]
      rw [fresh.foreign row member]
      exact fun condition => Bool.false_ne_true condition.1
    rw [fresh.history, none]
    rfl
  turn := by
    rw [fresh.turn]
    nofun
  complete := by
    rw [fresh.history]
    exact True.intro
  notes := by
    rw [fresh.history, fresh.messages]
    rfl
  recorded := by
    intro row member ours
    rw [fresh.foreign row member] at ours
    cases ours

/-- The notes of the thread, the last one first. -/
def notes (world : World) : List (List Told) :=
  world.messages.filterMap fun message => message.note.map (·.told)

/-- **Told once.** In every run whose notes miss no decision, each decision on a proposal
of the thread is in the first note behind it, once, with its outcome, and in no other. -/
theorem decisions_told_once {start world : World} (fresh : start.Fresh)
    (run : Runs.Reaches World.next (fun world event => world.tells event = true) start world) :
    reports world.history = world.notes ∧
      (∀ row ∈ world.proposals, row.ours = true → ∀ told, row.told = some told →
        told ∈ decided world.history) ∧
      ∀ later told earlier, world.history = later ++ .decided told :: earlier →
        Reports.ToldOnce (·.id) later told ∧
          ∀ note ∈ reports earlier, ∀ other ∈ note, other.id ≠ told.id := by
  have invariant : world.Sound ∧ world.Agrees := by
    apply @Runs.Reaches.invariant _ _ _ _ _ _ (fun state : World => state.Sound ∧ state.Agrees)
      ⟨fresh.sound, fresh.agrees⟩ _ run
    intro state event after holds clear done
    have step := World.steps done
    exact ⟨step.sound holds.1, step.agrees holds.1 holds.2 clear⟩
  rcases invariant with ⟨sound, agrees⟩
  refine ⟨agrees.notes, agrees.recorded, ?_⟩
  intro later told earlier split
  have complete := agrees.complete
  have distinct := sound.distinct
  rw [split] at complete distinct
  exact ⟨Reports.told_once complete distinct, Reports.untold_before complete distinct⟩

/-! ## Runs of a new thread -/

def newThread : World := { now := 0, proposals := [], issued := [] }

theorem newThread_fresh : newThread.Fresh :=
  ⟨List.nodup_nil, nofun, nofun, nofun, rfl, rfl, rfl, rfl⟩

def rack : OpenBuild :=
  { name := "Rack", id := "b", revision := 1, nodes := 2, kind := "homelab" }

/-- A turn that proposes, up to its tool results. -/
def proposingTurn : List Event :=
  [.prepare rack [], .compose false, .send 1, .append 2, .supersede 0 true "Add a NAS" 3,
    .create 0 7 4, .append 5]

def applying : List Event := [.lockPending 1 7 .apply, .settle 1 none 8, .commit 1]

def followingTurn : List Event := [.finish, .prepare rack [], .compose false, .send 20]

/-- Applied after the turn, and told in the next one. -/
theorem decisions_told_once_after_turn :
    ∃ world, newThread.Fresh ∧
      Runs.Reaches World.next (fun world event => world.tells event = true) newThread world ∧
      world.notes = [[⟨7, "Add a NAS", .applied⟩], []] ∧
      Reports.ToldOnce (·.id) [.report [⟨7, "Add a NAS", .applied⟩]]
        (⟨7, "Add a NAS", .applied⟩ : Told) := by
  have done : ((Runs.follow World.next tells newThread
      (proposingTurn ++ [.append 6] ++ [.finish] ++ applying ++ followingTurn)).any fun world =>
        world.notes = [[⟨7, "Add a NAS", .applied⟩], []] ∧
        world.history = [.report [⟨7, "Add a NAS", .applied⟩], .decided ⟨7, "Add a NAS", .applied⟩,
          .report []]) = true := by decide
  rcases (Option.any_eq_true _ _).mp done with ⟨world, reached, holds⟩
  rcases of_decide_eq_true holds with ⟨notes, history⟩
  have run := Runs.reaches_of_follow .nil reached
  have told := decisions_told_once newThread_fresh run
  exact ⟨world, newThread_fresh, run, notes, (told.2.2 [_] _ [_] history).1⟩

/-- The owner applies a proposal before the last reply of its turn is stored, and no note
says so. -/
theorem decision_in_turn_untold :
    ∃ world, newThread.Fresh ∧ Runs.Reaches World.next (fun _ _ => True) newThread world ∧
      (decided world.history).length ≤ 10 ∧
      ¬∀ later told earlier, world.history = later ++ .decided told :: earlier →
        Reports.ToldOnce (·.id) later told := by
  have done : ((Runs.follow World.next (fun _ _ => true) newThread
      (proposingTurn ++ applying ++ [.append 9] ++ followingTurn)).any fun world =>
        world.history = [.report [], .decided ⟨7, "Add a NAS", .applied⟩, .report []]) = true := by
    decide
  rcases (Option.any_eq_true _ _).mp done with ⟨world, reached, holds⟩
  have history := of_decide_eq_true holds
  have run := Runs.reaches_of_follow .nil reached
  refine ⟨world, newThread_fresh, run.mono fun _ _ _ => trivial, ?_, fun told => ?_⟩
  · rw [history]
    decide
  · have once := told [_] _ [_] history
    exact absurd once.1 (by decide)

end World

end HomelabBuilder.Assistant
