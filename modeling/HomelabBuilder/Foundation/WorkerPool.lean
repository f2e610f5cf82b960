import Mathlib.Data.List.Basic
import Mathlib.Data.List.Induction
import Mathlib.Logic.Relation
import Mathlib.Tactic.Common

/-! # Workers in slots

Jobs are begun in order, a few at a time, each on a cell of its own. A worker may report
notes to a list they all share, which takes each note once; when it ends, its cell has
changed. In which order the workers go on is open.
-/

namespace HomelabBuilder.WorkerPool

variable {β ν : Type*}

/-- What a worker reports about its cell and what it makes of it. -/
structure Job (β ν : Type*) where
  reports : β → List ν
  effect : β → β

structure State (β ν : Type*) where
  waiting : List Nat
  /-- The cell of each worker and what it has still to report. -/
  running : List (Nat × List ν)
  cells : List β
  notes : List ν

def addNote [DecidableEq ν] (notes : List ν) (note : ν) : List ν :=
  if note ∈ notes then notes else notes ++ [note]

def Job.reportsAt (job : Job β ν) (cells : List β) (index : Nat) : List ν :=
  cells[index]?.toList.flatMap job.reports

theorem Job.mem_reportsAt {job : Job β ν} {cells : List β} {index : Nat} {note : ν} :
    note ∈ job.reportsAt cells index ↔ ∃ cell, cells[index]? = some cell ∧ note ∈ job.reports cell := by
  unfold Job.reportsAt
  cases cells[index]? <;> simp

/-- The cells that meet a condition, as jobs. -/
def indexesOf (meets : β → Bool) (cells : List β) : List Nat :=
  (List.range cells.length).filter fun index => cells[index]?.any meets

theorem map_indexesOf (meets : β → Bool) (cells : List β) :
    (indexesOf meets cells).map (fun index => cells[index]?) = (cells.filter meets).map some := by
  induction cells using List.reverseRecOn with
  | nil => rfl
  | append_singleton cells cell induction =>
      have before : ∀ index ∈ List.range cells.length, (cells ++ [cell])[index]? = cells[index]? :=
        fun index member => List.getElem?_append_left (List.mem_range.mp member)
      unfold indexesOf at induction ⊢
      rw [List.length_append, List.length_singleton, List.range_succ, List.filter_append,
        List.filter_append, List.map_append, List.map_append, ← induction]
      congr 1
      · rw [List.filter_congr fun index member => by rw [before index member]]
        exact List.map_congr_left fun index member => before index (List.mem_of_mem_filter member)
      · cases holds : meets cell <;> simp [holds]

theorem nodup_indexesOf (meets : β → Bool) (cells : List β) : (indexesOf meets cells).Nodup :=
  List.nodup_range.filter _

theorem length_indexesOf (meets : β → Bool) (cells : List β) :
    (indexesOf meets cells).length = (cells.filter meets).length := by
  have same := congrArg List.length (map_indexesOf meets cells)
  rwa [List.length_map, List.length_map] at same

theorem mem_indexesOf (meets : β → Bool) {cells : List β} {index : Nat} {cell : β}
    (at_ : cells[index]? = some cell) : index ∈ indexesOf meets cells ↔ meets cell = true := by
  unfold indexesOf
  rw [List.mem_filter, at_, List.mem_range]
  have bound := (List.getElem?_eq_some_iff.mp at_).1
  simp [bound]

inductive Step [DecidableEq ν] (slots : Nat) (job : Job β ν) : State β ν → State β ν → Prop
  | start {index waiting running cells notes} : running.length < slots →
      Step slots job ⟨index :: waiting, running, cells, notes⟩
        ⟨waiting, running ++ [(index, job.reportsAt cells index)], cells, notes⟩
  | report {waiting index note pending cells notes} (before after : List (Nat × List ν)) :
      Step slots job ⟨waiting, before ++ (index, note :: pending) :: after, cells, notes⟩
        ⟨waiting, before ++ (index, pending) :: after, cells, addNote notes note⟩
  | finish {waiting index cells notes} (before after : List (Nat × List ν)) :
      Step slots job ⟨waiting, before ++ (index, []) :: after, cells, notes⟩
        ⟨waiting, before ++ after, cells.modify index job.effect, notes⟩

abbrev Run [DecidableEq ν] (slots : Nat) (job : Job β ν) : State β ν → State β ν → Prop :=
  Relation.ReflTransGen (Step slots job)

/-- All jobs are done, with these cells and notes at the end. -/
def Finishes [DecidableEq ν] (slots : Nat) (job : Job β ν) (jobs : List Nat) (cells : List β) (notes : List ν)
    (cells' : List β) (notes' : List ν) : Prop :=
  Run slots job ⟨jobs, [], cells, notes⟩ ⟨[], [], cells', notes'⟩

/-! ## Notes -/

/-- Notes behind those there were already: what is reported and new, each once. -/
def Collected (notes : List ν) (reported : ν → Prop) (notes' : List ν) : Prop :=
  ∃ extra, notes' = notes ++ extra ∧ extra.Nodup ∧
    ∀ note, note ∈ extra ↔ reported note ∧ note ∉ notes

theorem mem_addNote [DecidableEq ν] {notes : List ν} {note other : ν} :
    other ∈ addNote notes note ↔ other ∈ notes ∨ other = note := by
  unfold addNote
  split
  next known =>
    constructor
    · exact .inl
    · rintro (member | rfl)
      exacts [member, known]
  next => simp

theorem Collected.eq {notes left right : List ν} {reported : ν → Prop}
    (collected : Collected notes reported left) (other : Collected notes reported right)
    (one : ∀ note note', reported note → reported note' → note = note') : left = right := by
  rcases collected with ⟨extra, rfl, nodup, mem⟩
  rcases other with ⟨extra', rfl, nodup', mem'⟩
  have same : extra.Perm extra' :=
    (List.perm_ext_iff_of_nodup nodup nodup').mpr fun note => (mem note).trans (mem' note).symm
  congr 1
  cases extra with
  | nil => exact (List.nil_perm.mp same).symm
  | cons head tail =>
      have alone : tail = [] := by
        refine List.eq_nil_iff_forall_not_mem.mpr fun note member => ?_
        have first := ((mem head).mp List.mem_cons_self).1
        have second := ((mem note).mp (List.mem_cons_of_mem _ member)).1
        exact (List.nodup_cons.mp nodup).1 (one _ _ first second ▸ member)
      rw [alone] at same ⊢
      exact (List.singleton_perm.mp same)

/-! ## What holds while workers run -/

/-- The workers of `done` have ended: their cells are changed and their notes told. -/
structure Progress (job : Job β ν) (jobs : List Nat) (cells : List β) (notes : List ν)
    (done : List Nat) (state : State β ν) : Prop where
  arranged : (done ++ (state.running.map Prod.fst ++ state.waiting)).Perm jobs
  cells_eq : ∀ index, state.cells[index]? =
    cells[index]?.map fun cell => if index ∈ done then job.effect cell else cell
  owed : ∀ worker ∈ state.running, ∀ note ∈ job.reportsAt cells worker.1,
    note ∈ state.notes ∨ note ∈ worker.2
  own : ∀ worker ∈ state.running, ∀ note ∈ worker.2, note ∈ job.reportsAt cells worker.1
  told : ∀ index ∈ done, ∀ note ∈ job.reportsAt cells index, note ∈ state.notes
  collected : ∃ extra, state.notes = notes ++ extra ∧ extra.Nodup ∧
    ∀ note ∈ extra, note ∉ notes ∧ ∃ index ∈ jobs, note ∈ job.reportsAt cells index

section

variable {slots : Nat} {job : Job β ν} {jobs done : List Nat} {cells : List β} {notes : List ν}
  {state after : State β ν}

theorem Progress.begin (job : Job β ν) (jobs : List Nat) (cells : List β) (notes : List ν) :
    Progress job jobs cells notes [] ⟨jobs, [], cells, notes⟩ where
  arranged := .refl _
  cells_eq index := by simp
  owed _ member := absurd member List.not_mem_nil
  own _ member := absurd member List.not_mem_nil
  told _ member := absurd member List.not_mem_nil
  collected := ⟨[], (List.append_nil _).symm, List.nodup_nil, fun _ member =>
    absurd member List.not_mem_nil⟩

theorem Progress.start {index : Nat} {waiting : List Nat} {running : List (Nat × List ν)}
    {cells' : List β} {notes' : List ν} (distinct : jobs.Nodup)
    (progress : Progress job jobs cells notes done ⟨index :: waiting, running, cells', notes'⟩) :
    Progress job jobs cells notes done
      ⟨waiting, running ++ [(index, job.reportsAt cells' index)], cells', notes'⟩ := by
  have fresh : index ∉ done := by
    intro member
    have apart := List.nodup_append.mp (progress.arranged.nodup_iff.mpr distinct)
    exact apart.2.2 index member index
      (List.mem_append_right _ List.mem_cons_self) rfl
  have own : job.reportsAt cells' index = job.reportsAt cells index := by
    unfold Job.reportsAt
    have same := progress.cells_eq index
    dsimp only at same
    rw [same]
    simp [fresh]
  constructor
  · have arranged := progress.arranged
    dsimp only at arranged ⊢
    rw [List.map_append, List.append_assoc]
    exact arranged
  · exact progress.cells_eq
  · intro worker member note
    rcases List.mem_append.mp member with before | last
    · exact progress.owed worker before note
    · rw [List.mem_singleton.mp last, own]
      exact .inr
  · intro worker member note
    rcases List.mem_append.mp member with before | last
    · exact progress.own worker before note
    · rw [List.mem_singleton.mp last, own]
      exact id
  · exact progress.told
  · exact progress.collected

theorem Progress.report [DecidableEq ν] {waiting : List Nat} {before rest : List (Nat × List ν)} {index : Nat}
    {note : ν} {pending : List ν} {cells' : List β} {notes' : List ν}
    (progress : Progress job jobs cells notes done
      ⟨waiting, before ++ (index, note :: pending) :: rest, cells', notes'⟩) :
    Progress job jobs cells notes done
      ⟨waiting, before ++ (index, pending) :: rest, cells', addNote notes' note⟩ := by
  have others : ∀ worker ∈ before ++ (index, pending) :: rest,
      worker ∈ before ++ (index, note :: pending) :: rest ∨ worker = (index, pending) := by
    intro worker member
    rcases List.mem_append.mp member with earlier | later
    · exact .inl (List.mem_append_left _ earlier)
    · rcases List.mem_cons.mp later with it | behind
      · exact .inr it
      · exact .inl (List.mem_append_right _ (List.mem_cons_of_mem _ behind))
  have it : (index, note :: pending) ∈ before ++ (index, note :: pending) :: rest :=
    List.mem_append_right _ List.mem_cons_self
  constructor
  · have arranged := progress.arranged
    simp only [List.map_append, List.map_cons] at arranged ⊢
    exact arranged
  · exact progress.cells_eq
  · intro worker member other reported
    rcases others worker member with running | rfl
    · rcases progress.owed worker running other reported with told | owed
      · exact .inl (mem_addNote.mpr (.inl told))
      · exact .inr owed
    · rcases progress.owed _ it other reported with told | owed
      · exact .inl (mem_addNote.mpr (.inl told))
      · rcases List.mem_cons.mp owed with rfl | later
        · exact .inl (mem_addNote.mpr (.inr rfl))
        · exact .inr later
  · intro worker member other
    rcases others worker member with running | rfl
    · exact progress.own worker running other
    · exact fun later => progress.own _ it other (List.mem_cons_of_mem _ later)
  · intro index' ended other reported
    exact mem_addNote.mpr (.inl (progress.told index' ended other reported))
  · rcases progress.collected with ⟨extra, same, nodup, each⟩
    dsimp only at same ⊢
    unfold addNote
    split
    · exact ⟨extra, same, nodup, each⟩
    · next new =>
      have known : index ∈ jobs := by
        refine progress.arranged.mem_iff.mp (List.mem_append_right _ (List.mem_append_left _ ?_))
        exact List.mem_map_of_mem (f := Prod.fst) it
      rw [same, List.mem_append, not_or] at new
      refine ⟨extra ++ [note], by rw [same, List.append_assoc], ?_, ?_⟩
      · exact List.nodup_append.mpr ⟨nodup, List.pairwise_singleton _ _,
          fun other member other' last equal =>
            new.2 (List.mem_singleton.mp last ▸ equal ▸ member)⟩
      · intro other member
        rcases List.mem_append.mp member with earlier | last
        · exact each other earlier
        · rw [List.mem_singleton.mp last]
          exact ⟨new.1, index, known, progress.own _ it note List.mem_cons_self⟩

theorem Progress.finish {waiting : List Nat} {before rest : List (Nat × List ν)} {index : Nat}
    {cells' : List β} {notes' : List ν} (distinct : jobs.Nodup)
    (progress : Progress job jobs cells notes done
      ⟨waiting, before ++ (index, []) :: rest, cells', notes'⟩) :
    Progress job jobs cells notes (index :: done)
      ⟨waiting, before ++ rest, cells'.modify index job.effect, notes'⟩ := by
  have it : (index, ([] : List ν)) ∈ before ++ (index, []) :: rest :=
    List.mem_append_right _ List.mem_cons_self
  have fresh : index ∉ done := by
    intro member
    have apart := List.nodup_append.mp (progress.arranged.nodup_iff.mpr distinct)
    exact apart.2.2 index member index
      (List.mem_append_left _ (List.mem_map_of_mem (f := Prod.fst) it)) rfl
  have others : ∀ worker ∈ before ++ rest, worker ∈ before ++ (index, []) :: rest := by
    intro worker member
    rcases List.mem_append.mp member with earlier | later
    · exact List.mem_append_left _ earlier
    · exact List.mem_append_right _ (List.mem_cons_of_mem _ later)
  constructor
  · have arranged := progress.arranged
    simp only [List.map_append, List.map_cons, List.append_assoc, List.cons_append] at arranged ⊢
    refine List.Perm.trans ?_ arranged
    exact List.perm_middle.symm.trans ((List.perm_middle.symm.append_left done).trans (by simp))
  · intro other
    have same := progress.cells_eq other
    dsimp only at same ⊢
    rw [List.getElem?_modify, same]
    by_cases equal : index = other
    · subst equal
      simp [fresh]
    · have apart : other ≠ index := Ne.symm equal
      simp [equal, apart]
  · exact fun worker member => progress.owed worker (others worker member)
  · exact fun worker member => progress.own worker (others worker member)
  · intro other ended note reported
    rcases List.mem_cons.mp ended with rfl | earlier
    · exact (progress.owed _ it note reported).resolve_right List.not_mem_nil
    · exact progress.told other earlier note reported
  · exact progress.collected

theorem Progress.step [DecidableEq ν] (distinct : jobs.Nodup) (progress : Progress job jobs cells notes done state)
    (step : Step slots job state after) : ∃ done, Progress job jobs cells notes done after := by
  cases step with
  | start => exact ⟨done, progress.start distinct⟩
  | report => exact ⟨done, progress.report⟩
  | finish => exact ⟨_, progress.finish distinct⟩

theorem Progress.run [DecidableEq ν] (distinct : jobs.Nodup)
    (run : Run slots job ⟨jobs, [], cells, notes⟩ state) :
    ∃ done, Progress job jobs cells notes done state := by
  induction run with
  | refl => exact ⟨[], .begin job jobs cells notes⟩
  | tail _ step induction =>
      rcases induction with ⟨done, progress⟩
      exact progress.step distinct step

/-- However the workers are scheduled: every cell with a job is changed, and the notes are
those the jobs report. -/
theorem Finishes.result [DecidableEq ν] (distinct : jobs.Nodup) {cells' : List β} {notes' : List ν}
    (finishes : Finishes slots job jobs cells notes cells' notes') :
    (∀ index, cells'[index]? =
      cells[index]?.map fun cell => if index ∈ jobs then job.effect cell else cell) ∧
    Collected notes (fun note => ∃ index ∈ jobs, note ∈ job.reportsAt cells index) notes' := by
  rcases Progress.run distinct finishes with ⟨done, progress⟩
  have all : done.Perm jobs := by simpa using progress.arranged
  constructor
  · intro index
    have same := progress.cells_eq index
    simp only [all.mem_iff] at same
    exact same
  · rcases progress.collected with ⟨extra, same, nodup, each⟩
    refine ⟨extra, same, nodup, fun note => ⟨fun member => (each note member).symm, ?_⟩⟩
    rintro ⟨⟨index, listed, reported⟩, new⟩
    have told := progress.told index (all.mem_iff.mpr listed) note reported
    dsimp only at same told
    rw [same, List.mem_append] at told
    exact told.resolve_left new

/-! ## One worker after the other -/

theorem run_report [DecidableEq ν] (slots : Nat) (job : Job β ν) (waiting : List Nat)
    (index : Nat) (cells : List β) (pending notes : List ν) :
    Run slots job ⟨waiting, [(index, pending)], cells, notes⟩
      ⟨waiting, [(index, [])], cells, pending.foldl addNote notes⟩ := by
  induction pending generalizing notes with
  | nil => exact .refl
  | cons note pending induction =>
      have step : Step slots job ⟨waiting, [(index, note :: pending)], cells, notes⟩
          ⟨waiting, [(index, pending)], cells, addNote notes note⟩ :=
        .report [] []
      exact (Relation.ReflTransGen.single step).trans (induction _)

theorem exists_finishes [DecidableEq ν] (some : 0 < slots) (job : Job β ν) (jobs : List Nat)
    (cells : List β) (notes : List ν) :
    ∃ cells' notes', Finishes slots job jobs cells notes cells' notes' := by
  induction jobs generalizing cells notes with
  | nil => exact ⟨cells, notes, .refl⟩
  | cons index rest induction =>
      rcases induction (cells.modify index job.effect)
        ((job.reportsAt cells index).foldl addNote notes) with ⟨cells', notes', finishes⟩
      have started : Step slots job ⟨index :: rest, [], cells, notes⟩
          ⟨rest, [(index, job.reportsAt cells index)], cells, notes⟩ := .start some
      have ended : Step slots job
          ⟨rest, [(index, [])], cells, (job.reportsAt cells index).foldl addNote notes⟩
          ⟨rest, [], cells.modify index job.effect,
            (job.reportsAt cells index).foldl addNote notes⟩ :=
        .finish [] []
      exact ⟨cells', notes', (((Relation.ReflTransGen.single started).trans
        (run_report slots job rest index cells _ notes)).tail ended).trans finishes⟩

theorem finishes_either [DecidableEq ν] (room : 1 < slots) {left right : Nat} {note note' : ν}
    (first : job.reportsAt cells left = [note]) (second : job.reportsAt cells right = [note']) :
    Finishes slots job [left, right] cells notes
        ((cells.modify left job.effect).modify right job.effect)
        (addNote (addNote notes note) note') ∧
      Finishes slots job [left, right] cells notes
        ((cells.modify left job.effect).modify right job.effect)
        (addNote (addNote notes note') note) := by
  have begun : Step slots job ⟨[left, right], [], cells, notes⟩
      ⟨[right], [(left, [note])], cells, notes⟩ := first ▸ .start (by rw [List.length_nil]; omega)
  have joined : Step slots job ⟨[right], [(left, [note])], cells, notes⟩
      ⟨[], [(left, [note]), (right, [note'])], cells, notes⟩ :=
    second ▸ .start (by rw [List.length_singleton]; exact room)
  have ended : ∀ notes, Run slots job ⟨[], [(left, []), (right, [])], cells, notes⟩
      ⟨[], [], (cells.modify left job.effect).modify right job.effect, notes⟩ := fun notes =>
    .tail (.single (.finish [] [(right, [])]))
      (.finish [] [])
  have both := (Relation.ReflTransGen.single begun).tail joined
  constructor
  · exact ((both.tail (.report [] [(right, [note'])])).tail
      (.report [(left, [])] [])).trans (ended _)
  · exact ((both.tail (.report [(left, [note])] [])).tail
      (.report [] [(right, [])])).trans (ended _)

end

end HomelabBuilder.WorkerPool
