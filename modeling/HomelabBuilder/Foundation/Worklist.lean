import Mathlib.Data.List.Basic
import Mathlib.Data.List.Chain
import Mathlib.Logic.Relation

/-! # Worklist search

Breadth-first search with a list of seen vertices and a queue. A vertex is
marked as seen when it is met and queued only when it may be searched through;
the start is searched through in any case. What the search has seen when its
queue runs empty is what such paths reach.
-/

namespace HomelabBuilder.Worklist

variable {α : Type*} [DecidableEq α]

structure State (α : Type*) where
  seen : List α
  queue : List α

def visit (expands : α → Bool) (state : State α) (vertex : α) : State α :=
  if vertex ∈ state.seen then state
  else
    { seen := vertex :: state.seen
      queue := if expands vertex then state.queue ++ [vertex] else state.queue }

/-- Meet every successor of the vertex that has just left the queue. -/
def expand (next : α → List α) (expands : α → Bool) (state : State α) (vertex : α) :
    State α :=
  (next vertex).foldl (visit expands) state

def drain (next : α → List α) (expands : α → Bool) : Nat → State α → State α
  | 0, state => state
  | rounds + 1, state =>
      match state.queue with
      | [] => state
      | current :: rest =>
          drain next expands rounds
            (expand next expands { state with queue := rest } current)

def initial (start : α) : State α where
  seen := [start]
  queue := [start]

/-- Paths whose inner vertices may all be searched through. -/
inductive Reaches (next : α → List α) (expands : α → Bool) (start : α) : α → Prop
  | start : Reaches next expands start start
  | step {middle vertex : α} : Reaches next expands start middle →
      middle = start ∨ expands middle = true → vertex ∈ next middle →
      Reaches next expands start vertex

section Visit

variable {expands : α → Bool}

theorem seen_subset_visit (state : State α) (vertex : α) :
    state.seen ⊆ (visit expands state vertex).seen := by
  unfold visit
  split
  · exact fun _ member => member
  · exact List.subset_cons_self _ _

theorem mem_seen_visit (state : State α) (vertex : α) :
    vertex ∈ (visit expands state vertex).seen := by
  unfold visit
  split
  · assumption
  · exact List.mem_cons_self

theorem queue_subset_visit (state : State α) (vertex : α) :
    state.queue ⊆ (visit expands state vertex).queue := by
  unfold visit
  split
  · exact fun _ member => member
  · dsimp only
    split
    · exact List.subset_append_left _ _
    · exact fun _ member => member

theorem seen_subset_foldl_visit (vertices : List α) : ∀ state : State α,
    state.seen ⊆ (vertices.foldl (visit expands) state).seen := by
  induction vertices with
  | nil => exact fun state _ member => member
  | cons head tail induction =>
      intro state
      exact List.Subset.trans (seen_subset_visit state head) (induction _)

theorem queue_subset_foldl_visit (vertices : List α) : ∀ state : State α,
    state.queue ⊆ (vertices.foldl (visit expands) state).queue := by
  induction vertices with
  | nil => exact fun state _ member => member
  | cons head tail induction =>
      intro state
      exact List.Subset.trans (queue_subset_visit state head) (induction _)

theorem subset_seen_foldl_visit (vertices : List α) : ∀ state : State α,
    vertices ⊆ (vertices.foldl (visit expands) state).seen := by
  induction vertices with
  | nil => exact fun _ => List.nil_subset _
  | cons head tail induction =>
      intro state vertex member
      rcases List.mem_cons.mp member with equal | member
      · subst equal
        exact seen_subset_foldl_visit tail _ (mem_seen_visit state vertex)
      · exact induction _ member

end Visit

/-! ## The invariant -/

/-- What holds between two rounds of the search. -/
structure Invariant (next : α → List α) (expands : α → Bool) (start : α)
    (state : State α) : Prop where
  reached : ∀ vertex ∈ state.seen, Reaches next expands start vertex
  queued : ∀ vertex ∈ state.queue,
    vertex ∈ state.seen ∧ (vertex = start ∨ expands vertex = true)
  closed : ∀ vertex ∈ state.seen, vertex = start ∨ expands vertex = true →
    vertex ∈ state.queue ∨ next vertex ⊆ state.seen
  started : start ∈ state.seen

section Invariant

variable {next : α → List α} {expands : α → Bool} {start : α}

omit [DecidableEq α] in
theorem Invariant.initial : Invariant next expands start (initial start) where
  reached := by
    intro vertex member
    rw [List.mem_singleton.mp member]
    exact .start
  queued := by
    intro vertex member
    exact ⟨member, .inl (List.mem_singleton.mp member)⟩
  closed := fun _ member _ => .inl member
  started := List.mem_singleton.mpr rfl

/-- Everything but closedness survives a visit of a reached vertex; `current`
is the vertex whose successors are being visited. -/
private structure Visiting (next : α → List α) (expands : α → Bool) (start current : α)
    (state : State α) : Prop where
  reached : ∀ vertex ∈ state.seen, Reaches next expands start vertex
  queued : ∀ vertex ∈ state.queue,
    vertex ∈ state.seen ∧ (vertex = start ∨ expands vertex = true)
  closed : ∀ vertex ∈ state.seen, vertex = start ∨ expands vertex = true →
    vertex ≠ current → vertex ∈ state.queue ∨ next vertex ⊆ state.seen
  started : start ∈ state.seen

private theorem Visiting.visit {current vertex : α} {state : State α}
    (visiting : Visiting next expands start current state)
    (reaches : Reaches next expands start vertex) :
    Visiting next expands start current (visit expands state vertex) := by
  by_cases old : vertex ∈ state.seen
  · simpa [Worklist.visit, old] using visiting
  · have grows : state.seen ⊆ (Worklist.visit expands state vertex).seen :=
      seen_subset_visit state vertex
    have queueGrows : state.queue ⊆ (Worklist.visit expands state vertex).queue :=
      queue_subset_visit state vertex
    refine ⟨?_, ?_, ?_, grows visiting.started⟩
    · intro other member
      simp only [Worklist.visit, old, if_false] at member
      rcases List.mem_cons.mp member with equal | member
      · exact equal ▸ reaches
      · exact visiting.reached other member
    · intro other member
      by_cases expandable : expands vertex = true
      · simp only [Worklist.visit, old, if_false, expandable, if_true] at member
        rcases List.mem_append.mp member with member | member
        · exact ⟨grows (visiting.queued other member).1, (visiting.queued other member).2⟩
        · rw [List.mem_singleton.mp member]
          exact ⟨mem_seen_visit state vertex, .inr expandable⟩
      · simp only [Worklist.visit, old, if_false, expandable] at member
        exact ⟨grows (visiting.queued other member).1, (visiting.queued other member).2⟩
    · intro other member through different
      by_cases equal : other = vertex
      · -- The vertex is new, so it is not the start and has just been queued.
        subst equal
        have expandable : expands other = true :=
          through.resolve_left fun isStart => old (isStart ▸ visiting.started)
        left
        simp [Worklist.visit, old, expandable]
      · have wasSeen : other ∈ state.seen := by
          simp only [Worklist.visit, old, if_false] at member
          exact (List.mem_cons.mp member).resolve_left equal
        rcases visiting.closed other wasSeen through different with waiting | done
        · exact .inl (queueGrows waiting)
        · exact .inr (List.Subset.trans done grows)

private theorem Visiting.foldl {current : α} : ∀ (vertices : List α) {state : State α},
    Visiting next expands start current state →
    (∀ vertex ∈ vertices, Reaches next expands start vertex) →
    Visiting next expands start current (vertices.foldl (Worklist.visit expands) state)
  | [], _, visiting, _ => visiting
  | head :: tail, _, visiting, reaches =>
      Visiting.foldl tail (visiting.visit (reaches head List.mem_cons_self))
        fun vertex member => reaches vertex (List.mem_cons_of_mem head member)

theorem Invariant.expand {state : State α} {current : α} {rest : List α}
    (invariant : Invariant next expands start state)
    (pending : state.queue = current :: rest) :
    Invariant next expands start
      (expand next expands { state with queue := rest } current) := by
  have head := invariant.queued current (pending ▸ List.mem_cons_self)
  have visiting : Visiting next expands start current { state with queue := rest } := by
    refine ⟨invariant.reached, ?_, ?_, invariant.started⟩
    · intro vertex member
      exact invariant.queued vertex (pending ▸ List.mem_cons_of_mem current member)
    · intro vertex member through different
      rcases invariant.closed vertex member through with waiting | done
      · rw [pending] at waiting
        exact .inl ((List.mem_cons.mp waiting).resolve_left different)
      · exact .inr done
  have after := visiting.foldl (next current) fun vertex member =>
    .step (invariant.reached current head.1) head.2 member
  refine ⟨after.reached, after.queued, ?_, after.started⟩
  intro vertex member through
  by_cases equal : vertex = current
  · subst equal
    exact .inr (subset_seen_foldl_visit _ _)
  · exact after.closed vertex member through equal

theorem Invariant.drain : ∀ (rounds : Nat) {state : State α},
    Invariant next expands start state →
    Invariant next expands start (drain next expands rounds state)
  | 0, _, invariant => invariant
  | rounds + 1, state, invariant => by
      unfold Worklist.drain
      split
      · exact invariant
      · rename_i current rest pending
        exact Invariant.drain rounds (invariant.expand pending)

end Invariant

/-! ## Running out of work -/

section Termination

variable {next : α → List α} {expands : α → Bool} (pool : List α)

/-- Queued vertices plus expandable vertices that have not been met. -/
def work (state : State α) : Nat :=
  state.queue.length + (pool.filter fun vertex => vertex ∉ state.seen).length

private theorem work_visit (complete : ∀ vertex, expands vertex = true → vertex ∈ pool)
    (state : State α) (vertex : α) :
    work pool (visit expands state vertex) ≤ work pool state := by
  by_cases old : vertex ∈ state.seen
  · simp [visit, old]
  · have fewer : ((pool.filter fun other => other ∉ vertex :: state.seen)).Sublist
        (pool.filter fun other => other ∉ state.seen) := by
      apply List.monotone_filter_right
      intro other unseen
      simp only [decide_eq_true_eq] at unseen ⊢
      exact fun member => unseen (List.mem_cons_of_mem vertex member)
    by_cases expandable : expands vertex = true
    · have lost : (pool.filter fun other => other ∉ vertex :: state.seen).length <
          (pool.filter fun other => other ∉ state.seen).length := by
        apply Nat.lt_of_le_of_ne fewer.length_le
        intro sameLength
        have same := fewer.eq_of_length sameLength
        have member : vertex ∈ pool.filter fun other => other ∉ state.seen := by
          simp [complete vertex expandable, old]
        rw [← same] at member
        simp at member
      simp only [work, visit, old, if_false, expandable, if_true, List.length_append,
        List.length_singleton]
      omega
    · have length := fewer.length_le
      simp only [work, visit, old, if_false, expandable]
      exact Nat.add_le_add_left length _

private theorem work_foldl_visit
    (complete : ∀ vertex, expands vertex = true → vertex ∈ pool)
    (vertices : List α) : ∀ state : State α,
    work pool (vertices.foldl (visit expands) state) ≤ work pool state := by
  induction vertices with
  | nil => exact fun _ => Nat.le_refl _
  | cons head tail induction =>
      intro state
      exact Nat.le_trans (induction _) (work_visit pool complete state head)

theorem drain_queue (complete : ∀ vertex, expands vertex = true → vertex ∈ pool) :
    ∀ (rounds : Nat) (state : State α), work pool state ≤ rounds →
      (drain next expands rounds state).queue = []
  | 0, state, enough => by
      have empty : state.queue.length = 0 := by
        unfold work at enough
        omega
      exact List.length_eq_zero_iff.mp empty
  | rounds + 1, state, enough => by
      unfold drain
      split
      · assumption
      · rename_i current rest pending
        apply drain_queue complete rounds
        have step := work_foldl_visit pool complete (next current)
          { state with queue := rest }
        have popped : work pool { state with queue := rest } + 1 = work pool state := by
          simp only [work, pending, List.length_cons]
          omega
        unfold expand
        omega

end Termination

/-- With enough rounds, a search from `start` has seen exactly what paths over
expandable vertices reach. -/
theorem mem_seen_drain_iff {next : α → List α} {expands : α → Bool} (pool : List α)
    (complete : ∀ vertex, expands vertex = true → vertex ∈ pool)
    {start vertex : α} {rounds : Nat} (enough : pool.length + 1 ≤ rounds) :
    vertex ∈ (drain next expands rounds (initial start)).seen ↔
      Reaches next expands start vertex := by
  have final : Invariant next expands start (drain next expands rounds (initial start)) :=
    Invariant.initial.drain rounds
  have empty : (drain next expands rounds (initial start)).queue = [] := by
    apply drain_queue pool complete rounds (initial start)
    refine Nat.le_trans (Nat.add_le_add_left (List.length_filter_le _ pool) 1) ?_
    rwa [Nat.add_comm]
  constructor
  · exact final.reached vertex
  · intro reaches
    induction reaches with
    | start => exact final.started
    | step _ through successor induction =>
        rcases final.closed _ induction through with waiting | done
        · rw [empty] at waiting
          exact absurd waiting List.not_mem_nil
        · exact done successor

end HomelabBuilder.Worklist

/-! # Paths of a search

What a worklist search reaches, as lists of vertices, and what becomes of it
when all vertices are renamed.
-/

namespace HomelabBuilder.Worklist

variable {α β : Type*} {next : α → List α} {expands : α → Bool} {start : α}

/-- A path whose inner vertices may all be searched through. -/
def Path (next : α → List α) (expands : α → Bool) (start stop : α) : Prop :=
  ∃ inner : List α, (∀ vertex ∈ inner, expands vertex = true) ∧
    List.IsChain (fun left right => right ∈ next left) (start :: (inner ++ [stop]))

theorem reaches_iff_path {vertex : α} :
    Reaches next expands start vertex ↔ vertex = start ∨ Path next expands start vertex := by
  constructor
  · intro reaches
    induction reaches with
    | start => exact .inl rfl
    | @step middle last _ through adjacent induction =>
        right
        by_cases atStart : middle = start
        · -- A path that comes back to the start is cut there.
          subst atStart
          refine ⟨[], fun _ member => absurd member List.not_mem_nil, ?_⟩
          exact List.isChain_pair.mpr adjacent
        · rcases induction.resolve_left atStart with ⟨inner, expandable, chain⟩
          refine ⟨inner ++ [middle], ?_, ?_⟩
          · intro vertex member
            rcases List.mem_append.mp member with inside | here
            · exact expandable vertex inside
            · rw [List.mem_singleton.mp here]
              exact through.resolve_left atStart
          · rw [List.append_assoc, List.singleton_append, List.isChain_cons_append_cons_cons]
            exact ⟨chain, adjacent, .singleton _⟩
  · rintro (rfl | ⟨inner, expandable, chain⟩)
    · exact .start
    · have walk : ∀ (inner : List α) (first : α), Reaches next expands start first →
          (first = start ∨ expands first = true) → (∀ other ∈ inner, expands other = true) →
          List.IsChain (fun left right => right ∈ next left) (first :: (inner ++ [vertex])) →
          Reaches next expands start vertex := by
        intro inner
        induction inner with
        | nil =>
            intro first reached through _ chain
            exact .step reached through (List.isChain_pair.mp chain)
        | cons head tail induction =>
            intro first reached through expandable chain
            rw [List.cons_append, List.isChain_cons_cons] at chain
            have own := expandable head List.mem_cons_self
            exact induction head (.step reached through chain.1) (.inr own)
              (fun other member => expandable other (List.mem_cons_of_mem head member)) chain.2
      exact walk inner start .start (.inl rfl) expandable chain

/-- A search that follows more, and searches through at least the same vertices,
reaches at least the same ones. -/
theorem Reaches.mono {next' : α → List α} {expands' : α → Bool}
    (follows : ∀ left, next left ⊆ next' left)
    (expandable : ∀ vertex, expands vertex = true → vertex = start ∨ expands' vertex = true)
    {vertex : α} (reaches : Reaches next expands start vertex) :
    Reaches next' expands' start vertex := by
  induction reaches with
  | start => exact .start
  | @step middle last _ through adjacent induction =>
      refine .step induction ?_ (follows middle adjacent)
      rcases through with atStart | expand
      · exact .inl atStart
      · exact expandable middle expand

end HomelabBuilder.Worklist

/-! # The order of a search

The vertices of a worklist search in the order in which they leave the queue, where every
vertex is searched through.
-/

namespace HomelabBuilder.Worklist

variable {α : Type*} [DecidableEq α] {next : α → List α} {pool : List α} {start : α}

/-- The vertices that leave the queue, in order. -/
def order (next : α → List α) : Nat → State α → List α
  | 0, _ => []
  | rounds + 1, state =>
      match state.queue with
      | [] => []
      | current :: rest =>
          current :: order next rounds
            (expand next (fun _ => true) { state with queue := rest } current)

/-! ## Within a pool -/

theorem foldl_visit_pool {vertices : List α} (within : vertices ⊆ pool) (state : State α) :
    vertices.foldl (visit fun _ => true) state =
      vertices.foldl (visit fun vertex => decide (vertex ∈ pool)) state := by
  induction vertices generalizing state with
  | nil => rfl
  | cons vertex rest induction =>
      have parts := List.cons_subset.mp within
      have same : visit (fun _ => true) state vertex =
          visit (fun vertex => decide (vertex ∈ pool)) state vertex := by
        unfold visit
        simp only [decide_eq_true parts.1]
      rw [List.foldl_cons, List.foldl_cons, same, induction parts.2]

theorem drain_pool (within : ∀ vertex, next vertex ⊆ pool) (rounds : Nat) (state : State α) :
    drain next (fun _ => true) rounds state =
      drain next (fun vertex => decide (vertex ∈ pool)) rounds state := by
  induction rounds generalizing state with
  | zero => rfl
  | succ rounds induction =>
      unfold drain
      cases state.queue with
      | nil => rfl
      | cons current rest =>
          dsimp only
          rw [expand, foldl_visit_pool (within current), ← expand, induction]

theorem drain_empty (within : ∀ vertex, next vertex ⊆ pool) {rounds : Nat}
    (enough : pool.length + 1 ≤ rounds) (start : α) :
    (drain next (fun _ => true) rounds (initial start)).queue = [] := by
  rw [drain_pool within]
  apply drain_queue pool (fun _ listed => of_decide_eq_true listed) rounds (initial start)
  refine Nat.le_trans (Nat.add_le_add_left (List.length_filter_le _ pool) 1) ?_
  rwa [Nat.add_comm]

/-! ## What leaves the queue -/

theorem queued_of_seen_foldl_visit {vertices : List α} {state : State α} {vertex : α}
    (seen : vertex ∈ (vertices.foldl (visit fun _ => true) state).seen) :
    vertex ∈ state.seen ∨ vertex ∈ (vertices.foldl (visit fun _ => true) state).queue := by
  induction vertices generalizing state with
  | nil => exact .inl seen
  | cons head rest induction =>
      rw [List.foldl_cons] at seen ⊢
      cases induction seen with
      | inr queued => exact .inr queued
      | inl before =>
          by_cases known : head ∈ state.seen
          · rw [visit, if_pos known] at before
            exact .inl before
          · have fresh : visit (fun _ => true) state head =
                { seen := head :: state.seen, queue := state.queue ++ [head] } := by
              rw [visit, if_neg known, if_pos rfl]
            rw [fresh] at before
            cases List.mem_cons.mp before with
            | inr earlier => exact .inl earlier
            | inl same =>
                subst same
                refine .inr (queue_subset_foldl_visit rest _ ?_)
                rw [fresh]
                exact List.mem_append_right _ (List.mem_singleton.mpr rfl)

theorem mem_order_of_seen (rounds : Nat) {state : State α} {vertex : α}
    (empty : (drain next (fun _ => true) rounds state).queue = [])
    (seen : vertex ∈ (drain next (fun _ => true) rounds state).seen) :
    vertex ∈ order next rounds state ∨ vertex ∈ state.seen ∧ vertex ∉ state.queue := by
  induction rounds generalizing state with
  | zero => exact .inr ⟨seen, empty ▸ List.not_mem_nil⟩
  | succ rounds induction =>
      unfold drain at empty seen
      unfold order
      cases waiting : state.queue with
      | nil =>
          rw [waiting] at seen
          exact .inr ⟨seen, List.not_mem_nil⟩
      | cons current rest =>
          rw [waiting] at empty seen
          dsimp only at empty seen ⊢
          cases induction empty seen with
          | inl later => exact .inl (List.mem_cons_of_mem _ later)
          | inr past =>
              have kept := (queued_of_seen_foldl_visit past.1).resolve_right past.2
              by_cases same : vertex = current
              · exact .inl (same ▸ List.mem_cons_self)
              · refine .inr ⟨kept, fun listed => ?_⟩
                cases List.mem_cons.mp listed with
                | inl equal => exact same equal
                | inr inRest => exact past.2 (queue_subset_foldl_visit _ _ inRest)

theorem mem_queue_foldl_visit {vertices : List α} {state : State α} {vertex : α}
    (queued : vertex ∈ (vertices.foldl (visit fun _ => true) state).queue) :
    vertex ∈ state.queue ∨ vertex ∈ vertices := by
  induction vertices generalizing state with
  | nil => exact .inl queued
  | cons head rest induction =>
      rw [List.foldl_cons] at queued
      cases induction queued with
      | inr later => exact .inr (List.mem_cons_of_mem _ later)
      | inl before =>
          unfold visit at before
          split at before
          · exact .inl before
          · cases List.mem_append.mp before with
            | inl earlier => exact .inl earlier
            | inr here => exact .inr (List.mem_singleton.mp here ▸ List.mem_cons_self)

theorem reached_of_mem_order (rounds : Nat) {state : State α} {vertex : α}
    (reached : ∀ other ∈ state.queue,
      Relation.ReflTransGen (fun before after => after ∈ next before) start other)
    (listed : vertex ∈ order next rounds state) :
    Relation.ReflTransGen (fun before after => after ∈ next before) start vertex := by
  induction rounds generalizing state with
  | zero => cases listed
  | succ rounds induction =>
      unfold order at listed
      cases waiting : state.queue with
      | nil =>
          rw [waiting] at listed
          cases listed
      | cons current rest =>
          rw [waiting] at listed reached
          cases List.mem_cons.mp listed with
          | inl same => exact same ▸ reached current List.mem_cons_self
          | inr later =>
              refine induction (fun other queued => ?_) later
              cases mem_queue_foldl_visit queued with
              | inl inRest => exact reached other (List.mem_cons_of_mem _ inRest)
              | inr adjacent => exact (reached current List.mem_cons_self).tail adjacent

/-- With enough rounds every vertex that can be reached leaves the queue, and no other. -/
theorem mem_order_iff (within : ∀ vertex, next vertex ⊆ pool) {rounds : Nat}
    (enough : pool.length + 1 ≤ rounds) {vertex : α} :
    vertex ∈ order next rounds (initial start) ↔
      Relation.ReflTransGen (fun before after => after ∈ next before) start vertex := by
  have empty := drain_empty within enough start
  constructor
  · refine reached_of_mem_order rounds fun other queued => ?_
    rw [List.mem_singleton.mp queued]
  · intro reaches
    have final : Invariant next (fun _ => true) start
        (drain next (fun _ => true) rounds (initial start)) := Invariant.initial.drain rounds
    have seen : vertex ∈ (drain next (fun _ => true) rounds (initial start)).seen := by
      induction reaches with
      | refl => exact final.started
      | tail _ adjacent induction =>
          refine ((final.closed _ induction (.inr rfl)).resolve_left ?_) adjacent
          rw [empty]
          exact List.not_mem_nil
    refine (mem_order_of_seen rounds empty seen).resolve_right fun past => ?_
    exact past.2 past.1

end HomelabBuilder.Worklist
