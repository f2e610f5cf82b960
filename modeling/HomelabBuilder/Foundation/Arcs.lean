import Mathlib.Data.List.Basic
import Mathlib.Logic.Relation

/-! # Directed graphs as lists of arcs

Two depth-first searches: one with an explicit stack that asks whether a vertex
reaches another, and a recursive one that colours vertices and reports a vertex
on a cycle.
-/

namespace HomelabBuilder.Arcs

variable {α : Type*}

def Arc (arcs : List (α × α)) (tail head : α) : Prop := (tail, head) ∈ arcs

abbrev Reaches (arcs : List (α × α)) : α → α → Prop := Relation.ReflTransGen (Arc arcs)

abbrev Cycles (arcs : List (α × α)) (vertex : α) : Prop :=
  Relation.TransGen (Arc arcs) vertex vertex

def Acyclic (arcs : List (α × α)) : Prop := ∀ vertex, ¬ Cycles arcs vertex

theorem Acyclic.of_subset {arcs fewer : List (α × α)} (acyclic : Acyclic arcs)
    (subset : fewer ⊆ arcs) : Acyclic fewer := by
  intro vertex cycle
  exact acyclic vertex (Relation.TransGen.mono (fun _ _ arc => subset arc) _ _ cycle)

private theorem reaches_or_through {arcs more : List (α × α)} {tail head : α}
    (extends_ : ∀ arc ∈ more, arc ∈ arcs ∨ arc = (tail, head)) {start vertex : α}
    (path : Relation.TransGen (Arc more) start vertex) :
    Relation.TransGen (Arc arcs) start vertex ∨
      Reaches arcs start tail ∧ Reaches arcs head vertex := by
  induction path with
  | single arc =>
      rcases extends_ _ arc with old | new
      · exact .inl (.single old)
      · cases new
        exact .inr ⟨.refl, .refl⟩
  | tail _ arc induction =>
      rcases extends_ _ arc with old | new
      · rcases induction with before | ⟨toTail, fromHead⟩
        · exact .inl (before.tail old)
        · exact .inr ⟨toTail, fromHead.tail old⟩
      · cases new
        rcases induction with before | ⟨toTail, _⟩
        · exact .inr ⟨before.to_reflTransGen, .refl⟩
        · exact .inr ⟨toTail, .refl⟩

theorem Acyclic.insert {arcs more : List (α × α)} {tail head : α} (acyclic : Acyclic arcs)
    (extends_ : ∀ arc ∈ more, arc ∈ arcs ∨ arc = (tail, head))
    (apart : ¬ Reaches arcs head tail) : Acyclic more := by
  intro vertex cycle
  rcases reaches_or_through extends_ cycle with old | ⟨toTail, fromHead⟩
  · exact acyclic vertex old
  · exact apart (fromHead.trans toTail)

theorem Acyclic.map {β : Type*} {f : α → β} (injective : Function.Injective f)
    {arcs : List (α × α)} (acyclic : Acyclic arcs) :
    Acyclic (arcs.map fun arc => (f arc.1, f arc.2)) := by
  have back : ∀ {start vertex : β},
      Relation.TransGen (Arc (arcs.map fun arc => (f arc.1, f arc.2))) start vertex →
      ∃ tail head, f tail = start ∧ f head = vertex ∧ Relation.TransGen (Arc arcs) tail head := by
    intro start vertex path
    induction path with
    | single arc =>
        rcases List.mem_map.mp arc with ⟨old, member, same⟩
        cases same
        exact ⟨old.1, old.2, rfl, rfl, .single member⟩
    | tail _ arc induction =>
        rcases induction with ⟨tail, head, isStart, isMiddle, path⟩
        rcases List.mem_map.mp arc with ⟨old, member, same⟩
        cases same
        have sameMiddle : head = old.1 := injective isMiddle
        subst sameMiddle
        exact ⟨tail, old.2, isStart, rfl, path.tail member⟩
  intro vertex cycle
  rcases back cycle with ⟨tail, head, isTail, isHead, path⟩
  have same : tail = head := injective (isTail.trans isHead.symm)
  subst same
  exact acyclic tail path

variable [DecidableEq α]

def successors (arcs : List (α × α)) (vertex : α) : List α :=
  arcs.filterMap fun arc => if arc.1 = vertex then some arc.2 else none

theorem mem_successors {arcs : List (α × α)} {tail head : α} :
    head ∈ successors arcs tail ↔ Arc arcs tail head := by
  simp only [successors, List.mem_filterMap, Option.ite_none_right_eq_some, Option.some.injEq, Arc]
  constructor
  · intro found
    rcases found with ⟨arc, member, rfl, rfl⟩
    exact member
  · exact fun member => ⟨(tail, head), member, rfl, rfl⟩

/-! ## Searching with a stack -/

/-- Whether a vertex on the stack reaches the goal; a vertex met again is
skipped when it comes off the stack. -/
def searchStack (arcs : List (α × α)) (goal : α) : Nat → List α → List α → Bool
  | 0, _, _ => false
  | _ + 1, _, [] => false
  | rounds + 1, seen, vertex :: rest =>
      if vertex = goal then true
      else if vertex ∈ seen then searchStack arcs goal rounds seen rest
      else searchStack arcs goal rounds (vertex :: seen) ((successors arcs vertex).reverse ++ rest)

/-- Every arc is pushed at most once, so this many rounds empty the stack. -/
def reaches (arcs : List (α × α)) (start goal : α) : Bool :=
  searchStack arcs goal (arcs.length + 2) [] [start]

private theorem exists_reaches_of_searchStack {arcs : List (α × α)} {goal : α} :
    ∀ (rounds : Nat) (seen stack : List α), searchStack arcs goal rounds seen stack = true →
      ∃ vertex ∈ stack, Reaches arcs vertex goal
  | 0, _, _, found => nomatch found
  | _ + 1, _, [], found => nomatch found
  | rounds + 1, seen, vertex :: rest, found => by
      unfold searchStack at found
      split at found
      · rename_i isGoal
        exact ⟨vertex, List.mem_cons_self, isGoal ▸ .refl⟩
      · split at found
        · rcases exists_reaches_of_searchStack rounds _ _ found with ⟨other, member, path⟩
          exact ⟨other, List.mem_cons_of_mem _ member, path⟩
        · rcases exists_reaches_of_searchStack rounds _ _ found with ⟨other, member, path⟩
          rcases List.mem_append.mp member with pushed | member
          · have arc := mem_successors.mp (List.mem_reverse.mp pushed)
            exact ⟨vertex, List.mem_cons_self, .head arc path⟩
          · exact ⟨other, List.mem_cons_of_mem _ member, path⟩

/-- Stack entries plus arcs out of vertices that have not been searched. -/
private def work (arcs : List (α × α)) (seen stack : List α) : Nat :=
  stack.length + (arcs.filter fun arc => arc.1 ∉ seen).length

private theorem length_successors_add (arcs : List (α × α)) {vertex : α} {seen : List α}
    (unseen : vertex ∉ seen) :
    (successors arcs vertex).length + (arcs.filter fun arc => arc.1 ∉ vertex :: seen).length =
      (arcs.filter fun arc => arc.1 ∉ seen).length := by
  induction arcs with
  | nil => rfl
  | cons arc rest induction =>
      simp only [successors, List.filterMap_cons, List.filter_cons] at induction ⊢
      by_cases leaves : arc.1 = vertex
      · simp only [leaves, if_true, List.mem_cons, true_or, not_true, decide_false, unseen,
          not_false_eq_true, decide_true, List.length_cons, Bool.false_eq_true, if_false]
          at induction ⊢
        omega
      · simp only [leaves, if_false, List.mem_cons, false_or] at induction ⊢
        split
        · simp only [List.length_cons]
          omega
        · exact induction

private theorem exists_closed_of_searchStack {arcs : List (α × α)} {goal : α} :
    ∀ (rounds : Nat) (seen stack : List α), work arcs seen stack < rounds →
      searchStack arcs goal rounds seen stack = false →
      goal ∉ seen →
      (∀ vertex ∈ seen, ∀ other, Arc arcs vertex other → other ∈ seen ∨ other ∈ stack) →
      ∃ final : List α, stack ⊆ final ∧ seen ⊆ final ∧ goal ∉ final ∧
        ∀ vertex ∈ final, ∀ other, Arc arcs vertex other → other ∈ final
  | 0, _, _, enough, _, _, _ => absurd enough (Nat.not_lt_zero _)
  | rounds + 1, seen, [], _, _, notGoal, closed => by
      refine ⟨seen, List.nil_subset _, fun _ member => member, notGoal, ?_⟩
      intro vertex member other arc
      exact (closed vertex member other arc).resolve_right List.not_mem_nil
  | rounds + 1, seen, vertex :: rest, enough, missed, notGoal, closed => by
      unfold searchStack at missed
      split at missed
      · cases missed
      · rename_i isOther
        split at missed
        · rename_i old
          have smaller : work arcs seen rest < rounds := by
            simp only [work, List.length_cons] at enough ⊢
            omega
          rcases exists_closed_of_searchStack rounds seen rest smaller missed notGoal (by
            intro known member other arc
            rcases closed known member other arc with done | waiting
            · exact .inl done
            · rcases List.mem_cons.mp waiting with equal | waiting
              · exact .inl (equal ▸ old)
              · exact .inr waiting) with ⟨final, stacked, kept, noGoal, all⟩
          refine ⟨final, ?_, kept, noGoal, all⟩
          exact List.cons_subset.mpr ⟨kept old, stacked⟩
        · rename_i new
          have smaller : work arcs (vertex :: seen) ((successors arcs vertex).reverse ++ rest) <
              rounds := by
            have moved := length_successors_add arcs new
            simp only [work, List.length_cons, List.length_append, List.length_reverse] at enough ⊢
            omega
          rcases exists_closed_of_searchStack rounds (vertex :: seen) _ smaller missed (by
            intro member
            rcases List.mem_cons.mp member with equal | member
            · exact isOther equal.symm
            · exact notGoal member) (by
            intro known member other arc
            rcases List.mem_cons.mp member with equal | member
            · subst equal
              exact .inr (List.mem_append_left _ (List.mem_reverse.mpr (mem_successors.mpr arc)))
            · rcases closed known member other arc with done | waiting
              · exact .inl (List.mem_cons_of_mem _ done)
              · rcases List.mem_cons.mp waiting with equal | waiting
                · exact .inl (equal ▸ List.mem_cons_self)
                · exact .inr (List.mem_append_right _ waiting))
            with ⟨final, stacked, kept, noGoal, all⟩
          refine ⟨final, ?_, fun _ member => kept (List.mem_cons_of_mem _ member), noGoal, all⟩
          exact List.cons_subset.mpr ⟨kept List.mem_cons_self,
            fun _ member => stacked (List.mem_append_right _ member)⟩

theorem reaches_iff {arcs : List (α × α)} {start goal : α} :
    reaches arcs start goal = true ↔ Reaches arcs start goal := by
  constructor
  · intro found
    rcases exists_reaches_of_searchStack _ _ _ found with ⟨vertex, member, path⟩
    exact List.mem_singleton.mp member ▸ path
  · intro path
    by_contra missed
    have enough : work arcs [] [start] < arcs.length + 2 := by
      have fewer := List.length_filter_le (fun arc : α × α => arc.1 ∉ ([] : List α)) arcs
      simp only [work, List.length_singleton]
      omega
    rcases exists_closed_of_searchStack _ _ _ enough (Bool.eq_false_iff.mpr missed)
      List.not_mem_nil (by intro _ member; cases member) with ⟨final, stacked, _, noGoal, all⟩
    apply noGoal
    have kept : ∀ {other : α}, Reaches arcs start other → other ∈ final := by
      intro other path
      induction path with
      | refl => exact stacked List.mem_cons_self
      | tail _ arc induction => exact all _ induction _ arc
    exact kept path

/-! ## Colouring -/

/-- The vertices on the current path and those searched completely. -/
structure Colours (α : Type*) where
  active : List α := []
  done : List α := []

namespace Colours

def Visited (colours : Colours α) (vertex : α) : Prop :=
  vertex ∈ colours.active ∨ vertex ∈ colours.done

instance (colours : Colours α) (vertex : α) : Decidable (colours.Visited vertex) :=
  inferInstanceAs (Decidable (_ ∨ _))

def enter (colours : Colours α) (vertex : α) : Colours α :=
  { colours with active := vertex :: colours.active }

def leave (colours : Colours α) (vertex : α) : Colours α where
  active := colours.active.filter (· ≠ vertex)
  done := vertex :: colours.done

end Colours

/-- The successors of a vertex in turn, up to one on the current path or one
whose search found something else than `blank`. -/
def visitEach (visit : Colours α → α → Colours α × α) (blank : α) :
    Colours α → List α → Colours α × Option α
  | colours, [] => (colours, none)
  | colours, vertex :: rest =>
      if vertex ∈ colours.active then (colours, some vertex)
      else if vertex ∈ colours.done then visitEach visit blank colours rest
      else
        let (after, found) := visit colours vertex
        if found = blank then visitEach visit blank after rest else (after, some found)

def visit (arcs : List (α × α)) (blank : α) : Nat → Colours α → α → Colours α × α
  | 0, colours, _ => (colours, blank)
  | rounds + 1, colours, vertex =>
      match visitEach (visit arcs blank rounds) blank (colours.enter vertex)
          (successors arcs vertex) with
      | (after, some found) => (after, found)
      | (after, none) => (after.leave vertex, blank)

def visitAll (arcs : List (α × α)) (blank : α) (rounds : Nat) : Colours α → List α → α
  | _, [] => blank
  | colours, vertex :: rest =>
      if colours.Visited vertex then visitAll arcs blank rounds colours rest
      else
        let (after, found) := visit arcs blank rounds colours vertex
        if found = blank then visitAll arcs blank rounds after rest else found

/-- A vertex that arcs lead back into, or `blank`. -/
def loopVertex (arcs : List (α × α)) (blank : α) : α :=
  visitAll arcs blank (arcs.length + 1) {} (arcs.map Prod.fst).eraseDups

/-- Nothing done leads out of what is done, or back to itself. -/
structure Colours.Settled (arcs : List (α × α)) (colours : Colours α) : Prop where
  closed : ∀ vertex ∈ colours.done, ∀ other, Arc arcs vertex other → other ∈ colours.done
  acyclic : ∀ vertex ∈ colours.done, ¬ Cycles arcs vertex
  apart : ∀ vertex ∈ colours.active, vertex ∉ colours.done

namespace Colours

variable {arcs : List (α × α)} {colours after : Colours α} {vertex : α}

omit [DecidableEq α] in
private theorem Settled.reaches (settled : colours.Settled arcs) {other : α}
    (done : vertex ∈ colours.done) (path : Reaches arcs vertex other) :
    other ∈ colours.done := by
  induction path with
  | refl => exact done
  | tail _ arc induction => exact settled.closed _ induction _ arc

omit [DecidableEq α] in
private theorem Settled.enter (settled : colours.Settled arcs)
    (fresh : ¬ colours.Visited vertex) : (colours.enter vertex).Settled arcs where
  closed := settled.closed
  acyclic := settled.acyclic
  apart := by
    intro other member
    rcases List.mem_cons.mp member with equal | member
    · subst equal
      exact fun done => fresh (.inr done)
    · exact settled.apart other member

/-- A vertex whose successors are done closes no cycle: the way back would have
to leave what is done. -/
private theorem Settled.leave (settled : after.Settled arcs) (active : vertex ∈ after.active)
    (successorsDone : ∀ other, Arc arcs vertex other → other ∈ after.done) :
    (after.leave vertex).Settled arcs where
  closed := by
    intro known member other arc
    rcases List.mem_cons.mp member with equal | member
    · exact List.mem_cons_of_mem _ (successorsDone other (equal ▸ arc))
    · exact List.mem_cons_of_mem _ (settled.closed known member other arc)
  acyclic := by
    intro known member cycle
    rcases List.mem_cons.mp member with equal | member
    · subst equal
      rcases Relation.TransGen.head'_iff.mp cycle with ⟨other, arc, back⟩
      exact settled.apart known active (settled.reaches (successorsDone other arc) back)
    · exact settled.acyclic known member cycle
  apart := by
    intro known member
    simp only [Colours.leave, List.mem_filter, decide_eq_true_eq] at member
    intro done
    rcases List.mem_cons.mp done with equal | done
    · exact member.2 equal
    · exact settled.apart known member.1 done

/-- The vertices with arcs out of them that no search has met. -/
private def waiting (arcs : List (α × α)) (colours : Colours α) : Nat :=
  (arcs.filter fun arc => ¬ colours.Visited arc.1).length

private theorem waiting_le (active : after.active = colours.active)
    (done : colours.done ⊆ after.done) : waiting arcs after ≤ waiting arcs colours := by
  apply (List.monotone_filter_right arcs _).length_le
  intro arc fresh
  simp only [Visited, decide_eq_true_eq, not_or, active] at fresh ⊢
  exact ⟨fresh.1, fun old => fresh.2 (done old)⟩

private theorem waiting_enter_lt {other : α} (fresh : ¬ colours.Visited vertex)
    (arc : Arc arcs vertex other) : waiting arcs (colours.enter vertex) < waiting arcs colours := by
  have sublist : (arcs.filter fun arc => ¬ (colours.enter vertex).Visited arc.1).Sublist
      (arcs.filter fun arc => ¬ colours.Visited arc.1) := by
    apply List.monotone_filter_right
    intro entry unvisited
    simp only [Visited, Colours.enter, List.mem_cons, decide_eq_true_eq, not_or] at unvisited ⊢
    exact ⟨unvisited.1.2, unvisited.2⟩
  apply Nat.lt_of_le_of_ne sublist.length_le
  intro sameLength
  have same := sublist.eq_of_length sameLength
  have member : (vertex, other) ∈ arcs.filter fun arc => ¬ colours.Visited arc.1 :=
    List.mem_filter.mpr ⟨arc, decide_eq_true fresh⟩
  rw [← same] at member
  simp [Visited, Colours.enter] at member

end Colours

/-- Vertices have been searched without finding anything. -/
private structure Searched (arcs : List (α × α)) (before : Colours α) (vertices : List α)
    (after : Colours α) : Prop where
  settled : after.Settled arcs
  active : after.active = before.active
  grows : before.done ⊆ after.done
  done : vertices ⊆ after.done

/-- What one search of a vertex promises, given rounds enough for the vertices
that wait. -/
private def Visits (arcs : List (α × α)) (blank : α) (rounds : Nat)
    (visit : Colours α → α → Colours α × α) : Prop :=
  ∀ (colours : Colours α) (vertex : α), colours.Settled arcs → ¬ colours.Visited vertex →
    (∀ other ∈ colours.active, Reaches arcs other vertex) → colours.waiting arcs < rounds →
    ((visit colours vertex).2 = blank →
      Searched arcs colours [vertex] (visit colours vertex).1) ∧
    ((visit colours vertex).2 ≠ blank → Cycles arcs (visit colours vertex).2)

/-- What the loop over some vertices promises. -/
private structure VisitsEach (arcs : List (α × α)) (blank : α) (colours : Colours α)
    (vertices : List α) (result : Colours α × Option α) : Prop where
  silent : result.2 = none → Searched arcs colours vertices result.1
  loud : ∀ found, result.2 = some found → found ≠ blank ∧ Cycles arcs found

section Visit

variable {arcs : List (α × α)} {blank : α}

omit [DecidableEq α] in
private theorem Searched.cons {before middle after : Colours α} {vertex : α} {rest : List α}
    (head : Searched arcs before [vertex] middle) (tail : Searched arcs middle rest after) :
    Searched arcs before (vertex :: rest) after where
  settled := tail.settled
  active := tail.active.trans head.active
  grows := List.Subset.trans head.grows tail.grows
  done := List.cons_subset.mpr ⟨tail.grows (head.done List.mem_cons_self), tail.done⟩

/-- The loop over the successors of `current`, which heads the current path. -/
private theorem visitEach_spec (plain : ∀ tail head, Arc arcs tail head → head ≠ blank)
    {rounds : Nat} {visit : Colours α → α → Colours α × α}
    (visits : Visits arcs blank rounds visit) {current : α} :
    ∀ (vertices : List α) (colours : Colours α), colours.Settled arcs →
      (∀ vertex ∈ vertices, Arc arcs current vertex) →
      (∀ other ∈ colours.active, Reaches arcs other current) →
      colours.waiting arcs < rounds →
      VisitsEach arcs blank colours vertices (visitEach visit blank colours vertices)
  | [], colours, settled, _, _, _ => by
      refine ⟨fun _ => ⟨settled, rfl, fun _ member => member, List.nil_subset _⟩, ?_⟩
      intro found result
      cases result
  | vertex :: rest, colours, settled, arcsOut, path, enough => by
      have arc := arcsOut vertex List.mem_cons_self
      have arcsRest : ∀ other ∈ rest, Arc arcs current other :=
        fun other member => arcsOut other (List.mem_cons_of_mem _ member)
      unfold visitEach
      by_cases active : vertex ∈ colours.active
      · rw [if_pos active]
        refine ⟨nofun, ?_⟩
        intro found result
        cases result
        exact ⟨plain _ _ arc, Relation.TransGen.tail' (path vertex active) arc⟩
      · rw [if_neg active]
        by_cases done : vertex ∈ colours.done
        · rw [if_pos done]
          have later := visitEach_spec plain visits rest colours settled arcsRest path enough
          have head : Searched arcs colours [vertex] colours :=
            ⟨settled, rfl, fun _ member => member, List.cons_subset.mpr ⟨done, List.nil_subset _⟩⟩
          exact ⟨fun result => head.cons (later.silent result), later.loud⟩
        · rw [if_neg done]
          have fresh : ¬ colours.Visited vertex := fun visited => visited.elim active done
          have spec := visits colours vertex settled fresh
            (fun other member => (path other member).tail arc) enough
          dsimp only
          by_cases silent : (visit colours vertex).2 = blank
          · rw [if_pos silent]
            have head := spec.1 silent
            have fewer := Nat.lt_of_le_of_lt
              (Colours.waiting_le head.active head.grows) enough
            have later := visitEach_spec plain visits rest _ head.settled arcsRest
              (head.active ▸ path) fewer
            exact ⟨fun result => head.cons (later.silent result), later.loud⟩
          · rw [if_neg silent]
            refine ⟨nofun, ?_⟩
            intro found result
            cases result
            exact ⟨silent, spec.2 silent⟩

private theorem visit_spec (plain : ∀ tail head, Arc arcs tail head → head ≠ blank) :
    ∀ rounds : Nat, Visits arcs blank rounds (visit arcs blank rounds)
  | 0 => fun _ _ _ _ _ enough => absurd enough (Nat.not_lt_zero _)
  | rounds + 1 => by
      intro colours vertex settled fresh path enough
      have entered : ∀ other ∈ (colours.enter vertex).active, Reaches arcs other vertex := by
        intro other member
        rcases List.mem_cons.mp member with equal | member
        · exact equal ▸ .refl
        · exact path other member
      have inner : VisitsEach arcs blank (colours.enter vertex) (successors arcs vertex)
          (visitEach (visit arcs blank rounds) blank (colours.enter vertex)
            (successors arcs vertex)) := by
        have arcsOut : ∀ other ∈ successors arcs vertex, Arc arcs vertex other :=
          fun other member => mem_successors.mp member
        -- A vertex without successors may be visited in the last round.
        cases heads : successors arcs vertex with
        | nil =>
            refine ⟨fun _ => ⟨settled.enter fresh, rfl, fun _ member => member,
              List.nil_subset _⟩, ?_⟩
            intro found result
            cases result
        | cons head rest =>
            rw [heads] at arcsOut
            have fewer := Colours.waiting_enter_lt fresh (arcsOut head List.mem_cons_self)
            exact visitEach_spec plain (visit_spec plain rounds) _ _ (settled.enter fresh) arcsOut
              entered (Nat.lt_of_lt_of_le fewer (Nat.le_of_lt_succ enough))
      unfold visit
      cases result : visitEach (visit arcs blank rounds) blank (colours.enter vertex)
          (successors arcs vertex) with
      | mk after found =>
          rw [result] at inner
          cases found with
          | some found =>
              have loud := inner.loud found rfl
              exact ⟨fun silent => absurd silent loud.1, fun _ => loud.2⟩
          | none =>
              refine ⟨fun _ => ?_, fun loud => absurd rfl loud⟩
              have searched := inner.silent rfl
              have member : vertex ∈ after.active := searched.active ▸ List.mem_cons_self
              have notActive : vertex ∉ colours.active := fun active => fresh (.inl active)
              refine ⟨searched.settled.leave member ?_, ?_, ?_, ?_⟩
              · exact fun other arc => searched.done (mem_successors.mpr arc)
              · have active : after.active = vertex :: colours.active := searched.active
                simp only [Colours.leave, active, List.filter_cons, ne_eq, not_true,
                  decide_false, Bool.false_eq_true, if_false]
                apply List.filter_eq_self.mpr
                intro other member
                exact decide_eq_true fun equal => notActive (equal ▸ member)
              · exact fun _ member => List.mem_cons_of_mem _ (searched.grows member)
              · exact List.cons_subset.mpr ⟨List.mem_cons_self, List.nil_subset _⟩

private theorem visitAll_spec (plain : ∀ tail head, Arc arcs tail head → head ≠ blank)
    {rounds : Nat} : ∀ (order : List α) (colours : Colours α), colours.Settled arcs →
      colours.active = [] → colours.waiting arcs < rounds →
      (visitAll arcs blank rounds colours order = blank →
        ∃ after, Searched arcs colours order after) ∧
      (visitAll arcs blank rounds colours order ≠ blank →
        Cycles arcs (visitAll arcs blank rounds colours order))
  | [], colours, settled, _, _ =>
      ⟨fun _ => ⟨colours, settled, rfl, fun _ member => member, List.nil_subset _⟩,
        fun loud => absurd rfl loud⟩
  | vertex :: rest, colours, settled, idle, enough => by
      unfold visitAll
      by_cases visited : colours.Visited vertex
      · rw [if_pos visited]
        have done : vertex ∈ colours.done :=
          visited.resolve_left (idle ▸ List.not_mem_nil)
        have head : Searched arcs colours [vertex] colours :=
          ⟨settled, rfl, fun _ member => member, List.cons_subset.mpr ⟨done, List.nil_subset _⟩⟩
        have later := visitAll_spec plain rest colours settled idle enough
        refine ⟨?_, later.2⟩
        intro silent
        rcases later.1 silent with ⟨after, searched⟩
        exact ⟨after, head.cons searched⟩
      · rw [if_neg visited]
        have alone : ∀ other ∈ colours.active, Reaches arcs other vertex := by
          intro other member
          rw [idle] at member
          cases member
        have spec := visit_spec plain rounds colours vertex settled visited alone enough
        dsimp only
        by_cases silent : (visit arcs blank rounds colours vertex).2 = blank
        · have head := spec.1 silent
          have fewer := Nat.lt_of_le_of_lt
            (Colours.waiting_le head.active head.grows) enough
          have later := visitAll_spec plain rest _ head.settled (head.active.trans idle) fewer
          simp only [if_pos silent]
          refine ⟨?_, later.2⟩
          intro silentRest
          rcases later.1 silentRest with ⟨after, searched⟩
          exact ⟨after, head.cons searched⟩
        · simp only [if_neg silent]
          exact ⟨fun quiet => absurd quiet silent, spec.2⟩

end Visit

/-- The reported vertex lies on a cycle, and none is reported only when there
is no cycle. -/
theorem loopVertex_spec {arcs : List (α × α)} {blank : α}
    (plain : ∀ tail head, Arc arcs tail head → head ≠ blank) :
    (loopVertex arcs blank = blank → Acyclic arcs) ∧
      (loopVertex arcs blank ≠ blank → Cycles arcs (loopVertex arcs blank)) := by
  have settled : (Colours.mk [] [] : Colours α).Settled arcs := ⟨nofun, nofun, nofun⟩
  have enough : (Colours.mk [] [] : Colours α).waiting arcs < arcs.length + 1 :=
    Nat.lt_succ_of_le (List.length_filter_le _ _)
  have spec := visitAll_spec plain (arcs.map Prod.fst).eraseDups _ settled rfl enough
  refine ⟨?_, spec.2⟩
  intro silent vertex cycle
  rcases spec.1 silent with ⟨after, searched⟩
  rcases Relation.TransGen.head'_iff.mp cycle with ⟨other, arc, _⟩
  have source : vertex ∈ arcs.map Prod.fst := List.mem_map_of_mem arc
  exact searched.settled.acyclic vertex
    (searched.done (List.mem_eraseDups.mpr source)) cycle

theorem loopVertex_eq_blank_iff {arcs : List (α × α)} {blank : α}
    (plain : ∀ tail head, Arc arcs tail head → head ≠ blank) :
    loopVertex arcs blank = blank ↔ Acyclic arcs := by
  have spec := loopVertex_spec plain
  constructor
  · exact spec.1
  · intro acyclic
    by_contra loud
    exact acyclic _ (spec.2 loud)

end HomelabBuilder.Arcs
