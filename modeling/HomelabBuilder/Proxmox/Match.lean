import Mathlib.Algebra.Order.Field.Rat
import Mathlib.Data.Prod.Lex
import Mathlib.Data.Rat.Floor
import Mathlib.Data.String.Basic
import Mathlib.Tactic.GCongr
import Mathlib.Tactic.Linarith
import Mathlib.Tactic.Positivity
import HomelabBuilder.Proxmox.Snapshot

/-! # Suggestions

`match.go`: which machines of the inventory a host could be. The result is a
suggestion with the reasons behind it, best first.
-/

namespace HomelabBuilder.Proxmox

structure Candidate where
  id : String
  name : String
  notes : String := ""
  cpuModel : String := ""
  cores : Int := 0
  threads : Int := 0
  ramGB : Rat := 0
  macs : List String := []
  /-- The host this item is already linked to in this integration. -/
  linkedNode : String := ""
  linkedElsewhere : Bool := false

inductive Signal
  | linked
  | mac
  | cpu
  | memory
  | threads
  | name
  | tie
  deriving DecidableEq

/-- One piece of evidence for or against a match. -/
structure Reason where
  signal : Signal
  agrees : Bool
  text : String
  deriving DecidableEq

structure Suggestion where
  itemID : String
  itemName : String
  confidence : Int
  reasons : List Reason
  deriving DecidableEq

def Signal.weight : Signal → Nat
  | .linked => 1000
  | .mac => 1000
  | .cpu => 45
  | .memory => 25
  | .threads => 15
  | .name => 10
  | .tie => 0

def minConfidence : Int := 40
def maxInferred : Int := 98
def maxThinEvidence : Int := 60
def maxSuggestions : Nat := 3

/-! ## Evidence -/

/-- Whether addresses are known on both sides, and whether one is shared. -/
def sharesMAC (reader : Reader) (node : Node) (macs : List String) : Bool × Bool :=
  let hostMACs := (node.interfaces.filter fun card => card.mac ≠ "").map fun card =>
    reader.toUpper card.mac
  if hostMACs = [] ∨ macs = [] then (false, false)
  else (true, macs.any fun mac => reader.toUpper mac ∈ hostMACs)

/-- The nearest tenth in digits, ties to even. -/
def oneDecimal (value : Rat) : String :=
  let scaled := value * 10
  let low := scaled.floor
  let tenths :=
    if scaled - low < 1 / 2 ∨ (scaled - low = 1 / 2 ∧ low % 2 = 0) then low else low + 1
  toString (tenths / 10) ++ "." ++ toString (tenths % 10)

def gb (value : Rat) : String :=
  if value.den = 1 then toString value.num ++ " GB" else oneDecimal value ++ " GB"

def cpuReasons (reader : Reader) (node : Node) (candidate : Candidate) : List Reason :=
  let hostCPU := reader.cpuKey node.cpuModel
  let itemCPU := reader.cpuKey candidate.cpuModel
  if hostCPU = "" ∨ itemCPU = "" then []
  else if hostCPU = itemCPU then
    [⟨.cpu, true, "Same processor: " ++ candidate.cpuModel ++ "."⟩]
  else [⟨.cpu, false, "Different processor: the host has " ++ node.cpuModel ++ "."⟩]

def memoryReasons (reader : Reader) (node : Node) (candidate : Candidate) : List Reason :=
  if node.memoryMB ≤ 0 ∨ candidate.ramGB ≤ 0 then []
  else
    let shown := gb (shownGB node.memoryMB)
    if memoryFits reader node.memoryMB candidate.ramGB then
      [⟨.memory, true, "Same memory: " ++ gb candidate.ramGB ++ " (the host shows " ++ shown ++ ")."⟩]
    else
      [⟨.memory, false, "Different memory: " ++ gb candidate.ramGB ++ " against " ++ shown ++
        " on the host."⟩]

/-- Where only the cores are noted, they fit a host with that many cores, with or
without two threads on each. -/
def threadReasons (node : Node) (candidate : Candidate) : List Reason :=
  if 0 < node.threads ∧ 0 < candidate.threads then
    if node.threads = candidate.threads then
      [⟨.threads, true, "Same number of threads: " ++ toString node.threads ++ "."⟩]
    else
      [⟨.threads, false, "Different number of threads: " ++ toString candidate.threads ++
        " against " ++ toString node.threads ++ " on the host."⟩]
  else if 0 < candidate.cores ∧ (0 < node.cores ∨ 0 < node.threads) then
    if candidate.cores = node.cores ∨ candidate.cores = node.threads ∨
        candidate.cores * 2 = node.threads then
      [⟨.threads, true, "Same number of cores: " ++ toString candidate.cores ++ "."⟩]
    else
      [⟨.threads, false, "Different number of cores: " ++ toString candidate.cores ++
        " noted, the host has " ++ toString node.threads ++ " threads."⟩]
  else []

def nameReasons (node : Node) (candidate : Candidate) : List Reason :=
  let host := normalizeName node.name
  if 3 ≤ host.length ∧ (contains (normalizeName candidate.name) host ∨
      contains (normalizeName candidate.notes) host) then
    [⟨.name, true, "The item mentions the host name " ++ node.name ++ "."⟩]
  else []

def considered (reasons : List Reason) : Nat := (reasons.map fun reason => reason.signal.weight).sum

def agreeing (reasons : List Reason) : Nat := considered (reasons.filter Reason.agrees)

def atMost (bound confidence : Int) : Int := if bound < confidence then bound else confidence

/-- How sure the figures make a match. Evidence short of a hardware address is never
certain, and one figure alone fits many machines. -/
def inferred (considered agreeing : Nat) : Int :=
  if considered = 0 then 0
  else
    let confidence := roundHalfAway (100 * agreeing / considered)
    atMost maxInferred
      (if considered < Signal.cpu.weight then atMost maxThinEvidence confidence else confidence)

/-- What `score` returns: two candidates as sure as each other are told apart by the
strength. -/
structure Score where
  confidence : Int
  strength : Nat
  reasons : List Reason

def score (reader : Reader) (node : Node) (candidate : Candidate) : Score :=
  if candidate.linkedNode = node.name ∧ node.name ≠ "" then
    ⟨100, 1000, [⟨.linked, true, "You linked them before."⟩]⟩
  else
    match sharesMAC reader node candidate.macs with
    | (true, true) =>
        ⟨100, 1000, [⟨.mac, true, "A network card has the same hardware address."⟩]⟩
    | (true, false) =>
        ⟨15, 0, [⟨.mac, false, "No network card has a hardware address noted for this item."⟩]⟩
    | (false, _) =>
        let reasons := cpuReasons reader node candidate ++ memoryReasons reader node candidate ++
          threadReasons node candidate ++ nameReasons node candidate
        ⟨inferred (considered reasons) (agreeing reasons), agreeing reasons, reasons⟩

/-! ## Ranking -/

/-- Items that already stand for another machine are left out, and matches that are
not worth showing. -/
def fitting (reader : Reader) (node : Node) (candidate : Candidate) : Option (Suggestion × Nat) :=
  if candidate.linkedElsewhere ∨
      (candidate.linkedNode ≠ "" ∧ candidate.linkedNode ≠ node.name) then none
  else
    let scored := score reader node candidate
    if scored.confidence < minConfidence then none
    else some (⟨candidate.id, candidate.name, scored.confidence, scored.reasons⟩, scored.strength)

/-- `strength[id]`: of two entries for an id the later one counts. -/
def strengthOf (fitted : List (Suggestion × Nat)) (id : String) : Nat :=
  ((fitted.reverse.find? fun entry => entry.1.itemID = id).map Prod.snd).getD 0

def ranksBefore (strength : String → Nat) (left right : Suggestion) : Bool :=
  if left.confidence ≠ right.confidence then right.confidence < left.confidence
  else if strength left.itemID ≠ strength right.itemID then
    strength right.itemID < strength left.itemID
  else left.itemName < right.itemName

/-- Whether the figures of a suggestion do not tell it from the best one. -/
def tied (strength : String → Nat) (best suggestion : Suggestion) : Bool :=
  best.confidence - suggestion.confidence < 5 &&
    (strength best.itemID : Int) - strength suggestion.itemID < Signal.name.weight

def Suggestion.unsure (suggestion : Suggestion) : Suggestion :=
  { suggestion with
    confidence := if 70 < suggestion.confidence then 70 else suggestion.confidence
    reasons := suggestion.reasons ++
      [⟨.tie, false, "Another item fits just as well; pick the one that is this machine."⟩] }

/-- Two machines of the same model cannot be told apart by their figures. The loop
stops at the first suggestion that is not tied. -/
def lowerTied (strength : String → Nat) (best : Suggestion) : List Suggestion → List Suggestion
  | [] => []
  | suggestion :: rest =>
      if tied strength best suggestion then suggestion.unsure :: lowerTied strength best rest
      else suggestion :: rest

def settleTies (strength : String → Nat) : List Suggestion → List Suggestion
  | best :: second :: rest =>
      if best.confidence < 100 ∧ tied strength best second then
        lowerTied strength best (best :: second :: rest)
      else best :: second :: rest
  | few => few

def suggest (reader : Reader) (node : Node) (candidates : List Candidate) : List Suggestion :=
  let fitted := candidates.filterMap (fitting reader node)
  let strength := strengthOf fitted
  let ranked := (fitted.map Prod.fst).insertionSort fun left right =>
    ranksBefore strength right left = false
  (settleTies strength ranked).take maxSuggestions

end HomelabBuilder.Proxmox

/-! # Best first

What the order of suggestions says about the evidence for them.
-/

namespace HomelabBuilder.Proxmox

/-- Suggestions ordered by how sure they are, and no suggestion surer than one with
more evidence of the same weight in all. -/
structure BestFirst (suggestions : List Suggestion) : Prop where
  ordered : suggestions.Pairwise fun left right => right.confidence ≤ left.confidence
  evidence : ∀ left ∈ suggestions, ∀ right ∈ suggestions,
    considered left.reasons = considered right.reasons →
      agreeing left.reasons < agreeing right.reasons → left.confidence ≤ right.confidence

/-! ## Evidence and confidence -/

theorem considered_append (reasons more : List Reason) :
    considered (reasons ++ more) = considered reasons + considered more := by
  rw [considered, List.map_append, List.sum_append]
  rfl

theorem agreeing_append (reasons more : List Reason) :
    agreeing (reasons ++ more) = agreeing reasons + agreeing more := by
  rw [agreeing, List.filter_append, considered_append]
  rfl

theorem agreeing_le_considered (reasons : List Reason) : agreeing reasons ≤ considered reasons := by
  induction reasons with
  | nil => exact le_refl 0
  | cons reason rest induction =>
      have head := considered_append [reason] rest
      have first := agreeing_append [reason] rest
      have one : agreeing [reason] ≤ considered [reason] := by
        rcases reason with ⟨signal, agrees, text⟩
        cases agrees
        · exact Nat.zero_le _
        · exact le_refl _
      rw [List.singleton_append] at head first
      omega

theorem roundHalfAway_mono {left right : Rat} (nonneg : 0 ≤ left) (le : left ≤ right) :
    roundHalfAway left ≤ roundHalfAway right := by
  rw [roundHalfAway, roundHalfAway, if_pos nonneg, if_pos (le_trans nonneg le)]
  exact Rat.floor_monotone (by linarith)

theorem atMost_mono (bound : Int) {left right : Int} (le : left ≤ right) :
    atMost bound left ≤ atMost bound right := by
  unfold atMost
  split <;> split <;> omega

theorem atMost_le (bound confidence : Int) : atMost bound confidence ≤ bound := by
  unfold atMost
  split <;> omega

theorem inferred_mono (considered : Nat) {less more : Nat} (le : less ≤ more) :
    inferred considered less ≤ inferred considered more := by
  unfold inferred
  by_cases none : considered = 0
  · rw [if_pos none, if_pos none]
  · have positive : (0 : Rat) < considered := by exact_mod_cast Nat.pos_of_ne_zero none
    have rounded : roundHalfAway (100 * less / considered) ≤
        roundHalfAway (100 * more / considered) := by
      apply roundHalfAway_mono
      · positivity
      · gcongr
    rw [if_neg none, if_neg none]
    apply atMost_mono
    split
    · exact atMost_mono _ rounded
    · exact rounded

theorem inferred_le (considered agreeing : Nat) : inferred considered agreeing ≤ 98 := by
  unfold inferred
  split
  · decide
  · exact atMost_le ..

/-- A suggestion as sure as its reasons make it: certain, or weighed. -/
def Weighed (suggestion : Suggestion) : Prop :=
  (suggestion.confidence = 100 ∧
    agreeing suggestion.reasons = considered suggestion.reasons) ∨
  suggestion.confidence = inferred (considered suggestion.reasons) (agreeing suggestion.reasons)

theorem weighed_of_fitting {reader : Reader} {node : Node} {candidate : Candidate}
    {suggestion : Suggestion} {strength : Nat}
    (fits : fitting reader node candidate = some (suggestion, strength)) : Weighed suggestion := by
  unfold fitting at fits
  split at fits
  · cases fits
  · dsimp only at fits
    split at fits
    · cases fits
    · rename_i worth
      cases fits
      unfold score at worth ⊢
      split
      · exact .inl ⟨rfl, rfl⟩
      · rename_i unlinked
        rw [if_neg unlinked] at worth
        rcases shared : sharesMAC reader node candidate.macs with ⟨known, same⟩
        rw [shared] at worth
        cases known with
        | false => exact .inr rfl
        | true =>
            cases same with
            | true => exact .inl ⟨rfl, rfl⟩
            | false =>
                have low : (15 : Int) < minConfidence := by decide
                exact absurd low worth

theorem Weighed.mono {left right : Suggestion} (leftWeighed : Weighed left)
    (rightWeighed : Weighed right) (same : considered left.reasons = considered right.reasons)
    (less : agreeing left.reasons < agreeing right.reasons) :
    left.confidence ≤ right.confidence := by
  rcases leftWeighed with ⟨_, all⟩ | leftInferred
  · have most := agreeing_le_considered right.reasons
    omega
  · have low := inferred_le (considered left.reasons) (agreeing left.reasons)
    rcases rightWeighed with ⟨certain, _⟩ | rightInferred
    · omega
    · rw [leftInferred, rightInferred, same]
      exact inferred_mono _ less.le

/-! ## Ties -/

@[simp] theorem considered_unsure (suggestion : Suggestion) :
    considered suggestion.unsure.reasons = considered suggestion.reasons :=
  considered_append _ _

@[simp] theorem agreeing_unsure (suggestion : Suggestion) :
    agreeing suggestion.unsure.reasons = agreeing suggestion.reasons :=
  agreeing_append _ _

theorem confidence_unsure (suggestion : Suggestion) :
    suggestion.unsure.confidence = min suggestion.confidence 70 := by
  unfold Suggestion.unsure
  dsimp only
  split <;> omega

theorem tied_self (strength : String → Nat) (best : Suggestion) : tied strength best best = true := by
  simp [tied, Signal.weight]

/-- Lowering the first suggestions keeps the order where the others are no surer than
they can be afterwards. -/
theorem bestFirst_lowered (lowered kept : List Suggestion)
    (weighed : ∀ suggestion ∈ lowered ++ kept, Weighed suggestion)
    (sorted : (lowered ++ kept).Pairwise fun left right => right.confidence ≤ left.confidence)
    (low : lowered ≠ [] → ∀ suggestion ∈ kept, suggestion.confidence ≤ 70) :
    BestFirst (lowered.map Suggestion.unsure ++ kept) := by
  rw [List.pairwise_append] at sorted
  have below : ∀ left ∈ lowered, ∀ right ∈ kept,
      right.confidence ≤ left.unsure.confidence := by
    intro left leftListed right rightListed
    rw [confidence_unsure]
    exact le_min (sorted.2.2 left leftListed right rightListed)
      (low (List.ne_nil_of_mem leftListed) right rightListed)
  constructor
  · rw [List.pairwise_append]
    refine ⟨?_, sorted.2.1, ?_⟩
    · rw [List.pairwise_map]
      apply sorted.1.imp
      intro left right le
      rw [confidence_unsure, confidence_unsure]
      exact min_le_min_right 70 le
    · intro left leftListed right rightListed
      rcases List.mem_map.mp leftListed with ⟨suggestion, listed, rfl⟩
      exact below suggestion listed right rightListed
  · intro left leftListed right rightListed same less
    rcases List.mem_append.mp leftListed with leftLowered | leftKept
    · rcases List.mem_map.mp leftLowered with ⟨left, leftFirst, rfl⟩
      rw [considered_unsure] at same
      rw [agreeing_unsure] at less
      have leftWeighed := weighed left (List.mem_append_left _ leftFirst)
      rcases List.mem_append.mp rightListed with rightLowered | rightKept
      · rcases List.mem_map.mp rightLowered with ⟨right, rightFirst, rfl⟩
        rw [considered_unsure] at same
        rw [agreeing_unsure] at less
        have le := leftWeighed.mono (weighed right (List.mem_append_left _ rightFirst)) same less
        rw [confidence_unsure, confidence_unsure]
        exact min_le_min_right 70 le
      · have le := leftWeighed.mono (weighed right (List.mem_append_right _ rightKept)) same less
        rw [confidence_unsure]
        exact le_trans (min_le_left ..) le
    · rcases List.mem_append.mp rightListed with rightLowered | rightKept
      · rcases List.mem_map.mp rightLowered with ⟨right, rightFirst, rfl⟩
        exact below right rightFirst left leftKept
      · exact (weighed left (List.mem_append_right _ leftKept)).mono
          (weighed right (List.mem_append_right _ rightKept)) same less

/-! ## The third best -/

/-- Left is as sure as right and has as much evidence. -/
def NotBelow (strength : String → Nat) (left right : Suggestion) : Prop :=
  right.confidence < left.confidence ∨
    (right.confidence = left.confidence ∧ strength right.itemID ≤ strength left.itemID)

/-- The second best is tied with the best, the third best is not and yet surer than
tied ones are made. -/
structure Overtakes (strength : String → Nat) (best second third : Suggestion) : Prop where
  uncertain : best.confidence < 100
  tie : tied strength best second = true
  apart : tied strength best third = false
  sure : 70 < third.confidence

def Overtaken (reader : Reader) (node : Node) (candidates : List Candidate) : Prop :=
  let fitted := candidates.filterMap (fitting reader node)
  let strength := strengthOf fitted
  ∃ best second third rest, (fitted.map Prod.fst).Perm (best :: second :: third :: rest) ∧
    (best :: second :: third :: rest).Pairwise (NotBelow strength) ∧
    Overtakes strength best second third

section

variable {strength : String → Nat}

theorem notBelow_of_ranksBefore {left right : Suggestion}
    (not_before : ranksBefore strength right left = false) : NotBelow strength left right := by
  unfold ranksBefore at not_before
  unfold NotBelow
  split at not_before
  · rename_i different
    exact .inl (lt_of_le_of_ne (not_lt.mp (of_decide_eq_false not_before)) different)
  · rename_i same
    split at not_before
    · exact .inr ⟨not_not.mp same, not_lt.mp (of_decide_eq_false not_before)⟩
    · rename_i alike
      exact .inr ⟨not_not.mp same, (not_not.mp alike).le⟩

/-- The order suggestions are sorted by, as an order of its own. -/
def rank (strength : String → Nat) (suggestion : Suggestion) : Int ×ₗ Int ×ₗ String :=
  toLex (-suggestion.confidence, toLex (-(strength suggestion.itemID : Int), suggestion.itemName))

theorem ranksBefore_eq_false_iff {left right : Suggestion} :
    ranksBefore strength right left = false ↔ rank strength left ≤ rank strength right := by
  unfold ranksBefore rank
  rw [Prod.Lex.toLex_le_toLex, Prod.Lex.toLex_le_toLex]
  split
  · rename_i different
    rw [decide_eq_false_iff_not]
    omega
  · rename_i same
    split
    · rename_i different
      rw [decide_eq_false_iff_not]
      omega
    · rename_i alike
      rw [decide_eq_false_iff_not, not_lt, not_not.mp same, not_not.mp alike]
      simp

/-- The suggestions in the order they are settled in. -/
def ranked (reader : Reader) (node : Node) (candidates : List Candidate) : List Suggestion :=
  let fitted := candidates.filterMap (fitting reader node)
  (fitted.map Prod.fst).insertionSort fun left right =>
    ranksBefore (strengthOf fitted) right left = false

theorem pairwise_ranked (reader : Reader) (node : Node) (candidates : List Candidate) :
    (ranked reader node candidates).Pairwise
      (NotBelow (strengthOf (candidates.filterMap (fitting reader node)))) := by
  unfold ranked
  dsimp only
  generalize strengthOf (candidates.filterMap (fitting reader node)) = strength
  have total : Std.Total fun left right : Suggestion => ranksBefore strength right left = false :=
    ⟨fun left right => by
      rw [ranksBefore_eq_false_iff, ranksBefore_eq_false_iff]
      exact le_total _ _⟩
  have transitive : IsTrans Suggestion fun left right => ranksBefore strength right left = false :=
    ⟨fun left middle right => by
      rw [ranksBefore_eq_false_iff, ranksBefore_eq_false_iff, ranksBefore_eq_false_iff]
      exact le_trans⟩
  exact (List.pairwise_insertionSort _ _).imp notBelow_of_ranksBefore

/-- Where two lists of the same suggestions are sorted, equal ranks are equally sure
and have as much evidence. -/
theorem keys_eq_of_perm {left right : List Suggestion} (perm : left.Perm right)
    (leftSorted : left.Pairwise (NotBelow strength))
    (rightSorted : right.Pairwise (NotBelow strength)) :
    left.map (fun suggestion => (suggestion.confidence, strength suggestion.itemID)) =
      right.map fun suggestion => (suggestion.confidence, strength suggestion.itemID) := by
  have sorted : ∀ {suggestions : List Suggestion}, suggestions.Pairwise (NotBelow strength) →
      (suggestions.map fun suggestion => (suggestion.confidence, strength suggestion.itemID)).Pairwise
        fun above below : Int × Nat => below.1 < above.1 ∨ (below.1 = above.1 ∧ below.2 ≤ above.2) :=
    fun sorted => List.pairwise_map.mpr sorted
  apply List.Perm.eq_of_pairwise _ (sorted leftSorted) (sorted rightSorted) (perm.map _)
  rintro ⟨confidence, strength⟩ ⟨other, otherStrength⟩ _ _ above below
  rw [Prod.mk.injEq]
  dsimp only at above below
  omega

theorem tied_congr {best best' suggestion suggestion' : Suggestion}
    (bestKey : (best.confidence, strength best.itemID) = (best'.confidence, strength best'.itemID))
    (key : (suggestion.confidence, strength suggestion.itemID) =
      (suggestion'.confidence, strength suggestion'.itemID)) :
    tied strength best suggestion = tied strength best' suggestion' := by
  rw [Prod.mk.injEq] at bestKey key
  rw [tied, tied, bestKey.1, bestKey.2, key.1, key.2]

end

/-! ## Suggestions best first -/

theorem bestFirst_settled {strength : String → Nat} {suggestions : List Suggestion}
    (weighed : ∀ suggestion ∈ suggestions, Weighed suggestion)
    (sorted : suggestions.Pairwise (NotBelow strength))
    (free : ∀ best second third rest, suggestions = best :: second :: third :: rest →
      ¬Overtakes strength best second third) :
    BestFirst ((settleTies strength suggestions).take 3) := by
  have surer : suggestions.Pairwise fun left right => right.confidence ≤ left.confidence := by
    apply sorted.imp
    intro left right above
    unfold NotBelow at above
    omega
  have first : ∀ suggestion ∈ suggestions.take 3, Weighed suggestion :=
    fun suggestion listed => weighed suggestion (List.mem_of_mem_take listed)
  have inOrder := surer.take (i := 3)
  match suggestions, first, inOrder, free with
  | [], first, inOrder, _ => exact bestFirst_lowered [] [] first inOrder nofun
  | [only], first, inOrder, _ => exact bestFirst_lowered [] [only] first inOrder nofun
  | best :: second :: rest, first, inOrder, free =>
      rw [settleTies]
      by_cases lower : best.confidence < 100 ∧ tied strength best second = true
      · rw [if_pos lower, lowerTied, if_pos (tied_self _ _), lowerTied, if_pos lower.2]
        cases rest with
        | nil => exact bestFirst_lowered [best, second] [] first inOrder nofun
        | cons third more =>
            rw [lowerTied]
            cases apart : tied strength best third with
            | true =>
                exact bestFirst_lowered [best, second, third] [] first inOrder nofun
            | false =>
                apply bestFirst_lowered [best, second] [third] first inOrder
                rintro - suggestion listed
                cases List.mem_singleton.mp listed
                by_contra sure
                exact free best second third more rfl
                  ⟨lower.1, lower.2, apart, not_le.mp sure⟩
      · rw [if_neg lower]
        exact bestFirst_lowered [] _ first inOrder nofun

section

variable (reader : Reader) (node : Node) (candidates : List Candidate)

theorem weighed_of_mem_ranked {suggestion : Suggestion}
    (listed : suggestion ∈ ranked reader node candidates) : Weighed suggestion := by
  rcases List.mem_map.mp ((List.mem_insertionSort _).mp listed) with ⟨⟨_, strength⟩, fits, rfl⟩
  rcases List.mem_filterMap.mp fits with ⟨candidate, _, fitted⟩
  exact weighed_of_fitting fitted

theorem bestFirst_of_not_overtaken (free : ¬Overtaken reader node candidates) :
    BestFirst (suggest reader node candidates) := by
  apply bestFirst_settled
  · exact fun suggestion listed => weighed_of_mem_ranked reader node candidates listed
  · exact pairwise_ranked reader node candidates
  · intro best second third rest split overtakes
    refine free ⟨best, second, third, rest, ?_, ?_, overtakes⟩
    · rw [← split]
      exact (List.perm_insertionSort _ _).symm
    · rw [← split]
      exact pairwise_ranked reader node candidates

theorem not_bestFirst_of_overtaken (overtaken : Overtaken reader node candidates) :
    ¬BestFirst (suggest reader node candidates) := by
  rcases overtaken with ⟨best, second, third, rest, arranged, sorted, overtakes⟩
  have perm : (ranked reader node candidates).Perm (best :: second :: third :: rest) :=
    (List.perm_insertionSort _ _).trans arranged
  have keys := keys_eq_of_perm perm (pairwise_ranked reader node candidates) sorted
  change ¬BestFirst ((settleTies _ (ranked reader node candidates)).take 3)
  generalize ranked reader node candidates = suggestions at keys
  rcases List.map_eq_cons_iff.mp keys with ⟨first, tail, rfl, firstKey, tailKeys⟩
  rcases List.map_eq_cons_iff.mp tailKeys with ⟨next, more, rfl, nextKey, moreKeys⟩
  rcases List.map_eq_cons_iff.mp moreKeys with ⟨last, others, rfl, lastKey, _⟩
  have tie := (tied_congr firstKey nextKey).trans overtakes.tie
  have apart := (tied_congr firstKey lastKey).trans overtakes.apart
  have uncertain : first.confidence < 100 := by
    rw [(Prod.mk.inj firstKey).1]
    exact overtakes.uncertain
  have sure : 70 < last.confidence := by
    rw [(Prod.mk.inj lastKey).1]
    exact overtakes.sure
  rw [settleTies, if_pos ⟨uncertain, tie⟩, lowerTied, if_pos (tied_self _ _), lowerTied,
    if_pos tie, lowerTied, if_neg (by rw [apart]; exact Bool.false_ne_true)]
  intro bestFirst
  have le := (List.pairwise_cons.mp (List.pairwise_cons.mp bestFirst.ordered).2).1 last
    List.mem_cons_self
  rw [confidence_unsure] at le
  omega

/-- The suggestions come best first exactly where no third best is left surer than two
tied ones are made. -/
theorem bestFirst_iff :
    BestFirst (suggest reader node candidates) ↔ ¬Overtaken reader node candidates :=
  ⟨fun best overtaken => not_bestFirst_of_overtaken reader node candidates overtaken best,
    bestFirst_of_not_overtaken reader node candidates⟩

end

/-! ### Two machines of one model -/

/-- Reads the one processor name below as the source does. -/
def plainReader : Reader where
  cpuKey model := if model = "N100" then "n100" else ""
  toUpper text := text
  times left right := left * right

def miniHost : Node where
  name := "pve"
  cpuModel := "N100"
  threads := 4
  memoryMB := 16000

def miniItem (id : String) (threads : Int) : Candidate where
  id := id
  name := "Mini " ++ id
  cpuModel := "N100"
  threads := threads
  ramGB := 16

theorem third_best_is_surest : ¬ ∀ (reader : Reader) (node : Node) (candidates : List Candidate),
    BestFirst (suggest reader node candidates) := by
  intro claim
  have best := claim plainReader miniHost [miniItem "a" 4, miniItem "b" 4, miniItem "c" 8]
  have confidences : (suggest plainReader miniHost
      [miniItem "a" 4, miniItem "b" 4, miniItem "c" 8]).map Suggestion.confidence =
        [70, 70, 82] := by decide +kernel
  have ordered : ([70, 70, 82] : List Int).Pairwise fun left right => right ≤ left := by
    rw [← confidences]
    exact List.pairwise_map.mpr best.ordered
  exact absurd ordered (by decide)

end HomelabBuilder.Proxmox
