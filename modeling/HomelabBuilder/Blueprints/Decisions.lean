import HomelabBuilder.Blueprints.Blueprint
import HomelabBuilder.Foundation.Rows
import HomelabBuilder.Foundation.Runs

/-! # Requests on hardware blueprints

The SQL statements of the requests, one at a time. Every statement is a transaction
of its own; `Save` updates all columns of the row.
-/

namespace HomelabBuilder.Blueprints

open Services (UUID)

inductive Call
  | create (userID : UUID) (input : BlueprintInput)
  | submitToCommunity (userID blueprintID : UUID)
  | moderate (blueprintID reviewerID : UUID) (input : ModerationInput)
  | createShareCode (userID blueprintID : UUID)
  /-- `Export`. -/
  | exportBlueprint (userID blueprintID : UUID)
  /-- `Import`. -/
  | importBlueprint (userID : UUID) (input : ImportInput)

/-- What a call decides about publication, if anything. -/
def Call.decision : Call → Option Decision
  | .submitToCommunity _ _ => some .submitted
  | .moderate _ _ input => input.decision
  | _ => none

inductive Request
  | loading (call : Call)
  /-- It has a row without share code and looks for a free one. -/
  | coding (call : Call) (id : UUID) (loaded : Blueprint) (tries : Nat)
  /-- It saves the row it has loaded and edited. -/
  | saving (call : Call) (id : UUID) (loaded edited : Blueprint)
  | inserting (blueprint : Blueprint)

/-- `First(&blueprint, "id = ? AND user_id = ?", …)`. -/
def ownBlueprint (blueprints : List (UUID × Blueprint)) (userID blueprintID : UUID) :
    Option Blueprint :=
  (blueprints.lookup blueprintID).filter fun blueprint => blueprint.userID = userID

structure Answer where
  blueprintID : UUID
  code : String

structure World where
  blueprints : List (UUID × Blueprint) := []
  requests : List (Nat × Request) := []
  -- For the record: committed decisions, the last one first, and codes in answers.
  decisions : List (UUID × Decision) := []
  answers : List Answer := []

inductive Event
  | receive (call : Call)
  | load (now : Int)
  /-- `ensureShareCode` makes a code and counts the rows that have it. -/
  | count (token : BitVec 64)
  | save
  | insert (id : UUID)
  /-- A statement fails, or the request is cancelled. -/
  | fail

namespace World

variable (casing : Casing) (world : World)

/-- `First(&source, "share_code = ?", …)`. The column is unique. -/
def resolve (code : String) : Option (UUID × Blueprint) :=
  world.blueprints.find? fun entry =>
    entry.2.shareCode = some (normalizeShareCode casing code)

def hasCode (code : String) : Bool :=
  world.blueprints.any fun entry => entry.2.shareCode = some code

def admits (id : UUID) (blueprint : Blueprint) : Bool :=
  world.blueprints.all fun entry =>
    entry.1 = id || blueprint.shareCode.isNone || entry.2.shareCode ≠ blueprint.shareCode

def continueWith (client : Nat) (request : Request) : World :=
  { world with requests := Table.set world.requests client request }

def finish (client : Nat) : World :=
  { world with requests := Table.erase world.requests client }

/-- The request is over and answers with the row. -/
def answer (client : Nat) (id : UUID) (blueprint : Blueprint) : World :=
  { world with
    requests := Table.erase world.requests client
    answers := (blueprint.shareCode.map (Answer.mk id)).toList ++ world.answers }

/-! ## Statements -/

/-- `ensureShareCode` up to its first statement. -/
def share (client : Nat) (call : Call) (id : UUID) (loaded : Blueprint) : World :=
  if loaded.givenCode.isSome then world.answer client id loaded
  else world.continueWith client (.coding call id loaded 0)

def load (client : Nat) (call : Call) (now : Int) : World :=
  match call with
  | .create userID input => world.continueWith client (.inserting (create casing userID input))
  | .submitToCommunity userID blueprintID =>
      match ownBlueprint world.blueprints userID blueprintID with
      | none => world.finish client
      | some loaded => world.continueWith client (.saving call blueprintID loaded loaded.submit)
  | .moderate blueprintID reviewerID input =>
      match (world.blueprints.lookup blueprintID).bind fun loaded =>
        (loaded.moderate reviewerID input now).map (loaded, ·) with
      | none => world.finish client
      | some (loaded, edited) => world.continueWith client (.saving call blueprintID loaded edited)
  | .createShareCode userID blueprintID | .exportBlueprint userID blueprintID =>
      match ownBlueprint world.blueprints userID blueprintID with
      | none => world.finish client
      | some loaded => world.share client call blueprintID loaded
  | .importBlueprint userID input =>
      let source :=
        if trimSpace input.importCode ≠ "" then
          (world.resolve casing input.importCode).map fun entry =>
            blueprintToExport entry.1 entry.2 now
        else input.blueprint
      match source.map (cloneImportedBlueprint casing userID) with
      | some (.ok blueprint) => world.continueWith client (.inserting blueprint)
      | _ => world.finish client

/-- One of eight tries to make a code nobody has. -/
def count (client : Nat) (call : Call) (id : UUID) (loaded : Blueprint) (tries : Nat)
    (token : BitVec 64) : World :=
  let code := blueprintShareCode token
  if world.hasCode code then
    if tries + 1 < 8 then world.continueWith client (.coding call id loaded (tries + 1))
    else world.finish client
  else world.continueWith client (.saving call id loaded { loaded with shareCode := some code })

def save (client : Nat) (call : Call) (id : UUID) (edited : Blueprint) : World :=
  if world.admits id edited then
    World.answer { world with
      blueprints := Table.set world.blueprints id edited
      decisions := (call.decision.map (id, ·)).toList ++ world.decisions } client id edited
  else world.finish client

def insert (client : Nat) (id : UUID) (blueprint : Blueprint) : Option World :=
  if (world.blueprints.lookup id).isSome then none
  else some (World.finish { world with
    blueprints := Table.set world.blueprints id blueprint } client)

def next (client : Nat) (event : Event) : Option World :=
  match event, world.requests.lookup client with
  | .receive call, none => some (world.continueWith client (.loading call))
  | .load now, some (.loading call) => some (world.load casing client call now)
  | .count token, some (.coding call id loaded tries) =>
      some (world.count client call id loaded tries token)
  | .save, some (.saving call id _ edited) => some (world.save client call id edited)
  | .insert id, some (.inserting blueprint) => world.insert client id blueprint
  | .fail, some _ => some (world.finish client)
  | _, _ => none

end World

end HomelabBuilder.Blueprints

/-! # Decisions and share codes that stick

Which saves keep a decision about publication and a share code that others have
committed since the row was loaded.
-/

namespace HomelabBuilder.Blueprints

open Runs (Reaches follow)
open Services (UUID)

namespace World

variable (casing : Casing) (world : World)

/-- The last decision holds, community blueprints are approved ones, and every code
in an answer still leads to its blueprint. -/
structure Sticks : Prop where
  community : ∀ id blueprint, world.blueprints.lookup id = some blueprint →
    blueprint.visibility = .community → world.decisions.lookup id = some .approved
  decided : ∀ id decision, world.decisions.lookup id = some decision →
    ∃ blueprint, world.blueprints.lookup id = some blueprint ∧
      blueprint.publication = decision.columns
  resolves : ∀ answer ∈ world.answers,
    ∃ blueprint, world.resolve casing answer.code = some (answer.blueprintID, blueprint)

/-- A save finds the share code as it was loaded. One that decides nothing finds the
publication as it was loaded too. -/
def findsLoaded (client : Nat) (event : Event) : Bool :=
  match event, world.requests.lookup client with
  | .save, some (.saving call id loaded _) =>
      (world.blueprints.lookup id).all fun stored =>
        stored.shareCode = loaded.shareCode &&
          (call.decision.isSome || stored.publication = loaded.publication)
  | _, _ => true

end World

/-- The worlds that requests reach from an empty table, in any order of statements. -/
abbrev Run (casing : Casing) (meets : World → Nat → Event → Prop) : World → Prop :=
  Reaches (fun world (step : Nat × Event) => world.next casing step.1 step.2)
    (fun world step => meets world step.1 step.2) {}

/-! ## Share codes -/

section

variable (casing : Casing) (token : BitVec 64)

theorem blueprintShareCode_chars {char : Char} (member : char ∈ (blueprintShareCode token).toList) :
    char ∈ "HLB-ABCDEFGHIJKLMNOPQRSTUVWXYZ234567".toList := by
  rw [blueprintShareCode, String.toList_append] at member
  rcases List.mem_append.mp member with start | digits
  · have inside : "HLB-".toList ⊆ "HLB-ABCDEFGHIJKLMNOPQRSTUVWXYZ234567".toList := by
      decide
    exact inside start
  · rw [encodeToString, String.toList_ofList] at digits
    rcases List.mem_map.mp digits with ⟨place, _, rfl⟩
    have inside : ∀ digit < 32, "ABCDEFGHIJKLMNOPQRSTUVWXYZ234567".toList.getD digit 'A' ∈
        "HLB-ABCDEFGHIJKLMNOPQRSTUVWXYZ234567".toList := by decide
    exact inside _ (Nat.mod_lt _ (by decide))

theorem normalizeShareCode_blueprintShareCode :
    normalizeShareCode casing (blueprintShareCode token) = blueprintShareCode token := by
  have letters : ("HLB-ABCDEFGHIJKLMNOPQRSTUVWXYZ234567".toList.all fun char =>
      isSpace char = false ∧ char.toNat < 0x80 ∧ char.toUpper = char) = true := by decide
  have plain : ∀ char ∈ "HLB-ABCDEFGHIJKLMNOPQRSTUVWXYZ234567".toList,
      isSpace char = false ∧ char.toNat < 0x80 ∧ char.toUpper = char := fun char member =>
    of_decide_eq_true (List.all_eq_true.mp letters char member)
  unfold normalizeShareCode Casing.upper
  rw [trimSpace_eq_self fun char member => (plain char (blueprintShareCode_chars token member)).1]
  have same : ∀ char ∈ (blueprintShareCode token).toList, casing.toUpper char = char := by
    intro char member
    rcases plain char (blueprintShareCode_chars token member) with ⟨_, ascii, upper⟩
    rw [casing.toUpper_ascii char ascii, upper]
  rw [List.map_congr_left same, List.map_id', String.ofList_toList]

theorem blueprintShareCode_ne_empty : blueprintShareCode token ≠ "" := by
  intro empty
  have start := congrArg String.toList empty
  rw [blueprintShareCode, String.toList_append] at start
  exact absurd (List.append_eq_nil_iff.mp start).1 (by decide)

end

/-- Its share code, if any, was made by `generateBlueprintShareCode`. -/
def Blueprint.Generated (blueprint : Blueprint) : Prop :=
  ∀ code, blueprint.shareCode = some code → ∃ token, code = blueprintShareCode token

theorem Blueprint.Generated.shareCode_eq_none {blueprint : Blueprint} (generated : blueprint.Generated)
    (missing : blueprint.givenCode = none) : blueprint.shareCode = none := by
  cases given : blueprint.shareCode with
  | none => rfl
  | some code =>
      rcases generated code given with ⟨token, rfl⟩
      rw [Blueprint.givenCode, given, Option.filter_some,
        if_pos (decide_eq_true (blueprintShareCode_ne_empty token))] at missing
      cases missing

/-! ## What requests read -/

theorem lookup_of_ownBlueprint {blueprints : List (UUID × Blueprint)} {userID id : UUID}
    {loaded : Blueprint} (found : ownBlueprint blueprints userID id = some loaded) :
    blueprints.lookup id = some loaded :=
  (Option.filter_eq_some_iff.mp found).1

theorem cloneImportedBlueprint_private {casing : Casing} {userID : UUID} {exported : BlueprintExport}
    {blueprint : Blueprint} (cloned : cloneImportedBlueprint casing userID exported = .ok blueprint) :
    blueprint.publication = (.private_, .none) ∧ blueprint.shareCode = none := by
  unfold cloneImportedBlueprint at cloned
  split at cloned
  · cases cloned
  · split at cloned
    · cases cloned
    · cases cloned
      exact ⟨rfl, rfl⟩

/-! ## The invariant -/

/-- The publication of a blueprint after its last decision. -/
def published : Option Decision → Visibility × ModerationStatus
  | none => (.private_, .none)
  | some decision => decision.columns

/-- What a request knows of the row it has read and edited. -/
def Request.Sound (blueprints : List (UUID × Blueprint)) : Request → Prop
  | .loading _ => True
  | .coding call id loaded _ =>
      (blueprints.lookup id).isSome ∧ call.decision = none ∧ loaded.shareCode = none
  | .saving call id loaded edited =>
      (blueprints.lookup id).isSome ∧ edited.Generated ∧
        match call.decision with
        | some decision =>
            edited.publication = decision.columns ∧ edited.shareCode = loaded.shareCode
        | none => edited.publication = loaded.publication ∧ loaded.shareCode = none
  | .inserting blueprint => blueprint.publication = (.private_, .none) ∧ blueprint.shareCode = none

structure Sound (world : World) : Prop where
  distinct : (world.blueprints.map Prod.fst).Nodup
  generated : ∀ id blueprint, world.blueprints.lookup id = some blueprint → blueprint.Generated
  unique : ∀ left right first second code, world.blueprints.lookup left = some first →
    world.blueprints.lookup right = some second → first.shareCode = some code →
      second.shareCode = some code → left = right
  current : ∀ id blueprint, world.blueprints.lookup id = some blueprint →
    blueprint.publication = published (world.decisions.lookup id)
  decided : ∀ id, (world.decisions.lookup id).isSome → (world.blueprints.lookup id).isSome
  answered : ∀ answer ∈ world.answers, ∃ blueprint,
    world.blueprints.lookup answer.blueprintID = some blueprint ∧
      blueprint.shareCode = some answer.code
  requests : ∀ client request, world.requests.lookup client = some request →
    request.Sound world.blueprints

theorem Sound.empty : Sound {} where
  distinct := List.nodup_nil
  generated _ _ found := by cases found
  unique _ _ _ _ _ found := by cases found
  current _ _ found := by cases found
  decided _ settled := by cases settled
  answered _ member := by cases member
  requests _ _ found := by cases found

theorem Request.Sound.mono {request : Request} {blueprints later : List (UUID × Blueprint)}
    (grows : ∀ id, (blueprints.lookup id).isSome → (later.lookup id).isSome)
    (sound : request.Sound blueprints) : request.Sound later := by
  cases request with
  | loading call => trivial
  | coding call id loaded tries => exact ⟨grows id sound.1, sound.2⟩
  | saving call id loaded edited => exact ⟨grows id sound.1, sound.2⟩
  | inserting blueprint => exact sound

section Steps

variable {casing : Casing} {world : World} (sound : Sound world) (client : Nat)

include sound

theorem Sound.continueWith {request : Request} (fits : request.Sound world.blueprints) :
    Sound (world.continueWith client request) where
  __ := sound
  requests := by
    intro other running found
    rw [World.continueWith, Table.lookup_set] at found
    split at found
    · cases found
      exact fits
    · exact sound.requests other running found

theorem Sound.finish : Sound (world.finish client) where
  __ := sound
  requests := by
    intro other running found
    rw [World.finish, Table.lookup_erase] at found
    split at found
    · cases found
    · exact sound.requests other running found

theorem Sound.answer {id : UUID} {blueprint : Blueprint}
    (stored : world.blueprints.lookup id = some blueprint) :
    Sound (world.answer client id blueprint) where
  __ := sound.finish client
  answered := by
    intro answer member
    rcases List.mem_append.mp member with named | earlier
    · rcases Option.mem_toList.mp named with named
      rcases Option.map_eq_some_iff.mp named with ⟨code, given, rfl⟩
      exact ⟨blueprint, stored, given⟩
    · exact sound.answered answer earlier

/-- A row is written that keeps the code others know, and that is published as the
last decision says. -/
theorem Sound.put {id : UUID} {blueprint : Blueprint} {decision : Option Decision}
    (generated : blueprint.Generated) (admitted : world.admits id blueprint = true)
    (kept : ∀ stored code, world.blueprints.lookup id = some stored →
      stored.shareCode = some code → blueprint.shareCode = some code)
    (columns : blueprint.publication = published (decision.or (world.decisions.lookup id))) :
    Sound { world with
      blueprints := Table.set world.blueprints id blueprint
      decisions := (decision.map (id, ·)).toList ++ world.decisions } := by
  have stored : ∀ other, (Table.set world.blueprints id blueprint).lookup other =
      if other = id then some blueprint else world.blueprints.lookup other :=
    fun other => Table.lookup_set world.blueprints id other blueprint
  have decisions : ∀ other, ((decision.map (id, ·)).toList ++ world.decisions).lookup other =
      if other = id then decision.or (world.decisions.lookup id)
      else world.decisions.lookup other := by
    intro other
    cases decision with
    | none =>
        rw [Option.map_none, Option.toList_none, List.nil_append, Option.none_or]
        split
        · rename_i same
          rw [same]
        · rfl
    | some decision =>
        change ((id, decision) :: world.decisions).lookup other = _
        rw [Table.lookup_cons]
        rfl
  -- No other row has the code, or the index would refuse the row.
  have alone : ∀ other row code, other ≠ id → world.blueprints.lookup other = some row →
      blueprint.shareCode = some code → row.shareCode ≠ some code := by
    intro other row code different found given same
    have refused := List.all_eq_true.mp admitted (other, row) (Table.mem_of_lookup found)
    simp [different, given, same] at refused
  have grows : ∀ other, (world.blueprints.lookup other).isSome →
      ((Table.set world.blueprints id blueprint).lookup other).isSome := by
    intro other present
    rw [stored]
    split
    · rfl
    · exact present
  constructor
  · exact Table.nodup_set sound.distinct id blueprint
  · intro other row found
    dsimp only at found
    rw [stored] at found
    split at found
    · cases found
      exact generated
    · exact sound.generated other row found
  · intro left right first second code leftFound rightFound leftCode rightCode
    dsimp only at leftFound rightFound
    rw [stored] at leftFound rightFound
    split at leftFound
    · rename_i leftHere
      cases leftFound
      split at rightFound
      · rename_i rightHere
        rw [leftHere, rightHere]
      · rename_i rightElsewhere
        exact absurd rightCode (alone right second code rightElsewhere rightFound leftCode)
    · rename_i leftElsewhere
      split at rightFound
      · cases rightFound
        exact absurd leftCode (alone left first code leftElsewhere leftFound rightCode)
      · exact sound.unique left right first second code leftFound rightFound leftCode rightCode
  · intro other row found
    dsimp only at found ⊢
    rw [stored] at found
    rw [decisions]
    split at found
    · rename_i here
      cases found
      rw [if_pos here, columns]
    · rename_i elsewhere
      rw [if_neg elsewhere]
      exact sound.current other row found
  · intro other settled
    dsimp only at settled ⊢
    rw [decisions] at settled
    split at settled
    · rename_i here
      rw [stored, if_pos here]
      rfl
    · exact grows other (sound.decided other settled)
  · intro answer member
    rcases sound.answered answer member with ⟨row, found, given⟩
    dsimp only
    rw [stored]
    split
    · rename_i here
      rw [here] at found
      exact ⟨blueprint, rfl, kept row answer.code found given⟩
    · exact ⟨row, found, given⟩
  · intro other request running
    exact (sound.requests other request running).mono grows

theorem Sound.share {call : Call} {id : UUID} {loaded : Blueprint}
    (stored : world.blueprints.lookup id = some loaded) (neutral : call.decision = none) :
    Sound (world.share client call id loaded) := by
  unfold World.share
  split
  · exact sound.answer client stored
  · rename_i missing
    apply sound.continueWith
    refine ⟨by rw [stored]; rfl, neutral, ?_⟩
    exact (sound.generated id loaded stored).shareCode_eq_none (Option.not_isSome_iff_eq_none.mp missing)

theorem Sound.load (call : Call) (now : Int) : Sound (world.load casing client call now) := by
  cases call with
  | create userID input =>
      apply sound.continueWith
      exact ⟨rfl, rfl⟩
  | submitToCommunity userID id =>
      unfold World.load
      dsimp only
      cases found : ownBlueprint world.blueprints userID id with
      | none => exact sound.finish client
      | some loaded =>
          have stored := lookup_of_ownBlueprint found
          apply sound.continueWith
          exact ⟨by rw [stored]; rfl, sound.generated id loaded stored, rfl, rfl⟩
  | moderate id reviewerID input =>
      unfold World.load
      dsimp only
      split
      · exact sound.finish client
      · rename_i loaded edited found
        rcases Option.bind_eq_some_iff.mp found with ⟨row, stored, edit⟩
        rcases Option.map_eq_some_iff.mp edit with ⟨moderated, done, same⟩
        cases same
        rcases Blueprint.moderate_decision done with ⟨decision, decides, columns, code⟩
        apply sound.continueWith
        refine ⟨by rw [stored]; rfl, ?_, ?_⟩
        · intro given
          rw [code]
          exact sound.generated id loaded stored given
        · change match input.decision with | some decision => _ | none => _
          rw [decides]
          exact ⟨columns, code⟩
  | createShareCode userID id | exportBlueprint userID id =>
      unfold World.load
      dsimp only
      cases found : ownBlueprint world.blueprints userID id with
      | none => exact sound.finish client
      | some loaded => exact sound.share client (lookup_of_ownBlueprint found) rfl
  | importBlueprint userID input =>
      unfold World.load
      dsimp only
      split
      · rename_i blueprint cloned
        rcases Option.map_eq_some_iff.mp cloned with ⟨exported, _, done⟩
        apply sound.continueWith
        exact cloneImportedBlueprint_private done
      · exact sound.finish client

theorem Sound.count {call : Call} {id : UUID} {loaded : Blueprint} {tries : Nat}
    (running : world.requests.lookup client = some (.coding call id loaded tries))
    (token : BitVec 64) : Sound (world.count client call id loaded tries token) := by
  rcases sound.requests client _ running with ⟨present, neutral, uncoded⟩
  unfold World.count
  dsimp only
  split
  · split
    · apply sound.continueWith
      exact ⟨present, neutral, uncoded⟩
    · exact sound.finish client
  · apply sound.continueWith
    refine ⟨present, ?_, ?_⟩
    · rintro code ⟨rfl⟩
      exact ⟨token, rfl⟩
    · rw [neutral]
      exact ⟨rfl, uncoded⟩

theorem Sound.save {call : Call} {id : UUID} {loaded edited : Blueprint}
    (running : world.requests.lookup client = some (.saving call id loaded edited))
    (finds : world.findsLoaded client .save = true) :
    Sound (world.save client call id edited) := by
  rcases sound.requests client _ running with ⟨present, generated, edit⟩
  rcases Option.isSome_iff_exists.mp present with ⟨stored, found⟩
  unfold World.save
  split
  · rename_i admitted
    unfold World.findsLoaded at finds
    rw [running] at finds
    dsimp only at finds
    rw [found, Option.all_some, Bool.and_eq_true, Bool.or_eq_true] at finds
    have sameCode : stored.shareCode = loaded.shareCode := of_decide_eq_true finds.1
    apply Sound.answer
    · apply sound.put generated admitted
      · intro row code here given
        rw [found] at here
        cases here
        cases decides : call.decision with
        | none =>
            rw [decides] at edit
            rw [sameCode, edit.2] at given
            cases given
        | some decision =>
            rw [decides] at edit
            rw [edit.2, ← sameCode, given]
      · cases decides : call.decision with
        | none =>
            rw [decides] at edit finds
            have samePublication : stored.publication = loaded.publication :=
              of_decide_eq_true (finds.2.resolve_left Bool.false_ne_true)
            rw [edit.1, ← samePublication, sound.current id stored found, Option.none_or]
        | some decision =>
            rw [decides] at edit
            exact edit.1
    · exact (Table.lookup_set _ _ _ _).trans (if_pos rfl)
  · exact sound.finish client

theorem Sound.insert {id : UUID} {blueprint : Blueprint} {after : World}
    (running : world.requests.lookup client = some (.inserting blueprint))
    (inserted : world.insert client id blueprint = some after) : Sound after := by
  rcases sound.requests client _ running with ⟨unpublished, uncoded⟩
  unfold World.insert at inserted
  split at inserted
  · cases inserted
  · rename_i fresh
    cases inserted
    have undecided : world.decisions.lookup id = none :=
      Option.not_isSome_iff_eq_none.mp fun settled => fresh (sound.decided id settled)
    have admitted : world.admits id blueprint = true := by
      apply List.all_eq_true.mpr
      intro entry _
      rw [uncoded]
      simp
    have put : Sound { world with
        blueprints := Table.set world.blueprints id blueprint
        decisions := ((none : Option Decision).map (id, ·)).toList ++ world.decisions } := by
      apply sound.put
      · intro code given
        rw [uncoded] at given
        cases given
      · exact admitted
      · intro stored code found
        exact absurd (by rw [found]; rfl) fresh
      · rw [undecided]
        exact unpublished
    exact put.finish client

theorem Sound.next {event : Event} {after : World} (finds : world.findsLoaded client event = true)
    (done : world.next casing client event = some after) : Sound after := by
  unfold World.next at done
  split at done
  · cases done
    exact sound.continueWith client trivial
  · cases done
    exact sound.load client _ _
  · rename_i running
    cases done
    exact sound.count client running _
  · rename_i running
    cases done
    exact sound.save client running finds
  · rename_i running
    exact sound.insert client running done
  · cases done
    exact sound.finish client
  · cases done

theorem Sound.resolve {id : UUID} {blueprint : Blueprint} {code : String}
    (stored : world.blueprints.lookup id = some blueprint) (given : blueprint.shareCode = some code) :
    world.resolve casing code = some (id, blueprint) := by
  rcases sound.generated id blueprint stored code given with ⟨token, rfl⟩
  unfold World.resolve
  rw [normalizeShareCode_blueprintShareCode]
  apply Table.find?_of_lookup sound.distinct stored
  · exact decide_eq_true given
  · intro other row found same
    exact sound.unique other id row blueprint _ found stored (of_decide_eq_true same) given

theorem Sound.sticks : world.Sticks casing where
  community := by
    intro id blueprint stored visible
    have columns := congrArg Prod.fst (sound.current id blueprint stored)
    change blueprint.visibility = _ at columns
    rw [visible] at columns
    cases last : world.decisions.lookup id with
    | none =>
        rw [last] at columns
        cases columns
    | some decision =>
        rw [last] at columns
        cases decision with
        | approved => rfl
        | submitted | rejected | reopened => cases columns
  decided := by
    intro id decision last
    rcases Option.isSome_iff_exists.mp (sound.decided id (by rw [last]; rfl)) with ⟨blueprint, stored⟩
    refine ⟨blueprint, stored, ?_⟩
    rw [sound.current id blueprint stored, last]
    rfl
  resolves := by
    intro answer member
    rcases sound.answered answer member with ⟨blueprint, stored, given⟩
    exact ⟨blueprint, sound.resolve stored given⟩

end Steps

/-! ## Runs -/

/-- Decisions and share codes stick as long as every save finds as it was loaded what
it writes without having decided it. -/
theorem decisions_stick {casing : Casing} {world : World}
    (run : Run casing (fun world client event => world.findsLoaded client event = true) world) :
    world.Sticks casing :=
  have sound : Sound world := run.invariant .empty fun _ step _ sound finds done =>
    sound.next step.1 finds done
  sound.sticks

/-- Letters outside ASCII are left as they are. -/
def Casing.ascii : Casing where
  toUpper := Char.toUpper
  toLower := Char.toLower
  toUpper_ascii _ _ := rfl
  toLower_ascii _ _ := rfl

/-- The owner submits a blueprint that gets approved and later rejected, and a share
code is made that the row is read for before the rejection or after it. -/
def rejectionWithShareCode (readBefore : Bool) : List (Nat × Event) :=
  let owner : UUID := .numbered 1
  let admin : UUID := .numbered 2
  let id : UUID := .numbered 3
  [(0, .receive (.create owner { name := "Rack", category := "server" })),
    (0, .load 0), (0, .insert id),
    (1, .receive (.submitToCommunity owner id)), (1, .load 1), (1, .save),
    (2, .receive (.moderate id admin { action := "approve" })), (2, .load 2), (2, .save),
    (3, .receive (.createShareCode owner id))] ++
    (if readBefore then [(3, .load 3)] else []) ++
    [(4, .receive (.moderate id admin { action := "reject", note := "Needs photos" })),
      (4, .load 4), (4, .save)] ++
    (if readBefore then [] else [(3, .load 5)]) ++
    [(3, .count 0), (3, .save)]

theorem decisions_stick_rejected : ∃ world : World,
    world.decisions.lookup (.numbered 3) = some .rejected ∧ world.answers.length = 1 ∧
      world.Sticks .ascii := by
  have facts : ((follow (fun (world : World) (step : Nat × Event) =>
      world.next .ascii step.1 step.2) (fun world step => world.findsLoaded step.1 step.2) {}
      (rejectionWithShareCode false)).any fun world =>
        world.decisions.lookup (.numbered 3) = some .rejected && world.answers.length = 1) =
      true := by
    decide
  rcases (Option.any_eq_true _ _).mp facts with ⟨world, done, facts⟩
  rw [Bool.and_eq_true] at facts
  exact ⟨world, of_decide_eq_true facts.1, of_decide_eq_true facts.2,
    decisions_stick (Runs.reaches_of_follow .nil done)⟩

/-- A share code that was being made brings a rejected blueprint back. -/
theorem rejection_undone : ∃ world, Run .ascii (fun _ _ _ => True) world ∧ ¬world.Sticks .ascii := by
  have facts : ((follow (fun (world : World) (step : Nat × Event) =>
      world.next .ascii step.1 step.2) (fun _ _ => true) {}
      (rejectionWithShareCode true)).any fun world =>
        (world.blueprints.lookup (.numbered 3)).any (·.visibility = .community) &&
          world.decisions.lookup (.numbered 3) = some .rejected) = true := by
    decide
  rcases (Option.any_eq_true _ _).mp facts with ⟨world, done, facts⟩
  rw [Bool.and_eq_true] at facts
  rcases (Option.any_eq_true _ _).mp facts.1 with ⟨blueprint, stored, visible⟩
  refine ⟨world, (Runs.reaches_of_follow .nil done).mono fun _ _ _ => trivial, fun sticks => ?_⟩
  have approved := sticks.community _ blueprint stored (of_decide_eq_true visible)
  rw [of_decide_eq_true facts.2] at approved
  cases approved

end HomelabBuilder.Blueprints
