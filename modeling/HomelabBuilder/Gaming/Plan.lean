import HomelabBuilder.Foundation.Json
import HomelabBuilder.Foundation.Text
import HomelabBuilder.Net.Address

/-! # Gaming plans

What the owner says about a gaming build beyond the canvas, `plan.go`, and the
kinds of builds, `kind.go`. Speeds, ratings and hours are the doubles they denote.
-/

namespace HomelabBuilder.Gaming

open Json (decodeField decodeStruct decodeSlice)
open Net (decimal)

/-! ## Kinds -/

def kinds : List String := ["homelab", "lan_party", "game_server"]

def parseKind (value : String) : Option String := kinds.find? (· = value)

theorem parseKind_of_mem {kind : String} (known : kind ∈ kinds) : parseKind kind = some kind := by
  simp only [kinds, List.mem_cons, List.not_mem_nil, or_false] at known
  rcases known with rfl | rfl | rfl <;> decide

/-! ## Plans -/

structure Uplink where
  downMbps : Rat := 0
  upMbps : Rat := 0
  cgnat : String := ""
  publicHost : String := ""
  deriving DecidableEq

structure Circuit where
  id : String
  label : String := ""
  breakerAmps : Rat
  deriving DecidableEq

structure Power where
  mainsVoltage : Int := 0
  circuits : List Circuit := []
  deriving DecidableEq

structure Event where
  date : String := ""
  hours : Rat := 0
  deriving DecidableEq

structure Plan where
  uplink : Uplink := {}
  power : Power := {}
  event : Event := {}
  deriving DecidableEq

def maxCircuits : Nat := 32
def maxMbps : Rat := 100000
def maxEventHours : Rat := 24 * 14
def maxPublicHost : Nat := 253
def maxCircuitID : Nat := 40
def maxCircuitLabel : Nat := 60

/-! ## Checks -/

/-- `publicHostPattern`. -/
def isPublicHost (text : String) : Bool :=
  match text.toList with
  | [] => false
  | first :: rest =>
      first.isAlphanum && (rest.getLast?.all Char.isAlphanum) &&
        rest.all fun char => char.isAlphanum || char ∈ ['.', ':', '-']

/-- `circuitIDPattern`. -/
def isCircuitID (text : String) : Bool :=
  !text.toList.isEmpty && text.toList.all fun char => char.isAlphanum || char ∈ ['_', '-']

def isLeap (year : Nat) : Bool := year % 4 = 0 && (year % 100 ≠ 0 || year % 400 = 0)

def daysIn (month year : Nat) : Nat :=
  if month = 2 then if isLeap year then 29 else 28
  else if month ∈ [4, 6, 9, 11] then 30 else 31

/-- What `time.Parse` accepts as `2006-01-02`. -/
def isDate (text : String) : Bool :=
  match text.toList with
  | [y1, y2, y3, y4, '-', m1, m2, '-', d1, d2] =>
      match decimal [y1, y2, y3, y4], decimal [m1, m2], decimal [d1, d2] with
      | some year, some month, some day =>
          1 ≤ month && month ≤ 12 && 1 ≤ day && day ≤ daysIn month year
      | _, _, _ => false
  | _ => false

/-- What `Normalize` complains about. -/
inductive PlanIssue
  | uplinkSpeeds
  | cgnat
  | publicHost
  | mainsVoltage
  | tooManyCircuits
  | circuitID (id : String)
  | circuitTwice (id : String)
  | circuitLabel
  | breakerRating (id : String)
  | date
  | hours
  deriving DecidableEq

def Circuit.trimmed (circuit : Circuit) : Circuit :=
  { circuit with id := trimSpace circuit.id, label := trimSpace circuit.label }

/-- What is wrong with a trimmed circuit behind circuits with these ids. -/
def Circuit.issue (seen : List String) (circuit : Circuit) : Option PlanIssue :=
  if circuit.id = "" || maxCircuitID < circuit.id.utf8ByteSize || !isCircuitID circuit.id then
    some (.circuitID circuit.id)
  else if circuit.id ∈ seen then some (.circuitTwice circuit.id)
  else if maxCircuitLabel < circuit.label.utf8ByteSize then some .circuitLabel
  else if circuit.breakerAmps < 1 || 125 < circuit.breakerAmps then
    some (.breakerRating circuit.id)
  else none

def normalizeCircuits : List String → List Circuit → Except PlanIssue (List Circuit)
  | _, [] => .ok []
  | seen, circuit :: rest =>
      match circuit.trimmed.issue seen with
      | some issue => .error issue
      | none => (normalizeCircuits (circuit.trimmed.id :: seen) rest).map (circuit.trimmed :: ·)

namespace Plan

def withTexts (plan : Plan) (publicHost date : String) (circuits : List Circuit) : Plan where
  uplink := { plan.uplink with publicHost := publicHost }
  power := { plan.power with circuits := circuits }
  event := { plan.event with date := date }

def uplinkIssue (plan : Plan) (publicHost : String) : Option PlanIssue :=
  if plan.uplink.downMbps < 0 || maxMbps < plan.uplink.downMbps || plan.uplink.upMbps < 0 ||
      maxMbps < plan.uplink.upMbps then some .uplinkSpeeds
  else if plan.uplink.cgnat ∉ ["", "yes", "no"] then some .cgnat
  else if publicHost ≠ "" && (maxPublicHost < publicHost.utf8ByteSize || !isPublicHost publicHost)
  then some .publicHost
  else if plan.power.mainsVoltage ≠ 0 &&
      (plan.power.mainsVoltage < 100 || 240 < plan.power.mainsVoltage) then some .mainsVoltage
  else if maxCircuits < plan.power.circuits.length then some .tooManyCircuits
  else none

def eventIssue (plan : Plan) (date : String) : Option PlanIssue :=
  if date ≠ "" && !isDate date then some .date
  else if plan.event.hours < 0 || maxEventHours < plan.event.hours then some .hours
  else none

/-- `Normalize`: the form a plan is stored in. -/
def normalize (plan : Plan) : Except PlanIssue Plan :=
  let publicHost := trimSpace plan.uplink.publicHost
  let date := trimSpace plan.event.date
  match plan.uplinkIssue publicHost with
  | some issue => .error issue
  | none =>
      match normalizeCircuits [] plan.power.circuits with
      | .error issue => .error issue
      | .ok circuits =>
          match plan.eventIssue date with
          | some issue => .error issue
          | none => .ok (plan.withTexts publicHost date circuits)

end Plan

/-! ## Documents -/

/-- A whole number of Go's `int`. -/
def asInt (json : Json) : Option Int :=
  json.asNumber.bind fun value =>
    if value.den = 1 ∧ -2 ^ 63 ≤ value.num ∧ value.num < 2 ^ 63 then some value.num else none

def Circuit.toJson (circuit : Circuit) : Json :=
  .obj [("id", .str circuit.id), ("label", .str circuit.label),
    ("breaker_amps", .num circuit.breakerAmps)]

def decodeCircuit (members : List (String × Json)) : Option Circuit := do
  let id ← decodeField Json.asString members "id" ""
  let label ← decodeField Json.asString members "label" ""
  let breakerAmps ← decodeField Json.asNumber members "breaker_amps" 0
  some ⟨id, label, breakerAmps⟩

def decodeUplink (members : List (String × Json)) : Option Uplink := do
  let downMbps ← decodeField Json.asNumber members "down_mbps" 0
  let upMbps ← decodeField Json.asNumber members "up_mbps" 0
  let cgnat ← decodeField Json.asString members "cgnat" ""
  let publicHost ← decodeField Json.asString members "public_host" ""
  some ⟨downMbps, upMbps, cgnat, publicHost⟩

def decodePower (members : List (String × Json)) : Option Power := do
  let mainsVoltage ← decodeField asInt members "mains_voltage" 0
  let circuits ← decodeField (decodeSlice decodeCircuit) members "circuits" none
  some ⟨mainsVoltage, circuits.getD []⟩

def decodeEvent (members : List (String × Json)) : Option Event := do
  let date ← decodeField Json.asString members "date" ""
  let hours ← decodeField Json.asNumber members "hours" 0
  some ⟨date, hours⟩

def decodePlan (members : List (String × Json)) : Option Plan := do
  let uplink ← decodeField (decodeStruct decodeUplink) members "uplink" {}
  let power ← decodeField (decodeStruct decodePower) members "power" {}
  let event ← decodeField (decodeStruct decodeEvent) members "event" {}
  some ⟨uplink, power, event⟩

/-- `ParsePlan`: an empty column is an empty plan. -/
def parsePlan (raw : Json) : Option Plan := decodeStruct decodePlan raw

def Uplink.toJson (uplink : Uplink) : Json :=
  .obj [("down_mbps", .num uplink.downMbps), ("up_mbps", .num uplink.upMbps),
    ("cgnat", .str uplink.cgnat), ("public_host", .str uplink.publicHost)]

def Power.toJson (power : Power) : Json :=
  .obj [("mains_voltage", .num power.mainsVoltage),
    ("circuits", .arr (power.circuits.map Circuit.toJson))]

def Event.toJson (event : Event) : Json :=
  .obj [("date", .str event.date), ("hours", .num event.hours)]

def Plan.members (plan : Plan) : List (String × Json) :=
  [("uplink", plan.uplink.toJson), ("power", plan.power.toJson), ("event", plan.event.toJson)]

def Plan.toJson (plan : Plan) : Json := .obj plan.members

/-! ## Stored plans -/

theorem Circuit.trimmed_trimmed (circuit : Circuit) : circuit.trimmed.trimmed = circuit.trimmed := by
  rw [trimmed, trimmed, trimSpace_trimSpace, trimSpace_trimSpace]

theorem normalizeCircuits_normalized {seen : List String} {circuits normal : List Circuit}
    (done : normalizeCircuits seen circuits = .ok normal) :
    normal.length = circuits.length ∧ normalizeCircuits seen normal = .ok normal := by
  induction circuits generalizing seen normal with
  | nil =>
      cases done
      exact ⟨rfl, rfl⟩
  | cons circuit rest induction =>
      rw [normalizeCircuits] at done
      split at done
      · cases done
      · rename_i fine
        cases others : normalizeCircuits (circuit.trimmed.id :: seen) rest with
        | error issue =>
            rw [others] at done
            cases done
        | ok tail =>
            rw [others] at done
            cases done
            rcases induction others with ⟨length, again⟩
            refine ⟨by rw [List.length_cons, length, List.length_cons], ?_⟩
            rw [normalizeCircuits, Circuit.trimmed_trimmed, fine]
            dsimp only
            rw [again]
            rfl

namespace Plan

def IsNormal (plan : Plan) : Prop := plan.normalize = .ok plan

theorem isNormal_of_normalize {sent plan : Plan} (done : sent.normalize = .ok plan) :
    plan.IsNormal := by
  rw [normalize] at done
  split at done
  · cases done
  rename_i uplinkFine
  split at done
  · cases done
  rename_i circuits circuitsDone
  split at done
  · cases done
  rename_i eventFine
  cases done
  rcases normalizeCircuits_normalized circuitsDone with ⟨length, again⟩
  have uplink : (sent.withTexts (trimSpace sent.uplink.publicHost) (trimSpace sent.event.date)
      circuits).uplinkIssue (trimSpace sent.uplink.publicHost) = none := by
    rw [← uplinkFine]
    simp only [uplinkIssue, withTexts, length]
    rfl
  rw [IsNormal, normalize]
  rw [show trimSpace (sent.withTexts (trimSpace sent.uplink.publicHost) (trimSpace sent.event.date)
      circuits).uplink.publicHost = trimSpace sent.uplink.publicHost from trimSpace_trimSpace _,
    show trimSpace (sent.withTexts (trimSpace sent.uplink.publicHost) (trimSpace sent.event.date)
      circuits).event.date = trimSpace sent.event.date from trimSpace_trimSpace _, uplink]
  dsimp only
  rw [show (sent.withTexts (trimSpace sent.uplink.publicHost) (trimSpace sent.event.date)
      circuits).power.circuits = circuits from rfl, again]
  dsimp only
  rw [show (sent.withTexts (trimSpace sent.uplink.publicHost) (trimSpace sent.event.date)
      circuits).eventIssue (trimSpace sent.event.date) = none from eventFine]
  rfl

theorem isNormal_empty : ({} : Plan).IsNormal := by
  unfold IsNormal
  decide +kernel

theorem IsNormal.mainsVoltage {plan : Plan} (normal : plan.IsNormal) :
    -2 ^ 63 ≤ plan.power.mainsVoltage ∧ plan.power.mainsVoltage < 2 ^ 63 := by
  rw [IsNormal, normalize] at normal
  split at normal
  · cases normal
  rename_i fine
  rw [uplinkIssue] at fine
  split at fine
  · cases fine
  split at fine
  · cases fine
  split at fine
  · cases fine
  split at fine
  · cases fine
  rename_i voltage
  simp only [ne_eq, decide_not, Bool.and_eq_true, Bool.not_eq_true', decide_eq_false_iff_not,
    Bool.or_eq_true, decide_eq_true_eq, not_and, not_or] at voltage
  by_cases none : plan.power.mainsVoltage = 0
  · rw [none]
    omega
  · have bounds := voltage none
    omega

end Plan

theorem decodeCircuit_toJson (circuit : Circuit) :
    decodeStruct decodeCircuit circuit.toJson = some circuit := by
  simp [Circuit.toJson, decodeCircuit, Json.decodeField_of_lookup, List.lookup_cons, Json.asString,
    Json.asNumber]

theorem decodeCircuits_toJson (circuits : List Circuit) :
    decodeSlice decodeCircuit (.arr (circuits.map Circuit.toJson)) = some (some circuits) := by
  have each : (circuits.map Circuit.toJson).mapM (decodeStruct decodeCircuit) = some circuits := by
    induction circuits with
    | nil => rfl
    | cons circuit rest induction =>
        rw [List.map_cons, List.mapM_cons, decodeCircuit_toJson, induction]
        rfl
  rw [decodeSlice, Json.asArray, Option.bind_some, each]
  rfl

theorem decodeUplink_toJson (uplink : Uplink) :
    decodeStruct decodeUplink uplink.toJson = some uplink := by
  simp [Uplink.toJson, decodeUplink, Json.decodeField_of_lookup, List.lookup_cons, Json.asString,
    Json.asNumber]

theorem decodePower_toJson {power : Power}
    (voltage : -2 ^ 63 ≤ power.mainsVoltage ∧ power.mainsVoltage < 2 ^ 63) :
    decodeStruct decodePower power.toJson = some power := by
  have read : asInt (.num power.mainsVoltage) = some power.mainsVoltage := by
    rw [asInt, Json.asNumber, Option.bind_some, Rat.den_intCast, Rat.num_intCast,
      if_pos ⟨rfl, voltage⟩]
  simp [Power.toJson, decodePower, Json.decodeField_of_lookup, List.lookup_cons, decodeCircuits_toJson,
    read]

theorem decodeEvent_toJson (event : Event) :
    decodeStruct decodeEvent event.toJson = some event := by
  simp [Event.toJson, decodeEvent, Json.decodeField_of_lookup, List.lookup_cons, Json.asString,
    Json.asNumber]

theorem parsePlan_toJson {plan : Plan} (normal : plan.IsNormal) :
    parsePlan plan.toJson = some plan := by
  have uplink : decodeField (decodeStruct decodeUplink) plan.members "uplink" {} =
      some plan.uplink :=
    (Json.decodeField_of_lookup rfl (Json.obj_ne_null _)).trans (decodeUplink_toJson plan.uplink)
  have power : decodeField (decodeStruct decodePower) plan.members "power" {} = some plan.power :=
    (Json.decodeField_of_lookup rfl (Json.obj_ne_null _)).trans
      (decodePower_toJson normal.mainsVoltage)
  have event : decodeField (decodeStruct decodeEvent) plan.members "event" {} = some plan.event :=
    (Json.decodeField_of_lookup rfl (Json.obj_ne_null _)).trans (decodeEvent_toJson plan.event)
  rw [parsePlan, Plan.toJson, Json.decodeStruct_obj, decodePlan, uplink, power, event]
  rfl

end HomelabBuilder.Gaming

/-! # Plan patches

`MergePlan`: a JSON merge patch on a plan. Listed keys are set, a null value
clears a key, objects are merged and lists are replaced as a whole.
-/

namespace HomelabBuilder.Gaming

mutual

def mergePatch (target : List (String × Json)) : List (String × Json) → List (String × Json)
  | [] => target
  | (key, value) :: rest => mergePatch (mergeEntry target key value) rest

def mergeEntry (target : List (String × Json)) (key : String) : Json → List (String × Json)
  | .null => Table.erase target key
  | .obj members =>
      Table.set target key (.obj (mergePatch (((target.lookup key).bind Json.asObject).getD [])
        members))
  | .bool value => Table.set target key (.bool value)
  | .num value => Table.set target key (.num value)
  | .str value => Table.set target key (.str value)
  | .arr items => Table.set target key (.arr items)

end

/-- Whether every member is a field of the struct, as a strict decoder asks. -/
def knownFields (fields : List String) (members : List (String × Json)) : Bool :=
  members.all fun member => fields.any fun field => Json.foldCase field = Json.foldCase member.1

/-- The members decoding reads into one field of a struct. -/
def membersAt (members : List (String × Json)) (name : String) : List (String × Json) :=
  members.flatMap fun member =>
    if Json.foldCase member.1 = Json.foldCase name then member.2.members else []

def circuitsOf (power : List (String × Json)) : List Json :=
  power.flatMap fun member =>
    if Json.foldCase member.1 = Json.foldCase "circuits" then member.2.asArray.getD [] else []

/-- No object of a plan has a member the plan does not know. -/
def isStrictPlan (plan : List (String × Json)) : Bool :=
  knownFields ["uplink", "power", "event"] plan &&
    knownFields ["down_mbps", "up_mbps", "cgnat", "public_host"] (membersAt plan "uplink") &&
    knownFields ["mains_voltage", "circuits"] (membersAt plan "power") &&
    knownFields ["date", "hours"] (membersAt plan "event") &&
    (circuitsOf (membersAt plan "power")).all fun circuit =>
      knownFields ["id", "label", "breaker_amps"] circuit.members

inductive MergeIssue
  | unreadable
  | plan (issue : PlanIssue)
  deriving DecidableEq

def mergePlan (current : Plan) (patch : List (String × Json)) : Except MergeIssue Plan :=
  let merged := mergePatch current.members patch
  match (if isStrictPlan merged then decodePlan merged else none) with
  | none => .error .unreadable
  | some plan =>
      match plan.normalize with
      | .ok plan => .ok plan
      | .error issue => .error (.plan issue)

end HomelabBuilder.Gaming
