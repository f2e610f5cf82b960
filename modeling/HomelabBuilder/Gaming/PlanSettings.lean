import HomelabBuilder.Foundation.Overrides
import HomelabBuilder.Gaming.Plan

/-! # Settings of a plan

A plan is eight settings, each read and checked on its own.
-/

namespace HomelabBuilder.Gaming

open Json (decodeSlice)

inductive Setting
  | downMbps
  | upMbps
  | cgnat
  | publicHost
  | mainsVoltage
  | circuits
  | date
  | hours
  deriving DecidableEq

namespace Setting

def all : List Setting :=
  [.downMbps, .upMbps, .cgnat, .publicHost, .mainsVoltage, .circuits, .date, .hours]

theorem mem_all (setting : Setting) : setting ∈ all := by
  cases setting <;> decide

def Value : Setting → Type
  | .downMbps | .upMbps | .hours => Rat
  | .cgnat | .publicHost | .date => String
  | .mainsVoltage => Int
  | .circuits => List Circuit

instance : (setting : Setting) → DecidableEq setting.Value
  | .downMbps | .upMbps | .hours => inferInstanceAs (DecidableEq Rat)
  | .cgnat | .publicHost | .date => inferInstanceAs (DecidableEq String)
  | .mainsVoltage => inferInstanceAs (DecidableEq Int)
  | .circuits => inferInstanceAs (DecidableEq (List Circuit))

/-- The object of the plan that holds a setting. -/
def part : Setting → String
  | .downMbps | .upMbps | .cgnat | .publicHost => "uplink"
  | .mainsVoltage | .circuits => "power"
  | .date | .hours => "event"

def name : Setting → String
  | .downMbps => "down_mbps"
  | .upMbps => "up_mbps"
  | .cgnat => "cgnat"
  | .publicHost => "public_host"
  | .mainsVoltage => "mains_voltage"
  | .circuits => "circuits"
  | .date => "date"
  | .hours => "hours"

def of (plan : Plan) : (setting : Setting) → setting.Value
  | .downMbps => plan.uplink.downMbps
  | .upMbps => plan.uplink.upMbps
  | .cgnat => plan.uplink.cgnat
  | .publicHost => plan.uplink.publicHost
  | .mainsVoltage => plan.power.mainsVoltage
  | .circuits => plan.power.circuits
  | .date => plan.event.date
  | .hours => plan.event.hours

def zero : (setting : Setting) → setting.Value
  | .downMbps | .upMbps | .hours => (0 : Rat)
  | .cgnat | .publicHost | .date => ""
  | .mainsVoltage => (0 : Int)
  | .circuits => ([] : List Circuit)

def decode : (setting : Setting) → Json → Option setting.Value
  | .downMbps | .upMbps | .hours => Json.asNumber
  | .cgnat | .publicHost | .date => Json.asString
  | .mainsVoltage => asInt
  | .circuits => fun value => (decodeSlice decodeCircuit value).map (·.getD [])

/-- A null leaves a setting at its zero value. -/
def read (setting : Setting) : Json → Option setting.Value
  | .null => some setting.zero
  | value => setting.decode value

/-! The form each setting is stored in, if it is valid. -/

def cleanSpeed (value : Rat) : Option Rat :=
  if value < 0 || maxMbps < value then none else some value

def cleanCgnat (value : String) : Option String :=
  if value ∉ ["", "yes", "no"] then none else some value

def isValidHost (host : String) : Bool :=
  !(host ≠ "" && (maxPublicHost < host.utf8ByteSize || !isPublicHost host))

def cleanPublicHost (value : String) : Option String :=
  if isValidHost (trimSpace value) then some (trimSpace value) else none

def cleanVoltage (value : Int) : Option Int :=
  if value ≠ 0 && (value < 100 || 240 < value) then none else some value

def cleanCircuits (value : List Circuit) : Option (List Circuit) :=
  if maxCircuits < value.length then none else (normalizeCircuits [] value).toOption

def isValidDate (date : String) : Bool := !(date ≠ "" && !isDate date)

def cleanDate (value : String) : Option String :=
  if isValidDate (trimSpace value) then some (trimSpace value) else none

def cleanHours (value : Rat) : Option Rat :=
  if value < 0 || maxEventHours < value then none else some value

def clean : (setting : Setting) → setting.Value → Option setting.Value
  | .downMbps | .upMbps => cleanSpeed
  | .cgnat => cleanCgnat
  | .publicHost => cleanPublicHost
  | .mainsVoltage => cleanVoltage
  | .circuits => cleanCircuits
  | .date => cleanDate
  | .hours => cleanHours

end Setting

def Plan.ofSettings (value : (setting : Setting) → setting.Value) : Plan where
  uplink :=
    { downMbps := value .downMbps
      upMbps := value .upMbps
      cgnat := value .cgnat
      publicHost := value .publicHost }
  power := { mainsVoltage := value .mainsVoltage, circuits := value .circuits }
  event := { date := value .date, hours := value .hours }

@[simp]
theorem Setting.of_ofSettings (value : (setting : Setting) → setting.Value) :
    Setting.of (Plan.ofSettings value) = value := by
  funext setting
  cases setting <;> rfl

theorem Plan.ext_settings {left right : Plan} (same : Setting.of left = Setting.of right) :
    left = right := by
  have whole : ∀ plan : Plan, Plan.ofSettings (Setting.of plan) = plan := fun _ => rfl
  rw [← whole left, same, whole]

/-! ## Differences -/

/-- One difference between two plans; a setting's value is compared with its own kind. -/
structure PlanChange where
  setting : Setting
  before : setting.Value
  after : setting.Value

def PlanChange.field (change : PlanChange) : String :=
  change.setting.part ++ "." ++ change.setting.name

def diffPlans (before after : Plan) : List PlanChange :=
  Setting.all.filterMap fun setting =>
    if setting.of before = setting.of after then none
    else some ⟨setting, setting.of before, setting.of after⟩

theorem mem_diffPlans {before after : Plan} {change : PlanChange}
    (listed : change ∈ diffPlans before after) :
    change.setting.of before ≠ change.setting.of after := by
  rcases List.mem_filterMap.mp listed with ⟨setting, _, kept⟩
  split at kept
  · cases kept
  · cases kept
    assumption

/-! ## Normalizing setting by setting -/

namespace Setting

theorem cleanSpeed_eq_some {value kept : Rat} :
    cleanSpeed value = some kept ↔ ¬(value < 0 || maxMbps < value) ∧ value = kept := by
  rw [cleanSpeed]
  split <;> simp_all

theorem cleanCgnat_eq_some {value kept : String} :
    cleanCgnat value = some kept ↔ value ∈ ["", "yes", "no"] ∧ value = kept := by
  rw [cleanCgnat]
  split
  case isTrue invalid => exact ⟨nofun, fun both => absurd both.1 invalid⟩
  case isFalse valid =>
    rw [Option.some.injEq]
    exact ⟨fun same => ⟨Decidable.not_not.mp valid, same⟩, And.right⟩

theorem cleanPublicHost_eq_some {value kept : String} :
    cleanPublicHost value = some kept ↔
      isValidHost (trimSpace value) = true ∧ trimSpace value = kept := by
  rw [cleanPublicHost]
  split <;> simp_all

theorem cleanVoltage_eq_some {value kept : Int} :
    cleanVoltage value = some kept ↔
      ¬(value ≠ 0 && (value < 100 || 240 < value)) ∧ value = kept := by
  rw [cleanVoltage]
  split <;> simp_all

theorem cleanCircuits_eq_some {value kept : List Circuit} :
    cleanCircuits value = some kept ↔
      ¬maxCircuits < value.length ∧ normalizeCircuits [] value = .ok kept := by
  rw [cleanCircuits]
  cases normalizeCircuits [] value <;> split <;> simp_all [Except.toOption]

theorem cleanDate_eq_some {value kept : String} :
    cleanDate value = some kept ↔
      isValidDate (trimSpace value) = true ∧ trimSpace value = kept := by
  rw [cleanDate]
  split <;> simp_all

theorem cleanHours_eq_some {value kept : Rat} :
    cleanHours value = some kept ↔ ¬(value < 0 || maxEventHours < value) ∧ value = kept := by
  rw [cleanHours]
  split <;> simp_all

theorem clean_clean {setting : Setting} {value kept : setting.Value}
    (done : setting.clean value = some kept) : setting.clean kept = some kept := by
  cases setting with
  | downMbps | upMbps =>
      have valid := cleanSpeed_eq_some.mp done
      exact cleanSpeed_eq_some.mpr ⟨valid.2 ▸ valid.1, rfl⟩
  | cgnat =>
      have valid := cleanCgnat_eq_some.mp done
      exact cleanCgnat_eq_some.mpr ⟨valid.2 ▸ valid.1, rfl⟩
  | publicHost =>
      rcases cleanPublicHost_eq_some.mp done with ⟨valid, rfl⟩
      exact cleanPublicHost_eq_some.mpr
        ⟨(trimSpace_trimSpace value).symm ▸ valid, trimSpace_trimSpace value⟩
  | mainsVoltage =>
      have valid := cleanVoltage_eq_some.mp done
      exact cleanVoltage_eq_some.mpr ⟨valid.2 ▸ valid.1, rfl⟩
  | circuits =>
      have valid := cleanCircuits_eq_some.mp done
      have again := normalizeCircuits_normalized valid.2
      exact cleanCircuits_eq_some.mpr ⟨again.1.symm ▸ valid.1, again.2⟩
  | date =>
      rcases cleanDate_eq_some.mp done with ⟨valid, rfl⟩
      exact cleanDate_eq_some.mpr
        ⟨(trimSpace_trimSpace value).symm ▸ valid, trimSpace_trimSpace value⟩
  | hours =>
      have valid := cleanHours_eq_some.mp done
      exact cleanHours_eq_some.mpr ⟨valid.2 ▸ valid.1, rfl⟩

end Setting

theorem uplinkIssue_eq_none {plan : Plan} {host : String} :
    plan.uplinkIssue host = none ↔
      ¬(plan.uplink.downMbps < 0 || maxMbps < plan.uplink.downMbps) ∧
        ¬(plan.uplink.upMbps < 0 || maxMbps < plan.uplink.upMbps) ∧
        plan.uplink.cgnat ∈ ["", "yes", "no"] ∧ Setting.isValidHost host = true ∧
        ¬(plan.power.mainsVoltage ≠ 0 &&
          (plan.power.mainsVoltage < 100 || 240 < plan.power.mainsVoltage)) ∧
        ¬maxCircuits < plan.power.circuits.length := by
  have passed : ∀ {invalid : Prop} [Decidable invalid] {issue : PlanIssue}
      {others : Option PlanIssue},
      (if invalid then some issue else others) = none ↔ ¬invalid ∧ others = none := by
    intro invalid _ issue others
    split <;> simp_all
  rw [Plan.uplinkIssue, passed, passed, passed, passed, passed, Setting.isValidHost,
    Bool.not_eq_true', Decidable.not_not]
  simp only [Bool.or_eq_true, not_or, Bool.not_eq_true, and_true, and_assoc]

theorem eventIssue_eq_none {plan : Plan} {date : String} :
    plan.eventIssue date = none ↔
      Setting.isValidDate date = true ∧
        ¬(plan.event.hours < 0 || maxEventHours < plan.event.hours) := by
  rw [Plan.eventIssue, Setting.isValidDate, Bool.not_eq_true']
  split
  case isTrue invalid => exact ⟨nofun, fun both => absurd both.1 (by rw [invalid]; nofun)⟩
  case isFalse valid =>
    rw [Bool.not_eq_true] at valid
    split <;> simp_all

theorem normalize_ok_iff {plan result : Plan} :
    plan.normalize = .ok result ↔
      ∀ setting : Setting, setting.clean (setting.of plan) = some (setting.of result) := by
  constructor
  · intro done
    rw [Plan.normalize] at done
    split at done
    · cases done
    rename_i uplinkFine
    split at done
    · cases done
    rename_i circuits circuitsDone
    split at done
    · cases done
    rename_i eventFine
    cases done
    rcases uplinkIssue_eq_none.mp uplinkFine with ⟨down, up, cgnat, host, voltage, few⟩
    rcases eventIssue_eq_none.mp eventFine with ⟨date, hours⟩
    rintro (_ | _ | _ | _ | _ | _ | _ | _)
    · exact Setting.cleanSpeed_eq_some.mpr ⟨down, rfl⟩
    · exact Setting.cleanSpeed_eq_some.mpr ⟨up, rfl⟩
    · exact Setting.cleanCgnat_eq_some.mpr ⟨cgnat, rfl⟩
    · exact Setting.cleanPublicHost_eq_some.mpr ⟨host, rfl⟩
    · exact Setting.cleanVoltage_eq_some.mpr ⟨voltage, rfl⟩
    · exact Setting.cleanCircuits_eq_some.mpr ⟨few, circuitsDone⟩
    · exact Setting.cleanDate_eq_some.mpr ⟨date, rfl⟩
    · exact Setting.cleanHours_eq_some.mpr ⟨hours, rfl⟩
  · intro each
    have down := Setting.cleanSpeed_eq_some.mp (each .downMbps)
    have up := Setting.cleanSpeed_eq_some.mp (each .upMbps)
    have cgnat := Setting.cleanCgnat_eq_some.mp (each .cgnat)
    have host := Setting.cleanPublicHost_eq_some.mp (each .publicHost)
    have voltage := Setting.cleanVoltage_eq_some.mp (each .mainsVoltage)
    have circuits := Setting.cleanCircuits_eq_some.mp (each .circuits)
    have date := Setting.cleanDate_eq_some.mp (each .date)
    have hours := Setting.cleanHours_eq_some.mp (each .hours)
    have uplinkFine := uplinkIssue_eq_none.mpr
      ⟨down.1, up.1, cgnat.1, host.1, voltage.1, circuits.1⟩
    have eventFine := eventIssue_eq_none.mpr ⟨date.1, hours.1⟩
    have circuitsDone : normalizeCircuits [] plan.power.circuits = .ok result.power.circuits :=
      circuits.2
    have dateFine : plan.eventIssue (trimSpace plan.event.date) = none := eventFine
    have hostFine : plan.uplinkIssue (trimSpace plan.uplink.publicHost) = none := uplinkFine
    rw [Plan.normalize]
    simp only [hostFine, circuitsDone, dateFine]
    congr 1
    apply Plan.ext_settings
    funext setting
    cases setting with
    | downMbps => exact down.2
    | upMbps => exact up.2
    | cgnat => exact cgnat.2
    | publicHost => exact host.2
    | mainsVoltage => exact voltage.2
    | circuits => rfl
    | date => exact date.2
    | hours => exact hours.2

def planOverrides : Overrides Setting Setting.Value Json where
  read := Setting.read
  clean := Setting.clean
  clean_clean := Setting.clean_clean

theorem Plan.IsNormal.kept {plan : Plan} (normal : plan.IsNormal) :
    planOverrides.Kept (Setting.of plan) :=
  normalize_ok_iff.mp normal

end HomelabBuilder.Gaming
