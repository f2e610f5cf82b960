import HomelabBuilder.Foundation.Json
import HomelabBuilder.Foundation.Text
import HomelabBuilder.Services.GraphInput

/-! # Hardware blueprints

The rows of `hardware_blueprint_service.go` and `hardware_blueprint_export.go`, and
what a request makes of a row it has read. Times are nanoseconds; documents are the
values they decode to.
-/

namespace HomelabBuilder.Blueprints

open Services (UUID)

inductive Visibility
  | private_
  | pending
  | community
  deriving DecidableEq

inductive ModerationStatus
  | none
  | pending
  | approved
  | rejected
  deriving DecidableEq

/-- A row of `hardware_blueprints` under its id. -/
structure Blueprint where
  userID : UUID
  name : String
  description : String := ""
  category : String
  nodeType : String
  visibility : Visibility := .private_
  tags : Json
  nodeData : Json
  services : Json
  shareCode : Option String := none
  moderationStatus : ModerationStatus := .none
  moderationNote : String := ""
  reviewedBy : Option UUID := none
  reviewedAt : Option Int := none

/-- `unicode.ToUpper` and `unicode.ToLower`. -/
structure Casing where
  toUpper : Char → Char
  toLower : Char → Char
  toUpper_ascii : ∀ char, char.toNat < 0x80 → toUpper char = char.toUpper
  toLower_ascii : ∀ char, char.toNat < 0x80 → toLower char = char.toLower

namespace Casing

variable (casing : Casing) (text : String)

def upper : String := String.ofList (text.toList.map casing.toUpper)

def lower : String := String.ofList (text.toList.map casing.toLower)

end Casing

/-! ## Categories -/

section

variable (casing : Casing)

def normalizeHardwareCategory (category : String) : String :=
  let spelled := String.ofList ((casing.lower (trimSpace category)).toList.map fun char =>
    if char = '-' ∨ char = ' ' then '_' else char)
  if spelled ∈ ["mini_pc", "mini_pcs", "minipcs", "sff", "sff_pc"] then "minipc"
  else if spelled ∈ ["servers", "server_v2"] then "server"
  else if spelled ∈ ["accesspoint", "access_points", "ap", "aps"] then "access_point"
  else if spelled ∈ ["storage_drive", "storage_drives", "drives", "drive"] then "storage"
  else if spelled ∈ ["nics", "network_card", "network_cards"] then "nic"
  else if spelled = "hbas" then "hba"
  else if spelled = "gpus" then "gpu"
  else if spelled = "cpus" then "cpu"
  else if spelled = "routers" then "router"
  else if spelled = "switches" then "switch"
  else if spelled ∈ ["single_board_computer", "single_board_computers"] then "sbc"
  else if spelled ∈ ["pcs", "desktop", "desktops", "workstation", "workstations", "gaming_pc",
      "gaming_pcs"] then "pc"
  else if spelled ∈ ["consoles", "game_console", "game_consoles", "handheld", "handhelds"] then
    "console"
  else if spelled ∈ ["power_outlet", "power_outlets", "outlet", "outlets", "wall_outlet",
      "wall_outlets", "socket", "sockets"] then "power_outlet"
  else spelled

def hardwareCategoryToNodeType (category : String) : String :=
  let normalized := normalizeHardwareCategory casing category
  if normalized = "server" then "server_v2"
  else if normalized = "storage" then "disk"
  else if normalized = "nic" then "hba"
  else normalized

/-! ## Creating -/

structure BlueprintInput where
  name : String
  description : String := ""
  category : String
  nodeType : String := ""
  tags : Option Json := none
  nodeData : Option Json := none
  services : Option Json := none

def create (userID : UUID) (input : BlueprintInput) : Blueprint :=
  let category := normalizeHardwareCategory casing input.category
  { userID := userID
    name := input.name
    description := input.description
    category := category
    nodeType := if input.nodeType = "" then hardwareCategoryToNodeType casing category
      else input.nodeType
    tags := input.tags.getD (.arr [])
    nodeData := input.nodeData.getD (.obj [])
    services := input.services.getD (.arr []) }

/-! ## Exporting and importing -/

def hardwareBlueprintExportKind : String := "hlbuilder.hardware_blueprint"

structure BlueprintExport where
  version : Int
  kind : String
  name : String
  description : String := ""
  category : String := ""
  nodeType : String := ""
  tags : Option Json := none
  nodeData : Option Json := none
  services : Option Json := none
  shareCode : String := ""
  exportedAt : Int := 0
  sourceID : String := ""

structure ImportInput where
  importCode : String := ""
  blueprint : Option BlueprintExport := none

def blueprintToExport (id : UUID) (blueprint : Blueprint) (now : Int) : BlueprintExport where
  version := 1
  kind := hardwareBlueprintExportKind
  name := blueprint.name
  description := blueprint.description
  category := blueprint.category
  nodeType := blueprint.nodeType
  tags := some blueprint.tags
  nodeData := some blueprint.nodeData
  services := some blueprint.services
  shareCode := blueprint.shareCode.getD ""
  exportedAt := now
  sourceID := id.text

def importedBlueprintName (name : String) : String :=
  let trimmed := trimSpace name
  if contains (casing.lower trimmed) "imported" then trimmed else trimmed ++ " (Imported)"

inductive ImportIssue
  | unsupported
  | unnamed
  deriving DecidableEq

/-- What `cloneImportedBlueprint` inserts. -/
def cloneImportedBlueprint (userID : UUID) (exported : BlueprintExport) :
    Except ImportIssue Blueprint :=
  if exported.version ≠ 1 ∨ exported.kind ≠ hardwareBlueprintExportKind then .error .unsupported
  else if trimSpace exported.name = "" then .error .unnamed
  else
    .ok (create casing userID
      { name := importedBlueprintName casing exported.name
        description := exported.description
        category := exported.category
        nodeType := exported.nodeType
        tags := some (exported.tags.getD (.arr []))
        nodeData := some (exported.nodeData.getD (.obj []))
        services := some (exported.services.getD (.arr [])) })

/-! ## Share codes -/

def normalizeShareCode (code : String) : String := casing.upper (trimSpace code)

end

/-- `base32.StdEncoding` without padding, of eight bytes. -/
def encodeToString (token : BitVec 64) : String :=
  let alphabet := "ABCDEFGHIJKLMNOPQRSTUVWXYZ234567".toList
  String.ofList ((List.range 13).map fun place =>
    alphabet.getD (2 * token.toNat / 32 ^ (12 - place) % 32) 'A')

/-- The code `generateBlueprintShareCode` makes of its random bytes. -/
def blueprintShareCode (token : BitVec 64) : String := "HLB-" ++ encodeToString token

def Blueprint.givenCode (blueprint : Blueprint) : Option String :=
  blueprint.shareCode.filter fun code => code ≠ ""

/-! ## Moderation -/

structure ModerationInput where
  action : String
  note : String := ""

/-- The decisions about a blueprint's publication. -/
inductive Decision
  | submitted
  | approved
  | rejected
  | reopened
  deriving DecidableEq

def Decision.columns : Decision → Visibility × ModerationStatus
  | .submitted | .reopened => (.pending, .pending)
  | .approved => (.community, .approved)
  | .rejected => (.private_, .rejected)

def ModerationInput.decision (input : ModerationInput) : Option Decision :=
  match input.action with
  | "approve" | "approved" => some .approved
  | "reject" | "rejected" => some .rejected
  | "pending" => some .reopened
  | _ => none

namespace Blueprint

variable (blueprint : Blueprint)

/-- The edit of `SubmitToCommunity`. -/
def submit : Blueprint :=
  { blueprint with
    visibility := .pending
    moderationStatus := .pending
    moderationNote := ""
    reviewedBy := none
    reviewedAt := none }

/-- The edit of `Moderate`. -/
def moderate (reviewerID : UUID) (input : ModerationInput) (now : Int) : Option Blueprint :=
  let reviewed := { blueprint with
    moderationNote := input.note
    reviewedBy := some reviewerID
    reviewedAt := some now }
  match input.action with
  | "approve" | "approved" =>
      some { reviewed with visibility := .community, moderationStatus := .approved }
  | "reject" | "rejected" =>
      some { reviewed with visibility := .private_, moderationStatus := .rejected }
  | "pending" => some { reviewed with visibility := .pending, moderationStatus := .pending }
  | _ => none

def publication : Visibility × ModerationStatus := (blueprint.visibility, blueprint.moderationStatus)

variable {blueprint}

theorem moderate_decision {reviewerID : UUID} {input : ModerationInput} {now : Int}
    {moderated : Blueprint} (done : blueprint.moderate reviewerID input now = some moderated) :
    ∃ decision, input.decision = some decision ∧ moderated.publication = decision.columns ∧
      moderated.shareCode = blueprint.shareCode := by
  unfold moderate at done
  unfold ModerationInput.decision
  dsimp only at done
  split at done
  all_goals
    first
    | cases done
      exact ⟨_, rfl, rfl, rfl⟩
    | cases done

end Blueprint

end HomelabBuilder.Blueprints
