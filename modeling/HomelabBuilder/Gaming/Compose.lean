import Mathlib.Data.List.Nodup
import Mathlib.Data.List.Perm.Subperm
import Mathlib.Data.List.Sort
import HomelabBuilder.Foundation.FirstFit
import HomelabBuilder.Gaming.Instance

/-! # Compose files of game servers

`compose.go`: the services of one host's file, with the ports they publish on it.
-/

namespace HomelabBuilder.Gaming

/-! ## Names -/

/-- `base`, or the first of `base-2`, `base-3` and so on that is not used. -/
def freshName (used : List String) (base : String) : String :=
  (FirstFit.pick (fun name => name ∉ used)
    (base :: (List.range' 2 used.length).map fun n => base ++ "-" ++ toString n)).getD base

/-- The lower-case letter or digit a character comes down to. `strings.ToLower` also
maps the Kelvin sign and the dotted capital I to ASCII. -/
def slugChar (char : Char) : Option Char :=
  let lower :=
    if char.toNat = 0x212A then 'k' else if char.toNat = 0x130 then 'i' else char.toLower
  if lower.isLower || lower.isDigit then some lower else none

/-- Runs of other characters become one dash. -/
def slugChars : List Char → List Char
  | [] => []
  | char :: rest =>
      match slugChar char with
      | some char => char :: slugChars rest
      | none =>
          match slugChars rest with
          | '-' :: more => '-' :: more
          | more => '-' :: more

def trimDashes (chars : List Char) : List Char :=
  ((chars.dropWhile (· = '-')).reverse.dropWhile (· = '-')).reverse

def composeServiceBase (name : String) : String :=
  let base := String.ofList (trimDashes (slugChars name.toList))
  if base = "" then "server" else base

def composeServiceName (name : String) (used : List String) : String :=
  freshName used (composeServiceBase name)

/-! ## Files -/

structure ComposeServer where
  name : String
  game : Instance

/-- A port of the host and the port of the container it leads to. -/
structure ComposePort where
  host : Int
  inside : Int
  proto : Proto
  deriving DecidableEq

structure ComposeService where
  key : String
  image : String
  ports : List ComposePort

structure HostCompose where
  services : List ComposeService
  skipped : List String

/-- A server that announces its port has the same port inside and outside. -/
def composePorts (profile : Profile) (offset : Int) : List ComposePort :=
  (profile.resolvePorts offset).map fun port =>
    { host := port.port
      inside := if profile.announcesPorts then port.port else port.base
      proto := port.proto }

section

variable (profileBySlug : String → Option Profile)

def composeServices (used : List String) : List ComposeServer → List ComposeService
  | [] => []
  | server :: rest =>
      match server.game.normalize profileBySlug with
      | .error _ => composeServices used rest
      | .ok (game, profile) =>
          if profile.image = "" then composeServices used rest
          else
            let key := composeServiceName server.name used
            { key := key, image := profile.image, ports := composePorts profile game.portOffset } ::
              composeServices (key :: used) rest

/-- Why a server is left out. -/
def skippedReason (server : ComposeServer) : Option String :=
  match server.game.normalize profileBySlug with
  | .error message => some (server.name ++ ": " ++ message)
  | .ok (_, profile) =>
      if profile.image = "" then some (server.name ++ ": " ++ profile.notes) else none

def buildHostCompose (servers : List ComposeServer) : HostCompose where
  services := composeServices profileBySlug [] servers
  skipped := (servers.filterMap (skippedReason profileBySlug)).insertionSort (· ≤ ·)

/-- The ports a server publishes, if the file has a service for it. -/
def publishedPorts (game : Instance) : Option (List ComposePort) :=
  match game.normalize profileBySlug with
  | .error _ => none
  | .ok (game, profile) =>
      if profile.image = "" then none else some (composePorts profile game.portOffset)

theorem ports_composeServices (servers : List ComposeServer) : ∀ used : List String,
    (composeServices profileBySlug used servers).map ComposeService.ports =
      servers.filterMap fun server => publishedPorts profileBySlug server.game := by
  induction servers with
  | nil => exact fun _ => rfl
  | cons server rest induction =>
      intro used
      rw [List.filterMap_cons]
      unfold composeServices publishedPorts
      cases server.game.normalize profileBySlug with
      | error message => exact induction used
      | ok normalized =>
          dsimp only
          split
          · exact induction used
          · rw [List.map_cons]
            exact congrArg _ (induction _)

end

/-! ## Names are not used twice -/

theorem toString_injective {left right : Nat} (same : toString left = toString right) :
    left = right := by
  rw [Nat.toString_eq_ofList_toDigits, Nat.toString_eq_ofList_toDigits] at same
  have digits := String.ofList_inj.mp same
  rw [← @Nat.ofDigitChars_ten_toDigits left, digits, Nat.ofDigitChars_ten_toDigits]

theorem nodup_candidates (base : String) (count : Nat) :
    (base :: (List.range' 2 count).map fun n => base ++ "-" ++ toString n).Nodup := by
  apply List.nodup_cons.mpr
  constructor
  · intro listed
    rcases List.mem_map.mp listed with ⟨n, _, same⟩
    have lengths := congrArg String.length same
    rw [String.length_append, String.length_append] at lengths
    have dash : "-".length = 1 := rfl
    omega
  · apply List.Nodup.map _ List.nodup_range'
    intro left right same
    have ends := String.append_right_inj (base ++ "-") |>.mp same
    exact toString_injective ends

theorem freshName_not_mem (used : List String) (base : String) : freshName used base ∉ used := by
  unfold freshName
  cases picked : FirstFit.pick (fun name => decide (name ∉ used))
      (base :: (List.range' 2 used.length).map fun n => base ++ "-" ++ toString n) with
  | some name => exact of_decide_eq_true (FirstFit.free_of_pick picked :)
  | none =>
      have all := FirstFit.pick_eq_none_iff.mp picked
      have taken : (base :: (List.range' 2 used.length).map fun n =>
          base ++ "-" ++ toString n) ⊆ used := by
        intro name listed
        exact Decidable.not_not.mp (of_decide_eq_false (all name listed))
      have short := (List.subperm_of_subset (nodup_candidates base used.length) taken).length_le
      rw [List.length_cons, List.length_map, List.length_range'] at short
      omega

end HomelabBuilder.Gaming
