import HomelabBuilder.Foundation.Booking
import HomelabBuilder.Gaming.Report

/-! # Which conflicts the report finds

A conflict is found exactly where a port of a host, or of an outermost router, has
two owners of different names.
-/

namespace HomelabBuilder.Gaming

open Booking (Agree Booked)

section

variable (profileBySlug : String → Option Profile) (input : ReportInput)

/-- The settings of a guest that is a game server, as far as they are valid. -/
def ReportGuest.runs (guest : ReportGuest) : Option (Instance × Profile) :=
  guest.game.bind fun game => (game.normalize profileBySlug).toOption

def hostPortsOf (guest : ReportGuest) : List ResolvedPort :=
  match guest.runs profileBySlug with
  | none => []
  | some (game, profile) =>
      if guest.type = "container" then profile.resolvePorts game.portOffset else []

/-- The ports that routers have to forward to a server. -/
def forwardedPortsOf (guest : ReportGuest) : List ResolvedPort :=
  match guest.runs profileBySlug with
  | none => []
  | some (game, profile) =>
      if game.exposure = exposurePortForward then
        (profile.resolvePorts game.portOffset).filter fun port => port.forward
      else []

def hostEntries (placed : ReportNode × ReportGuest) : List (PortKey × String) :=
  (hostPortsOf profileBySlug placed.2).map fun port => (portKey placed.1.id port, placed.2.name)

def forwardEntries (placed : ReportNode × ReportGuest) : List (PortKey × String) :=
  match input.natChain placed.1.id with
  | .through edge _ =>
      (forwardedPortsOf profileBySlug placed.2).map fun port => (portKey edge.id port, placed.2.name)
  | _ => []

def portForwardsOf (placed : ReportNode × ReportGuest) : List PortForward :=
  match input.natChain placed.1.id with
  | .through edge inner =>
      (forwardedPortsOf profileBySlug placed.2).flatMap
        (forwardsOf placed.2 (edge :: inner) (targetIPOf placed.1 placed.2))
  | _ => []

end

/-! ## One server -/

/-- What has been found among the ports taken so far. -/
structure Checked (check : ServerCheck) (taken forwarded : List (PortKey × String))
    (forwards : List PortForward) : Prop where
  hosts : Booked check.hostPorts (check.report.lists "host_port_conflict") taken
  routers : Booked check.forwardKeys (check.report.lists "port_conflict") forwarded
  forwards : check.report.portForwards = forwards

theorem lists_add (check : ServerCheck) (issue : Issue) (code : String) :
    (check.add issue).report.lists code ↔ check.report.lists code ∨ issue.code = code := by
  unfold Report.lists ServerCheck.add
  simp only [List.mem_append, List.mem_singleton, or_and_right, exists_or, exists_eq_left]

theorem other_eq_some {keys : List (PortKey × String)} {key : PortKey} {name other : String}
    (found : ServerCheck.other keys key name = some other) :
    keys.lookup key = some other ∧ other ≠ name := by
  rw [ServerCheck.other, Option.filter_eq_some_iff] at found
  exact ⟨found.1, of_decide_eq_true found.2⟩

theorem other_eq_none {keys : List (PortKey × String)} {key : PortKey} {name : String}
    (free : ServerCheck.other keys key name = none) :
    ∀ other, keys.lookup key = some other → other = name := by
  intro other found
  rw [ServerCheck.other, Option.filter_eq_none_iff] at free
  by_contra different
  exact free other found (decide_eq_true different)

section

variable {check : ServerCheck} {taken forwarded : List (PortKey × String)}
  {forwards : List PortForward} (checked : Checked check taken forwarded forwards)

include checked

theorem Checked.add {issue : Issue} (host : issue.code ≠ "host_port_conflict")
    (router : issue.code ≠ "port_conflict") :
    Checked (check.add issue) taken forwarded forwards where
  hosts := checked.hosts.congr ((lists_add check issue _).trans (or_iff_left host))
  routers := checked.routers.congr ((lists_add check issue _).trans (or_iff_left router))
  forwards := checked.forwards

theorem Checked.listenOnHost (host : ReportNode) (guest : ReportGuest)
    (ports : List ResolvedPort) :
    Checked (listenOnHost host guest ports check)
      (taken ++ ports.map fun port => (portKey host.id port, guest.name)) forwarded forwards := by
  induction ports generalizing check taken with
  | nil =>
      rw [List.map_nil, List.append_nil]
      exact checked
  | cons port rest induction =>
      unfold Gaming.listenOnHost
      rw [List.map_cons]
      split
      · -- The ports behind the conflict are not looked at any more.
        rename_i other found
        rcases other_eq_some found with ⟨lookup, different⟩
        refine ⟨(checked.hosts.clash lookup different _).congr ?_, checked.routers.congr ?_,
          checked.forwards⟩
        · exact (lists_add check _ _).trans (iff_true_intro (.inr rfl))
        · refine (lists_add check _ _).trans (or_iff_left ?_)
          show "host_port_conflict" ≠ "port_conflict"
          decide
      · rename_i free
        have booked : Checked { check with
            hostPorts := Table.set check.hostPorts (portKey host.id port) guest.name }
            (taken ++ [(portKey host.id port, guest.name)]) forwarded forwards :=
          ⟨checked.hosts.set (other_eq_none free), checked.routers, checked.forwards⟩
        have after := induction booked
        rw [List.append_assoc] at after
        exact after

theorem Checked.forwardPort (host : ReportNode) (guest : ReportGuest) (edge : ReportNode)
    (inner : List ReportNode) (targetIP : String) (port : ResolvedPort) :
    Checked (forwardPort host guest edge inner targetIP check port) taken
      (forwarded ++ [(portKey edge.id port, guest.name)])
      (forwards ++ forwardsOf guest (edge :: inner) targetIP port) := by
  unfold Gaming.forwardPort
  dsimp only
  split
  · rename_i other found
    rcases other_eq_some found with ⟨lookup, different⟩
    refine ⟨checked.hosts.congr ?_, (checked.routers.clash lookup different []).congr ?_, ?_⟩
    · refine (lists_add check _ _).trans (or_iff_left ?_)
      show "port_conflict" ≠ "host_port_conflict"
      decide
    · exact (lists_add check _ _).trans (iff_true_intro (.inr rfl))
    · exact congrArg (· ++ _) checked.forwards
  · rename_i free
    exact ⟨checked.hosts, checked.routers.set (other_eq_none free),
      congrArg (· ++ _) checked.forwards⟩

theorem Checked.forwardPorts (host : ReportNode) (guest : ReportGuest) (edge : ReportNode)
    (inner : List ReportNode) (targetIP : String) (ports : List ResolvedPort) :
    Checked (ports.foldl (Gaming.forwardPort host guest edge inner targetIP) check) taken
      (forwarded ++ ports.map fun port => (portKey edge.id port, guest.name))
      (forwards ++ ports.flatMap (forwardsOf guest (edge :: inner) targetIP)) := by
  induction ports generalizing check forwarded forwards with
  | nil =>
      rw [List.map_nil, List.flatMap_nil, List.append_nil, List.append_nil]
      exact checked
  | cons port rest induction =>
      have after := induction (checked.forwardPort host guest edge inner targetIP port)
      rw [List.append_assoc, List.append_assoc] at after
      exact after

end

theorem Checked.forwardServer {check : ServerCheck} {taken forwarded : List (PortKey × String)}
    {forwards : List PortForward} (checked : Checked check taken forwarded forwards)
    (host : ReportNode) (guest : ReportGuest) (edge : ReportNode) (inner : List ReportNode)
    (targetIP : String) (ports : List ResolvedPort) :
    Checked (forwardServer host guest (.through edge inner) targetIP ports check) taken
      (forwarded ++ (ports.filter fun port => port.forward).map fun port =>
        (portKey edge.id port, guest.name))
      (forwards ++ (ports.filter fun port => port.forward).flatMap
        (forwardsOf guest (edge :: inner) targetIP)) := by
  unfold Gaming.forwardServer
  dsimp only
  have addressed : Checked (if targetIP = "" then check.add (serverNoAddress host guest) else check)
      taken forwarded forwards := by
    split
    · apply checked.add
      · show "server_no_address" ≠ "host_port_conflict"
        decide
      · show "server_no_address" ≠ "port_conflict"
        decide
    · exact checked
  have done := addressed.forwardPorts host guest edge inner targetIP
    (ports.filter fun port => port.forward)
  split
  · exact done
  · apply done.add
    · show "double_nat" ≠ "host_port_conflict"
      decide
    · show "double_nat" ≠ "port_conflict"
      decide

section

variable {profileBySlug : String → Option Profile} {input : ReportInput} {check : ServerCheck}
  {taken forwarded : List (PortKey × String)} {forwards : List PortForward}

theorem hostEntries_of_idle (placed : ReportNode × ReportGuest)
    (idle : placed.2.runs profileBySlug = none) : hostEntries profileBySlug placed = [] := by
  unfold hostEntries hostPortsOf
  rw [idle]
  rfl

theorem forwardEntries_of_idle (input : ReportInput) (placed : ReportNode × ReportGuest)
    (idle : forwardedPortsOf profileBySlug placed.2 = []) :
    forwardEntries profileBySlug input placed = [] ∧
      portForwardsOf profileBySlug input placed = [] := by
  unfold forwardEntries portForwardsOf
  rw [idle]
  split <;> exact ⟨rfl, rfl⟩

theorem forwardedPortsOf_of_idle {guest : ReportGuest} (idle : guest.runs profileBySlug = none) :
    forwardedPortsOf profileBySlug guest = [] := by
  unfold forwardedPortsOf
  rw [idle]

theorem Checked.checkServer (checked : Checked check taken forwarded forwards)
    (placed : ReportNode × ReportGuest) :
    Checked (checkServer profileBySlug input check placed)
      (taken ++ hostEntries profileBySlug placed)
      (forwarded ++ forwardEntries profileBySlug input placed)
      (forwards ++ portForwardsOf profileBySlug input placed) := by
  rcases placed with ⟨host, guest⟩
  -- A guest that runs no game, or one that is not set up, takes no ports.
  have silent : guest.runs profileBySlug = none → ∀ {after}, Checked after taken forwarded forwards →
      Checked after (taken ++ hostEntries profileBySlug (host, guest))
        (forwarded ++ forwardEntries profileBySlug input (host, guest))
        (forwards ++ portForwardsOf profileBySlug input (host, guest)) := by
    intro idle after checked
    have unforwarded := forwardEntries_of_idle input (host, guest) (forwardedPortsOf_of_idle idle)
    rw [hostEntries_of_idle (host, guest) idle, unforwarded.1, unforwarded.2,
      List.append_nil, List.append_nil, List.append_nil]
    exact checked
  unfold Gaming.checkServer
  dsimp only
  cases given : guest.game with
  | none =>
      apply silent _ checked
      rw [ReportGuest.runs, given]
      rfl
  | some game =>
      dsimp only
      cases settings : game.normalize profileBySlug with
      | error message =>
          apply silent
          · rw [ReportGuest.runs, given]
            exact congrArg Except.toOption settings
          · apply checked.add
            · show "game_settings_invalid" ≠ "host_port_conflict"
              decide
            · show "game_settings_invalid" ≠ "port_conflict"
              decide
      | ok normalized =>
          rcases normalized with ⟨game, profile⟩
          have runs : guest.runs profileBySlug = some (game, profile) := by
            rw [ReportGuest.runs, given]
            exact congrArg Except.toOption settings
          dsimp only
          have listening : Checked (if guest.type = "container" then
              Gaming.listenOnHost host guest (profile.resolvePorts game.portOffset) check else check)
              (taken ++ hostEntries profileBySlug (host, guest)) forwarded forwards := by
            unfold hostEntries hostPortsOf
            rw [runs]
            dsimp only
            split
            · exact checked.listenOnHost host guest _
            · rw [List.map_nil, List.append_nil]
              exact checked
          split
          · rename_i isForwarded
            have ports : forwardedPortsOf profileBySlug guest =
                (profile.resolvePorts game.portOffset).filter fun port => port.forward := by
              unfold forwardedPortsOf
              rw [runs]
              exact if_pos isForwarded
            unfold forwardEntries portForwardsOf
            dsimp only
            rw [ports]
            cases input.natChain host.id with
            | unreachable =>
                rw [List.append_nil, List.append_nil]
                apply listening.add
                · show "no_wan_path" ≠ "host_port_conflict"
                  decide
                · show "no_wan_path" ≠ "port_conflict"
                  decide
            | direct =>
                rw [List.append_nil, List.append_nil]
                apply listening.add
                · show "public_host_direct" ≠ "host_port_conflict"
                  decide
                · show "public_host_direct" ≠ "port_conflict"
                  decide
            | through edge inner => exact listening.forwardServer host guest edge inner _ _
          · rename_i kept
            have ports : forwardedPortsOf profileBySlug guest = [] := by
              unfold forwardedPortsOf
              rw [runs]
              exact if_neg kept
            have unforwarded := forwardEntries_of_idle input (host, guest) ports
            rw [unforwarded.1, unforwarded.2, List.append_nil, List.append_nil]
            exact listening

/-! ## All servers -/

theorem checked_foldl (placed : List (ReportNode × ReportGuest))
    (checked : Checked check taken forwarded forwards) :
    Checked (placed.foldl (Gaming.checkServer profileBySlug input) check)
      (taken ++ placed.flatMap (hostEntries profileBySlug))
      (forwarded ++ placed.flatMap (forwardEntries profileBySlug input))
      (forwards ++ placed.flatMap (portForwardsOf profileBySlug input)) := by
  induction placed generalizing check taken forwarded forwards with
  | nil =>
      rw [List.flatMap_nil, List.flatMap_nil, List.flatMap_nil, List.append_nil, List.append_nil,
        List.append_nil]
      exact checked
  | cons head rest induction =>
      have next : Checked (Gaming.checkServer profileBySlug input check head) _ _ _ :=
        checked.checkServer head
      have after := induction next
      rw [List.append_assoc, List.append_assoc, List.append_assoc] at after
      exact after

end

theorem checked_checkServers (profileBySlug : String → Option Profile) (input : ReportInput) :
    Checked (checkServers profileBySlug input)
      (input.placed.flatMap (hostEntries profileBySlug))
      (input.placed.flatMap (forwardEntries profileBySlug input))
      (input.placed.flatMap (portForwardsOf profileBySlug input)) := by
  have quiet : ∀ code, (({} : ServerCheck).report.lists code) ↔ False := by
    intro code
    unfold Report.lists
    simp
  have start : Checked {} [] [] [] := ⟨Booked.nil.congr (quiet _), Booked.nil.congr (quiet _), rfl⟩
  exact checked_foldl input.placed start

end HomelabBuilder.Gaming
