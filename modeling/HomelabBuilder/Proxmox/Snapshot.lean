import Mathlib.Data.List.Sort
import HomelabBuilder.Gaming.Compose

/-! # Snapshots of a cluster

`types.go`: what runs on a Proxmox cluster, as far as hosts are told apart by it
and compared with a plan.
-/

namespace HomelabBuilder.Proxmox

structure Interface where
  name : String
  mac : String := ""

/-- One Proxmox host. Cores are physical, threads logical processors. -/
structure Node where
  name : String
  online : Bool := true
  cpuModel : String := ""
  cores : Int := 0
  threads : Int := 0
  memoryMB : Int := 0
  diskGB : Rat := 0
  interfaces : List Interface := []

structure Guest where
  vmid : Int
  name : String
  kind : String := ""
  node : String
  status : String := ""
  template : Bool := false
  cpus : Rat := 0
  memoryMB : Int := 0
  diskGB : Rat := 0
  ip : String := ""

structure Storage where
  name : String
  node : String
  shared : Bool := false
  totalGB : Rat := 0

structure Snapshot where
  nodes : List Node
  guests : List Guest := []
  storage : List Storage := []

def statusStopped : String := "stopped"

namespace Snapshot

/-- The guests of a host that are not templates, by id. -/
def guestsOn (snapshot : Snapshot) (node : String) : List Guest :=
  (snapshot.guests.filter fun guest => guest.node = node && !guest.template).insertionSort
    fun left right => left.vmid ≤ right.vmid

/-- The storage that lives in a host itself; what is shared belongs to no machine. -/
def localStorageGB (snapshot : Snapshot) (node : String) : Rat :=
  ((snapshot.storage.filter fun storage => storage.node = node && !storage.shared).map
    Storage.totalGB).sum

end Snapshot

/-- What two spellings of a name share: "Pi-hole" and "PiHole" are the same guest. -/
def normalizeName (name : String) : String := String.ofList (name.toList.filterMap Gaming.slugChar)

/-- `math.Round`, half away from zero. -/
def roundHalfAway (value : Rat) : Int :=
  if 0 ≤ value then (value + 1 / 2).floor else (value - 1 / 2).ceil

/-- A memory figure of a host in GB, to one decimal. -/
def shownGB (memoryMB : Int) : Rat := (roundHalfAway (memoryMB / 1024 * 10) : Rat) / 10

/-- What the comparison takes from a regular expression, from Unicode tables and
from the arithmetic of doubles. -/
structure Reader where
  cpuKey : String → String
  toUpper : String → String
  times : Rat → Rat → Rat

/-- Whether a host that shows so much memory could be a machine sold with `nominalGB`.
A host always shows a little less than is fitted. -/
def memoryFits (reader : Reader) (actualMB : Int) (nominalGB : Rat) : Bool :=
  let actualGB : Rat := actualMB / 1024
  0 < actualMB && 0 < nominalGB && reader.times nominalGB (85 / 100) ≤ actualGB &&
    actualGB ≤ reader.times nominalGB (102 / 100)

end HomelabBuilder.Proxmox
