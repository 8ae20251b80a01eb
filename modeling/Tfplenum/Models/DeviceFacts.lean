/-
  Tfplenum.Models.DeviceFacts

  `models/device_facts.py`: `DeviceFacts._transform`, which turns the facts that
  ansible gathers about a machine into the disks, interfaces and sizes the
  backend stores for a node, and which of the disks it flags as holding a root
  filesystem.
-/

import Tfplenum.Json
import Tfplenum.Lib.Links
import Tfplenum.Lib.Program
import Mathlib.Logic.Relation
import Mathlib.Data.List.Infix
import Mathlib.Data.Nat.Digits.Defs

namespace Tfplenum

open Lib

/-! ## The facts -/

structure AnsiblePartition where
  holders : List String

/-- An entry of `ansible_devices`. -/
structure AnsibleDevice where
  removable : String
  size : String
  rotational : Json
  holders : List String
  partitions : Table String AnsiblePartition

/-- An `ansible_<interface>` entry; `ipv4` is the address in it. -/
structure AnsibleInterface where
  ipv4 : Option String
  macaddress : Option String
  speed : Option Int

/-- An entry of `ansible_mounts`. -/
structure AnsibleMount where
  mount : String
  uuid : String

/-- `json_object['ansible_facts']`, as far as `_transform` reads it. -/
structure AnsibleFacts where
  /-- `ansible_devices` -/
  devices : Table String AnsibleDevice
  /-- `ansible_device_links['uuids']`: the filesystems found on a device -/
  uuids : Table String (List String)
  /-- `ansible_device_links['masters']`: the devices built on a device -/
  masters : Table String (List String)
  /-- `ansible_interfaces` -/
  interfaces : List String
  /-- the `ansible_<interface>` entries, by their full key -/
  interfaceFacts : Table String AnsibleInterface
  /-- `ansible_mounts` -/
  mounts : List AnsibleMount
  /-- `ansible_memory_mb['real']['total']` -/
  memoryTotal : Int
  /-- `ansible_processor_vcpus` -/
  vcpus : Int
  /-- `ansible_fqdn` -/
  fqdn : String

structure Disk where
  name : String
  hasRoot : Bool
  sizeGb : Float
  sizeTb : Float
  diskRotation : Json

structure Interface where
  name : String
  ipAddress : String
  macAddress : String
  speed : Int

structure DeviceFacts where
  hostname : String
  memoryMb : Float
  memoryGb : Float
  memoryAvailable : Float
  interfaces : List Interface
  cpusAvailable : Int
  disks : List Disk
  managementIp : String
  potentialMonitorInterfaces : List String

/-! ## Disks -/

/-- `Disk(name)` -/
def Disk.init (name : String) : Disk where
  name := name
  hasRoot := false
  sizeGb := 0.0
  sizeTb := 0.0
  diskRotation := .num 0

/-- `float(text)` of a decimal numeral, the form in which ansible prints a size. -/
def floatOfDecimal (text : List Char) : Except PyError Float :=
  let (whole, fraction) := (text.takeWhile (· ≠ '.'), (text.dropWhile (· ≠ '.')).tail)
  if (whole ++ fraction).all Char.isDigit ∧ whole ++ fraction ≠ [] then
    let digits := (whole ++ fraction).map fun c => c.toNat - '0'.toNat
    .ok (Float.ofScientific (Nat.ofDigits 10 digits.reverse) true fraction.length)
  else .error (.valueError "could not convert string to float")

/-- `Disk.set_size` -/
def Disk.setSize (disk : Disk) (ansibleSize : String) : Except PyError Disk := do
  let sizeSplit := ansibleSize.toList.splitOn ' '
  let size ← floatOfDecimal (sizeSplit.headD [])
  match sizeSplit with
  | _ :: unit :: _ =>
      if unit = ['G', 'B'] then .ok { disk with sizeGb := size, sizeTb := size / 1024 }
      else if unit = ['T', 'B'] then .ok { disk with sizeGb := size * 1024, sizeTb := size }
      else .ok { disk with sizeGb := 0, sizeTb := 0 }
  | _ => .error .indexError

namespace AnsibleDevice

/-- Whether `_transform` lists the device: something is built on it or on one of
    its partitions, but not on both. -/
def listed (device : AnsibleDevice) : Bool :=
  device.removable ≠ "1" ∧
    ((0 < device.holders.length ∧ device.partitions.rows.length = 0) ∨
      (device.holders.length = 0 ∧
        0 < (device.partitions.rows.filter fun row => 0 < row.2.holders.length).length))

end AnsibleDevice

/-- The loop over `ansible_devices`, as far as it collects `disks`. -/
def disksOf : List (String × AnsibleDevice) → Except PyError (List Disk)
  | [] => .ok []
  | (name, device) :: rows => do
      if device.listed then
        let disk ← (Disk.init name).setSize device.size
        let disks ← disksOf rows
        return { disk with diskRotation := device.rotational } :: disks
      else disksOf rows

/-! ## Root filesystems -/

/-- The reverse dictionaries. -/
structure ReverseLinks where
  diskLinks : Table String String
  masterLinks : Table String String
  partitionLinks : Table String String

namespace AnsibleFacts

/-- The names of the partitions of each device. -/
def partitionNames (facts : AnsibleFacts) : List (String × List String) :=
  facts.devices.rows.map fun row => (row.1, row.2.partitions.rows.map Prod.fst)

def reverseLinks (facts : AnsibleFacts) : ReverseLinks where
  diskLinks := Links.invert facts.uuids.rows
  masterLinks := Links.invert facts.masters.rows
  partitionLinks := Links.invert facts.partitionNames

end AnsibleFacts

/-- `next((x for x in disks if x.name == part_val), None)`, and the flag set on
    the disk it finds. -/
def markRoot : List Disk → Option String → List Disk
  | [], _ => []
  | disk :: disks, partVal =>
      if some disk.name = partVal then { disk with hasRoot := true } :: disks
      else disk :: markRoot disks partVal

def AnsibleMount.isRoot (mount : AnsibleMount) : Bool := mount.mount = "/" ∨ mount.mount = "/boot"

/-- One round of the loop over `ansible_mounts`. -/
def markMount (links : ReverseLinks) (disks : List Disk) (mount : AnsibleMount) : List Disk :=
  if mount.isRoot then
    let partVal := links.diskLinks.get? mount.uuid
    let disks := markRoot disks partVal
    let masterPartVal := partVal.bind links.masterLinks.get?
    let topPartVal := partVal.bind links.partitionLinks.get?
    let disks := markRoot disks topPartVal
    let disks := markRoot disks masterPartVal
    let topPartVal := masterPartVal.bind links.partitionLinks.get?
    markRoot disks topPartVal
  else disks

/-! ## Interfaces and the whole of it -/

def excludedInterfaces : List String :=
  ["veth", "cni", "docker", "flannel", "virbr0", "lo", "cali", "tunl"]

/-- The loop over `ansible_interfaces`. -/
def interfacesOf (interfaceFacts : Table String AnsibleInterface) :
    List String → Except PyError (List Interface)
  | [] => .ok []
  | i :: names => do
      if excludedInterfaces.any fun special => special.toList <:+: i.toList then
        interfacesOf interfaceFacts names
      else
        let name := "ansible_" ++ i
        match interfaceFacts.get? name with
        | none => .error (.keyError name)
        | some interface =>
            let ip := interface.ipv4.getD ""
            let interfaces ← interfacesOf interfaceFacts names
            if ip ≠ "127.0.0.1" then
              return { name := i, ipAddress := ip, macAddress := interface.macaddress.getD "",
                       speed := interface.speed.getD 0 } :: interfaces
            else return interfaces

/-- `DeviceFacts._transform` -/
def DeviceFacts.transform (facts : AnsibleFacts) (managementIp : String) :
    Except PyError DeviceFacts := do
  let disks ← disksOf facts.devices.rows
  let interfaces ← interfacesOf facts.interfaceFacts facts.interfaces
  let memory := Float.ofInt facts.memoryTotal
  return {
    hostname := facts.fqdn
    memoryMb := memory
    memoryGb := memory / 1024
    memoryAvailable := memory / 1024
    interfaces := interfaces
    cpusAvailable := facts.vcpus
    disks := facts.mounts.foldl (markMount facts.reverseLinks) disks
    managementIp := managementIp
    potentialMonitorInterfaces :=
      (interfaces.filter fun interface => interface.ipAddress ≠ managementIp).map Interface.name }

/-! ## Flagged disks -/

theorem Disk.setSize_eq_ok {disk disk' : Disk} {ansibleSize : String}
    (h : disk.setSize ansibleSize = .ok disk') :
    disk'.name = disk.name ∧ disk'.hasRoot = disk.hasRoot := by
  obtain ⟨size, -, h⟩ := exists_of_bind_eq_ok h
  split at h
  · split at h
    · cases h
      exact ⟨rfl, rfl⟩
    · split at h <;> cases h <;> exact ⟨rfl, rfl⟩
  · cases h

/-- The disks are the listed devices, none of them flagged yet. -/
theorem disksOf_eq_ok {rows : List (String × AnsibleDevice)} {disks : List Disk}
    (h : disksOf rows = .ok disks) :
    disks.map Disk.name = (rows.filter (·.2.listed)).map Prod.fst ∧
      ∀ disk ∈ disks, disk.hasRoot = false := by
  induction rows generalizing disks with
  | nil =>
      cases h
      simp
  | cons row rows ih =>
      obtain ⟨name, device⟩ := row
      by_cases hlisted : device.listed = true
      · rw [disksOf, if_pos hlisted] at h
        obtain ⟨disk, hsize, h⟩ := exists_of_bind_eq_ok h
        obtain ⟨rest, hrest, h⟩ := exists_of_bind_eq_ok h
        cases h
        obtain ⟨hname, hroot⟩ := Disk.setSize_eq_ok hsize
        obtain ⟨hnames, hroots⟩ := ih hrest
        simp only [Disk.init] at hname hroot
        -- a new disk is not flagged, nor are those of the other rows
        refine ⟨by simp [hlisted, hname, hnames], ?_⟩
        intro other hother
        rcases List.mem_cons.mp hother with rfl | hother
        · exact hroot
        · exact hroots other hother
      · rw [disksOf, if_neg hlisted] at h
        simpa [hlisted] using ih h

/-- The disk, flagged if its name is among the given ones. -/
def Disk.flag (p : String → Bool) (disk : Disk) : Disk :=
  { disk with hasRoot := disk.hasRoot || p disk.name }

@[simp] theorem Disk.name_flag (p : String → Bool) (disk : Disk) : (disk.flag p).name = disk.name :=
  rfl

theorem Disk.map_name_flag (p : String → Bool) (disks : List Disk) :
    (disks.map (Disk.flag p)).map Disk.name = disks.map Disk.name := by
  rw [List.map_map]
  rfl

theorem Disk.map_flag_map_flag (p q : String → Bool) (disks : List Disk) :
    (disks.map (Disk.flag p)).map (Disk.flag q) = disks.map (Disk.flag fun n => p n || q n) := by
  rw [List.map_map]
  refine List.map_congr_left fun disk _ => ?_
  simp [Disk.flag, Bool.or_assoc]

theorem markRoot_eq_map {disks : List Disk} (h : (disks.map Disk.name).Nodup)
    (partVal : Option String) :
    markRoot disks partVal = disks.map (Disk.flag fun name => some name = partVal) := by
  induction disks with
  | nil => rfl
  | cons disk disks ih =>
      obtain ⟨hnew, hrest⟩ := List.nodup_cons.mp h
      by_cases hname : some disk.name = partVal
      · -- no other disk has the name
        have hothers : disks.map (Disk.flag fun name => some name = partVal) = disks := by
          rw [List.map_congr_left (g := id), List.map_id]
          intro other hother
          have hne : some other.name ≠ partVal := by
            rintro rfl
            refine hnew (List.mem_map.mpr ⟨other, hother, ?_⟩)
            exact (Option.some.inj hname).symm
          simp [Disk.flag, hne]
        rw [List.map_cons, hothers]
        simp [markRoot, hname, Disk.flag]
      · rw [List.map_cons, ← ih hrest]
        simp [markRoot, hname, Disk.flag]

theorem markRoot_map_flag {disks : List Disk} (h : (disks.map Disk.name).Nodup)
    (p : String → Bool) (partVal : Option String) :
    markRoot (disks.map (Disk.flag p)) partVal =
      disks.map (Disk.flag fun name => p name || some name = partVal) := by
  rw [markRoot_eq_map (by rwa [Disk.map_name_flag]), Disk.map_flag_map_flag]

/-- Where `_transform` looks for the filesystem: its device, the disk that is
    partitioned into it, its member, and the disk that is partitioned into that. -/
def ReverseLinks.candidates (links : ReverseLinks) (uuid : String) : List (Option String) :=
  let partVal := links.diskLinks.get? uuid
  let masterPartVal := partVal.bind links.masterLinks.get?
  [partVal, partVal.bind links.partitionLinks.get?, masterPartVal,
    masterPartVal.bind links.partitionLinks.get?]

def ReverseLinks.marks (links : ReverseLinks) (mount : AnsibleMount) (name : String) : Bool :=
  mount.isRoot && (links.candidates mount.uuid).contains (some name)

theorem markMount_eq_map (links : ReverseLinks) {disks : List Disk}
    (h : (disks.map Disk.name).Nodup) (mount : AnsibleMount) :
    markMount links disks mount = disks.map (Disk.flag (links.marks mount)) := by
  unfold markMount
  split
  · next hroot =>
    simp only []
    rw [markRoot_eq_map h, markRoot_map_flag h, markRoot_map_flag h, markRoot_map_flag h]
    refine List.map_congr_left fun disk _ => ?_
    simp [Disk.flag, ReverseLinks.marks, ReverseLinks.candidates, hroot, Bool.or_assoc]
  · next hroot =>
    rw [List.map_congr_left (g := id), List.map_id]
    intro disk _
    simp [Disk.flag, ReverseLinks.marks, hroot]

/-- The loop flags the disks that some root mount leads to. -/
theorem foldl_markMount (links : ReverseLinks) (mounts : List AnsibleMount) {disks : List Disk}
    (h : (disks.map Disk.name).Nodup) :
    mounts.foldl (markMount links) disks =
      disks.map (Disk.flag fun name => mounts.any fun mount => links.marks mount name) := by
  induction mounts generalizing disks with
  | nil =>
      rw [List.map_congr_left (g := id), List.map_id]
      · rfl
      · intro disk _
        simp [Disk.flag]
  | cons mount mounts ih =>
      rw [List.foldl_cons, markMount_eq_map links h, ih (by rwa [Disk.map_name_flag]),
        Disk.map_flag_map_flag]
      rfl

/-! ## What storage lies on what -/

namespace AnsibleFacts

/-- `upper` is laid directly on `lower`: as a partition of the disk, or as a
    volume or RAID device with it as a member. -/
def LaidOn (facts : AnsibleFacts) (upper lower : String) : Prop :=
  Links.Linked facts.partitionNames upper lower ∨ Links.Linked facts.masters.rows upper lower

/-- A filesystem mounted at `/` or `/boot` is stored on the device, through any
    chain of layers. -/
def StoresRoot (facts : AnsibleFacts) (name : String) : Prop :=
  ∃ mount ∈ facts.mounts, mount.isRoot = true ∧ ∃ device,
    Links.Linked facts.uuids.rows mount.uuid device ∧
      Relation.ReflTransGen facts.LaidOn device name

/-- As `StoresRoot`, but where a device, a member or a disk is listed more than
    once only the last entry counts, and there is at most one member and, below
    it, at most one partition on the way. -/
def FollowedToRoot (facts : AnsibleFacts) (name : String) : Prop :=
  ∃ mount ∈ facts.mounts, mount.isRoot = true ∧ ∃ device,
    Links.LastLinked facts.uuids.rows mount.uuid device ∧
      (name = device ∨ Links.LastLinked facts.partitionNames device name ∨
        Links.LastLinked facts.masters.rows device name ∨
          ∃ member, Links.LastLinked facts.masters.rows device member ∧
            Links.LastLinked facts.partitionNames member name)

theorem FollowedToRoot.storesRoot {facts : AnsibleFacts} {name : String}
    (h : facts.FollowedToRoot name) : facts.StoresRoot name := by
  obtain ⟨mount, hmount, hroot, device, hdevice, hname⟩ := h
  refine ⟨mount, hmount, hroot, device, hdevice.linked, ?_⟩
  rcases hname with rfl | hdisk | hmember | ⟨member, hmember, hdisk⟩
  · exact .refl
  · exact .single (Or.inl hdisk.linked)
  · exact .single (Or.inr hmember.linked)
  · exact .head (Or.inr hmember.linked) (.single (Or.inl hdisk.linked))

/-- The dictionaries lead from a filesystem to a disk along the last entries. -/
theorem mem_candidates_iff (facts : AnsibleFacts) (uuid name : String) :
    some name ∈ facts.reverseLinks.candidates uuid ↔
      ∃ device, Links.LastLinked facts.uuids.rows uuid device ∧
        (name = device ∨ Links.LastLinked facts.partitionNames device name ∨
          Links.LastLinked facts.masters.rows device name ∨
            ∃ member, Links.LastLinked facts.masters.rows device member ∧
              Links.LastLinked facts.partitionNames member name) := by
  simp only [ReverseLinks.candidates, reverseLinks, List.mem_cons, List.not_mem_nil, or_false,
    eq_comm (a := some name), Option.bind_eq_some_iff, Links.get?_invert_eq_some_iff]
  constructor
  · rintro (hname | ⟨device, hdevice, hdisk⟩ | ⟨device, hdevice, hmember⟩ |
      ⟨member, ⟨device, hdevice, hmember⟩, hdisk⟩)
    · exact ⟨name, hname, Or.inl rfl⟩
    · exact ⟨device, hdevice, Or.inr (Or.inl hdisk)⟩
    · exact ⟨device, hdevice, Or.inr (Or.inr (Or.inl hmember))⟩
    · exact ⟨device, hdevice, Or.inr (Or.inr (Or.inr ⟨member, hmember, hdisk⟩))⟩
  · rintro ⟨device, hdevice, rfl | hdisk | hmember | ⟨member, hmember, hdisk⟩⟩
    · exact Or.inl hdevice
    · exact Or.inr (Or.inl ⟨device, hdevice, hdisk⟩)
    · exact Or.inr (Or.inr (Or.inl ⟨device, hdevice, hmember⟩))
    · exact Or.inr (Or.inr (Or.inr ⟨member, ⟨device, hdevice, hmember⟩, hdisk⟩))

end AnsibleFacts

/-! ## Root disk detection -/

namespace DeviceFacts

/-- The flagged disks are those that store a root filesystem. -/
def RootsDetected (deviceFacts : DeviceFacts) (facts : AnsibleFacts) : Prop :=
  ∀ disk ∈ deviceFacts.disks, disk.hasRoot = true ↔ facts.StoresRoot disk.name

theorem transform_eq_ok {facts : AnsibleFacts} {managementIp : String} {deviceFacts : DeviceFacts}
    (h : transform facts managementIp = .ok deviceFacts) :
    ∃ disks, disksOf facts.devices.rows = .ok disks ∧
      deviceFacts.disks = facts.mounts.foldl (markMount facts.reverseLinks) disks := by
  rw [transform] at h
  obtain ⟨disks, hdisks, h⟩ := exists_of_bind_eq_ok h
  obtain ⟨interfaces, -, h⟩ := exists_of_bind_eq_ok h
  cases h
  exact ⟨disks, hdisks, rfl⟩

variable {facts : AnsibleFacts} {managementIp : String} {deviceFacts : DeviceFacts}

/-- What `_transform` finds: the listed devices, each flagged if the dictionaries
    lead to it. -/
theorem disks_transform (h : transform facts managementIp = .ok deviceFacts) :
    deviceFacts.disks.map Disk.name = (facts.devices.rows.filter (·.2.listed)).map Prod.fst ∧
      ∀ disk ∈ deviceFacts.disks, disk.hasRoot = true ↔ facts.FollowedToRoot disk.name := by
  obtain ⟨disks, hdisks, heq⟩ := transform_eq_ok h
  obtain ⟨hnames, hroots⟩ := disksOf_eq_ok hdisks
  have hnodup : (disks.map Disk.name).Nodup := by
    rw [hnames]
    exact facts.devices.nodup.sublist (List.filter_sublist.map _)
  rw [heq, foldl_markMount _ _ hnodup]
  refine ⟨by rwa [Disk.map_name_flag], ?_⟩
  intro disk hdisk
  obtain ⟨disk, hmem, rfl⟩ := List.mem_map.mp hdisk
  simp only [Disk.flag, hroots disk hmem, Bool.false_or, List.any_eq_true, ReverseLinks.marks,
    Bool.and_eq_true, List.contains_iff_mem, facts.mem_candidates_iff,
    AnsibleFacts.FollowedToRoot]

/-- A flagged disk does store a root filesystem. -/
theorem storesRoot_of_hasRoot (h : transform facts managementIp = .ok deviceFacts) {disk : Disk}
    (hdisk : disk ∈ deviceFacts.disks) (hroot : disk.hasRoot = true) :
    facts.StoresRoot disk.name :=
  (((disks_transform h).2 disk hdisk).mp hroot).storesRoot

theorem rootsDetected_iff (h : transform facts managementIp = .ok deviceFacts) :
    deviceFacts.RootsDetected facts ↔
      ∀ row ∈ facts.devices.rows, row.2.listed = true → facts.StoresRoot row.1 →
        facts.FollowedToRoot row.1 := by
  obtain ⟨hnames, hroots⟩ := disks_transform h
  constructor
  · intro hdetected row hrow hlisted hstores
    have hname : row.1 ∈ deviceFacts.disks.map Disk.name := by
      rw [hnames]
      exact List.mem_map_of_mem (List.mem_filter.mpr ⟨hrow, hlisted⟩)
    obtain ⟨disk, hdisk, hdiskName⟩ := List.mem_map.mp hname
    rw [← hdiskName] at hstores ⊢
    exact (hroots disk hdisk).mp ((hdetected disk hdisk).mpr hstores)
  · intro hfollowed disk hdisk
    have hname : disk.name ∈ (facts.devices.rows.filter (·.2.listed)).map Prod.fst := by
      rw [← hnames]
      exact List.mem_map_of_mem hdisk
    obtain ⟨row, hrow, hrowName⟩ := List.mem_map.mp hname
    obtain ⟨hmem, hlisted⟩ := List.mem_filter.mp hrow
    constructor
    · exact storesRoot_of_hasRoot h hdisk
    · intro hstores
      rw [← hrowName] at hstores
      exact (hroots disk hdisk).mpr (hrowName ▸ hfollowed row hmem hlisted hstores)

/-- An SSD whose second partition is a member of `dm-0`. -/
def memberDisk (first second : String) (h : first ≠ second) : AnsibleDevice where
  removable := "0"
  size := "500.00 GB"
  rotational := .str "0"
  holders := []
  partitions := ⟨[(first, ⟨[]⟩), (second, ⟨["dm-0"]⟩)], by simpa using h⟩

/-- A machine that boots from a logical volume over the given partitions. -/
def volumeFacts (devices : Table String AnsibleDevice) (masters : Table String (List String)) :
    AnsibleFacts where
  devices := devices
  uuids := ⟨[("dm-0", ["9c1d5a4e"])], by decide⟩
  masters := masters
  interfaces := ["lo", "ens192"]
  interfaceFacts := ⟨[("ansible_ens192", ⟨some "10.40.12.5", none, some 10000⟩)], by decide⟩
  mounts := [⟨"/", "9c1d5a4e"⟩]
  memoryTotal := 15884
  vcpus := 8
  fqdn := "server1.lan"

/-- The volume lies on `sda` alone. -/
def oneDiskFacts : AnsibleFacts :=
  volumeFacts ⟨[("sda", memberDisk "sda1" "sda2" (by decide))], by decide⟩
    ⟨[("sda2", ["dm-0"])], by decide⟩

/-- The volume spans `sda` and `sdb`. -/
def twoDiskFacts : AnsibleFacts :=
  volumeFacts
    ⟨[("sda", memberDisk "sda1" "sda2" (by decide)), ("sdb", memberDisk "sdb1" "sdb2" (by decide))],
      by decide⟩
    ⟨[("sda2", ["dm-0"]), ("sdb2", ["dm-0"])], by decide⟩

theorem rootsDetected_iff_oneDisk :
    ∃ deviceFacts, transform oneDiskFacts "10.40.12.5" = .ok deviceFacts ∧
      (deviceFacts.RootsDetected oneDiskFacts ↔
        ∀ row ∈ oneDiskFacts.devices.rows, row.2.listed = true → oneDiskFacts.StoresRoot row.1 →
          oneDiskFacts.FollowedToRoot row.1) :=
  ⟨_, rfl, rootsDetected_iff (rfl : transform oneDiskFacts "10.40.12.5" = .ok _)⟩

/-- Of the two disks under the volume only the last one listed is flagged. -/
theorem not_rootsDetected :
    ¬∀ facts managementIp deviceFacts, transform facts managementIp = .ok deviceFacts →
      deviceFacts.RootsDetected facts := by
  intro hall
  have hdetected := hall twoDiskFacts "10.40.12.5" _ rfl _ (List.mem_cons_self ..)
  refine absurd (hdetected.mpr ?_) (by decide)
  refine ⟨_, List.mem_cons_self .., rfl, "dm-0", ⟨_, List.mem_cons_self .., by decide⟩, ?_⟩
  -- `dm-0` has `sda2` as a member, which is a partition of `sda`
  exact .head (b := "sda2") (Or.inr ⟨["dm-0"], List.mem_cons_self .., by decide⟩)
    (.single (Or.inl ⟨_, List.mem_cons_self .., by decide⟩))

end DeviceFacts

end Tfplenum
