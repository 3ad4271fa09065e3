import LibCpuid.AffinityMask
import LibCpuid.Identify
import LibCpuid.CLang.Slots

/-! `cpu_identify_all` of `cpuid_main.c`: the loop over the logical CPUs, which opens an entry for
each new type of core and counts the cores and the caches of each entry. -/

namespace LibCpuid

open CLang

/-! ### Counting cores and caches -/

/-- `CORES_HTABLE_SIZE` and `CACHES_HTABLE_SIZE`. -/
abbrev htableSize : Nat := 256

/-- The index `id % CORES_HTABLE_SIZE`, a signed remainder stored in a `uint32_t`. -/
def htableIndex (id : BitVec 32) : Nat := (BitVec.ofInt 32 (id.toInt.tmod htableSize)).toNat

/-- `internal_core_instances_t`, and the tables of one level of `internal_cache_instances_t`. -/
abbrev Instances := SlotTable (BitVec 32) htableSize

/-- A visit of an id to its slot, with an 8-bit counter of the slots and a 16-bit counter of the
logical CPUs of a slot. -/
def Instances.visit (id : BitVec 32) (t : Instances) : Checked Instances :=
  SlotTable.visit htableIndex (2 ^ 8) (2 ^ 16) id t

/-- `internal_cache_instances_t`. -/
abbrev CacheInstances := CacheType → Instances

/-- `update_core_instances`. -/
def updateCoreInstances (cores : Instances) (topology : InternalTopology) : Checked Instances :=
  cores.visit topology.coreId

/-- One level of the loop of `update_cache_instances`. -/
def updateCacheLevel (topology : InternalTopology) (idInfo : InternalIdInfo)
    (caches : CacheInstances) (level : CacheType) : Checked CacheInstances :=
  let mask := idInfo.cacheMask level.index
  if mask = 0 then .ok caches
  else do
    let t ← (caches level).visit (topology.apicId &&& mask)
    .ok (Function.update caches level t)

/-- `update_cache_instances`. -/
def updateCacheInstances (caches : CacheInstances) (topology : InternalTopology)
    (idInfo : InternalIdInfo) : Checked CacheInstances :=
  CacheType.all.foldlM (updateCacheLevel topology idInfo) caches

/-! ### The state of the loop -/

/-- `internal_type_info_t`. -/
structure InternalTypeInfo where
  purpose : CpuPurpose
  packageId : BitVec 32
  idInfo : InternalIdInfo
  coreInstances : Instances
  cacheInstances : CacheInstances

/-- What `cpuid_grow_type_info` stores.  The source leaves the first three fields as they are in
fresh memory; each is written before it is read. -/
def typeInfoConstructor : InternalTypeInfo where
  purpose := .general
  packageId := 0
  idInfo := { score := 0, cacheMask := fun _ => 0 }
  coreInstances := .empty
  cacheInstances _ := .empty

/-- `cpuid_grow_system_id` and `cpuid_grow_type_info`, whose new size is a `uint8_t`. -/
def growTo {α : Type} (constructor : α) (n : Nat) (items : List α) : List α :=
  let n := n % 2 ^ 8
  if n = 0 ∨ n < items.length then items
  else items ++ List.replicate (n - items.length) constructor

/-- The variables of `cpu_identify_all` that live across its iterations. -/
structure IdentState where
  cpuTypes : List CpuId
  typeInfo : List InternalTypeInfo
  cachesAll : CacheInstances
  isTopologySupported : Bool
  curPackageId : BitVec 32

/-- The variables before the first iteration. -/
def IdentState.start : IdentState where
  cpuTypes := []
  typeInfo := []
  cachesAll _ := .empty
  isTopologySupported := true
  curPackageId := 0

/-- `system_id_t_constructor`, with the entries that are there when the function returns. -/
def IdentState.system (s : IdentState) : SystemId :=
  { cpuTypes := s.cpuTypes, totalInstances := fun _ => -1 }

/-- How the loop ends early: a fault, or a `return` of the error that identification gave. -/
inductive Exit
  | fault (f : Fault)
  | error (r : CpuError) (system : SystemId)

/-- A checked computation inside the loop. -/
def liftChecked {α : Type} : Checked α → Except Exit α
  | .ok a => .ok a
  | .error f => .error (.fault f)

/-! ### One iteration -/

/-- `cpuid_find_index_system_id`, on the entries from index `i` on. -/
def findIndexFrom (s : IdentState) (purpose : CpuPurpose) :
    List CpuId → Nat → Checked (Option Nat)
  | [], _ => .ok none
  | cpuType :: rest, i =>
    if cpuType.purpose = purpose then
      if s.isTopologySupported then do
        let info ← loadList s.typeInfo i
        if info.packageId = s.curPackageId then .ok (some i) else findIndexFrom s purpose rest (i + 1)
      else .ok (some i)
    else findIndexFrom s purpose rest (i + 1)

/-- `cpuid_find_index_system_id`. -/
def cpuidFindIndexSystemId (s : IdentState) (purpose : CpuPurpose) : Checked (Option Nat) :=
  findIndexFrom s purpose s.cpuTypes 0

/-- The call of `cpu_ident_id`, which stops once topology support is lost. -/
def readTopology (withAffinity : Bool) (logicalCpu : Nat) (raw : CpuRawData) (s : IdentState) :
    Checked (IdentState × InternalTopology) :=
  if withAffinity && s.isTopologySupported then do
    let (supported, topology) ← cpuIdentId logicalCpu raw
    .ok ({ s with
      isTopologySupported := supported
      curPackageId := if supported then topology.packageId else s.curPackageId }, topology)
  else .ok (s, topologyConstructor logicalCpu)

/-- A new entry for a type of core that has none, and its index. -/
def openEntry (host : Host) (withAffinity : Bool) (raw : CpuRawData) (purpose : CpuPurpose)
    (s : IdentState) : Except Exit (IdentState × Nat) := do
  let i := s.cpuTypes.length
  let s := { s with
    cpuTypes := growTo cpuIdConstructor (i + 1) s.cpuTypes
    typeInfo := growTo typeInfoConstructor (s.typeInfo.length + 1) s.typeInfo }
  let _ ← liftChecked (loadList s.cpuTypes i)
  let info ← liftChecked (loadList s.typeInfo i)
  let (r, data, idInfo) ← liftChecked (cpuIdentInternal host raw)
  if r ≠ .ok then throw (.error r { s.system with cpuTypes := s.cpuTypes.set i data })
  let data := if withAffinity then { data with numLogicalCpus := 0 } else data
  let packageId := if s.isTopologySupported then s.curPackageId else info.packageId
  pure ({ s with
    cpuTypes := s.cpuTypes.set i data
    typeInfo := s.typeInfo.set i { info with purpose, packageId, idInfo } }, i)

/-- The entry for the purpose of a logical CPU. -/
def findEntry (host : Host) (withAffinity : Bool) (raw : CpuRawData) (purpose : CpuPurpose)
    (s : IdentState) : Except Exit (IdentState × Nat) := do
  match ← liftChecked (cpuidFindIndexSystemId s purpose) with
  | some i => .ok (s, i)
  | none => openEntry host withAffinity raw purpose s

/-- The counters of an entry, after a logical CPU. -/
def countCpu (logicalCpu : LogicalCpu) (data : CpuId) : CpuId :=
  { data with
    affinityMask := setAffinityMaskBit logicalCpu data.affinityMask
    numLogicalCpus := data.numLogicalCpus + 1 }

/-- The core and cache tables, after a logical CPU of the entry at index `i`. -/
def countTopology (topology : InternalTopology) (i : Nat) (s : IdentState) :
    Checked IdentState := do
  let info ← loadList s.typeInfo i
  let coreInstances ← updateCoreInstances info.coreInstances topology
  let cacheInstances ← updateCacheInstances info.cacheInstances topology info.idInfo
  let cachesAll ← updateCacheInstances s.cachesAll topology info.idInfo
  .ok { s with
    typeInfo := s.typeInfo.set i { info with coreInstances, cacheInstances }
    cachesAll }

/-- "Increment counters" for a logical CPU of the entry at index `i`. -/
def incrementCounters (withAffinity : Bool) (logicalCpu : Nat) (topology : InternalTopology)
    (i : Nat) (s : IdentState) : Checked IdentState :=
  if withAffinity then do
    let data ← loadList s.cpuTypes i
    let s := { s with cpuTypes := s.cpuTypes.set i (countCpu (Fin.ofNat _ logicalCpu) data) }
    if s.isTopologySupported then countTopology topology i s else .ok s
  else .ok s

/-- One iteration of the loop over the logical CPUs. -/
def identStep (host : Host) (withAffinity : Bool) (logicalCpu : Nat) (raw : CpuRawData)
    (s : IdentState) : Except Exit IdentState := do
  let purpose ← liftChecked (cpuIdentPurpose raw)
  let (s, topology) ← liftChecked (readTopology withAffinity logicalCpu raw s)
  let (s, i) ← findEntry host withAffinity raw purpose s
  liftChecked (incrementCounters withAffinity logicalCpu topology i s)

/-! ### The counters of the system -/

/-- `num_cores` when there is no topology.  The source divides in floating point, by a divisor that
divides the number exactly or is 1. -/
def coresWithoutTopology (data : CpuId) : Int :=
  let isSmtSupported := data.numCores > 0 ∧ data.numLogicalCpus.tmod data.numCores = 0
  let smtDivisor := if isSmtSupported then data.numLogicalCpus.tdiv data.numCores else 1
  data.numLogicalCpus.tdiv smtDivisor

/-- The last loop of `cpu_identify_all`, on one entry. -/
def finishType (withAffinity isTopologySupported : Bool) (numRaw : Nat)
    (info : InternalTypeInfo) (data : CpuId) : CpuId :=
  let data :=
    if withAffinity then
      if isTopologySupported then
        { data with
          numCores := info.coreInstances.instances
          instances := fun level => (info.cacheInstances level).instances }
      else { data with numCores := coresWithoutTopology data }
    else data
  { data with totalLogicalCpus := numRaw }

/-- The last loop of `cpu_identify_all`, on the entries from index `i` on. -/
def finishTypes (withAffinity : Bool) (numRaw : Nat) (s : IdentState) :
    List CpuId → Nat → Checked (List CpuId)
  | [], _ => .ok []
  | data :: rest, i => do
    let info ← loadList s.typeInfo i
    let rest ← finishTypes withAffinity numRaw s rest (i + 1)
    .ok (finishType withAffinity s.isTopologySupported numRaw info data :: rest)

/-- The loop of `cpu_identify_all` over the logical CPUs. -/
def identLoop (host : Host) (a : CpuRawDataArray) : Except Exit IdentState :=
  loop (identStep host a.withAffinity) a.raw 0 .start

/-- `cpu_identify_all`, for pointers that are not NULL: the return value and the system. -/
def cpuIdentifyAll (host : Host) (a : CpuRawDataArray) : Checked (CpuError × SystemId) :=
  match identLoop host a with
  | .error (.fault f) => .error f
  | .error (.error r system) => .ok (r, system)
  | .ok s => do
    let cpuTypes ← finishTypes a.withAffinity a.numRaw s s.cpuTypes 0
    .ok (.ok,
      { cpuTypes
        totalInstances := fun level =>
          if s.isTopologySupported then (s.cachesAll level).instances else -1 })

end LibCpuid
