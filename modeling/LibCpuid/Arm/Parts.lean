import LibCpuid.Util

/-! The implementers and the part numbers of `recog_arm.c`.  The row that ends each array of the
source, with a negative id, is what a search gives when no row before it matches. -/

namespace LibCpuid

/-- `arm_id_part`. -/
structure ArmIdPart where
  id : Nat
  name : String
  codename : String
  technology : String

/-- `arm_hw_impl`. -/
structure ArmHwImpl where
  id : Nat
  vendor : CpuVendor
  parts : List ArmIdPart
  name : String

/-- `arm_part`. -/
def armPart : List ArmIdPart :=
  [⟨0x810, "ARM810", unknStr, unknStr⟩, ⟨0x920, "ARM920", unknStr, unknStr⟩,
    ⟨0x922, "ARM922", unknStr, unknStr⟩, ⟨0x926, "ARM926", unknStr, unknStr⟩,
    ⟨0x940, "ARM940", unknStr, unknStr⟩, ⟨0x946, "ARM946", unknStr, unknStr⟩,
    ⟨0x966, "ARM966", unknStr, unknStr⟩, ⟨0xa20, "ARM1020", unknStr, unknStr⟩,
    ⟨0xa22, "ARM1022", unknStr, unknStr⟩, ⟨0xa26, "ARM1026", unknStr, unknStr⟩,
    ⟨0xb02, "ARM11 MPCore", unknStr, unknStr⟩, ⟨0xb36, "ARM1136", unknStr, unknStr⟩,
    ⟨0xb56, "ARM1156", unknStr, unknStr⟩, ⟨0xb76, "ARM1176", unknStr, unknStr⟩,
    ⟨0xc05, "Cortex-A5", "Sparrow", "40-28 nm"⟩, ⟨0xc07, "Cortex-A7", "Kingfisher", "40-28 nm"⟩,
    ⟨0xc08, "Cortex-A8", "Tiger", "65-45 nm"⟩, ⟨0xc09, "Cortex-A9", "Falcon", "65-28 nm"⟩,
    ⟨0xc0d, "Cortex-A17", "Owl", "28 nm"⟩, ⟨0xc0f, "Cortex-A15", "Eagle", "32-20 nm"⟩,
    ⟨0xc0e, "Cortex-A17", "Owl", "28 nm"⟩, ⟨0xc14, "Cortex-R4", unknStr, unknStr⟩,
    ⟨0xc15, "Cortex-R5", unknStr, unknStr⟩, ⟨0xc17, "Cortex-R7", unknStr, unknStr⟩,
    ⟨0xc18, "Cortex-R8", unknStr, unknStr⟩, ⟨0xc20, "Cortex-M0", "Swift", unknStr⟩,
    ⟨0xc21, "Cortex-M1", "Proteus", unknStr⟩, ⟨0xc23, "Cortex-M3", "Sandcat", unknStr⟩,
    ⟨0xc24, "Cortex-M4", "Merlin", unknStr⟩, ⟨0xc27, "Cortex-M7", "Pelican", unknStr⟩,
    ⟨0xc60, "Cortex-M0+", "Flycatcher", unknStr⟩, ⟨0xd01, "Cortex-A32", "Minerva", "28 nm"⟩,
    ⟨0xd02, "Cortex-A34", "Metis", unknStr⟩, ⟨0xd03, "Cortex-A53", "Apollo", "28-10 nm"⟩,
    ⟨0xd04, "Cortex-A35", "Mercury", "28-10 nm"⟩, ⟨0xd05, "Cortex-A55", "Ananke", "28-5 nm"⟩,
    ⟨0xd06, "Cortex-A65", "Helios", unknStr⟩, ⟨0xd07, "Cortex-A57", "Atlas", "28-14 nm"⟩,
    ⟨0xd08, "Cortex-A72", "Maia", "28-16 nm"⟩, ⟨0xd09, "Cortex-A73", "Artemis", "28-10 nm"⟩,
    ⟨0xd0a, "Cortex-A75", "Prometheus", "28-10 nm"⟩, ⟨0xd0b, "Cortex-A76", "Enyo", "10-7 nm"⟩,
    ⟨0xd0c, "Neoverse-N1", "Ares", "7 nm"⟩, ⟨0xd0d, "Cortex-A77", "Deimos", "7 nm"⟩,
    ⟨0xd0e, "Cortex-A76AE", "Enyo-AE", unknStr⟩, ⟨0xd13, "Cortex-R52", unknStr, unknStr⟩,
    ⟨0xd15, "Cortex-R82", unknStr, unknStr⟩, ⟨0xd16, "Cortex-R52+", unknStr, unknStr⟩,
    ⟨0xd20, "Cortex-M23", "Grebe", unknStr⟩, ⟨0xd21, "Cortex-M33", "Teal", unknStr⟩,
    ⟨0xd22, "Cortex-M55", "Yamin", unknStr⟩, ⟨0xd23, "Cortex-M85", unknStr, unknStr⟩,
    ⟨0xd40, "Neoverse-V1", "Zeus", "7 nm"⟩, ⟨0xd41, "Cortex-A78", "Hercules", "5 nm"⟩,
    ⟨0xd42, "Cortex-A78AE", "Hercules-AE", unknStr⟩, ⟨0xd43, "Cortex-A65AE", "Helios-AE", unknStr⟩,
    ⟨0xd44, "Cortex-X1", "Hera", "10-5 nm"⟩, ⟨0xd46, "Cortex-A510", "Klein", "7-5 nm"⟩,
    ⟨0xd47, "Cortex-A710", "Matterhorn", "7-5 nm"⟩, ⟨0xd48, "Cortex-X2", "Matterhorn ELP", unknStr⟩,
    ⟨0xd49, "Neoverse-N2", "Perseus", "5 nm"⟩, ⟨0xd4a, "Neoverse-E1", "Helios", unknStr⟩,
    ⟨0xd4b, "Cortex-A78C", "Hercules-C", "5 nm"⟩, ⟨0xd4c, "Cortex-X1C", "Hera-C", unknStr⟩,
    ⟨0xd4d, "Cortex-A715", "Makalu", "7-5 nm"⟩, ⟨0xd4e, "Cortex-X3", "Makalu ELP", unknStr⟩,
    ⟨0xd4f, "Neoverse-V2", "Demeter", unknStr⟩, ⟨0xd80, "Cortex-A520", "Hayes", "3 nm"⟩,
    ⟨0xd81, "Cortex-A720", "Hunter", "3 nm"⟩, ⟨0xd82, "Cortex-X4", "Hunter ELP", unknStr⟩,
    ⟨0xd83, "Neoverse-V3AE", "Autonome", unknStr⟩, ⟨0xd84, "Neoverse-V3", "Poseidon", unknStr⟩,
    ⟨0xd85, "Cortex-X925", "Blackhawk", "3 nm"⟩, ⟨0xd87, "Cortex-A725", "Chaberton", "3 nm"⟩,
    ⟨0xd88, "Cortex-A520AE", "Hayes-AE", "3 nm"⟩, ⟨0xd89, "Cortex-A720AE", "Hunter-AE", "3 nm"⟩,
    ⟨0xd8e, "Neoverse-N3", "Hermes", "5 nm"⟩, ⟨0xd8f, "Cortex-A320", "IoT & AI", unknStr⟩]

/-- `brcm_part`. -/
def brcmPart : List ArmIdPart :=
  [⟨0x0f, "Brahma-B15", unknStr, unknStr⟩, ⟨0x100, "Brahma-B53", unknStr, unknStr⟩,
    ⟨0x516, "ThunderX2", unknStr, unknStr⟩]

/-- `dec_part`. -/
def decPart : List ArmIdPart :=
  [⟨0xa10, "SA110", unknStr, unknStr⟩, ⟨0xa11, "SA1100", unknStr, unknStr⟩]

/-- `cavium_part`. -/
def caviumPart : List ArmIdPart :=
  [⟨0x0a0, "ThunderX", unknStr, unknStr⟩, ⟨0x0a1, "ThunderX-88XX", unknStr, unknStr⟩,
    ⟨0x0a2, "ThunderX-81XX", unknStr, unknStr⟩, ⟨0x0a3, "ThunderX-83XX", unknStr, unknStr⟩,
    ⟨0x0af, "ThunderX2-99xx", unknStr, unknStr⟩, ⟨0x0b0, "OcteonTX2", unknStr, unknStr⟩,
    ⟨0x0b1, "OcteonTX2-98XX", unknStr, unknStr⟩, ⟨0x0b2, "OcteonTX2-96XX", unknStr, unknStr⟩,
    ⟨0x0b3, "OcteonTX2-95XX", unknStr, unknStr⟩, ⟨0x0b4, "OcteonTX2-95XXN", unknStr, unknStr⟩,
    ⟨0x0b5, "OcteonTX2-95XXMM", unknStr, unknStr⟩, ⟨0x0b6, "OcteonTX2-95XXO", unknStr, unknStr⟩,
    ⟨0x0b8, "ThunderX3-T110", unknStr, unknStr⟩]

/-- `apm_part`. -/
def apmPart : List ArmIdPart :=
  [⟨0x000, "X-Gene", unknStr, unknStr⟩]

/-- `qcom_part`. -/
def qcomPart : List ArmIdPart :=
  [⟨0x001, "Oryon", unknStr, unknStr⟩, ⟨0x00f, "Scorpion", unknStr, "65-45 nm"⟩,
    ⟨0x02d, "Scorpion", unknStr, "65-45 nm"⟩, ⟨0x04d, "Krait", unknStr, "28 nm"⟩,
    ⟨0x06f, "Krait", unknStr, "28 nm"⟩, ⟨0x201, "Kryo", unknStr, "14 nm"⟩,
    ⟨0x205, "Kryo", unknStr, "14 nm"⟩, ⟨0x211, "Kryo", unknStr, "14 nm"⟩,
    ⟨0x800, "Falkor-V1/Kryo", unknStr, unknStr⟩, ⟨0x801, "Kryo-V2", unknStr, "14-6 nm"⟩,
    ⟨0x802, "Kryo-3XX-Gold", unknStr, "10 nm"⟩, ⟨0x803, "Kryo-3XX-Silver", unknStr, "10 nm"⟩,
    ⟨0x804, "Kryo-4XX-Gold", unknStr, "11-7 nm"⟩, ⟨0x805, "Kryo-4XX-Silver", unknStr, "8-7 nm"⟩,
    ⟨0xc00, "Falkor", unknStr, "10 nm"⟩, ⟨0xc01, "Saphira", unknStr, "8-7 nm"⟩]

/-- `samsung_part`. -/
def samsungPart : List ArmIdPart :=
  [⟨0x001, "Exynos M1", unknStr, "14 nm"⟩, ⟨0x002, "Exynos M3", unknStr, "10 nm"⟩,
    ⟨0x003, "Exynos M4", unknStr, "8 nm"⟩, ⟨0x004, "Exynos M5", unknStr, "7 nm"⟩]

/-- `nvidia_part`. -/
def nvidiaPart : List ArmIdPart :=
  [⟨0x000, "Denver", unknStr, "28 nm"⟩, ⟨0x003, "Denver 2", unknStr, "16 nm"⟩,
    ⟨0x004, "Carmel", unknStr, "12 nm"⟩]

/-- `marvell_part`. -/
def marvellPart : List ArmIdPart :=
  [⟨0x131, "Feroceon-88FR131", unknStr, unknStr⟩, ⟨0x581, "PJ4/PJ4b", unknStr, unknStr⟩,
    ⟨0x584, "PJ4B-MP", unknStr, unknStr⟩]

/-- `apple_part`. -/
def applePart : List ArmIdPart :=
  [⟨0x000, "A6", "Swift", "32 nm"⟩, ⟨0x001, "A7", "Cyclone", "28 nm"⟩,
    ⟨0x002, "A8", "Typhoon", "20 nm"⟩, ⟨0x003, "A8X", "Typhoon", "20 nm"⟩,
    ⟨0x004, "A9", "Twister", "16 nm"⟩, ⟨0x005, "A9X", "Twister", "16 nm"⟩,
    ⟨0x006, "A10 Fusion", "Zephyr", "16 nm"⟩, ⟨0x007, "A10 Fusion", "Hurricane", "16 nm"⟩,
    ⟨0x008, "A11 Bionic", "Monsoon", "10 nm"⟩, ⟨0x009, "A11 Bionic", "Mistral", "10 nm"⟩,
    ⟨0x00b, "A12", "Vortex", "TSMC N7"⟩, ⟨0x00c, "A12", "Tempest", "TSMC N7"⟩,
    ⟨0x00f, "M9", "Tempest", "TSMC N7"⟩, ⟨0x010, "A12X Bionic", "Vortex", "TSMC N7"⟩,
    ⟨0x011, "A12X Bionic", "Tempest", "TSMC N7"⟩, ⟨0x012, "A13 Bionic", "Lightning", "TSMC N7P"⟩,
    ⟨0x013, "A13 Bionic", "Thunder", "TSMC N7P"⟩, ⟨0x020, "A14", "Icestorm", "TSMC N5"⟩,
    ⟨0x021, "A14", "Firestorm", "TSMC N5"⟩, ⟨0x022, "M1", "Icestorm", "TSMC N5"⟩,
    ⟨0x023, "M1", "Firestorm", "TSMC N5"⟩, ⟨0x024, "M1 Pro", "Icestorm", "TSMC N5"⟩,
    ⟨0x025, "M1 Pro", "Firestorm", "TSMC N5"⟩, ⟨0x026, "M10", "Thunder", "TSMC N7P"⟩,
    ⟨0x028, "M1 Max", "Icestorm", "TSMC N5"⟩, ⟨0x029, "M1 Max", "Firestorm", "TSMC N5"⟩,
    ⟨0x030, "A15", "Blizzard", "TSMC N5P"⟩, ⟨0x031, "A15", "Avalanche", "TSMC N5P"⟩,
    ⟨0x032, "M2", "Blizzard", "TSMC N5P"⟩, ⟨0x033, "M2", "Avalanche", "TSMC N5P"⟩,
    ⟨0x034, "M2 Pro", "Blizzard", "TSMC N5P"⟩, ⟨0x035, "M2 Pro", "Avalanche", "TSMC N5P"⟩,
    ⟨0x036, "A16", "Sawtooth", "TSMC N4P"⟩, ⟨0x037, "A16", "Everest", "TSMC N4P"⟩,
    ⟨0x038, "M2 Max", "Blizzard", "TSMC N5P"⟩, ⟨0x039, "M2 Max", "Avalanche", "TSMC N5P"⟩]

/-- `faraday_part`. -/
def faradayPart : List ArmIdPart :=
  [⟨0x526, "FA526", unknStr, unknStr⟩, ⟨0x626, "FA626", unknStr, unknStr⟩]

/-- `intel_part`. -/
def intelPart : List ArmIdPart :=
  [⟨0x200, "i80200", unknStr, unknStr⟩, ⟨0x210, "PXA250A", unknStr, unknStr⟩,
    ⟨0x212, "PXA210A", unknStr, unknStr⟩, ⟨0x242, "i80321-400", unknStr, unknStr⟩,
    ⟨0x243, "i80321-600", unknStr, unknStr⟩, ⟨0x290, "PXA250B/PXA26x", unknStr, unknStr⟩,
    ⟨0x292, "PXA210B", unknStr, unknStr⟩, ⟨0x2c2, "i80321-400-B0", unknStr, unknStr⟩,
    ⟨0x2c3, "i80321-600-B0", unknStr, unknStr⟩, ⟨0x2d0, "PXA250C/PXA255/PXA26x", unknStr, unknStr⟩,
    ⟨0x2d2, "PXA210C", unknStr, unknStr⟩, ⟨0x411, "PXA27x", unknStr, unknStr⟩,
    ⟨0x41c, "IPX425-533", unknStr, unknStr⟩, ⟨0x41d, "IPX425-400", unknStr, unknStr⟩,
    ⟨0x41f, "IPX425-266", unknStr, unknStr⟩, ⟨0x682, "PXA32x", unknStr, unknStr⟩,
    ⟨0x683, "PXA930/PXA935", unknStr, unknStr⟩, ⟨0x688, "PXA30x", unknStr, unknStr⟩,
    ⟨0x689, "PXA31x", unknStr, unknStr⟩, ⟨0xb11, "SA1110", unknStr, unknStr⟩,
    ⟨0xc12, "IPX1200", unknStr, unknStr⟩]

/-- `fujitsu_part`. -/
def fujitsuPart : List ArmIdPart :=
  [⟨0x001, "A64FX", unknStr, "7 nm"⟩, ⟨0x003, "MONAKA", unknStr, "2 nm"⟩]

/-- `hisi_part`. -/
def hisiPart : List ArmIdPart :=
  [⟨0xd01, "TaiShan-v110", unknStr, unknStr⟩, ⟨0xd02, "TaiShan-v120", unknStr, unknStr⟩,
    ⟨0xd40, "Cortex-A76", unknStr, unknStr⟩, ⟨0xd41, "Cortex-A77", unknStr, unknStr⟩]

/-- `ampere_part`. -/
def amperePart : List ArmIdPart :=
  [⟨0xac3, "Ampere-1", unknStr, unknStr⟩, ⟨0xac4, "Ampere-1a", unknStr, unknStr⟩]

/-- `ft_part`. -/
def ftPart : List ArmIdPart :=
  [⟨0x303, "FTC310", unknStr, unknStr⟩, ⟨0x660, "FTC660", unknStr, unknStr⟩,
    ⟨0x661, "FTC661", unknStr, unknStr⟩, ⟨0x662, "FTC662", unknStr, unknStr⟩,
    ⟨0x663, "FTC663", unknStr, unknStr⟩, ⟨0x664, "FTC664", unknStr, unknStr⟩,
    ⟨0x862, "FTC862", unknStr, unknStr⟩]

/-- `ms_part`. -/
def msPart : List ArmIdPart :=
  [⟨0xd49, "Azure-Cobalt-100", unknStr, unknStr⟩]

/-- `unknown_part`. -/
def unknownPart : List ArmIdPart := []

/-- `hw_implementer`. -/
def hwImplementer : List ArmHwImpl :=
  [⟨0x41, .arm, armPart, "ARM"⟩, ⟨0x42, .broadcom, brcmPart, "Broadcom"⟩,
    ⟨0x43, .cavium, caviumPart, "Cavium"⟩, ⟨0x44, .dec, decPart, "DEC"⟩,
    ⟨0x46, .fujitsu, fujitsuPart, "FUJITSU"⟩, ⟨0x48, .hisilicon, hisiPart, "HiSilicon"⟩,
    ⟨0x49, .infineon, unknownPart, "Infineon"⟩,
    ⟨0x4d, .freescale, unknownPart, "Motorola/Freescale"⟩, ⟨0x4e, .nvidia, nvidiaPart, "NVIDIA"⟩,
    ⟨0x50, .apm, apmPart, "APM"⟩, ⟨0x51, .qualcomm, qcomPart, "Qualcomm"⟩,
    ⟨0x53, .samsung, samsungPart, "Samsung"⟩, ⟨0x56, .marvell, marvellPart, "Marvell"⟩,
    ⟨0x61, .apple, applePart, "Apple"⟩, ⟨0x66, .faraday, faradayPart, "Faraday"⟩,
    ⟨0x69, .intel, intelPart, "Intel"⟩, ⟨0x6d, .microsoft, msPart, "Microsoft"⟩,
    ⟨0x70, .phytium, ftPart, "Phytium"⟩, ⟨0xc0, .ampere, amperePart, "Ampere"⟩]

/-- `get_cpu_implementer_from_code`. -/
def getCpuImplementerFromCode (implementer : Nat) : ArmHwImpl :=
  match hwImplementer.find? (fun impl => impl.id = implementer) with
  | some impl => impl
  | none => ⟨0, .unknown, unknownPart, unknStr⟩

/-- `get_cpu_implementer_parts`. -/
def getCpuImplementerParts (hwImpl : ArmHwImpl) (partNum : Nat) : ArmIdPart :=
  match hwImpl.parts.find? (fun part => part.id = partNum) with
  | some part => part
  | none => ⟨0, unknStr, unknStr, unknStr⟩

end LibCpuid
