import LibCpuid.Util

/-! The table and the decoder of `recog_centaur.c`. -/

namespace LibCpuid

open CLang

/-- `cpudb_centaur`. -/
def cpudbCentaur : List MatchEntry :=
  [⟨-1, -1, -1, -1, -1, -1, -1, -1, "", 0, "Unknown Centaur CPU", ""⟩,
    ⟨6, -1, -1, -1, -1, -1, -1, -1, "VIA", 2, "Unknown VIA CPU", ""⟩,
    ⟨6, 6, -1, -1, -1, -1, -1, -1, "VIA Samuel", 4, "VIA Cyrix III (Samuel)", "180 nm"⟩,
    ⟨6, 7, -1, -1, -1, -1, -1, -1, "VIA Samuel 2", 6, "VIA C3 (Samuel 2)", "150 nm"⟩,
    ⟨6, 7, -1, -1, -1, -1, -1, -1, "VIA Ezra", 4, "VIA C3 (Ezra)", "130 nm"⟩,
    ⟨6, 8, -1, -1, -1, -1, -1, -1, "VIA C3 Ezra", 6, "VIA C3 (Ezra-T)", "130 nm"⟩,
    ⟨6, 9, -1, -1, -1, -1, -1, -1, "VIA Nehemiah", 4, "VIA C3 (Nehemiah)", "130 nm"⟩,
    ⟨6, 10, -1, -1, -1, -1, -1, -1, "VIA Esther", 4, "VIA C7 (Esther)", "90 nm"⟩,
    ⟨6, 13, -1, -1, -1, -1, -1, -1, "VIA C7-M", 4, "VIA C7-M (Esther)", "90 nm"⟩,
    ⟨6, 15, -1, -1, -1, -1, -1, -1, "VIA Nano", 4, "VIA Nano (Isaiah)", "65 nm"⟩,
    ⟨6, 15, -1, -1, -1, 1, -1, -1, "VIA Nano", 4, "VIA Nano (Isaiah)", "65 nm"⟩,
    ⟨6, 15, -1, -1, -1, 2, -1, -1, "VIA Nano", 4, "VIA Nano X2 (Isaiah)", "65 nm"⟩,
    ⟨6, 15, -1, -1, -1, -1, -1, -1, "VIA QuadCore", 4, "VIA Nano X4 (Isaiah)", "65 nm"⟩,
    ⟨6, 15, -1, -1, -1, 4, -1, -1, "VIA Eden X4", 6, "VIA Eden X4 (Isaiah)", "65 nm"⟩,
    ⟨7, -1, -1, -1, -1, -1, -1, -1, "ZHAOXIN", 2, "Unknown Zhaoxin CPU", ""⟩,
    ⟨7, -1, -1, -1, 15, -1, -1, -1,
      "ZHAOXIN KaisHeng KH-C", 8, "Zhaoxin KaisHeng (ZhangJiang)", "28 nm"⟩,
    ⟨7, -1, -1, -1, 15, -1, -1, -1,
      "ZHAOXIN KaiXian ZX-C", 8, "Zhaoxin KaiXian (ZhangJiang)", "28 nm"⟩,
    ⟨7, -1, -1, -1, 27, -1, -1, -1,
      "ZHAOXIN KaisHeng KH-20###", 8, "Zhaoxin KaisHeng (WuDaoKou)", "28 nm"⟩,
    ⟨7, -1, -1, -1, 27, -1, -1, -1,
      "ZHAOXIN KaiXian KX-5###", 8, "Zhaoxin KaiXian (WuDaoKou)", "28 nm"⟩,
    ⟨7, -1, -1, -1, 27, -1, -1, -1,
      "ZHAOXIN KaiXian KX-U5###", 8, "Zhaoxin KaiXian (WuDaoKou)", "28 nm"⟩,
    ⟨7, -1, -1, -1, 59, -1, -1, -1,
      "ZHAOXIN KaisHeng KH-30###", 8, "Zhaoxin KaisHeng (LuJiaZui)", "16 nm"⟩,
    ⟨7, -1, -1, -1, 59, -1, -1, -1,
      "ZHAOXIN KaiXian KX-6###", 8, "Zhaoxin KaiXian (LuJiaZui)", "16 nm"⟩,
    ⟨7, -1, -1, -1, 59, -1, -1, -1,
      "ZHAOXIN KaiXian KX-U6###", 8, "Zhaoxin KaiXian (LuJiaZui)", "16 nm"⟩,
    ⟨7, -1, -1, -1, 91, -1, -1, -1,
      "ZHAOXIN KaisHeng KH-40###", 8, "Zhaoxin KaisHeng (Yongfeng)", "16 nm"⟩,
    ⟨7, -1, -1, -1, 91, -1, -1, -1,
      "ZHAOXIN KaiXian KX-7###", 8, "Zhaoxin KaiXian (Yongfeng)", "16 nm"⟩]

/-- The caches of a Centaur processor. -/
def decodeCentaurCaches (raw : CpuRawData) (data : CpuId) (internal : InternalIdInfo) :
    Checked (CpuId × InternalIdInfo) :=
  if (raw.basicCpuid 0).eax.toNat ≥ 4 then
    decodeDeterministicCacheInfoX86 0 (List.ofFn raw.intelFn4) (data, internal)
  else .ok (data, internal)

/-- `cpuid_identify_centaur`. -/
def cpuidIdentifyCentaur (raw : CpuRawData) (data : CpuId) (internal : InternalIdInfo) :
    Checked (CpuId × InternalIdInfo) := do
  let (data, internal) ← decodeCentaurCaches raw data internal
  let data := decodeArchitectureVersionX86 (decodeNumberOfCoresX86 raw data)
  let named := matchCpuCodename cpudbCentaur data
  .ok (named.2, { internal with score := named.1 })

end LibCpuid
