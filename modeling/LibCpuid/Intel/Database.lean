import LibCpuid.Util

/-! The table of Intel processors of `recog_intel.c`.  A character of a name is one byte, so a letter
outside ASCII is written as the bytes of its UTF-8 form. -/

namespace LibCpuid

/-- `cpudb_intel`. -/
def cpudbIntel : List MatchEntry :=
  [⟨-1, -1, -1, -1, -1, 1, -1, -1, "", 0, "Unknown Intel CPU", unknStr⟩,
    ⟨4, -1, -1, -1, -1, 1, -1, -1, "", 0, "Unknown i486", unknStr⟩,
    ⟨4, 0, -1, -1, -1, 1, -1, -1, "", 0, "i486 DX-25/33", "1 \xc2\xb5m"⟩,
    ⟨4, 1, -1, -1, -1, 1, -1, -1, "", 0, "i486 DX-50", "0.8 \xc2\xb5m"⟩,
    ⟨4, 2, -1, -1, -1, 1, -1, -1, "", 0, "i486 SX", unknStr⟩,
    ⟨4, 3, -1, -1, -1, 1, -1, -1, "", 0, "i486 DX2", unknStr⟩,
    ⟨4, 4, -1, -1, -1, 1, -1, -1, "", 0, "i486 SL", "0.8 \xc2\xb5m"⟩,
    ⟨4, 5, -1, -1, -1, 1, -1, -1, "", 0, "i486 SX2", unknStr⟩,
    ⟨4, 7, -1, -1, -1, 1, -1, -1, "", 0, "i486 DX2 WriteBack", unknStr⟩,
    ⟨4, 8, -1, -1, -1, 1, -1, -1, "", 0, "i486 DX4", "0.6 \xc2\xb5m"⟩,
    ⟨4, 9, -1, -1, -1, 1, -1, -1, "", 0, "i486 DX4 WriteBack", "0.6 \xc2\xb5m"⟩,
    ⟨5, 0, -1, -1, -1, 1, -1, -1, "Pentium(R)", 2, "Pentium A-Step", unknStr⟩,
    ⟨5, 1, -1, -1, -1, 1, -1, -1, "Pentium(R)", 2, "Pentium 1", "0.8 \xc2\xb5m"⟩,
    ⟨5, 2, -1, -1, -1, 1, -1, -1, "Pentium(R)", 2, "Pentium 1", "0.35 \xc2\xb5m"⟩,
    ⟨5, 3, -1, -1, -1, 1, -1, -1, "Pentium(R)", 2, "Pentium OverDrive", unknStr⟩,
    ⟨5, 4, -1, -1, -1, 1, -1, -1, "Pentium(R)", 2, "Pentium 1", "0.35 \xc2\xb5m"⟩,
    ⟨5, 7, -1, -1, -1, 1, -1, -1, "Pentium(R)", 2, "Pentium 1", "0.35 \xc2\xb5m"⟩,
    ⟨5, 8, -1, -1, -1, 1, -1, -1, "Pentium(R)", 2, "Pentium MMX", "0.25 \xc2\xb5m"⟩,
    ⟨6, 0, -1, -1, -1, 1, -1, -1, "Pentium(R)", 2, "Pentium Pro", unknStr⟩,
    ⟨6, 1, -1, -1, -1, 1, -1, -1, "Pentium(R)", 2, "Pentium Pro", unknStr⟩,
    ⟨6, 3, -1, -1, -1, 1, -1, -1, "Pentium(R)", 2, "Pentium II (Klamath)", "0.18 \xc2\xb5m"⟩,
    ⟨6, 5, -1, -1, -1, 1, -1, -1, "Pentium(R)", 2, "Pentium II (Deschutes)", "0.18 \xc2\xb5m"⟩,
    ⟨6, 5, -1, -1, -1, 1, -1, -1, "Pentium(R) M", 4, "Mobile Pentium II (Tonga)", "0.18 \xc2\xb5m"⟩,
    ⟨6, 6, -1, -1, -1, 1, -1, -1, "Pentium(R)", 2, "Pentium II (Dixon)", "0.25 \xc2\xb5m"⟩,
    ⟨6, 3, -1, -1, -1, 1, -1, -1, "Xeon(TM)", 2, "P-II Xeon (Klamath)", "0.35 \xc2\xb5m"⟩,
    ⟨6, 5, -1, -1, -1, 1, -1, -1, "Xeon(TM)", 2, "P-II Xeon (Drake)", "0.25 \xc2\xb5m"⟩,
    ⟨6, 6, -1, -1, -1, 1, -1, -1, "Xeon(TM)", 2, "P-II Xeon (Dixon)", "0.25 \xc2\xb5m"⟩,
    ⟨6, 5, -1, -1, -1, 1, -1, -1, "Celeron(R)", 2, "P-II Celeron (Covington)", "0.25 \xc2\xb5m"⟩,
    ⟨6, 6, -1, -1, -1, 1, -1, -1, "Celeron(R)", 2, "P-II Celeron (Mendocino)", "0.25 \xc2\xb5m"⟩,
    ⟨6, 7, -1, -1, -1, 1, -1, -1, "Pentium(R)", 2, "Pentium III (Katmai)", "0.25 \xc2\xb5m"⟩,
    ⟨6, 8, -1, -1, -1, 1, -1, -1, "Pentium(R)", 2, "Pentium III (Coppermine)", "0.18 \xc2\xb5m"⟩,
    ⟨6, 10, -1, -1, -1, 1, -1, -1, "Pentium(R)", 2, "Pentium III (Coppermine)", "0.18 \xc2\xb5m"⟩,
    ⟨6, 11, -1, -1, -1, 1, -1, -1, "Pentium(R)", 2, "Pentium III (Tualatin)", "0.13 \xc2\xb5m"⟩,
    ⟨6, 11, -1, -1, -1, 1, 512, -1, "Pentium(R)", 2, "Pentium III (Tualatin)", "0.13 \xc2\xb5m"⟩,
    ⟨6, 7, -1, -1, -1, 1, -1, -1, "Xeon(TM)", 2, "P-III Xeon (Tanner)", "0.25 \xc2\xb5m"⟩,
    ⟨6, 8, -1, -1, -1, 1, -1, -1, "Xeon(TM)", 2, "P-III Xeon (Cascades)", "0.18 \xc2\xb5m"⟩,
    ⟨6, 10, -1, -1, -1, 1, -1, -1, "Xeon(TM)", 2, "P-III Xeon (Cascades)", "0.18 \xc2\xb5m"⟩,
    ⟨6, 11, -1, -1, -1, 1, -1, -1, "Xeon(TM)", 2, "P-III Xeon (Tualatin)", "0.13 \xc2\xb5m"⟩,
    ⟨6, 7, -1, -1, -1, 1, 128, -1, "Celeron(R)", 2, "P-III Celeron (Katmai)", "0.25 \xc2\xb5m"⟩,
    ⟨6, 8, -1, -1, -1, 1, 128, -1, "Celeron(R)", 2, "P-III Celeron (Coppermine)", "0.18 \xc2\xb5m"⟩,
    ⟨6, 10, -1, -1, -1, 1, 128, -1,
      "Celeron(R)", 2, "P-III Celeron (Coppermine)", "0.18 \xc2\xb5m"⟩,
    ⟨6, 11, -1, -1, -1, 1, 256, -1, "Celeron(R)", 2, "P-III Celeron (Tualatin)", "0.13 \xc2\xb5m"⟩,
    ⟨15, 0, -1, 15, -1, 1, -1, -1, "Pentium(R)", 2, "Pentium 4 (Willamette)", "0.18 \xc2\xb5m"⟩,
    ⟨15, 1, -1, 15, -1, 1, -1, -1, "Pentium(R)", 2, "Pentium 4 (Willamette)", "0.18 \xc2\xb5m"⟩,
    ⟨15, 0, -1, 15, -1, 1, -1, -1,
      "Pentium(R) 4 - M", 6, "Mobile P-4 (Willamette)", "0.18 \xc2\xb5m"⟩,
    ⟨15, 1, -1, 15, -1, 1, -1, -1,
      "Pentium(R) 4 - M", 6, "Mobile P-4 (Willamette)", "0.18 \xc2\xb5m"⟩,
    ⟨15, 1, -1, 15, -1, 1, -1, -1, "Celeron(R)", 2, "P-4 Celeron (Willamette)", "0.18 \xc2\xb5m"⟩,
    ⟨15, 0, -1, 15, -1, 1, -1, -1, "Xeon(TM)", 2, "Xeon (Foster)", "0.18 \xc2\xb5m"⟩,
    ⟨15, 1, -1, 15, -1, 1, -1, -1, "Xeon(TM)", 2, "Xeon (Foster)", "0.18 \xc2\xb5m"⟩,
    ⟨15, 2, -1, 15, -1, 1, -1, -1, "Pentium(R) 4", 2, "Pentium 4 (Northwood)", "0.13 \xc2\xb5m"⟩,
    ⟨15, 2, -1, 15, -1, 1, -1, -1,
      "Pentium(R) 4 - M", 6, "Mobile P-4 (Northwood)", "0.13 \xc2\xb5m"⟩,
    ⟨15, 2, -1, 15, -1, 1, -1, -1, "Celeron(R)", 2, "P-4 Celeron (Northwood)", "0.13 \xc2\xb5m"⟩,
    ⟨6, 9, -1, -1, -1, 1, -1, -1, "Pentium(R)", 2, "Pentium M (Banias)", "0.13 \xc2\xb5m"⟩,
    ⟨6, 9, -1, -1, -1, 1, -1, -1, "Pentium(R) 4 - M", 6, "Pentium M (Banias)", "0.13 \xc2\xb5m"⟩,
    ⟨6, 9, -1, -1, -1, 1, -1, -1, "Celeron(R)", 2, "Celeron M (Banias)", "0.13 \xc2\xb5m"⟩,
    ⟨6, 9, -1, -1, -1, 1, -1, -1, "Celeron(R) M", 4, "Celeron M (Banias)", "0.13 \xc2\xb5m"⟩,
    ⟨6, 9, -1, -1, -1, 1, 0, -1, "Celeron(R)", 2, "Celeron M (Shelton)", "0.13 \xc2\xb5m"⟩,
    ⟨15, 2, -1, 15, -1, 1, -1, -1, "Xeon(TM)", 2, "Xeon (Prestonia)", "0.13 \xc2\xb5m"⟩,
    ⟨15, 2, -1, 15, -1, 1, -1, -1, "Xeon(TM) MP", 4, "Xeon (Gallatin)", "0.13 \xc2\xb5m"⟩,
    ⟨15, 3, -1, 15, -1, 1, -1, -1, "Pentium(R) 4", 4, "Pentium 4 (Prescott)", "90 nm"⟩,
    ⟨15, 4, -1, 15, -1, 1, -1, -1, "Pentium(R) 4", 4, "Pentium 4 (Prescott)", "90 nm"⟩,
    ⟨15, 3, -1, 15, -1, 1, -1, -1, "Pentium(R) 4 - M", 6, "Mobile P-4 (Prescott)", "90 nm"⟩,
    ⟨15, 4, -1, 15, -1, 1, -1, -1, "Pentium(R) 4 - M", 6, "Mobile P-4 (Prescott)", "90 nm"⟩,
    ⟨15, 3, -1, 15, -1, 1, -1, -1, "Celeron(R)", 2, "P-4 Celeron D (Prescott)", "90 nm"⟩,
    ⟨15, 4, -1, 15, -1, 1, -1, -1, "Celeron(R)", 2, "P-4 Celeron D (Prescott)", "90 nm"⟩,
    ⟨15, 4, -1, 15, -1, 1, -1, -1, "Pentium(R) D", 4, "Pentium D (SmithField)", "90 nm"⟩,
    ⟨6, 13, -1, -1, -1, 1, -1, -1, "Pentium(R) M", 4, "Pentium M (Dothan)", "90 nm"⟩,
    ⟨6, 13, -1, -1, -1, 1, -1, -1, "Pentium(R) 4 - M", 6, "Pentium M (Dothan)", "90 nm"⟩,
    ⟨6, 13, -1, -1, -1, 1, -1, -1, "Celeron(R)", 2, "Celeron M (Dothan)", "90 nm"⟩,
    ⟨6, 13, -1, -1, -1, 1, -1, -1, "Celeron(R) M", 4, "Celeron M (Dothan)", "90 nm"⟩,
    ⟨15, 3, -1, 15, -1, 1, -1, -1, "Xeon(TM)", 2, "Xeon (Nocona)", "90 nm"⟩,
    ⟨15, 4, -1, 15, -1, 1, -1, -1, "Xeon(TM)", 2, "Xeon (Nocona)", "90 nm"⟩,
    ⟨15, 4, 3, 15, -1, 1, -1, -1, "Xeon(TM)", 2, "Xeon (Irwindale)", "90 nm"⟩,
    ⟨15, 4, 10, 15, -1, 1, -1, -1, "Xeon(TM)", 2, "Xeon (Irwindale)", "90 nm"⟩,
    ⟨15, 4, 1, 15, -1, 1, -1, -1, "Xeon(TM)", 2, "Xeon (Cranford)", "90 nm"⟩,
    ⟨15, 4, -1, 15, -1, 1, -1, -1, "Xeon(TM)", 2, "Xeon (Potomac)", "90 nm"⟩,
    ⟨15, 4, 8, 15, -1, 1, -1, -1, "Xeon(TM)", 2, "Xeon (Paxville)", "90 nm"⟩,
    ⟨15, 6, -1, 15, -1, 1, -1, -1, "Pentium(R)", 2, "Pentium 4 (Cedar Mill)", "65 nm"⟩,
    ⟨15, 6, -1, 15, -1, 1, -1, -1, "Pentium(R) 4 - M", 6, "Mobile P-4 (Cedar Mill)", "65 nm"⟩,
    ⟨15, 6, -1, 15, -1, 1, -1, -1, "Celeron(R) D", 4, "P-4 Celeron D (Cedar Mill)", "65 nm"⟩,
    ⟨6, 14, -1, 14, -1, 1, -1, -1, "Core(TM) [UT]1#[05]0", 6, "Core Solo (Yonah)", "65 nm"⟩,
    ⟨6, 14, -1, 14, -1, 1, -1, -1, "Core(TM) 1#[05]0", 4, "Core Solo (Yonah)", "65 nm"⟩,
    ⟨6, 14, -1, 14, -1, 2, -1, -1, "Core(TM) Duo [UTL]2#[05]#", 6, "Core Duo (Yonah)", "65 nm"⟩,
    ⟨6, 14, -1, 14, -1, 2, -1, -1, "Core(TM) Duo 2#[05]#", 4, "Core Duo (Yonah)", "65 nm"⟩,
    ⟨6, 14, -1, 14, -1, -1, -1, -1, "Celeron(R) 215", 6, "Celeron (Yonah-512)", "65 nm"⟩,
    ⟨6, 14, -1, 14, -1, -1, -1, -1, "Celeron(R) M", 4, "Celeron (Yonah-1024)", "65 nm"⟩,
    ⟨15, 6, -1, 15, -1, 1, -1, -1, "Pentium(R) D", 4, "Pentium D (Presler)", "65 nm"⟩,
    ⟨15, 6, 2, 15, -1, 1, -1, -1, "Pentium(R)", 2, "Pentium Extreme Edition (Presler)", "65 nm"⟩,
    ⟨15, 6, 4, 15, -1, 1, -1, -1, "Xeon(TM)", 2, "Xeon (Dempsey)", "65 nm"⟩,
    ⟨15, 6, 6, 15, -1, 1, -1, -1, "Xeon(TM)", 2, "Xeon (Tulsa)", "65 nm"⟩,
    ⟨15, 6, 8, 15, -1, 1, -1, -1, "Xeon(TM)", 2, "Xeon (Tulsa)", "65 nm"⟩,
    ⟨6, 15, -1, -1, -1, 2, 2048, -1, "Core(TM)2 Duo E6###", 8, "Core 2 Duo (Conroe-2M)", "65 nm"⟩,
    ⟨6, 15, -1, -1, -1, 2, 4096, -1, "Core(TM)2 Duo E6###", 8, "Core 2 Duo (Conroe)", "65 nm"⟩,
    ⟨6, 15, -1, -1, -1, 2, 4096, -1, "Core(TM)2 6###", 4, "Core 2 Duo (Conroe)", "65 nm"⟩,
    ⟨6, 15, -1, -1, -1, 2, 4096, -1, "Core(TM)2 X6###", 6, "Core 2 Extreme (Conroe XE)", "65 nm"⟩,
    ⟨6, 15, -1, -1, -1, 4, 4096, -1,
      "Core(TM)2 Quad Q6###", 8, "Core 2 Quad (Kentsfield)", "65 nm"⟩,
    ⟨6, 15, -1, -1, -1, 2, 2048, -1, "Core(TM)2 Duo E4###", 8, "Core 2 Duo (Allendale)", "65 nm"⟩,
    ⟨6, 15, -1, -1, 15, 2, 2048, -1, "Core(TM)2 U7###", 6, "Core 2 Duo (Merom-2M)", "65 nm"⟩,
    ⟨6, 15, -1, -1, 15, 2, 2048, -1, "Core(TM)2 T[57]###", 6, "Core 2 Duo (Merom-2M)", "65 nm"⟩,
    ⟨6, 15, -1, -1, 15, 2, 4096, -1, "Core(TM)2 T7###", 6, "Core 2 Duo (Merom)", "65 nm"⟩,
    ⟨6, 15, -1, -1, 15, 2, 4096, -1, "Core(TM)2 S[LP]7###", 6, "Core 2 Duo (Merom)", "65 nm"⟩,
    ⟨6, 15, -1, -1, 15, 2, 4096, -1, "Core(TM)2 L7###", 6, "Core 2 Duo (Merom)", "65 nm"⟩,
    ⟨6, 15, -1, -1, 15, 2, -1, -1,
      "Pentium(R) Dual E2###", 8, "Pentium Dual-Core (Allendale)", "65 nm"⟩,
    ⟨6, 15, -1, -1, 15, 2, -1, -1, "Celeron(R) E1###", 6, "Celeron (Allendale)", "65 nm"⟩,
    ⟨6, 6, -1, -1, 22, 1, -1, -1, "Celeron(R) [24]##", 4, "Celeron (Conroe-L)", "65 nm"⟩,
    ⟨6, 14, -1, -1, 14, 1, -1, -1, "Xeon(R) 51##", 4, "Xeon LV (Woodcrest)", "65 nm"⟩,
    ⟨6, 15, -1, -1, 15, 2, -1, -1, "Xeon(R) 51##", 4, "Xeon (Woodcrest)", "65 nm"⟩,
    ⟨6, 15, -1, -1, 15, 2, -1, -1, "Xeon(R) 30##", 4, "Xeon (Conroe)", "65 nm"⟩,
    ⟨6, 15, -1, -1, 15, 4, -1, -1, "Xeon(R) X32##", 6, "Xeon (Kentsfield)", "65 nm"⟩,
    ⟨6, 15, -1, -1, 15, 4, -1, -1, "Xeon(R) [EXL]53##", 6, "Xeon (Clovertown)", "65 nm"⟩,
    ⟨6, 7, -1, -1, 23, 2, 1024, -1, "Celeron(R) E3###", 6, "Celeron (Wolfdale-3M)", "45 nm"⟩,
    ⟨6, 7, -1, -1, 23, 2, 1024, -1, "Pentium(R) E2###", 6, "Celeron (Wolfdale-3M)", "45 nm"⟩,
    ⟨6, 7, -1, -1, 23, 2, 2048, -1, "Pentium(R) E[56]###", 6, "Pentium (Wolfdale-3M)", "45 nm"⟩,
    ⟨6, 7, -1, -1, 23, 2, 3072, -1, "Core(TM)2 Duo E7###", 8, "Core 2 Duo (Wolfdale-3M)", "45 nm"⟩,
    ⟨6, 7, -1, -1, 23, 2, 6144, -1, "Core(TM)2 Duo E8###", 8, "Core 2 Duo (Wolfdale)", "45 nm"⟩,
    ⟨6, 7, -1, -1, 23, 2, 1024, -1,
      "Pentium(R) Dual-Core T4###", 8, "Pentium Dual-Core (Penryn-L)", "45 nm"⟩,
    ⟨6, 7, -1, -1, 23, 1, 1024, -1, "Celeron(R) [79]##", 4, "Celeron (Penryn-L)", "45 nm"⟩,
    ⟨6, 7, -1, -1, 23, 2, 3072, -1,
      "Core(TM)2 Duo SU[78]###", 8, "Core 2 Duo (Penryn-3M)", "45 nm"⟩,
    ⟨6, 7, -1, -1, 23, 2, 3072, -1, "Core(TM)2 Duo P[78]###", 8, "Core 2 Duo (Penryn-3M)", "45 nm"⟩,
    ⟨6, 7, -1, -1, 23, 2, 2048, -1, "Core(TM)2 Duo T6###", 8, "Core 2 Duo (Penryn-3M)", "45 nm"⟩,
    ⟨6, 7, -1, -1, 23, 2, 3072, -1, "Core(TM)2 Duo T8###", 8, "Core 2 Duo (Penryn-3M)", "45 nm"⟩,
    ⟨6, 7, -1, -1, 23, 2, 6144, -1, "Core(TM)2 Duo S[LP]9###", 8, "Core 2 Duo (Penryn)", "45 nm"⟩,
    ⟨6, 7, -1, -1, 23, 2, 6144, -1, "Core(TM)2 Duo [PT]9###", 8, "Core 2 Duo (Penryn)", "45 nm"⟩,
    ⟨6, 7, -1, -1, 23, 2, 6144, -1, "Core(TM)2 Duo E8###", 8, "Core 2 Duo (Penryn)", "45 nm"⟩,
    ⟨6, 7, -1, -1, 23, 4, 2048, -1,
      "Core(TM)2 Quad Q8###", 8, "Core 2 Quad (Yorkfield-6M)", "45 nm"⟩,
    ⟨6, 7, -1, -1, 23, 4, 3072, -1,
      "Core(TM)2 Quad Q9#0#", 8, "Core 2 Quad (Yorkfield-6M)", "45 nm"⟩,
    ⟨6, 7, -1, -1, 23, 4, 6144, -1, "Core(TM)2 Quad Q9#5#", 8, "Core 2 Quad (Yorkfield)", "45 nm"⟩,
    ⟨6, 7, -1, -1, 23, 2, -1, -1, "Xeon(R) [EL]31##", 6, "Xeon (Wolfdale)", "45 nm"⟩,
    ⟨6, 7, -1, -1, 23, 2, -1, -1, "Xeon(R) [EXL]52##", 6, "Xeon (Wolfdale DP)", "45 nm"⟩,
    ⟨6, 7, -1, -1, 23, 4, -1, -1, "Xeon(R) [EXL]54##", 6, "Xeon (Harpertown)", "45 nm"⟩,
    ⟨6, 7, -1, -1, 23, 4, -1, -1, "Xeon(R) [XL]33##", 6, "Xeon (Yorkfield)", "45 nm"⟩,
    ⟨6, 13, -1, -1, 29, -1, -1, -1, "Xeon(R) [EXL]74##", 6, "Xeon (Dunnington)", "45 nm"⟩,
    ⟨6, 10, -1, -1, 26, -1, -1, -1, "Xeon(R) [WELX]5###", 6, "Xeon (Gainestown)", "45 nm"⟩,
    ⟨6, 10, -1, -1, 26, -1, -1, -1, "Xeon(R) [WELX]3###", 6, "Xeon (Bloomfield)", "45 nm"⟩,
    ⟨6, 10, -1, -1, 26, -1, -1, -1, "Core(TM) i7 9#5", 8, "Core i7 Extreme (Bloomfield)", "45 nm"⟩,
    ⟨6, 10, -1, -1, 26, -1, -1, -1, "Core(TM) i7 9#0", 8, "Core i7 (Bloomfield)", "45 nm"⟩,
    ⟨6, 14, -1, -1, 30, -1, -1, -1, "Core(TM) i7 8##", 8, "Core i7 (Lynnfield)", "45 nm"⟩,
    ⟨6, 14, -1, -1, 30, -1, -1, -1, "Core(TM) i5 7##", 8, "Core i5 (Lynnfield)", "45 nm"⟩,
    ⟨6, 14, -1, -1, 30, -1, -1, -1,
      "Core(TM) i7 [QX] [789]##", 10, "Core i7 (Clarksfield)", "45 nm"⟩,
    ⟨6, 14, -1, -1, 30, -1, -1, -1, "Core(TM) [QX] [789]##", 8, "Core i7 (Clarksfield)", "45 nm"⟩,
    ⟨6, 6, -1, -1, 38, -1, -1, -1, "Atom(TM) E6##T", 8, "Atom (Tunnel Creek)", "45 nm"⟩,
    ⟨6, 6, -1, -1, 38, -1, -1, -1, "Atom(TM) E6##", 6, "Atom (Tunnel Creek)", "45 nm"⟩,
    ⟨6, 6, -1, -1, 38, -1, -1, -1, "Atom(TM) E6##C", 8, "Atom (Stellarton)", "45 nm"⟩,
    ⟨6, 12, -1, -1, 28, -1, -1, -1, "Atom(TM) Z5##", 6, "Atom (Silverthorne)", "45 nm"⟩,
    ⟨6, 12, -1, -1, 28, -1, -1, -1, "Atom(TM) N2##", 6, "Atom (Diamondville)", "45 nm"⟩,
    ⟨6, 12, -1, -1, 28, -1, -1, -1, "Atom(TM) [23]##", 6, "Atom (Diamondville)", "45 nm"⟩,
    ⟨6, 6, -1, -1, 38, -1, -1, -1, "Atom(TM) Z6##", 6, "Atom (Lincroft)", "45 nm"⟩,
    ⟨6, 12, -1, -1, 28, -1, -1, -1, "Atom(TM) Z6##", 6, "Atom (Lincroft)", "45 nm"⟩,
    ⟨6, 12, -1, -1, 28, -1, -1, -1, "Atom(TM) [ND][45]##", 6, "Atom (Pineview)", "45 nm"⟩,
    ⟨6, 14, -1, -1, 46, -1, -1, -1, "Xeon(R) [EXL]75##", 6, "Xeon 7000 (Beckton)", "32 nm"⟩,
    ⟨6, 14, -1, -1, 46, -1, -1, -1, "Xeon(R) E65##", 6, "Xeon 6000 (Beckton)", "32 nm"⟩,
    ⟨6, 14, -1, -1, 46, -1, -1, -1, "Xeon(R) [XELW]5[56]##", 6, "Xeon 5000 (Beckton)", "32 nm"⟩,
    ⟨6, 14, -1, -1, 46, -1, -1, -1, "Xeon(R) [XLW]3[456]###", 6, "Xeon 3000 (Beckton)", "32 nm"⟩,
    ⟨6, 15, -1, -1, 47, -1, -1, -1, "Xeon(R) E7-#8##", 6, "Xeon E7 (Westmere-EX)", "32 nm"⟩,
    ⟨6, 12, -1, -1, 44, -1, -1, -1, "Xeon(R) [XEL]5###", 6, "Xeon (Westmere-EP)", "32 nm"⟩,
    ⟨6, 12, -1, -1, 44, -1, -1, -1, "Xeon(R) W3###", 6, "Xeon (Gulftown)", "32 nm"⟩,
    ⟨6, 12, -1, -1, 44, -1, -1, -1, "Core(TM) i7 X 9##", 10, "Core i7 Extreme (Gulftown)", "32 nm"⟩,
    ⟨6, 12, -1, -1, 44, -1, -1, -1, "Core(TM) i7 9##", 8, "Core i7 (Gulftown)", "32 nm"⟩,
    ⟨6, 5, -1, -1, 37, -1, -1, -1, "Xeon(R) L3###", 6, "Xeon (Clarkdale)", "32 nm"⟩,
    ⟨6, 5, -1, -1, 37, -1, -1, -1, "Core(TM) i5 6##", 8, "Core i5 (Clarkdale)", "32 nm"⟩,
    ⟨6, 5, -1, -1, 37, -1, -1, -1, "Core(TM) i3 5##", 8, "Core i3 (Clarkdale)", "32 nm"⟩,
    ⟨6, 5, -1, -1, 37, -1, -1, -1, "Pentium(R) G6###", 6, "Pentium (Clarkdale)", "32 nm"⟩,
    ⟨6, 5, -1, -1, 37, -1, -1, -1, "Celeron(R) G1###", 6, "Celeron (Clarkdale)", "32 nm"⟩,
    ⟨6, 5, -1, -1, 37, -1, -1, -1, "Core(TM) i7 M 6##", 8, "Core i7 (Arrandale)", "32 nm"⟩,
    ⟨6, 5, -1, -1, 37, -1, -1, -1, "Core(TM) i5 M [45]##", 8, "Core i5 (Arrandale)", "32 nm"⟩,
    ⟨6, 5, -1, -1, 37, -1, -1, -1, "Core(TM) i3 M 3##", 8, "Core i3 (Arrandale)", "32 nm"⟩,
    ⟨6, 5, -1, -1, 37, -1, -1, -1, "Pentium(R) P6###", 6, "Pentium (Arrandale)", "32 nm"⟩,
    ⟨6, 5, -1, -1, 37, -1, -1, -1, "Pentium(R) 5U###", 6, "Pentium (Arrandale)", "32 nm"⟩,
    ⟨6, 5, -1, -1, 37, -1, -1, -1, "Celeron(R) P4###", 6, "Celeron (Arrandale)", "32 nm"⟩,
    ⟨6, 5, -1, -1, 37, -1, -1, -1, "Celeron(R) U3###", 6, "Celeron (Arrandale)", "32 nm"⟩,
    ⟨6, 12, -1, -1, -1, -1, -1, -1, "Atom(TM) [ND]2###", 6, "Atom (Cedarview)", "32 nm"⟩,
    ⟨6, 6, -1, -1, 54, -1, -1, -1, "Atom(TM) [ND]2###", 6, "Atom (Cedarview)", "32 nm"⟩,
    ⟨6, 7, -1, -1, 39, -1, -1, -1, "Atom(TM) Z2###", 6, "Atom (Penwell)", "32 nm"⟩,
    ⟨6, 10, -1, -1, 42, -1, -1, -1, "Xeon(R) E5####[LW]", 8, "Xeon E5 (Sandy Bridge)", "32 nm"⟩,
    ⟨6, 10, -1, -1, 42, -1, -1, -1, "Xeon(R) E5####", 6, "Xeon E5 (Sandy Bridge)", "32 nm"⟩,
    ⟨6, 10, -1, -1, 42, -1, -1, -1, "Xeon(R) E3####[CL]", 8, "Xeon E3 (Sandy Bridge)", "32 nm"⟩,
    ⟨6, 10, -1, -1, 42, -1, -1, -1, "Xeon(R) E3####", 6, "Xeon E3 (Sandy Bridge)", "32 nm"⟩,
    ⟨6, 10, -1, -1, 42, -1, -1, -1, "Core(TM) i7-2###", 8, "Core i7 (Sandy Bridge)", "32 nm"⟩,
    ⟨6, 10, -1, -1, 42, -1, -1, -1, "Core(TM) i5-2###", 8, "Core i5 (Sandy Bridge)", "32 nm"⟩,
    ⟨6, 10, -1, -1, 42, -1, -1, -1, "Core(TM) i3-2###", 8, "Core i3 (Sandy Bridge)", "32 nm"⟩,
    ⟨6, 10, -1, -1, 42, -1, -1, -1, "Pentium(R) G[68]##", 6, "Pentium (Sandy Bridge)", "32 nm"⟩,
    ⟨6, 10, -1, -1, 42, -1, -1, -1, "Celeron(R) G[45]##", 6, "Celeron (Sandy Bridge)", "32 nm"⟩,
    ⟨6, 13, -1, -1, 45, -1, -1, -1,
      "Core(TM) i7-3###[KX]", 10, "Core i7 Extreme (Sandy Bridge-E)", "32 nm"⟩,
    ⟨6, 13, -1, -1, 45, -1, -1, -1, "Xeon(R) E5-####", 4, "Xeon E5 (Sandy Bridge-E)", "32 nm"⟩,
    ⟨6, 13, -1, -1, 45, -1, -1, -1, "Xeon(R) E3-####", 4, "Xeon E3 (Sandy Bridge-E)", "32 nm"⟩,
    ⟨6, 10, -1, -1, 58, -1, -1, -1, "Xeon(R) E7-####L v2", 8, "Xeon E7 (Ivy Bridge)", "22 nm"⟩,
    ⟨6, 10, -1, -1, 58, -1, -1, -1, "Xeon(R) E7-#### v2", 6, "Xeon E7 (Ivy Bridge)", "22 nm"⟩,
    ⟨6, 10, -1, -1, 58, -1, -1, -1, "Xeon(R) E5-####[LW] v2", 8, "Xeon E5 (Ivy Bridge)", "22 nm"⟩,
    ⟨6, 10, -1, -1, 58, -1, -1, -1, "Xeon(R) E5-#### v2", 6, "Xeon E5 (Ivy Bridge)", "22 nm"⟩,
    ⟨6, 10, -1, -1, 58, -1, -1, -1, "Xeon(R) E3-####[CL] v2", 8, "Xeon E3 (Ivy Bridge)", "22 nm"⟩,
    ⟨6, 10, -1, -1, 58, -1, -1, -1, "Xeon(R) E3-#### v2", 6, "Xeon E3 (Ivy Bridge)", "22 nm"⟩,
    ⟨6, 10, -1, -1, 58, -1, -1, -1, "Core(TM) i7-3###", 8, "Core i7 (Ivy Bridge)", "22 nm"⟩,
    ⟨6, 10, -1, -1, 58, -1, -1, -1, "Core(TM) i5-3###", 8, "Core i5 (Ivy Bridge)", "22 nm"⟩,
    ⟨6, 10, -1, -1, 58, -1, -1, -1, "Core(TM) i3-3###", 8, "Core i3 (Ivy Bridge)", "22 nm"⟩,
    ⟨6, 10, -1, -1, 58, -1, -1, -1, "Pentium(R) G2###", 6, "Pentium (Ivy Bridge)", "22 nm"⟩,
    ⟨6, 10, -1, -1, 58, -1, -1, -1, "Celeron(R) G1###", 6, "Celeron (Ivy Bridge)", "22 nm"⟩,
    ⟨6, 14, -1, -1, 62, -1, -1, -1, "Xeon(R) E7-#### v2", 6, "Xeon E7 (Ivy Bridge-E)", "22 nm"⟩,
    ⟨6, 14, -1, -1, 62, -1, -1, -1, "Xeon(R) E5-#### v2", 6, "Xeon E5 (Ivy Bridge-E)", "22 nm"⟩,
    ⟨6, 14, -1, -1, 62, -1, -1, -1, "Xeon(R) E3-#### v2", 6, "Xeon E3 (Ivy Bridge-E)", "22 nm"⟩,
    ⟨6, 14, -1, -1, 62, -1, -1, -1,
      "Core(TM) i7-4###X", 10, "Core i7 Extreme (Ivy Bridge-E)", "22 nm"⟩,
    ⟨6, 14, -1, -1, 62, -1, -1, -1, "Core(TM) i7-4###K", 8, "Core i7 (Ivy Bridge-E)", "22 nm"⟩,
    ⟨6, 7, -1, -1, 55, -1, -1, -1, "Pentium(R) J2###", 6, "Pentium (Bay Trail-D)", "22 nm"⟩,
    ⟨6, 7, -1, -1, 55, -1, -1, -1, "Celeron(R) J1###", 6, "Celeron (Bay Trail-D)", "22 nm"⟩,
    ⟨6, 7, -1, -1, 55, -1, -1, -1, "Pentium(R) N3###", 6, "Pentium (Bay Trail-M)", "22 nm"⟩,
    ⟨6, 7, -1, -1, 55, -1, -1, -1, "Celeron(R) N2###", 6, "Celeron (Bay Trail-M)", "22 nm"⟩,
    ⟨6, 7, -1, -1, 55, -1, -1, -1, "Atom(TM) Z3###", 6, "Atom (Bay Trail-T)", "22 nm"⟩,
    ⟨6, 7, -1, -1, 55, -1, -1, -1, "Atom(TM) E3###", 6, "Atom (Bay Trail-I)", "22 nm"⟩,
    ⟨6, 13, -1, -1, 77, -1, -1, -1, "Atom(TM) C2##0", 8, "Atom (Avoton)", "22 nm"⟩,
    ⟨6, 13, -1, -1, 77, -1, -1, -1, "Atom(TM) C2##[68]", 8, "Atom (Rangeley)", "22 nm"⟩,
    ⟨6, 12, -1, -1, 60, -1, -1, -1, "Xeon(R) E7-####L v3", 8, "Xeon E7 (Haswell)", "22 nm"⟩,
    ⟨6, 12, -1, -1, 60, -1, -1, -1, "Xeon(R) E7-#### v3", 6, "Xeon E7 (Haswell)", "22 nm"⟩,
    ⟨6, 12, -1, -1, 60, -1, -1, -1, "Xeon(R) E5-####[ABLW] v3", 8, "Xeon E5 (Haswell)", "22 nm"⟩,
    ⟨6, 12, -1, -1, 60, -1, -1, -1, "Xeon(R) E5-#### v3", 6, "Xeon E5 (Haswell)", "22 nm"⟩,
    ⟨6, 12, -1, -1, 60, -1, -1, -1, "Xeon(R) E3-####L v3", 8, "Xeon E3 (Haswell)", "22 nm"⟩,
    ⟨6, 12, -1, -1, 60, -1, -1, -1, "Xeon(R) E3-#### v3", 6, "Xeon E3 (Haswell)", "22 nm"⟩,
    ⟨6, 12, -1, -1, 60, -1, -1, -1, "Core(TM) i7-4###", 8, "Core i7 (Haswell)", "22 nm"⟩,
    ⟨6, 12, -1, -1, 60, -1, -1, -1, "Core(TM) i5-4###", 8, "Core i5 (Haswell)", "22 nm"⟩,
    ⟨6, 12, -1, -1, 60, -1, -1, -1, "Core(TM) i3-4###", 8, "Core i3 (Haswell)", "22 nm"⟩,
    ⟨6, 12, -1, -1, 60, -1, -1, -1, "Pentium(R) G3###", 6, "Pentium (Haswell)", "22 nm"⟩,
    ⟨6, 12, -1, -1, 60, -1, -1, -1, "Celeron(R) G1###", 6, "Celeron (Haswell)", "22 nm"⟩,
    ⟨6, 15, -1, -1, 63, -1, -1, -1,
      "Core(TM) i7-5###[KX]", 8, "Core i7 Extreme (Haswell)", "22 nm"⟩,
    ⟨6, 5, -1, -1, 69, -1, -1, -1, "Core(TM) i7-4###", 8, "Core i7 (Haswell)", "22 nm"⟩,
    ⟨6, 5, -1, -1, 69, -1, -1, -1, "Core(TM) i5-4###", 8, "Core i5 (Haswell)", "22 nm"⟩,
    ⟨6, 5, -1, -1, 69, -1, -1, -1, "Core(TM) i3-4###", 8, "Core i3 (Haswell)", "22 nm"⟩,
    ⟨6, 6, -1, -1, 70, -1, -1, -1, "Core(TM) i7-4###R", 10, "Core i7 (Haswell-H)", "22 nm"⟩,
    ⟨6, 6, -1, -1, 70, -1, -1, -1, "Core(TM) i5-4###R", 10, "Core i5 (Haswell-H)", "22 nm"⟩,
    ⟨6, 5, -1, -1, 69, -1, -1, -1, "Core(TM) i7-4###U", 10, "Core i7 (Haswell-ULT)", "22 nm"⟩,
    ⟨6, 5, -1, -1, 69, -1, -1, -1, "Core(TM) i5-4###U", 10, "Core i5 (Haswell-ULT)", "22 nm"⟩,
    ⟨6, 5, -1, -1, 69, -1, -1, -1, "Core(TM) i3-4###U", 10, "Core i3 (Haswell-ULT)", "22 nm"⟩,
    ⟨6, 5, -1, -1, 69, -1, -1, -1, "Core(TM) i7-4###Y", 10, "Core i7 (Haswell-ULX)", "22 nm"⟩,
    ⟨6, 5, -1, -1, 69, -1, -1, -1, "Core(TM) i5-4###Y", 10, "Core i5 (Haswell-ULX)", "22 nm"⟩,
    ⟨6, 5, -1, -1, 69, -1, -1, -1, "Core(TM) i3-4###Y", 10, "Core i3 (Haswell-ULX)", "22 nm"⟩,
    ⟨6, 6, -1, -1, 86, -1, -1, -1, "Xeon(R) D-15##", 6, "Xeon D (Broadwell)", "14 nm"⟩,
    ⟨6, 6, -1, -1, 86, -1, -1, -1, "Pentium(R) D15##", 6, "Pentium D (Broadwell)", "14 nm"⟩,
    ⟨6, 7, -1, -1, 71, 4, -1, -1, "Core(TM) i7-5###[CR]", 10, "Core i7 (Broadwell-H)", "14 nm"⟩,
    ⟨6, 7, -1, -1, 71, 4, -1, -1, "Core(TM) i5-5###[CR]", 10, "Core i5 (Broadwell-H)", "14 nm"⟩,
    ⟨6, 13, -1, -1, 61, 4, -1, -1, "Core(TM) i7-5###HQ", 12, "Core i7 (Broadwell-U)", "14 nm"⟩,
    ⟨6, 13, -1, -1, 61, 2, -1, -1, "Core(TM) i7-5###U", 10, "Core i7 (Broadwell-U)", "14 nm"⟩,
    ⟨6, 13, -1, -1, 61, 2, -1, -1, "Core(TM) i5-5###[HU]", 10, "Core i5 (Broadwell-U)", "14 nm"⟩,
    ⟨6, 13, -1, -1, 61, 2, -1, -1, "Core(TM) i3-5###U", 10, "Core i3 (Broadwell-U)", "14 nm"⟩,
    ⟨6, 13, -1, -1, 61, 2, -1, -1, "Pentium(R) 3###U", 6, "Pentium (Broadwell-U)", "14 nm"⟩,
    ⟨6, 13, -1, -1, 61, 2, -1, -1, "Celeron(R) 3###U", 6, "Celeron (Broadwell-U)", "14 nm"⟩,
    ⟨6, 13, -1, -1, 61, 2, -1, -1, "5Y##", 4, "Core M (Broadwell-Y)", "14 nm"⟩,
    ⟨6, 15, -1, -1, 79, -1, -1, -1, "Xeon(R) E7-#### v4", 6, "Xeon E7 (Broadwell)", "14 nm"⟩,
    ⟨6, 15, -1, -1, 79, -1, -1, -1,
      "Xeon(R) E5-####[ACLPRW] v4", 8, "Xeon E5 (Broadwell)", "14 nm"⟩,
    ⟨6, 15, -1, -1, 79, -1, -1, -1, "Xeon(R) E5-#### v4", 6, "Xeon E5 (Broadwell)", "14 nm"⟩,
    ⟨6, 15, -1, -1, 79, -1, -1, -1, "Xeon(R) E3-####L v4", 8, "Xeon E3 (Broadwell)", "14 nm"⟩,
    ⟨6, 15, -1, -1, 79, -1, -1, -1, "Xeon(R) E3-#### v4", 6, "Xeon E3 (Broadwell)", "14 nm"⟩,
    ⟨6, 15, -1, -1, 79, 4, -1, -1, "Core(TM) i7-6###[KX]", 10, "Core i7 (Broadwell-E)", "14 nm"⟩,
    ⟨6, 12, -1, -1, 76, -1, -1, -1, "Pentium(R) [JN]3###", 6, "Pentium (Braswell)", "14 nm"⟩,
    ⟨6, 12, -1, -1, 76, -1, -1, -1, "Celeron(R) [JN]3###", 6, "Celeron (Braswell)", "14 nm"⟩,
    ⟨6, 12, -1, -1, 76, 4, -1, -1, "Atom(TM) x7-Z8###", 8, "Atom x7 (Cherry Trail)", "14 nm"⟩,
    ⟨6, 12, -1, -1, 76, 4, -1, -1, "Atom(TM) x5-Z8###", 8, "Atom x5 (Cherry Trail)", "14 nm"⟩,
    ⟨6, 5, -1, -1, 117, -1, -1, -1, "Spreadtrum", 2, "Spreadtrum (Airmont)", "14 nm"⟩,
    ⟨6, 14, -1, -1, 94, 4, -1, -1, "Core(TM) i7-6###", 8, "Core i7 (Skylake)", "14 nm"⟩,
    ⟨6, 14, -1, -1, 94, 4, -1, -1, "Core(TM) i5-6###", 8, "Core i5 (Skylake)", "14 nm"⟩,
    ⟨6, 14, -1, -1, 94, 2, -1, -1, "Core(TM) i3-6###", 8, "Core i3 (Skylake)", "14 nm"⟩,
    ⟨6, 14, -1, -1, 94, 2, -1, -1, "Pentium(R) G4###", 6, "Pentium (Skylake)", "14 nm"⟩,
    ⟨6, 14, -1, -1, 94, 2, -1, -1, "Celeron(R) G3###", 6, "Celeron (Skylake)", "14 nm"⟩,
    ⟨6, 14, -1, -1, 78, 2, -1, -1, "Core(TM) m7-6Y##", 8, "Core m7 (Skylake)", "14 nm"⟩,
    ⟨6, 14, -1, -1, 78, 2, -1, -1, "Core(TM) m5-6Y##", 8, "Core m5 (Skylake)", "14 nm"⟩,
    ⟨6, 14, -1, -1, 78, 2, -1, -1, "Core(TM) m3-6Y##", 8, "Core m3 (Skylake)", "14 nm"⟩,
    ⟨6, 14, -1, -1, 78, 2, -1, -1, "Pentium(R) 4###[UY]", 6, "Pentium (Skylake)", "14 nm"⟩,
    ⟨6, 14, -1, -1, 78, 2, -1, -1, "Celeron(R) 3###U", 6, "Celeron (Skylake)", "14 nm"⟩,
    ⟨6, 14, -1, -1, 78, 2, -1, -1, "Celeron(R) G3###E", 8, "Celeron (Skylake)", "14 nm"⟩,
    ⟨6, 5, -1, -1, 85, -1, -1, -1, "Core(TM) i9-7###X", 10, "Core i9 (Skylake-X)", "14 nm"⟩,
    ⟨6, 5, -1, -1, 85, -1, -1, -1, "Core(TM) i7-7###X", 10, "Core i7 (Skylake-X)", "14 nm"⟩,
    ⟨6, 5, -1, -1, 85, -1, -1, -1, "Core(TM) i9-9###X", 10, "Core i9 (Skylake-X)", "14 nm"⟩,
    ⟨6, 5, -1, -1, 85, -1, -1, -1, "Core(TM) i7-9###X", 10, "Core i7 (Skylake-X)", "14 nm"⟩,
    ⟨6, 14, -1, -1, 94, -1, -1, -1, "Xeon(R) W-#1##X", 8, "Xeon (Skylake-X)", "14 nm"⟩,
    ⟨6, 5, -1, -1, 85, -1, -1, -1, "Xeon(R) D-#1##", 6, "Xeon D (Skylake-D)", "14 nm"⟩,
    ⟨6, 5, -1, -1, 85, -1, -1, -1, "Xeon(R) E3-####[ML] v5", 8, "Xeon E3 (Skylake-S)", "14 nm"⟩,
    ⟨6, 5, -1, -1, 85, -1, -1, -1, "Xeon(R) E3-#### v5", 6, "Xeon E3 (Skylake-S)", "14 nm"⟩,
    ⟨6, 5, -1, -1, 85, -1, -1, -1, "Xeon(R) W-#1##", 6, "Xeon W (Skylake-W)", "14 nm"⟩,
    ⟨6, 5, -1, -1, 85, -1, -1, -1,
      "Xeon(R) Platinum #1##", 6, "Xeon Platinum (Skylake-SP)", "14 nm"⟩,
    ⟨6, 5, -1, -1, 85, -1, -1, -1, "Xeon(R) Gold #1##", 6, "Xeon Gold (Skylake-SP)", "14 nm"⟩,
    ⟨6, 5, -1, -1, 85, -1, -1, -1, "Xeon(R) Silver #1##", 6, "Xeon Silver (Skylake-SP)", "14 nm"⟩,
    ⟨6, 5, -1, -1, 85, -1, -1, -1, "Xeon(R) Bronze #1##", 6, "Xeon Bronze (Skylake-SP)", "14 nm"⟩,
    ⟨6, 5, -1, -1, 85, -1, -1, -1, "Montage(R) Jintide(R)", 4, "Jintide (Skylake-SP)", "14 nm"⟩,
    ⟨6, 14, -1, -1, 158, 4, -1, -1, "Core(TM) i7-7###", 8, "Core i7 (Kaby Lake)", "14+ nm"⟩,
    ⟨6, 14, -1, -1, 158, 4, -1, -1, "Core(TM) i5-7###", 8, "Core i5 (Kaby Lake)", "14+ nm"⟩,
    ⟨6, 14, -1, -1, 158, 2, -1, -1, "Core(TM) i3-7###", 8, "Core i3 (Kaby Lake)", "14+ nm"⟩,
    ⟨6, 14, -1, -1, 158, 2, -1, -1, "Pentium(R) G4###", 6, "Pentium (Kaby Lake)", "14+ nm"⟩,
    ⟨6, 14, -1, -1, 158, 2, -1, -1, "Celeron(R) G3###", 6, "Celeron (Kaby Lake)", "14+ nm"⟩,
    ⟨6, 14, -1, -1, 158, 4, -1, -1, "Core(TM) i7-7###X", 10, "Core i7 (Kaby Lake-X)", "14+ nm"⟩,
    ⟨6, 14, -1, -1, 158, 4, -1, -1, "Core(TM) i5-7###X", 10, "Core i5 (Kaby Lake-X)", "14+ nm"⟩,
    ⟨6, 14, -1, -1, 142, 2, -1, -1, "Core(TM) i7-7.##", 8, "Core i7 (Kaby Lake-U)", "14+ nm"⟩,
    ⟨6, 14, -1, -1, 142, 2, -1, -1, "Core(TM) i5-7.##", 8, "Core i5 (Kaby Lake-U)", "14+ nm"⟩,
    ⟨6, 14, -1, -1, 142, 2, -1, -1, "Core(TM) i3-7.##", 8, "Core i3 (Kaby Lake-U)", "14+ nm"⟩,
    ⟨6, 14, -1, -1, 142, 2, -1, -1, "Core(TM) m3-7.##", 8, "Core m3 (Kaby Lake-U)", "14+ nm"⟩,
    ⟨6, 14, -1, -1, 142, 2, -1, -1,
      "Pentium(R) 441#[UY]", 8, "Pentium Gold (Kaby Lake-U)", "14+ nm"⟩,
    ⟨6, 14, -1, -1, 142, 2, -1, -1, "Celeron(R) 3###[UY]", 6, "Celeron (Kaby Lake-U)", "14+ nm"⟩,
    ⟨6, 14, -1, -1, 158, 4, -1, -1, "Core(TM) i7-8###G", 10, "Core i7 (Kaby Lake-G)", "14+ nm"⟩,
    ⟨6, 14, -1, -1, 158, 4, -1, -1, "Core(TM) i5-8###G", 10, "Core i5 (Kaby Lake-G)", "14+ nm"⟩,
    ⟨6, 14, -1, -1, 142, 4, -1, -1, "Core(TM) i7-8##0U", 10, "Core i7 (Kaby Lake-R)", "14+ nm"⟩,
    ⟨6, 14, -1, -1, 142, 4, -1, -1, "Core(TM) i5-8##0U", 10, "Core i5 (Kaby Lake-R)", "14+ nm"⟩,
    ⟨6, 14, -1, -1, 142, 2, -1, -1, "Core(TM) i3-8##0U", 10, "Core i3 (Kaby Lake-R)", "14+ nm"⟩,
    ⟨6, 14, -1, -1, 142, 2, -1, -1, "Pentium(R) 4###U", 6, "Pentium Gold (Kaby Lake-R)", "14+ nm"⟩,
    ⟨6, 14, -1, -1, 142, 2, -1, -1, "Celeron(R) 3###U", 6, "Celeron (Kaby Lake-R)", "14+ nm"⟩,
    ⟨6, 14, -1, -1, 158, 6, -1, -1, "Core(TM) i7-8###", 8, "Core i7 (Coffee Lake-S)", "14++ nm"⟩,
    ⟨6, 14, -1, -1, 158, 6, -1, -1, "Core(TM) i5-8###", 8, "Core i5 (Coffee Lake-S)", "14++ nm"⟩,
    ⟨6, 14, -1, -1, 158, 4, -1, -1, "Core(TM) i3-8###", 8, "Core i3 (Coffee Lake-S)", "14++ nm"⟩,
    ⟨6, 14, -1, -1, 158, 2, -1, -1,
      "Pentium(R) G5###", 6, "Pentium Gold (Coffee Lake-S)", "14++ nm"⟩,
    ⟨6, 14, -1, -1, 158, 2, -1, -1, "Celeron(R) G4###", 6, "Celeron (Coffee Lake-S)", "14++ nm"⟩,
    ⟨6, 14, -1, -1, 158, 6, -1, -1, "Xeon(R) E-21##M", 8, "Xeon E (Coffee Lake-H)", "14++ nm"⟩,
    ⟨6, 14, -1, -1, 158, 6, -1, -1,
      "Core(TM) i9-8###[HB]", 10, "Core i9 (Coffee Lake-H)", "14++ nm"⟩,
    ⟨6, 14, -1, -1, 158, 6, -1, -1,
      "Core(TM) i7-8###[HB]", 10, "Core i7 (Coffee Lake-H)", "14++ nm"⟩,
    ⟨6, 14, -1, -1, 158, 4, -1, -1,
      "Core(TM) i5-8###[HB]", 10, "Core i5 (Coffee Lake-H)", "14++ nm"⟩,
    ⟨6, 14, -1, -1, 158, 4, -1, -1,
      "Core(TM) i5-8###[HB]", 10, "Core i5 (Coffee Lake-H)", "14++ nm"⟩,
    ⟨6, 14, -1, -1, 158, 4, -1, -1,
      "Core(TM) i3-8###[HB]", 10, "Core i3 (Coffee Lake-H)", "14++ nm"⟩,
    ⟨6, 14, -1, -1, 158, 4, -1, -1, "Core(TM) i7-8###U", 10, "Core i7 (Coffee Lake-U)", "14++ nm"⟩,
    ⟨6, 14, -1, -1, 158, 4, -1, -1, "Core(TM) i5-8###U", 10, "Core i5 (Coffee Lake-U)", "14++ nm"⟩,
    ⟨6, 14, -1, -1, 158, 2, -1, -1, "Core(TM) i3-8###U", 10, "Core i3 (Coffee Lake-U)", "14++ nm"⟩,
    ⟨6, 14, -1, -1, 158, 8, -1, -1, "Xeon(R) E-2###", 6, "Xeon E (Coffee Lake-S WS)", "14++ nm"⟩,
    ⟨6, 14, -1, -1, 158, 8, -1, -1, "CC###", 4, "CC (Coffee Lake)", "14++ nm"⟩,
    ⟨6, 14, -1, -1, 158, 8, -1, -1, "Core(TM) i9-9###", 8, "Core i9 (Coffee Lake-S)", "14++ nm"⟩,
    ⟨6, 14, -1, -1, 158, 8, -1, -1, "Core(TM) i7-9###", 8, "Core i7 (Coffee Lake-S)", "14++ nm"⟩,
    ⟨6, 14, -1, -1, 158, 6, -1, -1, "Core(TM) i5-9###", 8, "Core i5 (Coffee Lake-S)", "14++ nm"⟩,
    ⟨6, 14, -1, -1, 158, 4, -1, -1, "Core(TM) i3-9###", 8, "Core i3 (Coffee Lake-S)", "14++ nm"⟩,
    ⟨6, 14, -1, -1, 158, 2, -1, -1,
      "Pentium(R) Gold G5###", 8, "Pentium Gold (Coffee Lake-S)", "14++ nm"⟩,
    ⟨6, 14, -1, -1, 158, 2, -1, -1, "Celeron(R) G4###", 6, "Celeron (Coffee Lake-S)", "14++ nm"⟩,
    ⟨6, 14, -1, -1, 158, -1, -1, -1,
      "Xeon(R) E-22##M", 8, "Xeon E (Coffee Lake-H Refresh)", "14++ nm"⟩,
    ⟨6, 14, -1, -1, 158, 8, -1, -1,
      "Core(TM) i9-9###H", 10, "Core i9 (Coffee Lake-H Refresh)", "14++ nm"⟩,
    ⟨6, 14, -1, -1, 158, 6, -1, -1,
      "Core(TM) i7-9###H", 10, "Core i7 (Coffee Lake-H Refresh)", "14++ nm"⟩,
    ⟨6, 14, -1, -1, 158, 4, -1, -1,
      "Core(TM) i5-9###H", 10, "Core i5 (Coffee Lake-H Refresh)", "14++ nm"⟩,
    ⟨6, 14, -1, -1, 142, 4, -1, -1, "Core(TM) i7-8##5U", 10, "Core i7 (Whiskey Lake-U)", "14++ nm"⟩,
    ⟨6, 14, -1, -1, 142, 4, -1, -1, "Core(TM) i5-8##5U", 10, "Core i5 (Whiskey Lake-U)", "14++ nm"⟩,
    ⟨6, 14, -1, -1, 142, 2, -1, -1, "Core(TM) i3-8##5U", 10, "Core i3 (Whiskey Lake-U)", "14++ nm"⟩,
    ⟨6, 14, -1, -1, 142, 2, -1, -1,
      "Pentium(R) 5###U", 6, "Pentium Gold (Whiskey Lake-U)", "14++ nm"⟩,
    ⟨6, 14, -1, -1, 142, 2, -1, -1, "Celeron(R) 4###U", 6, "Celeron (Whiskey Lake-U)", "14++ nm"⟩,
    ⟨6, 14, -1, -1, 142, 4, -1, -1, "Core(TM) i7-8###Y", 10, "Core i7 (Amber Lake-Y)", "14+ nm"⟩,
    ⟨6, 14, -1, -1, 142, 4, -1, -1, "Core(TM) i5-8###Y", 10, "Core i5 (Amber Lake-Y)", "14+ nm"⟩,
    ⟨6, 14, -1, -1, 142, 2, -1, -1, "Core(TM) m3-8###Y", 10, "Core m3 (Amber Lake-Y)", "14+ nm"⟩,
    ⟨6, 14, -1, -1, 142, 2, -1, -1, "Pentium(R) 442#Y", 8, "Pentium Gold (Amber Lake-Y)", "14+ nm"⟩,
    ⟨6, 14, -1, -1, 142, 4, -1, -1, "Core(TM) i7-10###Y", 10, "Core i7 (Amber Lake-Y)", "14+ nm"⟩,
    ⟨6, 14, -1, -1, 142, 4, -1, -1, "Core(TM) i5-10###Y", 10, "Core i5 (Amber Lake-Y)", "14+ nm"⟩,
    ⟨6, 14, -1, -1, 142, 2, -1, -1, "Core(TM) i3-10###Y", 10, "Core i3 (Amber Lake-Y)", "14+ nm"⟩,
    ⟨6, 14, -1, -1, 142, 2, -1, -1, "Pentium(R) 65##Y", 6, "Pentium Gold (Amber Lake-Y)", "14+ nm"⟩,
    ⟨6, 5, 7, -1, 85, -1, -1, -1, "Core(TM) i9-10###X", 10, "Core i9 (Cascade Lake-X)", "14++ nm"⟩,
    ⟨6, 5, -1, -1, 85, -1, -1, -1, "Xeon(R) W-#[23]##", 6, "Xeon W (Cascade Lake-W)", "14++ nm"⟩,
    ⟨6, 5, -1, -1, 85, -1, -1, -1,
      "Xeon(R) Platinum #2##", 6, "Xeon Platinum (Cascade Lake-SP)", "14++ nm"⟩,
    ⟨6, 5, -1, -1, 85, -1, -1, -1,
      "Xeon(R) Gold #2##", 6, "Xeon Gold (Cascade Lake-SP)", "14++ nm"⟩,
    ⟨6, 5, -1, -1, 85, -1, -1, -1,
      "Xeon(R) Silver #2##", 6, "Xeon Silver (Cascade Lake-SP)", "14++ nm"⟩,
    ⟨6, 5, -1, -1, 85, -1, -1, -1,
      "Xeon(R) Bronze #2##", 6, "Xeon Bronze (Cascade Lake-SP)", "14++ nm"⟩,
    ⟨6, 5, -1, -1, 165, -1, -1, -1, "Xeon(R) W-12##", 6, "Xeon W (Comet Lake-S)", "14++ nm"⟩,
    ⟨6, 5, -1, -1, 165, 10, -1, -1, "Core(TM) i9-10###", 8, "Core i9 (Comet Lake-S)", "14++ nm"⟩,
    ⟨6, 5, -1, -1, 165, 8, -1, -1, "Core(TM) i7-10###", 8, "Core i7 (Comet Lake-S)", "14++ nm"⟩,
    ⟨6, 5, -1, -1, 165, 6, -1, -1, "Core(TM) i5-10###", 8, "Core i5 (Comet Lake-S)", "14++ nm"⟩,
    ⟨6, 5, -1, -1, 165, 4, -1, -1, "Core(TM) i3-10###", 8, "Core i3 (Comet Lake-S)", "14++ nm"⟩,
    ⟨6, 5, -1, -1, 165, 2, -1, -1,
      "Pentium(R) Gold G6###", 8, "Pentium Gold (Comet Lake-S)", "14++ nm"⟩,
    ⟨6, 5, -1, -1, 165, 2, -1, -1, "Celeron(R) G5###", 6, "Celeron (Comet Lake-S)", "14++ nm"⟩,
    ⟨6, 6, -1, -1, 166, 6, -1, -1, "Core(TM) i7-10###U", 10, "Core i7 (Comet Lake-U)", "14++ nm"⟩,
    ⟨6, 14, 12, -1, 142, 6, -1, -1, "Core(TM) i7-10###U", 10, "Core i7 (Comet Lake-U)", "14++ nm"⟩,
    ⟨6, 14, 12, -1, 142, 4, -1, -1, "Core(TM) i7-10###U", 10, "Core i7 (Comet Lake-U)", "14++ nm"⟩,
    ⟨6, 14, 12, -1, 142, 4, -1, -1, "Core(TM) i5-10###U", 10, "Core i5 (Comet Lake-U)", "14++ nm"⟩,
    ⟨6, 14, 12, -1, 142, 4, -1, -1, "Core(TM) i3-10###U", 10, "Core i3 (Comet Lake-U)", "14++ nm"⟩,
    ⟨6, 14, 12, -1, 142, 2, -1, -1,
      "Pentium(R) Gold 6###U", 8, "Pentium Gold (Comet Lake-U)", "14++ nm"⟩,
    ⟨6, 14, 12, -1, 142, 2, -1, -1, "Celeron(R) 5###U", 6, "Celeron (Comet Lake-U)", "14++ nm"⟩,
    ⟨6, 5, -1, -1, 165, -1, -1, -1, "Xeon(R) W-10###M", 10, "Xeon W (Comet Lake-H)", "14++ nm"⟩,
    ⟨6, 5, -1, -1, 165, -1, -1, -1, "Core(TM) i9-10###H", 10, "Core i9 (Comet Lake-H)", "14++ nm"⟩,
    ⟨6, 5, -1, -1, 165, -1, -1, -1, "Core(TM) i7-10###H", 10, "Core i7 (Comet Lake-H)", "14++ nm"⟩,
    ⟨6, 5, -1, -1, 165, -1, -1, -1, "Core(TM) i5-10###H", 10, "Core i5 (Comet Lake-H)", "14++ nm"⟩,
    ⟨6, 12, -1, -1, 92, -1, -1, -1, "Pentium(R) J4###", 6, "Pentium (Apollo Lake)", "14 nm"⟩,
    ⟨6, 12, -1, -1, 92, -1, -1, -1, "Celeron(R) J3###", 6, "Celeron (Apollo Lake)", "14 nm"⟩,
    ⟨6, 12, -1, -1, 92, -1, -1, -1, "Pentium(R) N4###", 6, "Pentium (Apollo Lake)", "14 nm"⟩,
    ⟨6, 12, -1, -1, 92, -1, -1, -1, "Celeron(R) N3###", 6, "Celeron (Apollo Lake)", "14 nm"⟩,
    ⟨6, 12, -1, -1, 92, -1, -1, -1, "Atom(TM) E39##", 6, "Atom (Apollo Lake)", "14 nm"⟩,
    ⟨6, 15, -1, -1, 95, -1, -1, -1, "Atom(TM) C39##", 6, "Atom (Denverton)", "14 nm"⟩,
    ⟨6, 10, -1, -1, 122, -1, -1, -1,
      "Pentium(R) Silver [JN]5###", 8, "Pentium Silver (Gemini Lake)", "14 nm"⟩,
    ⟨6, 10, -1, -1, 122, -1, -1, -1, "Celeron(R) [JN]4###", 6, "Celeron (Gemini Lake)", "14 nm"⟩,
    ⟨6, 6, -1, -1, 102, 2, -1, -1, "Core(TM) i3-8###U", 10, "Core i3 (Cannon Lake-U)", "14++ nm"⟩,
    ⟨6, 6, -1, -1, 102, 2, -1, -1, "Core(TM) m3-8###Y", 10, "Core m3 (Cannon Lake-Y)", "14++ nm"⟩,
    ⟨6, 14, -1, -1, 126, 4, -1, -1, "Core(TM) i7-10##NG7", 10, "Core i7 (Ice Lake)", "10 nm"⟩,
    ⟨6, 14, -1, -1, 126, 4, -1, -1, "Core(TM) i7-10##G7", 10, "Core i7 (Ice Lake)", "10 nm"⟩,
    ⟨6, 14, -1, -1, 126, 4, -1, -1, "Core(TM) i5-10##NG7", 10, "Core i5 (Ice Lake)", "10 nm"⟩,
    ⟨6, 14, -1, -1, 126, 4, -1, -1, "Core(TM) i5-10##G[741]", 10, "Core i5 (Ice Lake)", "10 nm"⟩,
    ⟨6, 14, -1, -1, 126, 2, -1, -1, "Core(TM) i3-10##G[14]", 10, "Core i3 (Ice Lake)", "10 nm"⟩,
    ⟨6, 14, -1, -1, 126, 2, -1, -1, "Core(TM) i3-10##NG4", 10, "Core i3 (Ice Lake)", "10 nm"⟩,
    ⟨6, 14, -1, -1, 126, 2, -1, -1, "Pentium(R) 68##", 4, "Pentium (Ice Lake)", "10 nm"⟩,
    ⟨6, 12, -1, -1, 108, -1, -1, -1, "Xeon(R) D-[12]7##", 6, "Xeon D (Ice Lake-D)", "10 nm"⟩,
    ⟨6, 10, -1, -1, 106, -1, -1, -1, "Xeon(R) W-#3##", 6, "Xeon W (Ice Lake-W)", "10 nm"⟩,
    ⟨6, 10, -1, -1, 106, -1, -1, -1,
      "Xeon(R) Platinum #3##", 6, "Xeon Platinum (Ice Lake-SP)", "10 nm"⟩,
    ⟨6, 10, -1, -1, 106, -1, -1, -1, "Xeon(R) Gold #3##", 6, "Xeon Gold (Ice Lake-SP)", "10 nm"⟩,
    ⟨6, 10, -1, -1, 106, -1, -1, -1,
      "Xeon(R) Silver #3##", 6, "Xeon Silver (Ice Lake-SP)", "10 nm"⟩,
    ⟨6, 10, -1, -1, 106, -1, -1, -1,
      "Xeon(R) Bronze #3##", 6, "Xeon Bronze (Ice Lake-SP)", "10 nm"⟩,
    ⟨6, 6, -1, -1, 150, -1, -1, -1, "Pentium(R) [JN]6###", 6, "Pentium (Elkhart Lake)", "10 nm"⟩,
    ⟨6, 6, -1, -1, 150, -1, -1, -1, "Celeron(R) [JN]6###", 6, "Celeron (Elkhart Lake)", "10 nm"⟩,
    ⟨6, 6, -1, -1, 150, -1, -1, -1, "Atom(TM) x6###", 6, "Atom (Elkhart Lake)", "10 nm"⟩,
    ⟨6, 10, -1, -1, 138, -1, -1, -1, "Core(TM) i5-L##G7", 12, "Core i5 (Lakefield)", "10 nm"⟩,
    ⟨6, 10, -1, -1, 138, -1, -1, -1, "Core(TM) i3-L##G4", 12, "Core i3 (Lakefield)", "10 nm"⟩,
    ⟨6, 12, -1, -1, 156, -1, -1, -1,
      "Pentium(R) Silver N6###", 8, "Pentium Silver (Jasper Lake)", "10 nm"⟩,
    ⟨6, 12, -1, -1, 156, -1, -1, -1, "Celeron(R) N[45]###", 6, "Celeron (Jasper Lake)", "10 nm"⟩,
    ⟨6, 12, -1, -1, 140, -1, -1, -1, "Core(TM) i7-11#5G7", 12, "Core i7 (Tiger Lake-UP3)", "10SF"⟩,
    ⟨6, 12, -1, -1, 140, -1, -1, -1, "Core(TM) i5-11#5G7", 12, "Core i5 (Tiger Lake-UP3)", "10SF"⟩,
    ⟨6, 12, -1, -1, 140, -1, -1, -1, "Core(TM) i3-11#5G4", 12, "Core i3 (Tiger Lake-UP3)", "10SF"⟩,
    ⟨6, 12, -1, -1, 140, 2, -1, -1,
      "Pentium(R) Gold 7##5", 6, "Pentium Gold (Tiger Lake-UP3)", "10SF"⟩,
    ⟨6, 12, -1, -1, 140, 2, -1, -1, "Celeron(R) 6##5", 4, "Celeron (Tiger Lake-UP3)", "10SF"⟩,
    ⟨6, 12, -1, -1, 140, -1, -1, -1, "Core(TM) i7-11#0G7", 12, "Core i7 (Tiger Lake-UP4)", "10SF"⟩,
    ⟨6, 12, -1, -1, 140, -1, -1, -1, "Core(TM) i5-11#0G7", 12, "Core i5 (Tiger Lake-UP4)", "10SF"⟩,
    ⟨6, 12, -1, -1, 140, -1, -1, -1, "Core(TM) i3-11#0G4", 12, "Core i3 (Tiger Lake-UP4)", "10SF"⟩,
    ⟨6, 12, -1, -1, 140, -1, -1, -1, "Core(TM) i7-11###H", 10, "Core i7 (Tiger Lake-H35)", "10SF"⟩,
    ⟨6, 12, -1, -1, 140, -1, -1, -1, "Core(TM) i5-11###H", 10, "Core i5 (Tiger Lake-H35)", "10SF"⟩,
    ⟨6, 13, -1, -1, 141, -1, -1, -1, "Xeon(R) W-11###M", 10, "Xeon W (Tiger Lake-H)", "10SF"⟩,
    ⟨6, 13, -1, -1, 141, -1, -1, -1, "Core(TM) i9-11###H", 10, "Core i9 (Tiger Lake-H)", "10SF"⟩,
    ⟨6, 13, -1, -1, 141, -1, -1, -1, "Core(TM) i7-11###H", 10, "Core i7 (Tiger Lake-H)", "10SF"⟩,
    ⟨6, 13, -1, -1, 141, -1, -1, -1, "Core(TM) i5-11###H", 10, "Core i5 (Tiger Lake-H)", "10SF"⟩,
    ⟨6, 13, -1, -1, 141, -1, -1, -1, "Core(TM) i9-11###KB", 12, "Core i9 (Tiger Lake-B)", "10SF"⟩,
    ⟨6, 13, -1, -1, 141, -1, -1, -1, "Core(TM) i7-11###B", 10, "Core i7 (Tiger Lake-B)", "10SF"⟩,
    ⟨6, 13, -1, -1, 141, -1, -1, -1, "Core(TM) i5-11###B", 10, "Core i5 (Tiger Lake-B)", "10SF"⟩,
    ⟨6, 13, -1, -1, 141, -1, -1, -1, "Core(TM) i5-11###B", 10, "Core i5 (Tiger Lake-B)", "10SF"⟩,
    ⟨6, 7, -1, -1, 167, -1, -1, -1, "Core(TM) i9-11###", 8, "Core i9 (Rocket Lake-S)", "14++ nm"⟩,
    ⟨6, 7, -1, -1, 167, -1, -1, -1, "Core(TM) i7-11###", 8, "Core i7 (Rocket Lake-S)", "14++ nm"⟩,
    ⟨6, 7, -1, -1, 167, -1, -1, -1, "Core(TM) i5-11###", 8, "Core i5 (Rocket Lake-S)", "14++ nm"⟩,
    ⟨6, 7, -1, -1, 167, -1, -1, -1, "Xeon(R) E-23##", 6, "Xeon E (Rocket Lake)", "14++ nm"⟩,
    ⟨6, 7, -1, -1, 151, -1, -1, -1, "Core(TM) i9-12###", 8, "Core i9 (Alder Lake-S)", "Intel 7"⟩,
    ⟨6, 7, -1, -1, 151, -1, -1, -1, "Core(TM) i7-12###", 8, "Core i7 (Alder Lake-S)", "Intel 7"⟩,
    ⟨6, 7, -1, -1, 151, -1, -1, -1, "Core(TM) i5-12###", 8, "Core i5 (Alder Lake-S)", "Intel 7"⟩,
    ⟨6, 7, -1, -1, 151, -1, -1, -1, "Core(TM) i3-12###", 8, "Core i3 (Alder Lake-S)", "Intel 7"⟩,
    ⟨6, 7, -1, -1, 151, -1, -1, -1,
      "Pentium(R) Gold G7###", 8, "Pentium Gold (Alder Lake-S)", "Intel 7"⟩,
    ⟨6, 7, -1, -1, 151, -1, -1, -1, "Celeron(R) G6###", 6, "Celeron (Alder Lake-S)", "Intel 7"⟩,
    ⟨6, 7, -1, -1, 151, -1, -1, -1,
      "Core(TM) i9-12###HX", 12, "Core i9 (Alder Lake-HX)", "Intel 7"⟩,
    ⟨6, 7, -1, -1, 151, -1, -1, -1,
      "Core(TM) i7-12###HX", 12, "Core i7 (Alder Lake-HX)", "Intel 7"⟩,
    ⟨6, 7, -1, -1, 151, -1, -1, -1,
      "Core(TM) i5-12###HX", 12, "Core i5 (Alder Lake-HX)", "Intel 7"⟩,
    ⟨6, 10, -1, -1, 154, -1, -1, -1, "Core(TM) i7-12##P", 10, "Core i7 (Alder Lake-P)", "Intel 7"⟩,
    ⟨6, 10, -1, -1, 154, -1, -1, -1, "Core(TM) i5-12##P", 10, "Core i5 (Alder Lake-P)", "Intel 7"⟩,
    ⟨6, 10, -1, -1, 154, -1, -1, -1, "Core(TM) i3-12##P", 10, "Core i3 (Alder Lake-P)", "Intel 7"⟩,
    ⟨6, 10, -1, -1, 154, -1, -1, -1, "Core(TM) i7-12##U", 10, "Core i7 (Alder Lake-U)", "Intel 7"⟩,
    ⟨6, 10, -1, -1, 154, -1, -1, -1, "Core(TM) i5-12##U", 10, "Core i5 (Alder Lake-U)", "Intel 7"⟩,
    ⟨6, 10, -1, -1, 154, -1, -1, -1, "Core(TM) i3-12##U", 10, "Core i3 (Alder Lake-U)", "Intel 7"⟩,
    ⟨6, 10, -1, -1, 154, -1, -1, -1,
      "Pentium(R) Gold 8###", 6, "Pentium Gold (Alder Lake-U)", "Intel 7"⟩,
    ⟨6, 10, -1, -1, 154, -1, -1, -1, "Celeron(R) 7###", 4, "Celeron (Alder Lake-U)", "Intel 7"⟩,
    ⟨6, 10, -1, -1, 154, -1, -1, -1, "Core(TM) i9-12###H", 10, "Core i9 (Alder Lake-H)", "Intel 7"⟩,
    ⟨6, 10, -1, -1, 154, -1, -1, -1, "Core(TM) i7-12###H", 10, "Core i7 (Alder Lake-H)", "Intel 7"⟩,
    ⟨6, 10, -1, -1, 154, -1, -1, -1, "Core(TM) i5-12###H", 10, "Core i5 (Alder Lake-H)", "Intel 7"⟩,
    ⟨6, 10, -1, -1, 154, -1, -1, -1,
      "Core(TM) i7-12##UL", 12, "Core i7 (Alder Lake-PS)", "Intel 7"⟩,
    ⟨6, 10, -1, -1, 154, -1, -1, -1,
      "Core(TM) i5-12##UL", 12, "Core i5 (Alder Lake-PS)", "Intel 7"⟩,
    ⟨6, 10, -1, -1, 154, -1, -1, -1,
      "Core(TM) i3-12##UL", 12, "Core i3 (Alder Lake-PS)", "Intel 7"⟩,
    ⟨6, 10, -1, -1, 154, -1, -1, -1, "Celeron(R) 7###L", 6, "Celeron (Alder Lake-PS)", "Intel 7"⟩,
    ⟨6, 10, -1, -1, 154, -1, -1, -1,
      "Core(TM) i7-12###HL", 12, "Core i7 (Alder Lake-PS)", "Intel 7"⟩,
    ⟨6, 10, -1, -1, 154, -1, -1, -1,
      "Core(TM) i5-12###HL", 12, "Core i5 (Alder Lake-PS)", "Intel 7"⟩,
    ⟨6, 10, -1, -1, 154, -1, -1, -1,
      "Core(TM) i3-12###HL", 12, "Core i3 (Alder Lake-PS)", "Intel 7"⟩,
    ⟨6, 15, -1, -1, 143, -1, -1, -1,
      "Xeon(R) w9-#4##", 6, "Xeon w9 (Sapphire Rapids-WS)", "Intel 7"⟩,
    ⟨6, 15, -1, -1, 143, -1, -1, -1,
      "Xeon(R) w7-#4##", 6, "Xeon w7 (Sapphire Rapids-WS)", "Intel 7"⟩,
    ⟨6, 15, -1, -1, 143, -1, -1, -1,
      "Xeon(R) w5-#4##", 6, "Xeon w5 (Sapphire Rapids-WS)", "Intel 7"⟩,
    ⟨6, 15, -1, -1, 143, -1, -1, -1,
      "Xeon(R) w3-#4##", 6, "Xeon w3 (Sapphire Rapids-WS)", "Intel 7"⟩,
    ⟨6, 15, -1, -1, 143, -1, -1, -1,
      "Xeon(R) Max #4##", 6, "Xeon Max (Sapphire Rapids-HBM)", "Intel 7"⟩,
    ⟨6, 15, -1, -1, 143, -1, -1, -1,
      "Xeon(R) Platinum #4##", 6, "Xeon Platinum (Sapphire Rapids-SP)", "Intel 7"⟩,
    ⟨6, 15, -1, -1, 143, -1, -1, -1,
      "Xeon(R) Gold #4##", 6, "Xeon Gold (Sapphire Rapids-SP)", "Intel 7"⟩,
    ⟨6, 15, -1, -1, 143, -1, -1, -1,
      "Xeon(R) Silver #4##", 6, "Xeon Silver (Sapphire Rapids-SP)", "Intel 7"⟩,
    ⟨6, 15, -1, -1, 143, -1, -1, -1,
      "Xeon(R) Bronze #4##", 6, "Xeon Bronze (Sapphire Rapids-SP)", "Intel 7"⟩,
    ⟨6, 14, -1, -1, 190, -1, -1, -1, "Core(TM) i3-N3##", 10, "Core i3 (Alder Lake-N)", "Intel 7"⟩,
    ⟨6, 14, -1, -1, 190, 4, -1, -1, "N##", 2, "Intel Processor (Alder Lake-N)", "Intel 7"⟩,
    ⟨6, 14, -1, -1, 190, 2, -1, -1, "N##", 2, "Intel Processor (Alder Lake-N)", "Intel 7"⟩,
    ⟨6, 14, -1, -1, 190, -1, -1, -1, "Atom(TM) x7###E", 8, "Atom (Alder Lake-N)", "Intel 7"⟩,
    ⟨6, 14, -1, -1, 190, 8, -1, -1, "Core(TM) 3 N#5#", 8, "Core 3 (Twin Lake-N)", "Intel 7"⟩,
    ⟨6, 14, -1, -1, 190, 4, -1, -1, "N#5#", 4, "Intel Processor (Twin Lake-N)", "Intel 7"⟩,
    ⟨6, 15, -1, -1, 191, -1, -1, -1, "Core(TM) i5-13###", 8, "Core i5 (Raptor Lake-S)", "Intel 7"⟩,
    ⟨6, 15, -1, -1, 191, -1, -1, -1, "Core(TM) i3-13###", 8, "Core i3 (Raptor Lake-S)", "Intel 7"⟩,
    ⟨6, 7, -1, -1, 183, -1, -1, -1, "Core(TM) i9-13###", 8, "Core i9 (Raptor Lake-S)", "Intel 7"⟩,
    ⟨6, 7, -1, -1, 183, -1, -1, -1, "Core(TM) i7-13###", 8, "Core i7 (Raptor Lake-S)", "Intel 7"⟩,
    ⟨6, 7, -1, -1, 183, -1, -1, -1, "Core(TM) i5-13###", 8, "Core i5 (Raptor Lake-S)", "Intel 7"⟩,
    ⟨6, 7, -1, -1, 183, -1, -1, -1, "Core(TM) i3-13###", 8, "Core i3 (Raptor Lake-S)", "Intel 7"⟩,
    ⟨6, 7, -1, -1, 183, -1, -1, -1,
      "Core(TM) i9-13###HX", 12, "Core i9 (Raptor Lake-HX)", "Intel 7"⟩,
    ⟨6, 7, -1, -1, 183, -1, -1, -1,
      "Core(TM) i7-13###HX", 12, "Core i7 (Raptor Lake-HX)", "Intel 7"⟩,
    ⟨6, 7, -1, -1, 183, -1, -1, -1,
      "Core(TM) i5-13###HX", 12, "Core i5 (Raptor Lake-HX)", "Intel 7"⟩,
    ⟨6, 10, 2, -1, 186, -1, -1, -1, "Core(TM) i7-13###P", 10, "Core i7 (Raptor Lake-P)", "Intel 7"⟩,
    ⟨6, 10, 2, -1, 186, -1, -1, -1, "Core(TM) i5-13###P", 10, "Core i5 (Raptor Lake-P)", "Intel 7"⟩,
    ⟨6, 10, 3, -1, 186, -1, -1, -1, "Core(TM) i7-13###U", 10, "Core i7 (Raptor Lake-U)", "Intel 7"⟩,
    ⟨6, 10, 3, -1, 186, -1, -1, -1, "Core(TM) i5-13###U", 10, "Core i5 (Raptor Lake-U)", "Intel 7"⟩,
    ⟨6, 10, 3, -1, 186, -1, -1, -1, "Core(TM) i3-13###U", 10, "Core i3 (Raptor Lake-U)", "Intel 7"⟩,
    ⟨6, 10, 3, -1, 186, -1, -1, -1, "U300", 4, "Intel Processor (Raptor Lake-U)", "Intel 7"⟩,
    ⟨6, 10, -1, -1, 186, -1, -1, -1,
      "Core(TM) i9-13###H", 10, "Core i9 (Raptor Lake-H)", "Intel 7"⟩,
    ⟨6, 10, -1, -1, 186, -1, -1, -1,
      "Core(TM) i7-13###H", 10, "Core i7 (Raptor Lake-H)", "Intel 7"⟩,
    ⟨6, 10, -1, -1, 186, -1, -1, -1,
      "Core(TM) i5-13###H", 10, "Core i5 (Raptor Lake-H)", "Intel 7"⟩,
    ⟨6, 15, -1, -1, 207, -1, -1, -1,
      "Xeon(R) Platinum #5##", 6, "Xeon Platinum (Emerald Rapids-SP)", "Intel 7"⟩,
    ⟨6, 15, -1, -1, 207, -1, -1, -1,
      "Xeon(R) Gold #5##", 6, "Xeon Gold (Emerald Rapids-SP)", "Intel 7"⟩,
    ⟨6, 15, -1, -1, 207, -1, -1, -1,
      "Xeon(R) Silver #5##", 6, "Xeon Silver (Emerald Rapids-SP)", "Intel 7"⟩,
    ⟨6, 15, -1, -1, 207, -1, -1, -1,
      "Xeon(R) Bronze #5##", 6, "Xeon Bronze (Emerald Rapids-SP)", "Intel 7"⟩,
    ⟨6, 7, -1, -1, 183, -1, -1, -1, "Core(TM) i9-14###", 8, "Core i9 (Raptor Lake-S)", "Intel 7"⟩,
    ⟨6, 7, -1, -1, 183, -1, -1, -1, "Core(TM) i7-14###", 8, "Core i7 (Raptor Lake-S)", "Intel 7"⟩,
    ⟨6, 7, -1, -1, 183, -1, -1, -1, "Core(TM) i5-14###", 8, "Core i5 (Raptor Lake-S)", "Intel 7"⟩,
    ⟨6, 7, -1, -1, 183, -1, -1, -1, "Core(TM) i3-14###", 8, "Core i3 (Raptor Lake-S)", "Intel 7"⟩,
    ⟨6, 7, -1, -1, 183, 2, -1, -1, "300", 2, "Intel Processor (Raptor Lake-S)", "Intel 7"⟩,
    ⟨6, 7, -1, -1, 183, -1, -1, -1,
      "Core(TM) i9-14###HX", 12, "Core i9 (Raptor Lake-HX)", "Intel 7"⟩,
    ⟨6, 7, -1, -1, 183, -1, -1, -1,
      "Core(TM) i7-14###HX", 12, "Core i7 (Raptor Lake-HX)", "Intel 7"⟩,
    ⟨6, 7, -1, -1, 183, -1, -1, -1,
      "Core(TM) i5-14###HX", 12, "Core i5 (Raptor Lake-HX)", "Intel 7"⟩,
    ⟨6, 7, -1, -1, 183, -1, -1, -1, "Xeon(R) E-24##", 6, "Xeon E (Raptor Lake)", "Intel 7"⟩,
    ⟨6, 7, -1, -1, 183, -1, -1, -1, "Core(TM) 7 1##U", 8, "Core 7 (Raptor Lake-U)", "Intel 7"⟩,
    ⟨6, 7, -1, -1, 183, -1, -1, -1, "Core(TM) 5 1##U", 8, "Core 5 (Raptor Lake-U)", "Intel 7"⟩,
    ⟨6, 7, -1, -1, 183, -1, -1, -1, "Core(TM) 3 1##U", 8, "Core 3 (Raptor Lake-U)", "Intel 7"⟩,
    ⟨6, 7, -1, -1, 183, -1, -1, -1, "Core(TM) 7 2##U", 8, "Core 7 (Raptor Lake-U)", "Intel 7"⟩,
    ⟨6, 7, -1, -1, 183, -1, -1, -1, "Core(TM) 5 2##U", 8, "Core 5 (Raptor Lake-U)", "Intel 7"⟩,
    ⟨6, 7, -1, -1, 183, -1, -1, -1, "Core(TM) 9 2##H", 8, "Core 9 (Raptor Lake-H)", "Intel 7"⟩,
    ⟨6, 7, -1, -1, 183, -1, -1, -1, "Core(TM) 7 2##H", 8, "Core 7 (Raptor Lake-H)", "Intel 7"⟩,
    ⟨6, 7, -1, -1, 183, -1, -1, -1, "Core(TM) 5 2##H", 8, "Core 5 (Raptor Lake-H)", "Intel 7"⟩,
    ⟨6, 10, -1, -1, 170, -1, -1, -1,
      "Core(TM) Ultra 9 1##H", 10, "Core Ultra 9 (Meteor Lake-H)", "Intel 4"⟩,
    ⟨6, 10, -1, -1, 170, -1, -1, -1,
      "Core(TM) Ultra 7 1##H", 10, "Core Ultra 7 (Meteor Lake-H)", "Intel 4"⟩,
    ⟨6, 10, -1, -1, 170, -1, -1, -1,
      "Core(TM) Ultra 5 1##H", 10, "Core Ultra 5 (Meteor Lake-H)", "Intel 4"⟩,
    ⟨6, 10, -1, -1, 170, -1, -1, -1,
      "Core(TM) Ultra 7 1##U", 10, "Core Ultra 7 (Meteor Lake-U)", "Intel 4"⟩,
    ⟨6, 10, -1, -1, 170, -1, -1, -1,
      "Core(TM) Ultra 5 1##U", 10, "Core Ultra 5 (Meteor Lake-U)", "Intel 4"⟩,
    ⟨6, 13, -1, -1, 173, -1, -1, -1,
      "Xeon(R) 6[57]##P", 6, "Xeon 6 (Granite Rapids-SP)", "Intel 3"⟩,
    ⟨6, 6, -1, -1, 198, -1, -1, -1,
      "Core(TM) Ultra 9 2##", 8, "Core Ultra 9 (Arrow Lake-S)", "TSMC N3B"⟩,
    ⟨6, 6, -1, -1, 198, -1, -1, -1,
      "Core(TM) Ultra 7 2##", 8, "Core Ultra 7 (Arrow Lake-S)", "TSMC N3B"⟩,
    ⟨6, 6, -1, -1, 198, -1, -1, -1,
      "Core(TM) Ultra 5 2##", 8, "Core Ultra 5 (Arrow Lake-S)", "TSMC N3B"⟩,
    ⟨6, 6, -1, -1, 181, -1, -1, -1,
      "Core(TM) Ultra 7 2##U", 10, "Core Ultra 7 (Arrow Lake-U)", "TSMC N3B"⟩,
    ⟨6, 6, -1, -1, 181, -1, -1, -1,
      "Core(TM) Ultra 5 2##U", 10, "Core Ultra 5 (Arrow Lake-U)", "TSMC N3B"⟩,
    ⟨6, 6, -1, -1, 197, -1, -1, -1,
      "Core(TM) Ultra 9 2##H", 10, "Core Ultra 9 (Arrow Lake-H)", "TSMC N3B"⟩,
    ⟨6, 6, -1, -1, 197, -1, -1, -1,
      "Core(TM) Ultra 7 2##H", 10, "Core Ultra 7 (Arrow Lake-H)", "TSMC N3B"⟩,
    ⟨6, 6, -1, -1, 197, -1, -1, -1,
      "Core(TM) Ultra 5 2##H", 10, "Core Ultra 5 (Arrow Lake-H)", "TSMC N3B"⟩,
    ⟨6, 6, -1, -1, 197, -1, -1, -1,
      "Core(TM) Ultra 9 2##HX", 12, "Core Ultra 9 (Arrow Lake-HX)", "TSMC N3B"⟩,
    ⟨6, 6, -1, -1, 197, -1, -1, -1,
      "Core(TM) Ultra 7 2##HX", 12, "Core Ultra 7 (Arrow Lake-HX)", "TSMC N3B"⟩,
    ⟨6, 6, -1, -1, 197, -1, -1, -1,
      "Core(TM) Ultra 5 2##HX", 12, "Core Ultra 5 (Arrow Lake-HX)", "TSMC N3B"⟩,
    ⟨6, 13, -1, -1, 189, -1, -1, -1,
      "Core(TM) Ultra 9 2##V", 10, "Core Ultra 9 (Lunar Lake-V)", "TSMC N3B"⟩,
    ⟨6, 13, -1, -1, 189, -1, -1, -1,
      "Core(TM) Ultra 7 2##V", 10, "Core Ultra 7 (Lunar Lake-V)", "TSMC N3B"⟩,
    ⟨6, 13, -1, -1, 189, -1, -1, -1,
      "Core(TM) Ultra 5 2##V", 10, "Core Ultra 5 (Lunar Lake-V)", "TSMC N3B"⟩,
    ⟨7, -1, -1, -1, -1, 1, -1, -1, "", 0, "Itanium", unknStr⟩,
    ⟨15, -1, -1, 16, -1, 1, -1, -1, "", 0, "Itanium 2", unknStr⟩]

end LibCpuid
