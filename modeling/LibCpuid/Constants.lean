import Mathlib.Tactic.Common

/-! The enumerations of `libcpuid.h`: architectures, feature levels, vendors, purposes, CPU features
and error codes.  A constructor carries the words of the source's constant without its prefix, in
the order of the declaration. -/

namespace LibCpuid

/-- `cpu_architecture_t`. -/
inductive CpuArchitecture
  | x86 | arm | unknown
  deriving DecidableEq

/-- `cpu_vendor_t`. -/
inductive CpuVendor
  | intel | amd | cyrix | nexgen | transmeta | umc | centaur | rise | sis | nsc | hygon | arm
  | broadcom | cavium | dec | fujitsu | hisilicon | infineon | freescale | nvidia | apm
  | qualcomm | samsung | marvell | apple | faraday | microsoft | phytium | ampere | unknown
  deriving DecidableEq

/-- `cpu_purpose_t`. -/
inductive CpuPurpose
  | general | performance | efficiency | lpEfficiency | uPerformance
  deriving DecidableEq

/-- `cpu_feature_level_t`. -/
inductive CpuFeatureLevel
  | i386 | i486 | i586 | i686 | x86_64V1 | x86_64V2 | x86_64V3 | x86_64V4 | armV1 | armV2 | armV3
  | armV4 | armV4T | armV5 | armV5T | armV5TE | armV5TEJ | armV6 | armV6M | armV7A | armV7M
  | armV7R | armV7EM | armV8_0A | armV8_0M | armV8_0R | armV8_1A | armV8_1M | armV8_2A | armV8_3A
  | armV8_4A | armV8_5A | armV8_6A | armV8_7A | armV8_8A | armV8_9A | armV9_0A | armV9_1A
  | armV9_2A | armV9_3A | armV9_4A | armV9_5A | unknown
  deriving DecidableEq

/-- The value of a feature level in C: x86 levels count from 0, ARM levels from 100. -/
def CpuFeatureLevel.value : CpuFeatureLevel → Int
  | .i386 => 0
  | .i486 => 1
  | .i586 => 2
  | .i686 => 3
  | .x86_64V1 => 4
  | .x86_64V2 => 5
  | .x86_64V3 => 6
  | .x86_64V4 => 7
  | .armV1 => 100
  | .armV2 => 101
  | .armV3 => 102
  | .armV4 => 103
  | .armV4T => 104
  | .armV5 => 105
  | .armV5T => 106
  | .armV5TE => 107
  | .armV5TEJ => 108
  | .armV6 => 109
  | .armV6M => 110
  | .armV7A => 111
  | .armV7M => 112
  | .armV7R => 113
  | .armV7EM => 114
  | .armV8_0A => 115
  | .armV8_0M => 116
  | .armV8_0R => 117
  | .armV8_1A => 118
  | .armV8_1M => 119
  | .armV8_2A => 120
  | .armV8_3A => 121
  | .armV8_4A => 122
  | .armV8_5A => 123
  | .armV8_6A => 124
  | .armV8_7A => 125
  | .armV8_8A => 126
  | .armV8_9A => 127
  | .armV9_0A => 128
  | .armV9_1A => 129
  | .armV9_2A => 130
  | .armV9_3A => 131
  | .armV9_4A => 132
  | .armV9_5A => 133
  | .unknown => -1

/-- `cpu_hint_t`. -/
inductive CpuHint
  | sseSizeAuth
  deriving DecidableEq

/-- `cpu_sgx_feature_t`, as far as the decoders use it. -/
inductive CpuSgxFeature
  | sgx1 | sgx2
  deriving DecidableEq

/-- `cpu_error_t`. -/
inductive CpuError
  | ok | noCpuid | noRdtsc | noMem | open | badFmt | notImp | cpuUnkn | noRdmsr | noDriver
  | noPerms | extract | handle | invMsr | invCnb | handleR | invRange | notFound | ioctl | request
  deriving DecidableEq

/-- `cpu_feature_t`. -/
inductive CpuFeature
  | fpu | vme | de | pse | tsc | msr | pae | mce | cx8 | apic | mtrr | sep | pge | mca | cmov
  | pat | pse36 | pn | clflush | dts | acpi | mmx | fxsr | sse | sse2 | ss | ht | tm | ia64 | pbe
  | pni | pclmul | dts64 | monitor | dsCpl | vmx | smx | est | tm2 | ssse3 | cid | cx16 | xtpr
  | pdcm | dca | sse4_1 | sse4_2 | syscall | xd | movbe | popcnt | aes | xsave | osxsave | avx
  | mmxext | threeDNow | threeDNowExt | nx | fxsrOpt | rdtscp | lm | lahfLm | cmpLegacy | svm
  | abm | misalignsse | sse4a | threeDNowPrefetch | osvw | ibs | sse5 | skinit | wdt | ts | fid
  | vid | ttp | tmAmd | stc | hundredMhzSteps | hwpstate | constantTsc | xop | fma3 | fma4 | tbm
  | f16c | rdrand | x2apic | cpb | aperfmperf | pfi | pa | avx2 | bmi1 | bmi2 | hle | rtm
  | avx512f | avx512dq | avx512pf | avx512er | avx512cd | shaNi | avx512bw | avx512vl | sgx
  | rdseed | adx | avx512vnni | avx512vbmi | avx512vbmi2 | hypervisor | swap | thumb | advmultu
  | advmults | jazelle | debugv6 | debugv6p1 | thumb2 | debugv7 | debugv7p1 | thumbee | divide
  | lpae | pmuv1 | pmuv2 | asid16 | advsimd | crc32 | csv2_1p1 | csv2_1p2 | csv2_2 | csv2_3
  | doublelock | ets2 | fp | mixedend | mixedendel0 | pmull | pmuv3 | sha1 | sha256 | ntlbpa
  | hafdbs | hpds | lor | lse | pan | pmuv3p1 | rdm | vhe | vmid16 | aa32hpd | aa32i8mm | dpb
  | debugv8p2 | f32mm | f64mm | fp16 | hpds2 | i8mm | iesb | lpa | lsmaoc | lva | pan2 | ras
  | sha3 | sha512 | sm3 | sm4 | spe | sve | ttcnp | uao | xnx | ccidx | constpacfield | epac
  | fcma | fpac | fpaccombine | jscvt | lrcpc | pacimp | pacqarma3 | pacqarma5 | pauth | spev1p1
  | amuv1 | bbm | dit | debugv8p4 | dotprod | doublefault | fhm | flagm | idst | lrcpc2 | lse2
  | mpam | pmuv3p4 | rasv1p1 | s2fwb | sel2 | tlbios | tlbirange | trf | ttl | ttst | bti | csv2
  | csv3 | dpb2 | e0pd | evt | exs | frintts | flagm2 | mte | mte2 | pmuv3p5 | rng | rngTrap | sb
  | specres | ssbs | ssbs2 | aa32bf16 | amuv1p1 | bf16 | dgh | ecv | fgt | hpmn0 | mpamv0p1
  | mpamv1p1 | mtpmu | pauth2 | twed | afp | ebf16 | hcx | lpa2 | ls64 | ls64Accdata | ls64V
  | mte3 | mteAsymFault | pan3 | pmuv3p7 | rpres | spev1p2 | wfxt | xs | cmow | debugv8p8 | hbc
  | mops | nmi | pmuv3p8 | sctlr2 | spev1p3 | tcr2 | tidcp1 | aderr | aie | anerr | ats1a
  | clrbhb | cssc | debugv8p9 | doublefault2 | ecbhb | fgt2 | haft | lrcpc3 | mte4 | mteAsync
  | mteCanonicalTags | mteNoAddressTags | mtePerm | mteStoreOnly | mteTaggedFar | pfar
  | pmuv3Icntr | pmuv3Ss | pmuv3p9 | prfmslc | rasv2 | rprfm | s1pie | s1poe | s2pie | s2poe
  | specres2 | speDpfzs | spev1p4 | spmu | the | sve2 | sveAes | sveBitperm | svePmull128
  | sveSha3 | sveSm4 | tme | trbe | brbe | rme | sme | smeF64f64 | smeFa64 | smeI16i64 | brbev1p1
  | mec | sme2 | able | bwe | d128 | ebep | gcs | ite | lse128 | lva3 | sebep | sme2p1
  | smeF16f16 | sve2p1 | sveB16b16 | sysinstr128 | sysreg128 | trbeExt | asid2 | bwe2 | cpa
  | cpa2 | e2h0 | e3dse | ets3 | faminmax | fgwte3 | fp8 | fp8dot2 | fp8dot4 | fp8fma | fpmr
  | hacdbs | hdbss | lut | pauthLr | rmeGpc2 | smeF8f16 | smeF8f32 | smeLutv2 | spmu2
  | ssveFp8dot2 | ssveFp8dot4 | ssveFp8fma | step2 | tlbiw
  deriving DecidableEq

end LibCpuid
