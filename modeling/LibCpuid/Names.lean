import LibCpuid.Util

/-! The texts of `cpuid_main.c` for the values of the enumerations. -/

namespace LibCpuid

/-- The value of a vendor in C. -/
def CpuVendor.code : CpuVendor → Int
  | .unknown => -1
  | vendor => vendor.ctorIdx

/-- `NUM_CPU_FEATURES`. -/
def numCpuFeatures : Nat := 364

/-- The features in the order of `cpu_feature_t`. -/
def CpuFeature.all : List CpuFeature := (List.range numCpuFeatures).map CpuFeature.ofNat

/-- `cpu_architecture_str`. -/
def cpuArchitectureStr : CpuArchitecture → String
  | .unknown => unknStr
  | .x86 => "x86"
  | .arm => "ARM"

/-- The table of `cpu_feature_level_str`. -/
def featureLevelNames : List (CpuFeatureLevel × String) :=
  [(.unknown, unknStr), (.i386, "i386"), (.i486, "i486"), (.i586, "i586"), (.i686, "i686"),
    (.x86_64V1, "x86-64-v1"), (.x86_64V2, "x86-64-v2"), (.x86_64V3, "x86-64-v3"),
    (.x86_64V4, "x86-64-v4"), (.armV1, "ARMv1"), (.armV2, "ARMv2"), (.armV3, "ARMv3"),
    (.armV4, "ARMv4"), (.armV4T, "ARMv4T"), (.armV5, "ARMv5"), (.armV5T, "ARMv5T"),
    (.armV5TE, "ARMv5TE"), (.armV5TEJ, "ARMv5TEJ"), (.armV6, "ARMv6"), (.armV6M, "ARMv6-M"),
    (.armV7A, "ARMv7-A"), (.armV7M, "ARMv7-M"), (.armV7R, "ARMv7-R"), (.armV7EM, "ARMv7E-M"),
    (.armV8_0A, "ARMv8.0-A"), (.armV8_0M, "ARMv8.0-M"), (.armV8_0R, "ARMv8.0-R"),
    (.armV8_1A, "ARMv8.1-A"), (.armV8_1M, "ARMv8.1-M"), (.armV8_2A, "ARMv8.2-A"),
    (.armV8_3A, "ARMv8.3-A"), (.armV8_4A, "ARMv8.4-A"), (.armV8_5A, "ARMv8.5-A"),
    (.armV8_6A, "ARMv8.6-A"), (.armV8_7A, "ARMv8.7-A"), (.armV8_8A, "ARMv8.8-A"),
    (.armV8_9A, "ARMv8.9-A"), (.armV9_0A, "ARMv9.0-A"), (.armV9_1A, "ARMv9.1-A"),
    (.armV9_2A, "ARMv9.2-A"), (.armV9_3A, "ARMv9.3-A"), (.armV9_4A, "ARMv9.4-A"),
    (.armV9_5A, "ARMv9.5-A")]

/-- `cpu_feature_level_str`. -/
def cpuFeatureLevelStr (level : CpuFeatureLevel) : String :=
  match featureLevelNames.find? (fun row => row.1 = level) with
  | some row => row.2
  | none => ""

/-- `cpu_purpose_str`. -/
def cpuPurposeStr : CpuPurpose → String
  | .general => "general"
  | .performance => "performance"
  | .efficiency => "efficiency"
  | .lpEfficiency => "low-power efficiency"
  | .uPerformance => "ultimate performance"

/-- The table of `cpu_feature_str`. -/
def featureNames : List (CpuFeature × String) :=
  [(.fpu, "fpu"), (.vme, "vme"), (.de, "de"), (.pse, "pse"), (.tsc, "tsc"), (.msr, "msr"),
    (.pae, "pae"), (.mce, "mce"), (.cx8, "cx8"), (.apic, "apic"), (.mtrr, "mtrr"), (.sep, "sep"),
    (.pge, "pge"), (.mca, "mca"), (.cmov, "cmov"), (.pat, "pat"), (.pse36, "pse36"), (.pn, "pn"),
    (.clflush, "clflush"), (.dts, "dts"), (.acpi, "acpi"), (.mmx, "mmx"), (.fxsr, "fxsr"),
    (.sse, "sse"), (.sse2, "sse2"), (.ss, "ss"), (.ht, "ht"), (.tm, "tm"), (.ia64, "ia64"),
    (.pbe, "pbe"), (.pni, "pni"), (.pclmul, "pclmul"), (.dts64, "dts64"), (.monitor, "monitor"),
    (.dsCpl, "ds_cpl"), (.vmx, "vmx"), (.smx, "smx"), (.est, "est"), (.tm2, "tm2"),
    (.ssse3, "ssse3"), (.cid, "cid"), (.cx16, "cx16"), (.xtpr, "xtpr"), (.pdcm, "pdcm"),
    (.dca, "dca"), (.sse4_1, "sse4_1"), (.sse4_2, "sse4_2"), (.syscall, "syscall"), (.xd, "xd"),
    (.x2apic, "x2apic"), (.movbe, "movbe"), (.popcnt, "popcnt"), (.aes, "aes"), (.xsave, "xsave"),
    (.osxsave, "osxsave"), (.avx, "avx"), (.mmxext, "mmxext"), (.threeDNow, "3dnow"),
    (.threeDNowExt, "3dnowext"), (.nx, "nx"), (.fxsrOpt, "fxsr_opt"), (.rdtscp, "rdtscp"),
    (.lm, "lm"), (.lahfLm, "lahf_lm"), (.cmpLegacy, "cmp_legacy"), (.svm, "svm"), (.sse4a, "sse4a"),
    (.misalignsse, "misalignsse"), (.abm, "abm"), (.threeDNowPrefetch, "3dnowprefetch"),
    (.osvw, "osvw"), (.ibs, "ibs"), (.sse5, "sse5"), (.skinit, "skinit"), (.wdt, "wdt"),
    (.ts, "ts"), (.fid, "fid"), (.vid, "vid"), (.ttp, "ttp"), (.tmAmd, "tm_amd"), (.stc, "stc"),
    (.hundredMhzSteps, "100mhzsteps"), (.hwpstate, "hwpstate"), (.constantTsc, "constant_tsc"),
    (.xop, "xop"), (.fma3, "fma3"), (.fma4, "fma4"), (.tbm, "tbm"), (.f16c, "f16c"),
    (.rdrand, "rdrand"), (.cpb, "cpb"), (.aperfmperf, "aperfmperf"), (.pfi, "pfi"), (.pa, "pa"),
    (.avx2, "avx2"), (.bmi1, "bmi1"), (.bmi2, "bmi2"), (.hle, "hle"), (.rtm, "rtm"),
    (.avx512f, "avx512f"), (.avx512dq, "avx512dq"), (.avx512pf, "avx512pf"),
    (.avx512er, "avx512er"), (.avx512cd, "avx512cd"), (.shaNi, "sha_ni"), (.avx512bw, "avx512bw"),
    (.avx512vl, "avx512vl"), (.sgx, "sgx"), (.rdseed, "rdseed"), (.adx, "adx"),
    (.avx512vnni, "avx512vnni"), (.avx512vbmi, "avx512vbmi"), (.avx512vbmi2, "avx512vbmi2"),
    (.hypervisor, "hypervisor"), (.swap, "swap"), (.thumb, "thumb"), (.advmultu, "advmultu"),
    (.advmults, "advmults"), (.jazelle, "jazelle"), (.debugv6, "debugv6"),
    (.debugv6p1, "debugv6p1"), (.thumb2, "thumb2"), (.debugv7, "debugv7"),
    (.debugv7p1, "debugv7p1"), (.thumbee, "thumbee"), (.divide, "divide"), (.lpae, "lpae"),
    (.pmuv1, "pmuv1"), (.pmuv2, "pmuv2"), (.asid16, "asid16"), (.advsimd, "advsimd"),
    (.crc32, "crc32"), (.csv2_1p1, "csv2_1p1"), (.csv2_1p2, "csv2_1p2"), (.csv2_2, "csv2_2"),
    (.csv2_3, "csv2_3"), (.doublelock, "doublelock"), (.ets2, "ets2"), (.fp, "fp"),
    (.mixedend, "mixedend"), (.mixedendel0, "mixedendel0"), (.pmull, "pmull"), (.pmuv3, "pmuv3"),
    (.sha1, "sha1"), (.sha256, "sha256"), (.ntlbpa, "ntlbpa"), (.hafdbs, "hafdbs"), (.hpds, "hpds"),
    (.lor, "lor"), (.lse, "lse"), (.pan, "pan"), (.pmuv3p1, "pmuv3p1"), (.rdm, "rdm"),
    (.vhe, "vhe"), (.vmid16, "vmid16"), (.aa32hpd, "aa32hpd"), (.aa32i8mm, "aa32i8mm"),
    (.dpb, "dpb"), (.debugv8p2, "debugv8p2"), (.f32mm, "f32mm"), (.f64mm, "f64mm"), (.fp16, "fp16"),
    (.hpds2, "hpds2"), (.i8mm, "i8mm"), (.iesb, "iesb"), (.lpa, "lpa"), (.lsmaoc, "lsmaoc"),
    (.lva, "lva"), (.pan2, "pan2"), (.ras, "ras"), (.sha3, "sha3"), (.sha512, "sha512"),
    (.sm3, "sm3"), (.sm4, "sm4"), (.spe, "spe"), (.sve, "sve"), (.ttcnp, "ttcnp"), (.uao, "uao"),
    (.xnx, "xnx"), (.ccidx, "ccidx"), (.constpacfield, "constpacfield"), (.epac, "epac"),
    (.fcma, "fcma"), (.fpac, "fpac"), (.fpaccombine, "fpaccombine"), (.jscvt, "jscvt"),
    (.lrcpc, "lrcpc"), (.pacimp, "pacimp"), (.pacqarma3, "pacqarma3"), (.pacqarma5, "pacqarma5"),
    (.pauth, "pauth"), (.spev1p1, "spev1p1"), (.amuv1, "amuv1"), (.bbm, "bbm"), (.dit, "dit"),
    (.debugv8p4, "debugv8p4"), (.dotprod, "dotprod"), (.doublefault, "doublefault"), (.fhm, "fhm"),
    (.flagm, "flagm"), (.idst, "idst"), (.lrcpc2, "lrcpc2"), (.lse2, "lse2"), (.mpam, "mpam"),
    (.pmuv3p4, "pmuv3p4"), (.rasv1p1, "rasv1p1"), (.s2fwb, "s2fwb"), (.sel2, "sel2"),
    (.tlbios, "tlbios"), (.tlbirange, "tlbirange"), (.trf, "trf"), (.ttl, "ttl"), (.ttst, "ttst"),
    (.bti, "bti"), (.csv2, "csv2"), (.csv3, "csv3"), (.dpb2, "dpb2"), (.e0pd, "e0pd"),
    (.evt, "evt"), (.exs, "exs"), (.frintts, "frintts"), (.flagm2, "flagm2"), (.mte, "mte"),
    (.mte2, "mte2"), (.pmuv3p5, "pmuv3p5"), (.rng, "rng"), (.rngTrap, "rng_trap"), (.sb, "sb"),
    (.specres, "specres"), (.ssbs, "ssbs"), (.ssbs2, "ssbs2"), (.aa32bf16, "aa32bf16"),
    (.amuv1p1, "amuv1p1"), (.bf16, "bf16"), (.dgh, "dgh"), (.ecv, "ecv"), (.fgt, "fgt"),
    (.hpmn0, "hpmn0"), (.mpamv0p1, "mpamv0p1"), (.mpamv1p1, "mpamv1p1"), (.mtpmu, "mtpmu"),
    (.pauth2, "pauth2"), (.twed, "twed"), (.afp, "afp"), (.ebf16, "ebf16"), (.hcx, "hcx"),
    (.lpa2, "lpa2"), (.ls64, "ls64"), (.ls64Accdata, "ls64_accdata"), (.ls64V, "ls64_v"),
    (.mte3, "mte3"), (.mteAsymFault, "mte_asym_fault"), (.pan3, "pan3"), (.pmuv3p7, "pmuv3p7"),
    (.rpres, "rpres"), (.spev1p2, "spev1p2"), (.wfxt, "wfxt"), (.xs, "xs"), (.cmow, "cmow"),
    (.debugv8p8, "debugv8p8"), (.hbc, "hbc"), (.mops, "mops"), (.nmi, "nmi"), (.pmuv3p8, "pmuv3p8"),
    (.sctlr2, "sctlr2"), (.spev1p3, "spev1p3"), (.tcr2, "tcr2"), (.tidcp1, "tidcp1"),
    (.aderr, "aderr"), (.aie, "aie"), (.anerr, "anerr"), (.ats1a, "ats1a"), (.clrbhb, "clrbhb"),
    (.cssc, "cssc"), (.debugv8p9, "debugv8p9"), (.doublefault2, "doublefault2"), (.ecbhb, "ecbhb"),
    (.fgt2, "fgt2"), (.haft, "haft"), (.lrcpc3, "lrcpc3"), (.mte4, "mte4"),
    (.mteAsync, "mte_async"), (.mteCanonicalTags, "mte_canonical_tags"),
    (.mteNoAddressTags, "mte_no_address_tags"), (.mtePerm, "mte_perm"),
    (.mteStoreOnly, "mte_store_only"), (.mteTaggedFar, "mte_tagged_far"), (.pfar, "pfar"),
    (.pmuv3Icntr, "pmuv3_icntr"), (.pmuv3Ss, "pmuv3_ss"), (.pmuv3p9, "pmuv3p9"),
    (.prfmslc, "prfmslc"), (.rasv2, "rasv2"), (.rprfm, "rprfm"), (.s1pie, "s1pie"),
    (.s1poe, "s1poe"), (.s2pie, "s2pie"), (.s2poe, "s2poe"), (.specres2, "specres2"),
    (.speDpfzs, "spe_dpfzs"), (.spev1p4, "spev1p4"), (.spmu, "spmu"), (.the, "the"),
    (.sve2, "sve2"), (.sveAes, "sve_aes"), (.sveBitperm, "sve_bitperm"),
    (.svePmull128, "sve_pmull128"), (.sveSha3, "sve_sha3"), (.sveSm4, "sve_sm4"), (.tme, "tme"),
    (.trbe, "trbe"), (.brbe, "brbe"), (.rme, "rme"), (.sme, "sme"), (.smeF64f64, "sme_f64f64"),
    (.smeFa64, "sme_fa64"), (.smeI16i64, "sme_i16i64"), (.brbev1p1, "brbev1p1"), (.mec, "mec"),
    (.sme2, "sme2"), (.able, "able"), (.bwe, "bwe"), (.d128, "d128"), (.ebep, "ebep"),
    (.gcs, "gcs"), (.ite, "ite"), (.lse128, "lse128"), (.lva3, "lva3"), (.sebep, "sebep"),
    (.sme2p1, "sme2p1"), (.smeF16f16, "sme_f16f16"), (.sve2p1, "sve2p1"),
    (.sveB16b16, "sve_b16b16"), (.sysinstr128, "sysinstr128"), (.sysreg128, "sysreg128"),
    (.trbeExt, "trbe_ext"), (.asid2, "asid2"), (.bwe2, "bwe2"), (.cpa, "cpa"), (.cpa2, "cpa2"),
    (.e2h0, "e2h0"), (.e3dse, "e3dse"), (.ets3, "ets3"), (.faminmax, "faminmax"),
    (.fgwte3, "fgwte3"), (.fp8, "fp8"), (.fp8dot2, "fp8dot2"), (.fp8dot4, "fp8dot4"),
    (.fp8fma, "fp8fma"), (.fpmr, "fpmr"), (.hacdbs, "hacdbs"), (.hdbss, "hdbss"), (.lut, "lut"),
    (.pauthLr, "pauth_lr"), (.rmeGpc2, "rme_gpc2"), (.smeF8f16, "sme_f8f16"),
    (.smeF8f32, "sme_f8f32"), (.smeLutv2, "sme_lutv2"), (.spmu2, "spmu2"),
    (.ssveFp8dot2, "ssve_fp8dot2"), (.ssveFp8dot4, "ssve_fp8dot4"), (.ssveFp8fma, "ssve_fp8fma"),
    (.step2, "step2"), (.tlbiw, "tlbiw")]

/-- `cpu_feature_str`. -/
def cpuFeatureStr (feature : CpuFeature) : String :=
  match featureNames.find? (fun row => row.1 = feature) with
  | some row => row.2
  | none => ""

/-- The descriptions of `cpuid_error`. -/
def CpuError.description : CpuError → String
  | .ok => "No error"
  | .noCpuid => "CPUID instruction is not supported"
  | .noRdtsc => "RDTSC instruction is not supported"
  | .noMem => "Memory allocation failed"
  | .open => "File open operation failed"
  | .badFmt => "Bad file format"
  | .notImp => "Not implemented"
  | .cpuUnkn => "Unsupported processor"
  | .noRdmsr => "RDMSR instruction is not supported"
  | .noDriver => "RDMSR driver error (generic)"
  | .noPerms => "No permissions to install RDMSR driver"
  | .extract => "Cannot extract RDMSR driver (read only media?)"
  | .handle => "Bad handle"
  | .invMsr => "Invalid MSR"
  | .invCnb => "Invalid core number"
  | .handleR => "Error on handle read"
  | .invRange => "Invalid given range"
  | .notFound => "Requested type not found"
  | .ioctl => "Error on ioctl"
  | .request => "Invalid request"

end LibCpuid
