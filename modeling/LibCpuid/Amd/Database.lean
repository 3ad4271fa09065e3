import LibCpuid.Util

/-! The table of AMD processors of `recog_amd.c`.  A character of a name is one byte, so a letter
outside ASCII is written as the bytes of its UTF-8 form. -/

namespace LibCpuid

/-- `cpudb_amd`. -/
def cpudbAmd : List MatchEntry :=
  [⟨-1, -1, -1, -1, -1, 1, -1, -1, "", 0, "Unknown AMD CPU", unknStr⟩,
    ⟨4, -1, -1, -1, -1, 1, -1, -1, "", 0, "Unknown 486", unknStr⟩,
    ⟨4, 3, -1, -1, -1, 1, -1, -1, "", 0, "AMD 486DX2", unknStr⟩,
    ⟨4, 7, -1, -1, -1, 1, -1, -1, "", 0, "AMD 486DX2WB", unknStr⟩,
    ⟨4, 8, -1, -1, -1, 1, -1, -1, "", 0, "AMD 486DX4", unknStr⟩,
    ⟨4, 9, -1, -1, -1, 1, -1, -1, "", 0, "AMD 486DX4WB", unknStr⟩,
    ⟨5, -1, -1, -1, -1, 1, -1, -1, "", 0, "Unknown K5", unknStr⟩,
    ⟨5, 0, -1, -1, -1, 1, -1, -1, "", 0, "K5 (SSA/5)", unknStr⟩,
    ⟨5, 1, -1, -1, -1, 1, -1, -1, "K5(tm)", 2, "K5 (5k86)", "350 nm"⟩,
    ⟨5, 2, -1, -1, -1, 1, -1, -1, "K5(tm)", 2, "K5 (5k86)", "350 nm"⟩,
    ⟨5, 3, -1, -1, -1, 1, -1, -1, "K5(tm)", 2, "K5 (5k86)", "350 nm"⟩,
    ⟨5, -1, -1, -1, -1, 1, -1, -1, "", 0, "Unknown K6", unknStr⟩,
    ⟨5, 6, -1, -1, -1, 1, -1, -1, "K6", 2, "K6", "350 nm"⟩,
    ⟨5, 7, -1, -1, -1, 1, -1, -1, "K6", 2, "K6 (Little Foot)", "250 nm"⟩,
    ⟨5, 8, 0, -1, -1, 1, -1, -1, "K6(tm)", 2, "K6-2 (Chomper)", "250 nm"⟩,
    ⟨5, 8, 12, -1, -1, 1, -1, -1, "K6(tm)", 2, "K6-2 (Chomper Extended)", "250 nm"⟩,
    ⟨5, 9, -1, -1, -1, 1, -1, -1, "K6(tm)", 2, "K6-III (Sharptooth)", "250 nm"⟩,
    ⟨5, 13, -1, -1, -1, 1, -1, -1, "K6(tm)", 2, "K6-2+", "180 nm"⟩,
    ⟨5, 13, -1, -1, -1, 1, -1, -1, "K6(tm)-III ", 4, "K6-III+", "180 nm"⟩,
    ⟨6, -1, -1, 15, -1, 1, -1, -1, "", 0, "Unknown K7", unknStr⟩,
    ⟨6, 1, -1, -1, -1, 1, -1, -1, "K7(tm)", 0, "Athlon (Argon)", "250 nm"⟩,
    ⟨6, 2, -1, -1, -1, 1, -1, -1, "Athlon(tm)", 0, "Athlon (Pluto/Orion)", "180 nm"⟩,
    ⟨6, 3, -1, -1, -1, 1, -1, -1, "Duron(tm)", 2, "Duron (Spitfire)", "180 nm"⟩,
    ⟨6, 3, -1, -1, -1, 1, -1, -1, "Duron(tm) M", 4, "Mobile Duron (Spitfire)", "180 nm"⟩,
    ⟨6, 4, -1, -1, -1, 1, -1, -1, "Athlon(tm)", 2, "Athlon (ThunderBird)", "180 nm"⟩,
    ⟨6, 6, -1, -1, -1, 1, -1, -1, "Athlon XP", 4, "Athlon (Palomino)", "180 nm"⟩,
    ⟨6, 6, -1, -1, -1, 1, -1, -1, "Athlon(tm) MP", 4, "Athlon MP (Palomino)", "180 nm"⟩,
    ⟨6, 6, -1, -1, -1, 1, -1, -1, "Duron(tm)", 2, "Duron (Palomino)", "180 nm"⟩,
    ⟨6, 7, -1, -1, -1, 1, -1, -1, "Duron(tm)", 2, "Duron (Morgan)", "180 nm"⟩,
    ⟨6, 7, -1, -1, -1, 1, -1, -1, "Duron(tm) M", 4, "Mobile Duron (Camaro)", "180 nm"⟩,
    ⟨6, 8, -1, -1, -1, 1, -1, -1, "Athlon", 2, "Athlon XP (Thoroughbred)", "130 nm"⟩,
    ⟨6, 8, -1, -1, -1, 1, -1, -1, "Athlon(tm) XP", 4, "Athlon XP (Thoroughbred)", "130 nm"⟩,
    ⟨6, 8, -1, -1, -1, 1, -1, -1, "Duron(tm)", 2, "Duron (Applebred)", "130 nm"⟩,
    ⟨6, 8, -1, -1, -1, 1, -1, -1, "Sempron(tm)", 2, "Sempron (Thoroughbred)", "130 nm"⟩,
    ⟨6, 8, -1, -1, -1, 1, 128, -1, "Sempron(tm)", 2, "Sempron (Thoroughbred)", "130 nm"⟩,
    ⟨6, 8, -1, -1, -1, 1, 256, -1, "Sempron(tm)", 2, "Sempron (Thoroughbred)", "130 nm"⟩,
    ⟨6, 8, -1, -1, -1, 1, -1, -1, "Athlon(tm) MP", 4, "Athlon MP (Thoroughbred)", "130 nm"⟩,
    ⟨6, 8, -1, -1, -1, 1, -1, -1, "Athlon(tm) XP-M", 6, "Mobile Athlon (Thoroughbred)", "130 nm"⟩,
    ⟨6, 10, -1, -1, -1, 1, 512, -1, "Athlon(tm) XP", 4, "Athlon XP (Barton)", "130 nm"⟩,
    ⟨6, 10, -1, -1, -1, 1, 512, -1, "Sempron(tm)", 2, "Sempron (Barton)", "130 nm"⟩,
    ⟨6, 10, -1, -1, -1, 1, 256, -1, "Sempron(tm)", 2, "Sempron (Thorton)", "130 nm"⟩,
    ⟨6, 10, -1, -1, -1, 1, 256, -1, "Athlon(tm) XP", 4, "Athlon XP (Thorton)", "130 nm"⟩,
    ⟨6, 10, -1, -1, -1, 1, -1, -1, "Athlon(tm) MP", 4, "Athlon MP (Barton)", "130 nm"⟩,
    ⟨6, 10, -1, -1, -1, 1, -1, -1, "Athlon(tm) XP-M", 6, "Mobile Athlon (Barton)", "130 nm"⟩,
    ⟨15, -1, -1, 15, -1, 1, -1, -1, "", 0, "Unknown K8", unknStr⟩,
    ⟨15, -1, -1, 16, -1, 1, -1, -1, "", 0, "Unknown K9", unknStr⟩,
    ⟨15, -1, -1, 15, -1, 1, -1, -1, "", 0, "Unknown A64", unknStr⟩,
    ⟨15, -1, -1, 15, -1, 1, -1, -1, "Opteron(tm)", 2, "Opteron", unknStr⟩,
    ⟨15, -1, -1, 15, -1, 2, -1, -1, "Dual Core AMD Opteron", 8, "Opteron (Dual Core)", unknStr⟩,
    ⟨15, 1, -1, 15, 65, 2, -1, -1, "Opteron(tm) 22##", 6, "Opteron (Santa Rosa)", "90 nm"⟩,
    ⟨15, 3, -1, 15, -1, 1, -1, -1, "Opteron(tm)", 2, "Opteron", unknStr⟩,
    ⟨15, 3, -1, 15, -1, 2, -1, -1, "Dual Core AMD Opteron", 8, "Opteron (Dual Core)", unknStr⟩,
    ⟨15, 5, -1, 15, 5, -1, -1, -1, "Opteron(tm) [128]##", 4, "Opteron (SledgeHammer)", "130 nm"⟩,
    ⟨15, -1, -1, 15, -1, 1, 512, -1, "Athlon(tm) 64", 4, "Athlon 64 (512K)", unknStr⟩,
    ⟨15, -1, -1, 15, -1, 1, 1024, -1, "Athlon(tm) 64", 4, "Athlon 64 (1024K)", unknStr⟩,
    ⟨15, -1, -1, 15, -1, 1, -1, -1, "Athlon(tm) FX", 4, "Athlon FX", unknStr⟩,
    ⟨15, -1, -1, 15, -1, 1, -1, -1, "Athlon(tm) 64 FX", 6, "Athlon 64 FX", unknStr⟩,
    ⟨15, 3, -1, 15, 35, 2, -1, -1, "Athlon(tm) 64 FX", 6, "Athlon 64 FX X2 (Toledo)", "90 nm"⟩,
    ⟨15, -1, -1, 15, -1, 2, 512, -1, "Athlon(tm) 64 X2", 6, "Athlon 64 X2 (512K)", unknStr⟩,
    ⟨15, -1, -1, 15, -1, 2, 1024, -1, "Athlon(tm) 64 X2", 6, "Athlon 64 X2 (1024K)", unknStr⟩,
    ⟨15, -1, -1, 15, -1, 1, 512, -1, "Turion(tm) 64", 4, "Turion 64 (512K)", unknStr⟩,
    ⟨15, -1, -1, 15, -1, 1, 1024, -1, "Turion(tm) 64", 4, "Turion 64 (1024K)", unknStr⟩,
    ⟨15, -1, -1, 15, -1, 2, 512, -1, "Turion(tm) X2", 4, "Turion 64 X2 (512K)", unknStr⟩,
    ⟨15, -1, -1, 15, -1, 2, 1024, -1, "Turion(tm) X2", 4, "Turion 64 X2 (1024K)", unknStr⟩,
    ⟨15, -1, -1, 15, -1, 1, 128, -1, "Sempron(tm)", 2, "A64 Sempron (128K)", unknStr⟩,
    ⟨15, -1, -1, 15, -1, 1, 256, -1, "Sempron(tm)", 2, "A64 Sempron (256K)", unknStr⟩,
    ⟨15, -1, -1, 15, -1, 1, 512, -1, "Sempron(tm)", 2, "A64 Sempron (512K)", unknStr⟩,
    ⟨15, -1, -1, 15, 79, 1, 512, -1, "Athlon(tm) 64", 4, "Athlon 64 (Orleans/512K)", "90 nm"⟩,
    ⟨15, -1, -1, 15, 95, 1, 512, -1, "Athlon(tm) 64", 4, "Athlon 64 (Orleans/512K)", "90 nm"⟩,
    ⟨15, -1, -1, 15, 47, 1, 512, -1, "Athlon(tm) 64", 4, "Athlon 64 (Venice/512K)", "90 nm"⟩,
    ⟨15, -1, -1, 15, 44, 1, 512, -1, "Athlon(tm) 64", 4, "Athlon 64 (Venice/512K)", "90 nm"⟩,
    ⟨15, -1, -1, 15, 31, 1, 512, -1, "Athlon(tm) 64", 4, "Athlon 64 (Winchester/512K)", "90 nm"⟩,
    ⟨15, -1, -1, 15, 12, 1, 512, -1, "Athlon(tm) 64", 4, "Athlon 64 (Newcastle/512K)", "130 nm"⟩,
    ⟨15, -1, -1, 15, 39, 1, 512, -1, "Athlon(tm) 64", 4, "Athlon 64 (San Diego/512K)", "90 nm"⟩,
    ⟨15, -1, -1, 15, 55, 1, 512, -1, "Athlon(tm) 64", 4, "Athlon 64 (San Diego/512K)", "90 nm"⟩,
    ⟨15, -1, -1, 15, 4, 1, 512, -1, "Athlon(tm) 64", 4, "Athlon 64 (ClawHammer/512K)", "130 nm"⟩,
    ⟨15, -1, -1, 15, 95, 1, 1024, -1, "Athlon(tm) 64", 4, "Athlon 64 (Orleans/1024K)", "90 nm"⟩,
    ⟨15, -1, -1, 15, 39, 1, 1024, -1, "Athlon(tm) 64", 4, "Athlon 64 (San Diego/1024K)", "90 nm"⟩,
    ⟨15, -1, -1, 15, 4, 1, 1024, -1, "Athlon(tm) 64", 4, "Athlon 64 (ClawHammer/1024K)", "130 nm"⟩,
    ⟨15, -1, -1, 15, 75, 2, 256, -1, "Athlon(tm) 64 X2", 6, "Athlon 64 X2 (Windsor/256K)", "90 nm"⟩,
    ⟨15, -1, -1, 15, 35, 2, 512, -1, "Athlon(tm) 64 X2", 6, "Athlon 64 X2 (Toledo/512K)", "90 nm"⟩,
    ⟨15, -1, -1, 15, 75, 2, 512, -1, "Athlon(tm) 64 X2", 6, "Athlon 64 X2 (Windsor/512K)", "90 nm"⟩,
    ⟨15, -1, -1, 15, 67, 2, 512, -1, "Athlon(tm) 64 X2", 6, "Athlon 64 X2 (Windsor/512K)", "90 nm"⟩,
    ⟨15, -1, -1, 15, 107, 2, 512, -1,
      "Athlon(tm) 64 X2", 6, "Athlon 64 X2 (Brisbane/512K)", "65 nm"⟩,
    ⟨15, -1, -1, 15, 43, 2, 512, -1,
      "Athlon(tm) 64 X2", 6, "Athlon 64 X2 (Manchester/512K)", "90 nm"⟩,
    ⟨15, -1, -1, 15, 35, 2, 1024, -1,
      "Athlon(tm) 64 X2", 6, "Athlon 64 X2 (Toledo/1024K)", "90 nm"⟩,
    ⟨15, -1, -1, 15, 67, 2, 1024, -1,
      "Athlon(tm) 64 X2", 6, "Athlon 64 X2 (Windsor/1024K)", "90 nm"⟩,
    ⟨15, -1, -1, 15, 8, 1, 128, -1,
      "Mobile AMD Sempron(tm)", 6, "Mobile Sempron 64 (Dublin/128K)", "130 nm"⟩,
    ⟨15, -1, -1, 15, 8, 1, 256, -1,
      "Mobile AMD Sempron(tm)", 6, "Mobile Sempron 64 (Dublin/256K)", "130 nm"⟩,
    ⟨15, -1, -1, 15, 12, 1, 256, -1, "Sempron(tm)", 2, "Sempron 64 (Paris)", "130 nm"⟩,
    ⟨15, -1, -1, 15, 28, 1, 128, -1, "Sempron(tm)", 2, "Sempron 64 (Palermo/128K)", "90 nm"⟩,
    ⟨15, -1, -1, 15, 28, 1, 256, -1, "Sempron(tm)", 2, "Sempron 64 (Palermo/256K)", "90 nm"⟩,
    ⟨15, -1, -1, 15, 28, 1, 128, -1,
      "Mobile AMD Sempron(tm)", 6, "Mobile Sempron 64 (Sonora/128K)", "90 nm"⟩,
    ⟨15, -1, -1, 15, 28, 1, 256, -1,
      "Mobile AMD Sempron(tm)", 6, "Mobile Sempron 64 (Sonora/256K)", "90 nm"⟩,
    ⟨15, -1, -1, 15, 44, 1, 128, -1, "Sempron(tm)", 2, "Sempron 64 (Palermo/128K)", "90 nm"⟩,
    ⟨15, -1, -1, 15, 44, 1, 256, -1, "Sempron(tm)", 2, "Sempron 64 (Palermo/256K)", "90 nm"⟩,
    ⟨15, -1, -1, 15, 44, 1, 128, -1,
      "Mobile AMD Sempron(tm)", 6, "Mobile Sempron 64 (Albany/128K)", "90 nm"⟩,
    ⟨15, -1, -1, 15, 44, 1, 256, -1,
      "Mobile AMD Sempron(tm)", 6, "Mobile Sempron 64 (Albany/256K)", "90 nm"⟩,
    ⟨15, -1, -1, 15, 47, 1, 128, -1, "Sempron(tm)", 2, "Sempron 64 (Palermo/128K)", "90 nm"⟩,
    ⟨15, -1, -1, 15, 47, 1, 256, -1, "Sempron(tm)", 2, "Sempron 64 (Palermo/256K)", "90 nm"⟩,
    ⟨15, -1, -1, 15, 79, 1, 128, -1, "Sempron(tm)", 2, "Sempron 64 (Manila/128K)", "90 nm"⟩,
    ⟨15, -1, -1, 15, 79, 1, 256, -1, "Sempron(tm)", 2, "Sempron 64 (Manila/256K)", "90 nm"⟩,
    ⟨15, -1, -1, 15, 95, 1, 128, -1, "Sempron(tm)", 2, "Sempron 64 (Manila/128K)", "90 nm"⟩,
    ⟨15, -1, -1, 15, 95, 1, 256, -1, "Sempron(tm)", 2, "Sempron 64 (Manila/256K)", "90 nm"⟩,
    ⟨15, -1, -1, 15, 107, 2, 256, -1, "Sempron(tm)", 2, "Sempron 64 Dual (Sherman/256K)", "65 nm"⟩,
    ⟨15, -1, -1, 15, 107, 2, 512, -1, "Sempron(tm)", 2, "Sempron 64 Dual (Sherman/512K)", "65 nm"⟩,
    ⟨15, -1, -1, 15, 124, 1, 512, -1, "Athlon(tm) 64", 4, "Athlon 64 (Sherman/512K)", "65 nm"⟩,
    ⟨15, -1, -1, 15, 127, 1, 256, -1, "Sempron(tm)", 2, "Sempron 64 (Sparta/256K)", "65 nm"⟩,
    ⟨15, -1, -1, 15, 127, 1, 512, -1, "Sempron(tm)", 2, "Sempron 64 (Sparta/512K)", "65 nm"⟩,
    ⟨15, -1, -1, 15, 76, 1, 256, -1,
      "Mobile AMD Sempron(tm)", 6, "Mobile Sempron 64 (Keene/256K)", "90 nm"⟩,
    ⟨15, -1, -1, 15, 76, 1, 512, -1,
      "Mobile AMD Sempron(tm)", 6, "Mobile Sempron 64 (Keene/512K)", "90 nm"⟩,
    ⟨15, -1, -1, 15, 36, 1, 512, -1, "Turion(tm) 64", 4, "Turion 64 (Lancaster/512K)", "90 nm"⟩,
    ⟨15, -1, -1, 15, 36, 1, 1024, -1, "Turion(tm) 64", 4, "Turion 64 (Lancaster/1024K)", "90 nm"⟩,
    ⟨15, -1, -1, 15, 72, 2, 256, -1, "Turion(tm) X2", 4, "Turion X2 (Taylor)", "90 nm"⟩,
    ⟨15, -1, -1, 15, 72, 2, 512, -1, "Turion(tm) X2", 4, "Turion X2 (Trinidad)", "90 nm"⟩,
    ⟨15, -1, -1, 15, 76, 1, 512, -1, "Turion(tm) 64", 4, "Turion 64 (Richmond)", "90 nm"⟩,
    ⟨15, -1, -1, 15, 104, 2, 256, -1, "Turion(tm) X2", 4, "Turion X2 (Tyler/256K)", "65 nm"⟩,
    ⟨15, -1, -1, 15, 104, 2, 512, -1, "Turion(tm) X2", 4, "Turion X2 (Tyler/512K)", "65 nm"⟩,
    ⟨15, -1, -1, 17, 3, 2, 512, -1, "Turion(tm) X2", 4, "Turion X2 (Griffin/512K)", "65 nm"⟩,
    ⟨15, -1, -1, 17, 3, 2, 1024, -1, "Turion(tm) X2", 4, "Turion X2 (Griffin/1024K)", "65 nm"⟩,
    ⟨15, 2, -1, 16, -1, 3, -1, -1, "Phenom(tm)", 2, "Phenom X3 (Toliman)", "65 nm"⟩,
    ⟨15, 2, -1, 16, -1, 4, -1, -1, "Phenom(tm)", 2, "Phenom X4 (Agena)", "65 nm"⟩,
    ⟨15, 2, -1, 16, -1, 3, 512, -1, "Phenom(tm)", 2, "Phenom X3 (Toliman/256K)", "65 nm"⟩,
    ⟨15, 2, -1, 16, -1, 3, 512, -1, "Phenom(tm)", 2, "Phenom X3 (Toliman/512K)", "65 nm"⟩,
    ⟨15, 2, -1, 16, -1, 4, 128, -1, "Phenom(tm)", 2, "Phenom X4 (Agena/128K)", "65 nm"⟩,
    ⟨15, 2, -1, 16, -1, 4, 256, -1, "Phenom(tm)", 2, "Phenom X4 (Agena/256K)", "65 nm"⟩,
    ⟨15, 2, -1, 16, -1, 4, 512, -1, "Phenom(tm)", 2, "Phenom X4 (Agena/512K)", "65 nm"⟩,
    ⟨15, 2, -1, 16, -1, 2, 512, -1, "Athlon(tm) 64 X2", 6, "Athlon X2 (Kuma)", "65 nm"⟩,
    ⟨15, 4, -1, 16, -1, 1, 1024, -1, "Sempron(tm)", 2, "Sempron (Sargas)", "45 nm"⟩,
    ⟨15, 4, -1, 16, -1, 2, 512, -1, "Phenom(tm) II", 4, "Phenom II X2 (Callisto)", "45 nm"⟩,
    ⟨15, 4, -1, 16, -1, 3, 512, -1, "Phenom(tm) II", 4, "Phenom II X3 (Heka)", "45 nm"⟩,
    ⟨15, 4, -1, 16, 4, 4, 512, -1, "Phenom(tm) II", 4, "Phenom II X4 (Deneb)", "45 nm"⟩,
    ⟨15, 5, -1, 16, 5, 4, 512, -1, "Phenom(tm) II", 4, "Phenom II X4 (Deneb)", "45 nm"⟩,
    ⟨15, 4, -1, 16, 10, 4, 512, -1, "Phenom(tm) II", 4, "Phenom II X4 (Zosma)", "45 nm"⟩,
    ⟨15, 4, -1, 16, 10, 6, 512, -1, "Phenom(tm) II", 4, "Phenom II X6 (Thuban)", "45 nm"⟩,
    ⟨15, 6, -1, 16, 6, 2, 512, -1, "Athlon(tm) II", 4, "Athlon II (Champlain)", "45 nm"⟩,
    ⟨15, 6, -1, 16, 6, 2, 512, -1, "Athlon(tm) II X2", 6, "Athlon II X2 (Regor)", "45 nm"⟩,
    ⟨15, 6, -1, 16, 6, 2, 1024, -1, "Athlon(tm) II X2", 6, "Athlon II X2 (Regor)", "45 nm"⟩,
    ⟨15, 5, -1, 16, 5, 3, 512, -1, "Athlon(tm) II X3", 6, "Athlon II X3 (Rana)", "45 nm"⟩,
    ⟨15, 5, -1, 16, 5, 4, 512, -1, "Athlon(tm) X4", 4, "Athlon II X4 (Propus)", "45 nm"⟩,
    ⟨15, 5, -1, 16, 5, 4, 512, -1, "Athlon(tm) II X4", 6, "Athlon II X4 (Propus)", "45 nm"⟩,
    ⟨15, 2, -1, 16, 2, -1, -1, -1, "Opteron(tm) [28]3##", 4, "Opteron (Barcelona)", "45 nm"⟩,
    ⟨15, 4, -1, 16, 4, -1, -1, -1, "Opteron(tm) [28]3##", 4, "Opteron (Shanghai)", "45 nm"⟩,
    ⟨15, 8, -1, 16, 8, -1, -1, -1, "Opteron(tm) [28]4##", 4, "Opteron (Istanbul)", "45 nm"⟩,
    ⟨15, 8, -1, 16, 8, -1, -1, -1, "Opteron(tm) 41##", 4, "Opteron (Lisbon)", "45 nm"⟩,
    ⟨15, 9, -1, 16, 9, 8, -1, -1, "Opteron(tm) 64##", 4, "Opteron (Magny-Cours)", "45 nm"⟩,
    ⟨15, 1, -1, 18, 1, 4, -1, -1, "Athlon(tm) II X4 6##", 6, "Athlon II X4 (Llano)", "GF 32SHP"⟩,
    ⟨15, 1, -1, 18, 1, 2, -1, -1, "Athlon(tm) II X2 2##", 6, "Athlon II X2 (Llano)", "GF 32SHP"⟩,
    ⟨15, 1, -1, 18, 1, 2, -1, -1, "Sempron(tm) X2 1##", 6, "Sempron X2 (Llano)", "GF 32SHP"⟩,
    ⟨15, 1, -1, 18, 1, -1, -1, -1, "E2-3###", 4, "E-Series (Llano)", "GF 32SHP"⟩,
    ⟨15, 1, -1, 18, 1, -1, -1, -1, "A[468]-3###", 4, "A-Series (Llano)", "GF 32SHP"⟩,
    ⟨15, 1, -1, 20, -1, -1, -1, -1, "C-[356]#", 4, "C-Series (Ontario)", "TSMC N40"⟩,
    ⟨15, 1, -1, 20, -1, -1, -1, -1, "E-[234]##", 4, "E-Series (Zacate)", "TSMC N40"⟩,
    ⟨15, 1, -1, 20, -1, -1, -1, -1, "G-T##[LRNE]", 6, "G-Series (Zacate)", "TSMC N40"⟩,
    ⟨15, 1, -1, 20, -1, -1, -1, -1, "Z-##", 4, "Z-Series (Desna)", "TSMC N40"⟩,
    ⟨15, -1, -1, 21, 0, -1, -1, -1, "FX(tm)-[468]###", 4, "FX (Zambezi)", "GF 32SHP"⟩,
    ⟨15, -1, -1, 21, 1, -1, -1, -1, "FX(tm)-[468]###", 4, "FX (Zambezi)", "GF 32SHP"⟩,
    ⟨15, -1, -1, 21, 1, -1, -1, -1, "Opteron(tm)", 2, "Opteron (Interlagos)", "GF 32SHP"⟩,
    ⟨15, -1, -1, 21, 2, -1, -1, -1, "FX(tm)-[4689]###", 4, "FX (Vishera)", "GF 32SHP"⟩,
    ⟨15, 0, -1, 21, 16, 4, -1, -1, "Athlon(tm) X4 7##", 6, "Athlon X4 (Trinity)", "GF 32SHP"⟩,
    ⟨15, 0, -1, 21, 16, 2, -1, -1, "Athlon(tm) X2 3##", 6, "Athlon X2 (Trinity)", "GF 32SHP"⟩,
    ⟨15, 0, -1, 21, 16, 2, -1, -1, "Sempron(tm) X2 2##", 6, "Sempron X2 (Trinity)", "GF 32SHP"⟩,
    ⟨15, 0, -1, 21, 16, -1, -1, -1, "A[468]-5###", 4, "A-Series (Trinity)", "GF 32SHP"⟩,
    ⟨15, 0, -1, 21, 16, -1, -1, -1, "A10-5###", 4, "A-Series (Trinity)", "GF 32SHP"⟩,
    ⟨15, 0, -1, 21, 16, -1, -1, -1, "A[468]-4###M", 6, "A-Series (Trinity)", "GF 32SHP"⟩,
    ⟨15, 0, -1, 21, 16, -1, -1, -1, "A10-4###M", 6, "A-Series (Trinity)", "GF 32SHP"⟩,
    ⟨15, 0, -1, 21, 19, -1, -1, -1, "FX(tm)-6##K", 6, "FX (Richland)", "GF 32SHP"⟩,
    ⟨15, 0, -1, 21, 19, 4, -1, -1, "Athlon(tm) X4 7##", 6, "Athlon X4 (Richland)", "GF 32SHP"⟩,
    ⟨15, 0, -1, 21, 19, 2, -1, -1, "Athlon(tm) X2 3##", 6, "Athlon X2 (Richland)", "GF 32SHP"⟩,
    ⟨15, 0, -1, 21, 19, 2, -1, -1, "Sempron(tm) X2 2##", 6, "Sempron X2 (Richland)", "GF 32SHP"⟩,
    ⟨15, 0, -1, 21, 19, -1, -1, -1, "A4 PRO-7###B", 8, "A-Series (Richland)", "GF 32SHP"⟩,
    ⟨15, 0, -1, 21, 19, -1, -1, -1, "A[468]-[467]###", 4, "A-Series (Richland)", "GF 32SHP"⟩,
    ⟨15, 0, -1, 21, 19, -1, -1, -1, "A10-6###", 4, "A-Series (Richland)", "GF 32SHP"⟩,
    ⟨15, 0, -1, 21, 19, -1, -1, -1, "A[468]-5###M", 6, "A-Series (Richland)", "GF 32SHP"⟩,
    ⟨15, 0, -1, 21, 19, -1, -1, -1, "A10-5###M", 6, "A-Series (Richland)", "GF 32SHP"⟩,
    ⟨15, 2, -1, 21, 2, -1, -1, -1, "Opteron(tm)", 2, "Opteron (Abu Dhabi)", "GF 32SHP"⟩,
    ⟨15, 8, -1, 21, 48, -1, -1, -1, "FX(tm)-7##K", 6, "FX (Kaveri)", "TSMC N28"⟩,
    ⟨15, 8, -1, 21, 48, -1, -1, -1, "FX(tm)-7###", 4, "FX (Kaveri)", "TSMC N28"⟩,
    ⟨15, 8, -1, 21, 48, 4, -1, -1, "Athlon(tm) X4 8##", 6, "Athlon X4 (Kaveri)", "TSMC N28"⟩,
    ⟨15, 8, -1, 21, 48, 2, -1, -1, "Athlon(tm) X2 4##", 6, "Athlon X2 (Kaveri)", "TSMC N28"⟩,
    ⟨15, 8, -1, 21, 48, -1, -1, -1, "A[468] PRO-[78]###B", 8, "A-Series (Kaveri)", "TSMC N28"⟩,
    ⟨15, 8, -1, 21, 48, -1, -1, -1, "A[468]-7###", 4, "A-Series (Kaveri)", "TSMC N28"⟩,
    ⟨15, 8, -1, 21, 48, -1, -1, -1, "A10 PRO-[78]###B", 8, "A-Series (Kaveri)", "TSMC N28"⟩,
    ⟨15, 8, -1, 21, 48, -1, -1, -1, "A10-7###", 4, "A-Series (Kaveri)", "TSMC N28"⟩,
    ⟨15, 8, -1, 21, 56, -1, -1, -1, "A[468]-[78]###", 4, "A-Series (Godavari)", "TSMC N28"⟩,
    ⟨15, 8, -1, 21, 56, -1, -1, -1, "A10-[78]###", 4, "A-Series (Godavari)", "TSMC N28"⟩,
    ⟨15, 8, -1, 21, 56, 4, -1, -1, "Athlon(tm) X4 8##", 6, "Athlon X4 (Godavari)", "TSMC N28"⟩,
    ⟨15, 0, -1, 21, 48, -1, -1, -1, "RX-###", 4, "R-Series (Bald Eagle)", "TSMC N28"⟩,
    ⟨15, 0, -1, 21, 96, -1, -1, -1, "FX-8###P", 6, "FX (Carrizo)", "GF 28SHP"⟩,
    ⟨15, 0, -1, 21, 96, 4, -1, -1, "Athlon(tm) X4 8##", 6, "Athlon X4 (Carrizo)", "GF 28SHP"⟩,
    ⟨15, 0, -1, 21, 96, -1, -1, -1, "A[68] PRO-8###", 6, "A-Series (Carrizo)", "GF 28SHP"⟩,
    ⟨15, 0, -1, 21, 96, -1, -1, -1, "A[68]-[78]###", 4, "A-Series (Carrizo)", "GF 28SHP"⟩,
    ⟨15, 0, -1, 21, 96, -1, -1, -1, "A1[02] PRO-8###", 6, "A-Series (Carrizo)", "GF 28SHP"⟩,
    ⟨15, 0, -1, 21, 96, -1, -1, -1, "A1[02]-8###", 4, "A-Series (Carrizo)", "GF 28SHP"⟩,
    ⟨15, 5, -1, 21, 101, -1, -1, -1, "FX-9###P", 6, "FX (Bristol Ridge)", "GF 28SHP"⟩,
    ⟨15, 5, -1, 21, 101, -1, -1, -1,
      "Athlon(tm) X4 9##", 6, "Athlon X4 (Bristol Ridge)", "GF 28SHP"⟩,
    ⟨15, 5, -1, 21, 101, -1, -1, -1, "A[68] PRO-9###", 6, "A-Series (Bristol Ridge)", "GF 28SHP"⟩,
    ⟨15, 5, -1, 21, 101, -1, -1, -1, "A[68]-9###", 4, "A-Series (Bristol Ridge)", "GF 28SHP"⟩,
    ⟨15, 5, -1, 21, 101, -1, -1, -1, "A1[02] PRO-9###", 6, "A-Series (Bristol Ridge)", "GF 28SHP"⟩,
    ⟨15, 5, -1, 21, 101, -1, -1, -1, "A1[02]-9###", 4, "A-Series (Bristol Ridge)", "GF 28SHP"⟩,
    ⟨15, 0, -1, 21, 112, 2, -1, -1, "A[469]-9###", 4, "A-Series (Stoney Ridge)", "GF 28SHP"⟩,
    ⟨15, 0, -1, 21, 112, -1, -1, -1, "E2-9###", 4, "E-Series (Stoney Ridge)", "GF 28SHP"⟩,
    ⟨15, 0, -1, 21, 96, -1, -1, -1, "Opteron(tm) X3###", 6, "Opteron (Toronto)", "GF 28SHP"⟩,
    ⟨15, 0, -1, 22, 0, 4, -1, -1, "Athlon(tm) X4 5##", 6, "Athlon X4 (Kabini)", "TSMC N28"⟩,
    ⟨15, 0, -1, 22, 0, 4, -1, -1, "Athlon(tm) 5###", 4, "Athlon X4 (Kabini)", "TSMC N28"⟩,
    ⟨15, 0, -1, 22, 0, -1, -1, -1, "Sempron(tm) [23]###", 4, "Sempron (Kabini)", "TSMC N28"⟩,
    ⟨15, 0, -1, 22, 0, -1, -1, -1, "E1-2###", 4, "E-Series (Kabini)", "TSMC N28"⟩,
    ⟨15, 0, -1, 22, 0, -1, -1, -1, "E2-3###", 4, "E-Series (Kabini)", "TSMC N28"⟩,
    ⟨15, 0, -1, 22, 0, -1, -1, -1, "A4 PRO-3###", 6, "A-Series (Kabini)", "TSMC N28"⟩,
    ⟨15, 0, -1, 22, 0, -1, -1, -1, "A[46]-5###", 4, "A-Series (Kabini)", "TSMC N28"⟩,
    ⟨15, 0, -1, 22, 48, 2, -1, -1, "E1 Micro-62##T", 8, "E-Series (Mullins)", "GF 28SHP"⟩,
    ⟨15, 0, -1, 22, 48, 4, -1, -1, "A4 Micro-64##T", 8, "A-Series (Mullins)", "GF 28SHP"⟩,
    ⟨15, 0, -1, 22, 48, 4, -1, -1, "A10 Micro-67##T", 8, "A-Series (Mullins)", "GF 28SHP"⟩,
    ⟨15, 0, 1, 22, 48, -1, -1, -1, "E[12]-6###", 4, "E-Series (Beema)", "GF 28SHP"⟩,
    ⟨15, 0, 1, 22, 48, -1, -1, -1, "A[468]-6###", 4, "A-Series (Beema)", "GF 28SHP"⟩,
    ⟨15, 0, 1, 22, 48, -1, -1, -1, "GX-###", 4, "G-Series (Steppe Eagle)", "GF 28SHP"⟩,
    ⟨15, -1, -1, 23, 1, -1, -1, -1, "EPYC 7##1", 4, "EPYC (Naples)", "GF 14LP"⟩,
    ⟨15, -1, -1, 23, 1, -1, -1, -1, "Threadripper 1###", 4, "Threadripper (Whitehaven)", "GF 14LP"⟩,
    ⟨15, -1, -1, 23, 1, -1, -1, -1, "Ryzen 7 PRO 1###", 8, "Ryzen 7 PRO (Summit Ridge)", "GF 14LP"⟩,
    ⟨15, -1, -1, 23, 1, -1, -1, -1, "Ryzen 7 1###", 6, "Ryzen 7 (Summit Ridge)", "GF 14LP"⟩,
    ⟨15, -1, -1, 23, 1, -1, -1, -1, "Ryzen 5 PRO 1###", 8, "Ryzen 5 PRO (Summit Ridge)", "GF 14LP"⟩,
    ⟨15, -1, -1, 23, 1, -1, -1, -1, "Ryzen 5 1###", 6, "Ryzen 5 (Summit Ridge)", "GF 14LP"⟩,
    ⟨15, -1, -1, 23, 1, -1, -1, -1, "Ryzen 3 PRO 1###", 8, "Ryzen 3 PRO (Summit Ridge)", "GF 14LP"⟩,
    ⟨15, -1, -1, 23, 1, -1, -1, -1, "Ryzen 3 1###", 6, "Ryzen 3 (Summit Ridge)", "GF 14LP"⟩,
    ⟨15, -1, -1, 23, 17, -1, -1, -1, "Ryzen PRO 7 2###", 8, "Ryzen 7 PRO (Raven Ridge)", "GF 14LP"⟩,
    ⟨15, -1, -1, 23, 17, -1, -1, -1, "Ryzen 7 2###", 6, "Ryzen 7 (Raven Ridge)", "GF 14LP"⟩,
    ⟨15, -1, -1, 23, 17, -1, -1, -1, "Ryzen PRO 5 2###", 8, "Ryzen 5 PRO (Raven Ridge)", "GF 14LP"⟩,
    ⟨15, -1, -1, 23, 17, -1, -1, -1, "Ryzen 5 2###", 6, "Ryzen 5 (Raven Ridge)", "GF 14LP"⟩,
    ⟨15, -1, -1, 23, 17, -1, -1, -1, "Ryzen PRO 3 2###", 8, "Ryzen 3 PRO (Raven Ridge)", "GF 14LP"⟩,
    ⟨15, -1, -1, 23, 17, -1, -1, -1, "Ryzen 3 2###", 6, "Ryzen 3 (Raven Ridge)", "GF 14LP"⟩,
    ⟨15, -1, -1, 23, 17, -1, -1, -1, "Athlon", 2, "Athlon (Raven Ridge)", "GF 14LP"⟩,
    ⟨15, -1, -1, 23, 32, -1, -1, -1, "Ryzen 3 3###", 6, "Ryzen 3 (Dali)", "GF 14LP"⟩,
    ⟨15, -1, -1, 23, 32, -1, -1, -1, "Athlon", 2, "Athlon (Dali)", "GF 14LP"⟩,
    ⟨15, -1, 1, 23, 32, -1, -1, -1, "", 0, "Dali", "GF 14LP"⟩,
    ⟨15, -1, -1, 23, 8, -1, -1, -1, "Threadripper 2###", 4, "Threadripper (Colfax)", "GF 12LP"⟩,
    ⟨15, -1, -1, 23, 8, -1, -1, -1,
      "Ryzen 7 PRO 2###", 8, "Ryzen 7 PRO (Pinnacle Ridge)", "GF 12LP"⟩,
    ⟨15, -1, -1, 23, 8, -1, -1, -1, "Ryzen 7 2###", 6, "Ryzen 7 (Pinnacle Ridge)", "GF 12LP"⟩,
    ⟨15, -1, -1, 23, 8, -1, -1, -1,
      "Ryzen 5 PRO 2###", 8, "Ryzen 5 PRO (Pinnacle Ridge)", "GF 12LP"⟩,
    ⟨15, -1, -1, 23, 8, -1, -1, -1, "Ryzen 5 2###", 6, "Ryzen 5 (Pinnacle Ridge)", "GF 12LP"⟩,
    ⟨15, -1, -1, 23, 8, -1, -1, -1,
      "Ryzen 3 PRO 2###", 8, "Ryzen 3 PRO (Pinnacle Ridge)", "GF 12LP"⟩,
    ⟨15, -1, -1, 23, 8, -1, -1, -1, "Ryzen 3 2###", 6, "Ryzen 3 (Pinnacle Ridge)", "GF 12LP"⟩,
    ⟨15, -1, -1, 23, 24, -1, -1, -1, "Ryzen 7 PRO 3###", 8, "Ryzen 7 PRO (Picasso)", "GF 12LP"⟩,
    ⟨15, -1, -1, 23, 24, -1, -1, -1, "Ryzen 7 3###", 6, "Ryzen 7 (Picasso)", "GF 12LP"⟩,
    ⟨15, -1, -1, 23, 24, -1, -1, -1, "Ryzen 5 PRO 3###", 8, "Ryzen 5 PRO (Picasso)", "GF 12LP"⟩,
    ⟨15, -1, -1, 23, 24, -1, -1, -1, "Ryzen 5 3###", 6, "Ryzen 5 (Picasso)", "GF 12LP"⟩,
    ⟨15, -1, -1, 23, 24, -1, -1, -1, "Ryzen 3 PRO 3###", 8, "Ryzen 3 PRO (Picasso)", "GF 12LP"⟩,
    ⟨15, -1, -1, 23, 24, -1, -1, -1, "Ryzen 3 3###", 6, "Ryzen 3 (Picasso)", "GF 12LP"⟩,
    ⟨15, -1, -1, 23, 24, -1, -1, -1, "Athlon", 2, "Athlon (Picasso)", "GF 12LP"⟩,
    ⟨15, -1, -1, 23, 49, -1, -1, -1, "EPYC 7##2", 4, "EPYC (Rome)", "TSMC N7FF"⟩,
    ⟨15, -1, -1, 23, 49, -1, -1, -1,
      "Threadripper PRO 3###WX", 10, "Threadripper PRO (Castle Peak)", "TSMC N7FF"⟩,
    ⟨15, -1, -1, 23, 49, -1, -1, -1,
      "Threadripper 3###X", 6, "Threadripper (Castle Peak)", "TSMC N7FF"⟩,
    ⟨15, -1, -1, 23, 113, -1, -1, -1, "Ryzen 9 PRO 3###", 8, "Ryzen 9 PRO (Matisse)", "TSMC N7FF"⟩,
    ⟨15, -1, -1, 23, 113, -1, -1, -1, "Ryzen 9 3###", 6, "Ryzen 9 (Matisse)", "TSMC N7FF"⟩,
    ⟨15, -1, -1, 23, 113, -1, -1, -1, "Ryzen 7 PRO 3###", 8, "Ryzen 7 PRO (Matisse)", "TSMC N7FF"⟩,
    ⟨15, -1, -1, 23, 113, -1, -1, -1, "Ryzen 7 3###", 6, "Ryzen 7 (Matisse)", "TSMC N7FF"⟩,
    ⟨15, -1, -1, 23, 113, -1, -1, -1, "Ryzen 5 PRO 3###", 8, "Ryzen 5 PRO (Matisse)", "TSMC N7FF"⟩,
    ⟨15, -1, -1, 23, 113, -1, -1, -1, "Ryzen 5 3###", 6, "Ryzen 5 (Matisse)", "TSMC N7FF"⟩,
    ⟨15, -1, -1, 23, 113, -1, -1, -1, "Ryzen 3 PRO 3###", 8, "Ryzen 3 PRO (Matisse)", "TSMC N7FF"⟩,
    ⟨15, -1, -1, 23, 113, -1, -1, -1, "Ryzen 3 3###", 6, "Ryzen 3 (Matisse)", "TSMC N7FF"⟩,
    ⟨15, -1, -1, 23, 96, -1, -1, -1, "Ryzen 9 PRO 4###", 8, "Ryzen 9 PRO (Renoir)", "TSMC N7FF"⟩,
    ⟨15, -1, -1, 23, 96, -1, -1, -1, "Ryzen 9 4###", 6, "Ryzen 9 (Renoir)", "TSMC N7FF"⟩,
    ⟨15, -1, -1, 23, 96, -1, -1, -1, "Ryzen 7 PRO 4###", 8, "Ryzen 7 PRO (Renoir)", "TSMC N7FF"⟩,
    ⟨15, -1, -1, 23, 96, -1, -1, -1, "Ryzen 7 4###", 6, "Ryzen 7 (Renoir)", "TSMC N7FF"⟩,
    ⟨15, -1, -1, 23, 96, -1, -1, -1, "Ryzen 5 PRO 4###", 8, "Ryzen 5 PRO (Renoir)", "TSMC N7FF"⟩,
    ⟨15, -1, -1, 23, 96, -1, -1, -1, "Ryzen 5 4###", 6, "Ryzen 5 (Renoir)", "TSMC N7FF"⟩,
    ⟨15, -1, -1, 23, 96, -1, -1, -1, "Ryzen 3 PRO 4###", 8, "Ryzen 3 PRO (Renoir)", "TSMC N7FF"⟩,
    ⟨15, -1, -1, 23, 96, -1, -1, -1, "Ryzen 3 4###", 6, "Ryzen 3 (Renoir)", "TSMC N7FF"⟩,
    ⟨15, -1, -1, 23, 104, -1, -1, -1, "Ryzen 7 5###", 6, "Ryzen 7 (Lucienne)", "TSMC N7FF"⟩,
    ⟨15, -1, -1, 23, 104, -1, -1, -1, "Ryzen 5 5###", 6, "Ryzen 5 (Lucienne)", "TSMC N7FF"⟩,
    ⟨15, -1, -1, 23, 104, -1, -1, -1, "Ryzen 3 5###", 6, "Ryzen 3 (Lucienne)", "TSMC N7FF"⟩,
    ⟨15, -1, -1, 23, 71, -1, -1, -1, "Desktop Kit", 4, "Desktop Kit (Zen 2)", "TSMC N7FF"⟩,
    ⟨15, -1, -1, 23, 132, -1, -1, -1, "Desktop Kit", 4, "Desktop Kit (Zen 2)", "TSMC N7FF"⟩,
    ⟨15, -1, 2, 23, 144, -1, -1, -1, "Custom APU", 4, "Van Gogh", "TSMC N7FF"⟩,
    ⟨15, -1, 0, 23, 145, -1, -1, -1, "Custom APU", 4, "Van Gogh", "TSMC N7FF"⟩,
    ⟨15, -1, -1, 23, 160, -1, -1, -1, "Ryzen 5 7###", 6, "Ryzen 5 (Mendocino)", "TSMC N6"⟩,
    ⟨15, -1, -1, 23, 160, -1, -1, -1, "Ryzen 3 7###", 6, "Ryzen 3 (Mendocino)", "TSMC N6"⟩,
    ⟨15, -1, -1, 23, 160, -1, -1, -1, "Athlon", 2, "Athlon (Mendocino)", "TSMC N6"⟩,
    ⟨15, -1, -1, 24, 0, -1, -1, -1, "C86", 2, "C86 (Dhyana)", unknStr⟩,
    ⟨15, -1, -1, 25, 1, -1, -1, -1, "EPYC 7##3", 4, "EPYC (Milan)", "TSMC N7FF"⟩,
    ⟨15, -1, -1, 25, 8, -1, -1, -1,
      "Threadripper PRO 5###WX", 10, "Threadripper PRO (Chagall)", "TSMC N7FF"⟩,
    ⟨15, -1, -1, 25, 33, -1, -1, -1, "Ryzen 9 PRO 5###", 8, "Ryzen 9 PRO (Vermeer)", "TSMC N7FF"⟩,
    ⟨15, -1, -1, 25, 33, -1, -1, -1, "Ryzen 9 5###", 6, "Ryzen 9 (Vermeer)", "TSMC N7FF"⟩,
    ⟨15, -1, -1, 25, 33, -1, -1, -1, "Ryzen 7 PRO 5###", 8, "Ryzen 7 PRO (Vermeer)", "TSMC N7FF"⟩,
    ⟨15, -1, -1, 25, 33, -1, -1, -1, "Ryzen 7 5###", 6, "Ryzen 7 (Vermeer)", "TSMC N7FF"⟩,
    ⟨15, -1, -1, 25, 33, -1, -1, -1, "Ryzen 5 PRO 5###", 8, "Ryzen 5 PRO (Vermeer)", "TSMC N7FF"⟩,
    ⟨15, -1, -1, 25, 33, -1, -1, -1, "Ryzen 5 5###", 6, "Ryzen 5 (Vermeer)", "TSMC N7FF"⟩,
    ⟨15, -1, -1, 25, 33, -1, -1, -1, "Ryzen 3 PRO 5###", 8, "Ryzen 3 PRO (Vermeer)", "TSMC N7FF"⟩,
    ⟨15, -1, -1, 25, 33, -1, -1, -1, "Ryzen 3 5###", 6, "Ryzen 3 (Vermeer)", "TSMC N7FF"⟩,
    ⟨15, -1, -1, 25, 80, -1, -1, -1,
      "Ryzen 9 PRO 5##0[HU]", 10, "Ryzen 9 PRO (Cezanne)", "TSMC N7FF"⟩,
    ⟨15, -1, -1, 25, 80, -1, -1, -1, "Ryzen 9 5##0[HU]", 8, "Ryzen 9 (Cezanne)", "TSMC N7FF"⟩,
    ⟨15, -1, -1, 25, 80, -1, -1, -1,
      "Ryzen 7 PRO 5##0[HU]", 10, "Ryzen 7 PRO (Cezanne)", "TSMC N7FF"⟩,
    ⟨15, -1, -1, 25, 80, -1, -1, -1, "Ryzen 7 5##0[HU]", 8, "Ryzen 7 (Cezanne)", "TSMC N7FF"⟩,
    ⟨15, -1, -1, 25, 80, -1, -1, -1,
      "Ryzen 5 PRO 5##0[HU]", 10, "Ryzen 5 PRO (Cezanne)", "TSMC N7FF"⟩,
    ⟨15, -1, -1, 25, 80, -1, -1, -1, "Ryzen 5 5##0[HU]", 8, "Ryzen 5 (Cezanne)", "TSMC N7FF"⟩,
    ⟨15, -1, -1, 25, 80, -1, -1, -1,
      "Ryzen 3 PRO 5##0[HU]", 10, "Ryzen 3 PRO (Cezanne)", "TSMC N7FF"⟩,
    ⟨15, -1, -1, 25, 80, -1, -1, -1, "Ryzen 3 5##0[HU]", 8, "Ryzen 3 (Cezanne)", "TSMC N7FF"⟩,
    ⟨15, -1, -1, 25, 80, -1, -1, -1, "Ryzen 7 5##5U", 8, "Ryzen 7 (Barcel\xc3\xb3)", "TSMC N7FF"⟩,
    ⟨15, -1, -1, 25, 80, -1, -1, -1, "Ryzen 5 5##5U", 8, "Ryzen 5 (Barcel\xc3\xb3)", "TSMC N7FF"⟩,
    ⟨15, -1, -1, 25, 80, -1, -1, -1,
      "Ryzen 3 PRO 5##5U", 10, "Ryzen 3 PRO (Barcel\xc3\xb3)", "TSMC N7FF"⟩,
    ⟨15, -1, -1, 25, 80, -1, -1, -1, "Ryzen 3 5##5C", 8, "Ryzen 3 (Barcel\xc3\xb3)", "TSMC N7FF"⟩,
    ⟨15, -1, -1, 25, 68, -1, -1, -1, "Ryzen 9 PRO 6###", 8, "Ryzen 9 PRO (Rembrandt)", "TSMC N6"⟩,
    ⟨15, -1, -1, 25, 68, -1, -1, -1, "Ryzen 9 6###", 6, "Ryzen 9 (Rembrandt)", "TSMC N6"⟩,
    ⟨15, -1, -1, 25, 68, -1, -1, -1, "Ryzen 7 PRO 6###", 8, "Ryzen 7 PRO (Rembrandt)", "TSMC N6"⟩,
    ⟨15, -1, -1, 25, 68, -1, -1, -1, "Ryzen 7 6###", 6, "Ryzen 7 (Rembrandt)", "TSMC N6"⟩,
    ⟨15, -1, -1, 25, 68, -1, -1, -1, "Ryzen 5 PRO 6###", 8, "Ryzen 5 PRO (Rembrandt)", "TSMC N6"⟩,
    ⟨15, -1, -1, 25, 68, -1, -1, -1, "Ryzen 5 6###", 6, "Ryzen 5 (Rembrandt)", "TSMC N6"⟩,
    ⟨15, -1, -1, 25, 68, -1, -1, -1, "Ryzen 3 PRO 6###", 8, "Ryzen 3 PRO (Rembrandt)", "TSMC N6"⟩,
    ⟨15, -1, -1, 25, 68, -1, -1, -1, "Ryzen 3 6###", 6, "Ryzen 3 (Rembrandt)", "TSMC N6"⟩,
    ⟨15, -1, -1, 25, 68, -1, -1, -1, "Ryzen 7 7###", 6, "Ryzen 7 (Rembrandt-R)", "TSMC N6"⟩,
    ⟨15, -1, -1, 25, 68, -1, -1, -1, "Ryzen 5 7###", 6, "Ryzen 5 (Rembrandt-R)", "TSMC N6"⟩,
    ⟨15, -1, -1, 25, 68, -1, -1, -1, "Ryzen 3 7###", 6, "Ryzen 3 (Rembrandt-R)", "TSMC N6"⟩,
    ⟨15, -1, -1, 25, 17, -1, -1, -1, "EPYC 9##4", 4, "EPYC (Genoa)", "TSMC N5"⟩,
    ⟨15, -1, -1, 25, 24, -1, -1, -1,
      "Threadripper PRO 7###WX", 10, "Threadripper PRO (Storm Peak)", "TSMC N5"⟩,
    ⟨15, -1, -1, 25, 24, -1, -1, -1,
      "Threadripper 7###X", 6, "Threadripper (Storm Peak)", "TSMC N5"⟩,
    ⟨15, -1, 2, 25, 97, -1, -1, -1, "Ryzen 9 7###", 6, "Ryzen 9 (Raphael)", "TSMC N5"⟩,
    ⟨15, -1, 2, 25, 97, -1, -1, -1, "Ryzen 7 7###", 6, "Ryzen 7 (Raphael)", "TSMC N5"⟩,
    ⟨15, -1, 2, 25, 97, -1, -1, -1, "Ryzen 5 7###", 6, "Ryzen 5 (Raphael)", "TSMC N5"⟩,
    ⟨15, -1, 2, 25, 97, -1, -1, -1, "Ryzen 3 7###", 6, "Ryzen 3 (Raphael)", "TSMC N5"⟩,
    ⟨15, -1, -1, 25, 97, -1, -1, -1, "Ryzen 9 7###H", 8, "Ryzen 9 (Dragon Range)", "TSMC N5"⟩,
    ⟨15, -1, -1, 25, 97, -1, -1, -1, "Ryzen 7 7###H", 8, "Ryzen 7 (Dragon Range)", "TSMC N5"⟩,
    ⟨15, -1, -1, 25, 97, -1, -1, -1, "Ryzen 5 7###H", 8, "Ryzen 5 (Dragon Range)", "TSMC N5"⟩,
    ⟨15, -1, -1, 25, 116, -1, -1, -1,
      "Ryzen 9 PRO 7###[HU]", 10, "Ryzen 9 PRO (Phoenix)", "TSMC N4"⟩,
    ⟨15, -1, -1, 25, 116, -1, -1, -1, "Ryzen 9 7###[HU]", 8, "Ryzen 9 (Phoenix)", "TSMC N4"⟩,
    ⟨15, -1, -1, 25, 116, -1, -1, -1,
      "Ryzen 7 PRO 7###[HU]", 10, "Ryzen 7 PRO (Phoenix)", "TSMC N4"⟩,
    ⟨15, -1, -1, 25, 116, -1, -1, -1, "Ryzen 7 7###[HU]", 8, "Ryzen 7 (Phoenix)", "TSMC N4"⟩,
    ⟨15, -1, -1, 25, 116, -1, -1, -1,
      "Ryzen 5 PRO 7###[HU]", 10, "Ryzen 5 PRO (Phoenix)", "TSMC N4"⟩,
    ⟨15, -1, -1, 25, 116, -1, -1, -1, "Ryzen 5 7###[HU]", 8, "Ryzen 5 (Phoenix)", "TSMC N4"⟩,
    ⟨15, -1, -1, 25, 116, -1, -1, -1,
      "Ryzen 3 PRO 7###[HU]", 10, "Ryzen 3 PRO (Phoenix)", "TSMC N4"⟩,
    ⟨15, -1, -1, 25, 116, -1, -1, -1, "Ryzen 3 7###[HU]", 8, "Ryzen 3 (Phoenix)", "TSMC N4"⟩,
    ⟨15, -1, -1, 25, 116, -1, -1, -1, "Ryzen Z1", 4, "Ryzen Z1 (Phoenix)", "TSMC N4"⟩,
    ⟨15, -1, -1, 25, 117, -1, -1, -1, "Ryzen 7 8###F", 8, "Ryzen 7 (Phoenix)", "TSMC N4"⟩,
    ⟨15, -1, -1, 25, 117, -1, -1, -1, "Ryzen 5 8###F", 8, "Ryzen 5 (Phoenix)", "TSMC N4"⟩,
    ⟨15, -1, -1, 25, 117, -1, -1, -1, "Ryzen 9 PRO 8###G", 10, "Ryzen 9 PRO (Phoenix)", "TSMC N4"⟩,
    ⟨15, -1, -1, 25, 117, -1, -1, -1, "Ryzen 9 8###G", 8, "Ryzen 9 (Phoenix)", "TSMC N4"⟩,
    ⟨15, -1, -1, 25, 117, -1, -1, -1, "Ryzen 7 PRO 8###G", 10, "Ryzen 7 PRO (Phoenix)", "TSMC N4"⟩,
    ⟨15, -1, -1, 25, 117, -1, -1, -1, "Ryzen 7 8###G", 8, "Ryzen 7 (Phoenix)", "TSMC N4"⟩,
    ⟨15, -1, -1, 25, 117, -1, -1, -1, "Ryzen 5 PRO 8###G", 10, "Ryzen 5 PRO (Phoenix)", "TSMC N4"⟩,
    ⟨15, -1, -1, 25, 117, -1, -1, -1, "Ryzen 5 8###G", 8, "Ryzen 5 (Phoenix)", "TSMC N4"⟩,
    ⟨15, -1, -1, 25, 117, -1, -1, -1, "Ryzen 3 PRO 8###G", 10, "Ryzen 3 PRO (Phoenix)", "TSMC N4"⟩,
    ⟨15, -1, -1, 25, 117, -1, -1, -1, "Ryzen 3 8###G", 8, "Ryzen 3 (Phoenix)", "TSMC N4"⟩,
    ⟨15, -1, -1, 25, 117, -1, -1, -1,
      "Ryzen 9 PRO 8###[HU]", 10, "Ryzen 9 PRO (Hawk Point)", "TSMC N4"⟩,
    ⟨15, -1, -1, 25, 117, -1, -1, -1, "Ryzen 9 8###[HU]", 8, "Ryzen 9 (Hawk Point)", "TSMC N4"⟩,
    ⟨15, -1, -1, 25, 117, -1, -1, -1,
      "Ryzen 7 PRO 8###[HU]", 10, "Ryzen 7 PRO (Hawk Point)", "TSMC N4"⟩,
    ⟨15, -1, -1, 25, 117, -1, -1, -1, "Ryzen 7 8###[HU]", 8, "Ryzen 7 (Hawk Point)", "TSMC N4"⟩,
    ⟨15, -1, -1, 25, 117, -1, -1, -1,
      "Ryzen 5 PRO 8###[HU]", 10, "Ryzen 5 PRO (Hawk Point)", "TSMC N4"⟩,
    ⟨15, -1, -1, 25, 117, -1, -1, -1, "Ryzen 5 8###[HU]", 8, "Ryzen 5 (Hawk Point)", "TSMC N4"⟩,
    ⟨15, -1, -1, 25, 117, -1, -1, -1,
      "Ryzen 3 PRO 8###[HU]", 10, "Ryzen 3 PRO (Hawk Point)", "TSMC N4"⟩,
    ⟨15, -1, -1, 25, 117, -1, -1, -1, "Ryzen 3 8###[HU]", 8, "Ryzen 3 (Hawk Point)", "TSMC N4"⟩,
    ⟨15, -1, -1, 26, 2, -1, -1, -1, "EPYC 9##5", 4, "EPYC (Turin)", "TSMC N4X"⟩,
    ⟨15, -1, -1, 26, 17, -1, -1, -1, "EPYC 9##5", 4, "EPYC (Turin Dense)", "TSMC N3E"⟩,
    ⟨15, -1, -1, 26, 8, -1, -1, -1,
      "Threadripper PRO 9###WX", 10, "Threadripper PRO (Shimada Peak)", "TSMC N4"⟩,
    ⟨15, -1, -1, 26, 8, -1, -1, -1,
      "Threadripper 9###X", 6, "Threadripper (Shimada Peak)", "TSMC N4"⟩,
    ⟨15, -1, -1, 26, 68, -1, -1, -1,
      "Ryzen 9 PRO 9###", 8, "Ryzen 9 PRO (Granite Ridge)", "TSMC N4"⟩,
    ⟨15, -1, -1, 26, 68, -1, -1, -1, "Ryzen 9 9###", 6, "Ryzen 9 (Granite Ridge)", "TSMC N4"⟩,
    ⟨15, -1, -1, 26, 68, -1, -1, -1,
      "Ryzen 7 PRO 9###", 8, "Ryzen 7 PRO (Granite Ridge)", "TSMC N4"⟩,
    ⟨15, -1, -1, 26, 68, -1, -1, -1, "Ryzen 7 9###", 6, "Ryzen 7 (Granite Ridge)", "TSMC N4"⟩,
    ⟨15, -1, -1, 26, 68, -1, -1, -1,
      "Ryzen 5 PRO 9###", 8, "Ryzen 5 PRO (Granite Ridge)", "TSMC N4"⟩,
    ⟨15, -1, -1, 26, 68, -1, -1, -1, "Ryzen 5 9###", 6, "Ryzen 5 (Granite Ridge)", "TSMC N4"⟩,
    ⟨15, -1, -1, 26, 68, -1, -1, -1,
      "Ryzen 3 PRO 9###", 8, "Ryzen 3 PRO (Granite Ridge)", "TSMC N4"⟩,
    ⟨15, -1, -1, 26, 68, -1, -1, -1, "Ryzen 3 9###", 6, "Ryzen 3 (Granite Ridge)", "TSMC N4"⟩,
    ⟨15, -1, -1, 26, 36, -1, -1, -1,
      "Ryzen AI 9 HX PRO", 10, "Ryzen AI 9 PRO (Strix Point)", "TSMC N4P"⟩,
    ⟨15, -1, -1, 26, 36, -1, -1, -1, "Ryzen AI 9", 6, "Ryzen AI 9 (Strix Point)", "TSMC N4P"⟩,
    ⟨15, -1, -1, 26, 36, -1, -1, -1,
      "Ryzen AI 7 PRO", 8, "Ryzen AI 7 PRO (Strix Point)", "TSMC N4P"⟩,
    ⟨15, -1, -1, 26, 96, -1, -1, -1,
      "Ryzen AI 7 PRO", 8, "Ryzen AI 7 PRO (Krackan Point)", "TSMC N4P"⟩,
    ⟨15, -1, -1, 26, 96, -1, -1, -1, "Ryzen AI 7", 6, "Ryzen AI 7 (Krackan Point)", "TSMC N4P"⟩,
    ⟨15, -1, -1, 26, 96, -1, -1, -1,
      "Ryzen AI 5 PRO", 8, "Ryzen AI 5 PRO (Krackan Point)", "TSMC N4P"⟩,
    ⟨15, -1, -1, 26, 96, -1, -1, -1, "Ryzen AI 5", 6, "Ryzen AI 5 (Krackan Point)", "TSMC N4P"⟩,
    ⟨15, -1, -1, 26, 112, -1, -1, -1,
      "Ryzen AI MAX+ PRO", 10, "Ryzen AI MAX+ PRO (Strix Halo)", "TSMC N4P"⟩,
    ⟨15, -1, -1, 26, 112, -1, -1, -1, "Ryzen AI MAX+", 8, "Ryzen AI MAX+ (Strix Halo)", "TSMC N4P"⟩,
    ⟨15, -1, -1, 26, 112, -1, -1, -1,
      "Ryzen AI MAX PRO", 8, "Ryzen AI MAX PRO (Strix Halo)", "TSMC N4P"⟩,
    ⟨15, -1, -1, 26, 112, -1, -1, -1, "Ryzen AI MAX", 6, "Ryzen AI MAX (Strix Halo)", "TSMC N4P"⟩]

end LibCpuid
