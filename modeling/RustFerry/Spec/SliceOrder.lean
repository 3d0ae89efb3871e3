import RustFerry.Native.Artifact

/-!
# The order of load commands

What `inspect_macho_slice` makes of the load commands of a slice. The first command that names a
platform decides what is reported, and a build version after it is refused. So the order of the
commands matters only where a slice has commands of both families, or legacy commands that do not
agree.
-/

namespace RustFerry.Artifact

open Except

section

variable {command : LoadCommand} {architecture : String} {commands : List LoadCommand}

/-! ## Platform commands -/

def LoadCommand.isBuildVersion : LoadCommand → Bool
  | .buildVersion _ _ _ => true
  | _ => false

def LoadCommand.isVersionMin : LoadCommand → Bool
  | .versionMinIphoneos _ _ => true
  | _ => false

/-- What a slice reports whose first platform command is this. -/
def LoadCommand.evidence (architecture : String) : LoadCommand → Option MachOSliceEvidence
  | .buildVersion platform minos sdk => some
    { architecture
      platform := applePlatform platform
      minimumOs := some (decodeAppleVersion minos)
      sdk := some (decodeAppleVersion sdk) }
  | .versionMinIphoneos version sdk => some
    { architecture
      platform := .legacyIphoneOs
      minimumOs := some (decodeAppleVersion version)
      sdk := some (decodeAppleVersion sdk) }
  | _ => none

def SliceVersions.ofEvidence (evidence : MachOSliceEvidence) : SliceVersions where
  platform := some evidence.platform
  minimumOs := evidence.minimumOs
  sdk := evidence.sdk

variable {evidence : MachOSliceEvidence}

theorem evidence_architecture (h : command.evidence architecture = some evidence) :
    evidence.architecture = architecture := by
  cases command with
  | buildVersion | versionMinIphoneos =>
    cases h
    rfl
  | codeSignature | idDylib | other => cases h

/-! ## Scan -/

/-- A command before the platform is known. -/
theorem inspectLoadCommand_unknown (architecture : String) (command : LoadCommand) :
    inspectLoadCommand architecture ⟨none, none, none⟩ command =
      match command.evidence architecture with
      | none => .ok ⟨none, none, none⟩
      | some evidence => .ok (.ofEvidence evidence) := by
  cases command <;> rfl

/-- A command after the platform is known. -/
theorem inspectLoadCommand_known (architecture : String) (evidence : MachOSliceEvidence)
    (command : LoadCommand) :
    inspectLoadCommand architecture (.ofEvidence evidence) command =
      if command.isBuildVersion then
        .error (.invalidMachO s!"{architecture} slice has multiple LC_BUILD_VERSION commands")
      else .ok (.ofEvidence evidence) := by
  cases command <;> rfl

theorem scan_known {versions : SliceVersions} :
    commands.foldlM (inspectLoadCommand architecture) (.ofEvidence evidence) = .ok versions ↔
      (∀ command ∈ commands, command.isBuildVersion = false) ∧
        versions = .ofEvidence evidence := by
  induction commands with
  | nil =>
    simp only [List.foldlM_nil, List.not_mem_nil, false_implies, implies_true, true_and]
    constructor
    · intro h
      exact (Except.ok.inj h).symm
    · intro h
      rw [h]
      rfl
  | cons command commands ih =>
    rw [List.foldlM_cons, inspectLoadCommand_known]
    by_cases hbuild : command.isBuildVersion = true
    · rw [if_pos hbuild]
      constructor
      · intro h
        cases h
      · intro h
        have hfalse := h.1 command List.mem_cons_self
        rw [hbuild] at hfalse
        cases hfalse
    · rw [if_neg hbuild]
      have hfalse : command.isBuildVersion = false := by simpa using hbuild
      show commands.foldlM _ _ = _ ↔ _
      rw [ih]
      simp [hfalse]

/-- The first platform command of a slice, with no build version after it. -/
def FirstPlatform (architecture : String) (commands : List LoadCommand)
    (evidence : MachOSliceEvidence) : Prop :=
  ∃ before first after, commands = before ++ first :: after ∧
    (∀ command ∈ before, command.evidence architecture = none) ∧
    first.evidence architecture = some evidence ∧
    ∀ command ∈ after, command.isBuildVersion = false

theorem scan_unknown {versions : SliceVersions} {platform : ApplePlatform}
    (hplatform : versions.platform = some platform)
    (h : commands.foldlM (inspectLoadCommand architecture) ⟨none, none, none⟩ = .ok versions) :
    ∃ evidence, FirstPlatform architecture commands evidence ∧
      versions = .ofEvidence evidence := by
  induction commands with
  | nil =>
    cases h
    cases hplatform
  | cons command commands ih =>
    rw [List.foldlM_cons, inspectLoadCommand_unknown] at h
    cases hevidence : command.evidence architecture with
    | none =>
      rw [hevidence] at h
      obtain ⟨evidence, hfirst, hversions⟩ := ih h
      obtain ⟨before, first, after, rfl, hbefore, hrest⟩ := hfirst
      refine ⟨evidence, ⟨command :: before, first, after, rfl, ?_, hrest⟩, hversions⟩
      simpa [hevidence] using hbefore
    | some evidence =>
      rw [hevidence] at h
      obtain ⟨hafter, hversions⟩ := scan_known.mp h
      exact ⟨evidence, ⟨[], command, commands, rfl, by simp, hevidence, hafter⟩, hversions⟩

theorem scan_first (h : FirstPlatform architecture commands evidence) :
    commands.foldlM (inspectLoadCommand architecture) ⟨none, none, none⟩ =
      .ok (.ofEvidence evidence) := by
  obtain ⟨before, first, after, rfl, hbefore, hfirst, hafter⟩ := h
  induction before with
  | nil =>
    rw [List.nil_append, List.foldlM_cons, inspectLoadCommand_unknown, hfirst]
    exact scan_known.mpr ⟨hafter, rfl⟩
  | cons command before ih =>
    rw [List.cons_append, List.foldlM_cons, inspectLoadCommand_unknown,
      hbefore command List.mem_cons_self]
    exact ih fun next hnext => hbefore next (List.mem_cons_of_mem _ hnext)

/-- **Accepted slices**: the first platform command is reported, and no build version is after
it. -/
theorem inspectMachOSlice_eq_ok {binary : MachO} :
    inspectMachOSlice binary = .ok evidence ↔
      FirstPlatform (architectureName binary.cputype) binary.loadCommands evidence := by
  unfold inspectMachOSlice
  constructor
  · intro h
    obtain ⟨versions, hscan, hresult⟩ := bind_eq_ok.mp h
    cases hplatform : versions.platform with
    | none =>
      rw [hplatform] at hresult
      cases hresult
    | some platform =>
      rw [hplatform] at hresult
      obtain ⟨found, hfirst, rfl⟩ := scan_unknown hplatform hscan
      cases hresult
      obtain ⟨_, _, _, _, _, hfound, _⟩ := id hfirst
      have hsame : MachOSliceEvidence.mk (architectureName binary.cputype) platform
          found.minimumOs found.sdk = found := by
        rw [← evidence_architecture hfound, ← Option.some.inj hplatform]
      rw [SliceVersions.ofEvidence, hsame]
      exact hfirst
  · intro h
    simp only [scan_first h]
    obtain ⟨_, _, _, _, _, hfound, _⟩ := h
    rw [← evidence_architecture hfound]
    rfl

/-! ## Permutations -/

/-- The slice has one build version, which is reported, or none, and a legacy command is. -/
def Reports (architecture : String) (commands : List LoadCommand)
    (evidence : MachOSliceEvidence) : Prop :=
  (∃ build, commands.filter LoadCommand.isBuildVersion = [build] ∧
    build.evidence architecture = some evidence) ∨
  (commands.filter LoadCommand.isBuildVersion = [] ∧ ∃ legacy ∈ commands,
    legacy.isVersionMin = true ∧ legacy.evidence architecture = some evidence)

/-- The platform commands of the slice are build versions only, or legacy commands only. -/
def OneFamily (commands : List LoadCommand) : Prop :=
  (∀ command ∈ commands, command.isBuildVersion = false) ∨
    ∀ command ∈ commands, command.isVersionMin = false

/-- The legacy commands of the slice are the same. -/
def LegacyAgree (commands : List LoadCommand) : Prop :=
  ∀ a ∈ commands, ∀ b ∈ commands, a.isVersionMin = true → b.isVersionMin = true → a = b

/-- Commands without a platform. -/
theorem evidence_eq_none :
    command.evidence architecture = none ↔
      command.isBuildVersion = false ∧ command.isVersionMin = false := by
  cases command <;> simp [LoadCommand.evidence, LoadCommand.isBuildVersion,
    LoadCommand.isVersionMin]

theorem isBuildVersion_or_isVersionMin (h : command.evidence architecture = some evidence) :
    (command.isBuildVersion = true ∧ command.isVersionMin = false) ∨
      (command.isBuildVersion = false ∧ command.isVersionMin = true) := by
  cases command <;> simp_all [LoadCommand.evidence, LoadCommand.isBuildVersion,
    LoadCommand.isVersionMin]

/-- The first platform is reported. -/
theorem FirstPlatform.reports (h : FirstPlatform architecture commands evidence) :
    Reports architecture commands evidence := by
  obtain ⟨before, first, after, rfl, hbefore, hfirst, hafter⟩ := h
  have hnone : before.filter LoadCommand.isBuildVersion = [] := by
    apply List.filter_eq_nil_iff.mpr
    intro command hcommand
    simp [(evidence_eq_none.mp (hbefore command hcommand)).1]
  have hrest : after.filter LoadCommand.isBuildVersion = [] := by
    apply List.filter_eq_nil_iff.mpr
    intro command hcommand
    simp [hafter command hcommand]
  rcases isBuildVersion_or_isVersionMin hfirst with ⟨hbuild, -⟩ | ⟨hbuild, hlegacy⟩
  · left
    refine ⟨first, ?_, hfirst⟩
    rw [List.filter_append, hnone, List.filter_cons_of_pos hbuild, hrest, List.nil_append]
  · right
    refine ⟨?_, first, by simp, hlegacy, hfirst⟩
    rw [List.filter_append, hnone, List.filter_cons_of_neg (by simp [hbuild]), hrest,
      List.nil_append]

/-- A slice with one family of platform commands is accepted if it has one build version or some
legacy command. -/
theorem Reports.firstPlatform
    (h : Reports architecture commands evidence) (hfamily : OneFamily commands) :
    ∃ found, FirstPlatform architecture commands found := by
  have hexists : ∃ command ∈ commands, command.evidence architecture ≠ none := by
    rcases h with ⟨build, hbuilds, hbuild⟩ | ⟨-, legacy, hmem, -, hlegacy⟩
    · refine ⟨build, ?_, by simp [hbuild]⟩
      have hmem : build ∈ commands.filter LoadCommand.isBuildVersion := by simp [hbuilds]
      exact List.mem_of_mem_filter hmem
    · exact ⟨legacy, hmem, by simp [hlegacy]⟩
  -- the first platform command
  obtain ⟨before, first, after, rfl, hbefore, hfirst⟩ : ∃ before first after,
      commands = before ++ first :: after ∧
      (∀ command ∈ before, command.evidence architecture = none) ∧
      first.evidence architecture ≠ none := by
    obtain ⟨command, hmem, hplatform⟩ := hexists
    have hfind : (commands.find? fun c => (c.evidence architecture).isSome).isSome := by
      rw [List.find?_isSome]
      exact ⟨command, hmem, Option.isSome_iff_ne_none.mpr hplatform⟩
    obtain ⟨first, hfirst⟩ := Option.isSome_iff_exists.mp hfind
    obtain ⟨hplatform, before, after, rfl, hbefore⟩ := List.find?_eq_some_iff_append.mp hfirst
    refine ⟨before, first, after, rfl, ?_, Option.isSome_iff_ne_none.mp hplatform⟩
    intro c hc
    have hnot := hbefore c hc
    simpa using hnot
  obtain ⟨found, hfound⟩ := Option.ne_none_iff_exists'.mp hfirst
  refine ⟨found, before, first, after, rfl, hbefore, hfound, ?_⟩
  intro command hcommand
  rcases hfamily with hlegacy | hbuild
  · exact hlegacy command (by simp [hcommand])
  · -- the first command is the only build version
    have hversion := hbuild first (by simp)
    have hfirstBuild : first.isBuildVersion = true := by
      rcases isBuildVersion_or_isVersionMin hfound with ⟨hyes, -⟩ | ⟨-, hyes⟩
      · exact hyes
      · rw [hversion] at hyes
        cases hyes
    rcases h with ⟨build, hbuilds, -⟩ | ⟨hbuilds, -⟩
    · rw [List.filter_append, List.filter_cons_of_pos hfirstBuild] at hbuilds
      have hlength := congrArg List.length hbuilds
      rw [List.length_append, List.length_cons, List.length_singleton] at hlength
      have hnil : (after.filter LoadCommand.isBuildVersion).length = 0 := by omega
      have hnot := List.filter_eq_nil_iff.mp (List.length_eq_zero_iff.mp hnil) command hcommand
      simpa using hnot
    · have hnot := List.filter_eq_nil_iff.mp hbuilds first (by simp)
      exact absurd hfirstBuild hnot

theorem Reports.perm {commands' : List LoadCommand}
    (h : Reports architecture commands evidence) (hperm : commands.Perm commands') :
    Reports architecture commands' evidence := by
  have hfilter := hperm.filter LoadCommand.isBuildVersion
  rcases h with ⟨build, hbuilds, hbuild⟩ | ⟨hbuilds, legacy, hmem, hlegacy⟩
  · rw [hbuilds] at hfilter
    exact .inl ⟨build, List.perm_singleton.mp hfilter.symm, hbuild⟩
  · rw [hbuilds] at hfilter
    exact .inr ⟨List.perm_nil.mp hfilter.symm, legacy, hperm.mem_iff.mp hmem, hlegacy⟩

theorem OneFamily.perm {commands' : List LoadCommand} (h : OneFamily commands)
    (hperm : commands.Perm commands') : OneFamily commands' := by
  rcases h with h | h
  · left
    intro command hcommand
    exact h command (hperm.mem_iff.mpr hcommand)
  · right
    intro command hcommand
    exact h command (hperm.mem_iff.mpr hcommand)

theorem evidence_legacy (hlegacy : command.isVersionMin = true)
    (h : command.evidence architecture = some evidence) :
    evidence.platform = .legacyIphoneOs := by
  cases command with
  | versionMinIphoneos =>
    cases h
    rfl
  | buildVersion | codeSignature | idDylib | other => cases hlegacy

/-- Two reports on the same commands differ at most in the versions of legacy commands. -/
theorem Reports.unique {a b : MachOSliceEvidence} (ha : Reports architecture commands a)
    (hb : Reports architecture commands b) :
    a.platform = b.platform ∧
      ((∃ command ∈ commands, command.isBuildVersion = true) ∨ LegacyAgree commands → a = b) := by
  rcases ha with ⟨build, hbuilds, hbuild⟩ | ⟨hbuilds, legacy, hmem, hlegacy, hfound⟩
  · rcases hb with ⟨build', hbuilds', hbuild'⟩ | ⟨hbuilds', -⟩
    · -- one build version
      rw [hbuilds] at hbuilds'
      obtain rfl := List.singleton_inj.mp hbuilds'
      obtain rfl := Option.some.inj (hbuild.symm.trans hbuild')
      exact ⟨rfl, fun _ => rfl⟩
    · rw [hbuilds] at hbuilds'
      cases hbuilds'
  · rcases hb with ⟨build', hbuilds', -⟩ | ⟨-, legacy', hmem', hlegacy', hfound'⟩
    · rw [hbuilds] at hbuilds'
      cases hbuilds'
    · rw [evidence_legacy hlegacy hfound, evidence_legacy hlegacy' hfound']
      refine ⟨rfl, ?_⟩
      intro hcase
      rcases hcase with ⟨command, hcommand, hbuild⟩ | hagree
      · exact absurd hbuild (List.filter_eq_nil_iff.mp hbuilds command hcommand)
      · obtain rfl := hagree legacy hmem legacy' hmem' hlegacy hlegacy'
        exact Option.some.inj (hfound.symm.trans hfound')

theorem applePlatform_eq_ios {value : UInt32} (h : applePlatform value = .ios) : value = 2 := by
  unfold applePlatform at h
  repeat' split at h
  all_goals first | assumption | cases h

/-- What does not depend on the order of the load commands of a slice. -/
structure OrderFree (binary reordered : MachO) : Prop where
  accepted : OneFamily binary.loadCommands →
    ((∃ evidence, inspectMachOSlice binary = .ok evidence) ↔
      ∃ evidence, inspectMachOSlice reordered = .ok evidence)
  reported : ∀ a b, inspectMachOSlice binary = .ok a → inspectMachOSlice reordered = .ok b →
    a.platform = b.platform ∧
      ((∃ command ∈ binary.loadCommands, command.isBuildVersion = true) ∨
        LegacyAgree binary.loadCommands → a = b)

/-- What an accepted slice has. -/
structure SlicePlatform (binary : MachO) (evidence : MachOSliceEvidence) : Prop where
  reports : Reports (architectureName binary.cputype) binary.loadCommands evidence
  ios : evidence.platform = .ios → ∃ minos sdk,
    binary.loadCommands.filter LoadCommand.isBuildVersion = [.buildVersion 2 minos sdk]

/-- A report of iOS rests on one command. -/
theorem Reports.ios (h : Reports architecture commands evidence) (hios : evidence.platform = .ios) :
    ∃ minos sdk, commands.filter LoadCommand.isBuildVersion = [.buildVersion 2 minos sdk] := by
  rcases h with ⟨build, hbuilds, hbuild⟩ | ⟨-, legacy, -, hlegacy, hfound⟩
  · cases build with
    | buildVersion platform minos sdk =>
      cases hbuild
      rw [applePlatform_eq_ios hios] at hbuilds
      exact ⟨minos, sdk, hbuilds⟩
    | versionMinIphoneos version sdk =>
      cases hbuild
      cases hios
    | codeSignature | idDylib | other => cases hbuild
  · rw [evidence_legacy hlegacy hfound] at hios
    cases hios

/-- **The order of load commands**: what a permutation leaves as it is. -/
theorem inspectMachOSlice_perm (binary : MachO) (commands : List LoadCommand)
    (hperm : binary.loadCommands.Perm commands) :
    OrderFree binary { binary with loadCommands := commands } ∧
      ∀ evidence, inspectMachOSlice binary = .ok evidence → SlicePlatform binary evidence := by
  constructor
  · constructor
    · intro hfamily
      constructor
      · intro haccepted
        obtain ⟨evidence, h⟩ := haccepted
        have hreports := (inspectMachOSlice_eq_ok.mp h).reports.perm hperm
        obtain ⟨found, hfound⟩ := hreports.firstPlatform (hfamily.perm hperm)
        exact ⟨found, inspectMachOSlice_eq_ok.mpr hfound⟩
      · intro haccepted
        obtain ⟨evidence, h⟩ := haccepted
        have hreports := (inspectMachOSlice_eq_ok.mp h).reports.perm hperm.symm
        obtain ⟨found, hfound⟩ := hreports.firstPlatform hfamily
        exact ⟨found, inspectMachOSlice_eq_ok.mpr hfound⟩
    · intro a b ha hb
      have hb' := (inspectMachOSlice_eq_ok.mp hb).reports.perm hperm.symm
      exact (inspectMachOSlice_eq_ok.mp ha).reports.unique hb'
  · intro evidence h
    have hreports := (inspectMachOSlice_eq_ok.mp h).reports
    exact ⟨hreports, hreports.ios⟩

end

namespace Sample

def slice (loadCommands : List LoadCommand) : MachO where
  cputype := cpuTypeArm64
  cpusubtype := cpuSubtypeArm64All
  filetype := mhExecute
  loadCommands
  name := none
  libs := []

def build : LoadCommand := .buildVersion 2 0x110000 0x120200

def legacy : LoadCommand := .versionMinIphoneos 0x110000 0x120200

theorem inspectMachOSlice_perm_signed :
    OrderFree (slice [build, .codeSignature 16]) (slice [.codeSignature 16, build]) :=
  (inspectMachOSlice_perm (slice [build, .codeSignature 16]) _ (.swap _ _ _)).1

/-- A legacy command before the build version makes the slice be refused, and a slice for another
platform is accepted. -/
theorem legacy_first_refused :
    (∃ evidence, inspectMachOSlice (slice [build, legacy]) = .ok evidence) ∧
      (¬ ∃ evidence, inspectMachOSlice (slice [legacy, build]) = .ok evidence) ∧
      ∃ evidence, inspectMachOSlice (slice [.buildVersion 1 0x0D0000 0x0D0000]) = .ok evidence ∧
        evidence.platform = .macos := by
  refine ⟨⟨_, rfl⟩, ?_, ⟨_, rfl, rfl⟩⟩
  intro haccepted
  obtain ⟨evidence, h⟩ := haccepted
  cases h

end Sample

end RustFerry.Artifact
