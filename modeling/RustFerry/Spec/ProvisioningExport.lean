import RustFerry.ForStd.List
import RustFerry.Native.ProvisioningMaterials
import RustFerry.Spec.SignedEntitlements

/-!
# What is prepared can be exported

Every preparation that succeeds gives a mapping with the profile of each target. Its profiles can be
installed exactly when no two of them have the same UUID: the preparation accepts one profile for
several targets, but the installation creates a new file for each of them.
-/

namespace RustFerry.Worker

open Remote Except

section

variable {profile : ProvisioningProfile} {material : ProvisioningProfileMaterial} {volume : Volume}

/-! ## Plans -/

theorem errorIf_eq_nil {bad : Bool} {error : SigningValidationError} :
    errorIf bad error = [] ↔ bad = false := by
  cases bad <;> simp [errorIf]

/-- The names and the bundle identifiers of two targets differ. -/
def Differ (a b : SigningTarget) : Prop :=
  a.name ≠ b.name ∧ a.bundleIdentifier ≠ b.bundleIdentifier

theorem differ_of_targetErrors {seen targets : List SigningTarget}
    (h : targetErrors seen targets = []) :
    targets.Pairwise Differ ∧ ∀ a ∈ seen, ∀ b ∈ targets, Differ a b := by
  induction targets generalizing seen with
  | nil => simp
  | cons target targets ih =>
    simp only [targetErrors, List.append_eq_nil_iff, errorIf_eq_nil] at h
    obtain ⟨⟨⟨-, hname⟩, hbundle⟩, hrest⟩ := h
    obtain ⟨hpairwise, hseen⟩ := ih hrest
    constructor
    · exact List.pairwise_cons.mpr ⟨hseen target List.mem_cons_self, hpairwise⟩
    · intro a ha b hb
      cases hb with
      | head =>
        have hname' := List.any_eq_false.mp hname a ha
        have hbundle' := List.any_eq_false.mp hbundle a ha
        exact ⟨by simpa using hname', by simpa using hbundle'⟩
      | tail _ hb => exact hseen a (List.mem_cons_of_mem _ ha) b hb

theorem differ_of_validate {plan : SigningPlan} (h : plan.validate = .ok ()) :
    plan.targets.Pairwise Differ := by
  unfold SigningPlan.validate at h
  split at h
  · rename_i herrors
    have hnil := List.isEmpty_iff.mp herrors
    simp only [SigningPlan.errors, List.append_eq_nil_iff] at hnil
    exact (differ_of_targetErrors hnil.1.1.1.1.2).1
  · cases h

section

variable {plan : SigningPlan} {name : String} {target : SigningTarget}

theorem of_lookup_targetsByName (h : (targetsByName plan).lookup name = some target) :
    target ∈ plan.targets ∧ target.name = name := by
  obtain ⟨front, back, hentries, -⟩ := List.lookup_eq_some_iff.mp h
  have hentry : (name, target) ∈ targetsByName plan := by
    rw [hentries]
    exact List.mem_append_right _ List.mem_cons_self
  have hmem := BTreeMap.mem_of_mem_ofList hentry
  obtain ⟨t, ht, heq⟩ := List.mem_map.mp hmem
  obtain ⟨hname, rfl⟩ := Prod.mk.inj heq
  exact ⟨ht, hname⟩

/-- Equal names or equal bundle identifiers are those of one target. -/
theorem eq_of_not_differ (hplan : plan.validate = .ok ()) {a b : SigningTarget}
    (ha : a ∈ plan.targets) (hb : b ∈ plan.targets)
    (h : a.name = b.name ∨ a.bundleIdentifier = b.bundleIdentifier) : a = b := by
  obtain hsame | hdiffer | hdiffer := (differ_of_validate hplan).eq_or_rel ha hb
  · exact hsame
  · cases h with
    | inl h => exact absurd h hdiffer.1
    | inr h => exact absurd h hdiffer.2
  · cases h with
    | inl h => exact absurd h.symm hdiffer.1
    | inr h => exact absurd h.symm hdiffer.2

theorem lookup_targetsByName (hplan : plan.validate = .ok ()) (h : target ∈ plan.targets) :
    (targetsByName plan).lookup target.name = some target := by
  obtain ⟨t, ht⟩ := BTreeMap.exists_mem_ofList
    (List.mem_map.mpr ⟨target, h, rfl⟩ : (target.name, target) ∈
      plan.targets.map fun target => (target.name, target))
  cases hlookup : (targetsByName plan).lookup target.name with
  | none => exact absurd (List.mem_map.mpr ⟨_, ht, rfl⟩) (List.lookup_eq_none_iff_notMem.mp hlookup)
  | some other =>
    obtain ⟨hother, hname⟩ := of_lookup_targetsByName hlookup
    rw [eq_of_not_differ hplan hother h (Or.inl hname)]

end

/-! ## Preparation -/

variable {evidence : ValidatedProvisioningProfile} {request : ProfileValidationRequest}

theorem evidence_of_validate (h : validateProfileForTarget profile request = .ok evidence) :
    evidence.targetBundleIdentifier = request.target.bundleIdentifier.value ∧
      evidence.teamIdentifier = request.team.id ∧
      evidence.certificateSha256Fingerprint = request.certificate.sha256Fingerprint := by
  unfold validateProfileForTarget at h
  dsimp only at h
  split at h
  · cases h
    exact ⟨rfl, rfl, rfl⟩
  · cases h

theorem isProfileIdentifier_of_validate
    (h : validateProfileForTarget profile request = .ok evidence) :
    isProfileIdentifier profile.uuid = true := by
  have hmetadata := (validateProfileForTarget_accepts h).metadata
  simp only [ProvisioningProfile.validateMetadataAt, check_bind_eq_ok] at hmetadata
  have hvalid := hmetadata.1
  simp only [ProvisioningProfile.validateMetadata, check_bind_eq_ok, rejectIf_eq_ok,
    Bool.not_eq_false'] at hvalid
  exact hvalid.1

theorem ProvisioningProfileMaterial.of_new {targetName : String}
    {validation : ValidatedProvisioningProfile} {encodedProfile : List UInt8}
    (h : ProvisioningProfileMaterial.new targetName profile validation encodedProfile = .ok
      material) :
    material.targetName = targetName ∧ material.profile = profile ∧
      material.validation = validation := by
  unfold ProvisioningProfileMaterial.new at h
  split at h
  · cases h
  · cases h
    exact ⟨rfl, rfl, rfl⟩

section

variable {tools : ProvisioningTools} {request : ProvisioningMaterialRequest}

/-- What is known of a material that was prepared from an input. -/
structure Prepared (tools : ProvisioningTools) (request : ProvisioningMaterialRequest)
    (team : DevelopmentTeam) (input : ProfileSecretInput)
    (material : ProvisioningProfileMaterial) : Prop where
  profile : readProfile tools input = .ok material.profile
  identifier : isProfileIdentifier material.profile.uuid = true
  name : material.targetName = input.targetName
  required : material.targetName ∈ requiredTargets request.signingPlan
  target : ∃ target, (targetsByName request.signingPlan).lookup material.targetName = some target ∧
    material.validation.targetBundleIdentifier = target.bundleIdentifier.value
  team : material.validation.teamIdentifier = team.id
  fingerprint : material.validation.certificateSha256Fingerprint =
    request.certificate.sha256Fingerprint

theorem prepareInput_prepared {team : DevelopmentTeam} {before after : Preparation}
    {input : ProfileSecretInput} (h : prepareInput tools request team before input = .ok after) :
    ∃ material, Prepared tools request team input material ∧ input.targetName ∉ before.1 ∧
      after = (insert input.targetName before.1, before.2 ++ [material]) := by
  simp only [prepareInput, bind_eq_ok, ofOption_eq_ok] at h
  obtain ⟨target, htarget, profilePlan, -, entitlementPlan, -, _, hfresh, material, hmaterial,
    hafter⟩ := h
  obtain ⟨htarget, hrequired⟩ := Option.filter_eq_some_iff.mp htarget
  simp only [prepareProfile, bind_eq_ok, mapError_eq_ok] at hmaterial
  obtain ⟨profile, hprofile, validation, hvalidation, hnew⟩ := hmaterial
  obtain ⟨hname, rfl, rfl⟩ := ProvisioningProfileMaterial.of_new hnew
  obtain ⟨hbundle, hteam, hfingerprint⟩ := evidence_of_validate hvalidation
  have hprepared : Prepared tools request team input material := {
    profile := hprofile
    identifier := isProfileIdentifier_of_validate hvalidation
    name := hname
    required := by
      rw [hname]
      exact of_decide_eq_true hrequired
    target := by
      rw [hname]
      exact ⟨target, htarget, hbundle⟩
    team := hteam
    fingerprint := hfingerprint }
  exact ⟨material, hprepared, by simpa using hfresh, (Except.ok.inj hafter).symm⟩

/-- What is known of the materials of the inputs so far. -/
structure Preparing (tools : ProvisioningTools) (request : ProvisioningMaterialRequest)
    (team : DevelopmentTeam) (inputs : List ProfileSecretInput) (preparation : Preparation) :
    Prop where
  materials : List.Forall₂ (Prepared tools request team) inputs preparation.2
  distinct : (preparation.2.map (·.targetName)).Nodup
  names : (preparation.2.map (·.targetName)).toFinset = preparation.1

theorem Preparing.init {team : DevelopmentTeam} : Preparing tools request team [] (∅, []) :=
  ⟨.nil, List.nodup_nil, rfl⟩

/-- One input more is prepared. -/
theorem Preparing.step {team : DevelopmentTeam} {done : List ProfileSecretInput}
    {input : ProfileSecretInput} {before after : Preparation}
    (h : Preparing tools request team done before)
    (hstep : prepareInput tools request team before input = .ok after) :
    Preparing tools request team (done ++ [input]) after := by
  obtain ⟨material, hmaterial, hfresh, rfl⟩ := prepareInput_prepared hstep
  rw [← hmaterial.name] at hfresh ⊢
  have hnew : material.targetName ∉ before.2.map (·.targetName) := by
    intro hmem
    apply hfresh
    rw [← h.names]
    exact List.mem_toFinset.mpr hmem
  exact {
    materials := List.rel_append h.materials (List.Forall₂.cons hmaterial List.Forall₂.nil)
    distinct := by
      rw [List.map_append, List.map_singleton]
      exact List.nodup_append_comm.mp (List.nodup_cons.mpr ⟨hnew, h.distinct⟩)
    names := by
      rw [List.map_append, List.map_singleton, List.toFinset_append, h.names]
      ext name
      simp }

/-- The materials are those of the inputs, one for each target that has a profile. -/
theorem prepareProvisioningMaterials_prepared {prepared : PreparedProvisioningMaterials}
    (h : prepareProvisioningMaterials tools request = .ok prepared) :
    request.signingPlan.validate = .ok () ∧ ∃ team, request.signingPlan.team = some team ∧
      Preparing tools request team.expected request.profiles
        (requiredTargets request.signingPlan, prepared.profiles) := by
  simp only [prepareProvisioningMaterials, bind_eq_ok, mapError_eq_ok, ofOption_eq_ok] at h
  obtain ⟨_, hplan, _, -, _, -, team, hteam, _, -, _, -, loop, hloop, _, hseen, hprepared⟩ := h
  obtain ⟨seen, materials⟩ := loop
  cases hprepared
  have hpreparing : Preparing tools request team.expected request.profiles (seen, materials) :=
    foldlM_through (fun _ _ _ _ hinv hstep => hinv.step hstep) .init hloop
  have hrequired : seen = requiredTargets request.signingPlan := by
    simpa using hseen
  rw [hrequired] at hpreparing
  exact ⟨hplan, team, hteam, hpreparing⟩

/-! ## Mapping -/

/-- What is known of the mapping of the materials so far. -/
structure Mapped (plan : SigningPlan) (materials : List ProvisioningProfileMaterial)
    (mapping : Mapping) : Prop where
  names : mapping.1 = (materials.map (·.targetName)).toFinset
  profiles : ∀ material ∈ materials, ∀ target,
    (targetsByName plan).lookup material.targetName = some target →
    mapping.2.lookup target.bundleIdentifier.value = some material.profile.uuid

theorem eq_of_bundleIdentifier_value {a b : BundleIdentifier} (h : a.value = b.value) : a = b := by
  obtain ⟨value, hvalid⟩ := a
  obtain ⟨value', hvalid'⟩ := b
  obtain rfl : value = value' := h
  rfl

variable {front : List ProvisioningProfileMaterial}

/-- One profile more is mapped. -/
theorem Mapped.insert {plan : SigningPlan} (hplan : plan.validate = .ok ())
    {material : ProvisioningProfileMaterial}
    {mapping : Mapping} (h : Mapped plan front mapping)
    (hnew : material.targetName ∉ front.map (·.targetName)) {target : SigningTarget}
    (htarget : (targetsByName plan).lookup material.targetName = some target) :
    Mapped plan (front ++ [material]) (insert material.targetName mapping.1,
      BTreeMap.insert target.bundleIdentifier.value material.profile.uuid mapping.2) where
  names := by
    rw [List.map_append, List.map_singleton, List.toFinset_append, ← h.names]
    ext name
    simp
  profiles := by
    intro other hother otherTarget hlookup
    rw [BTreeMap.lookup_insert]
    obtain hfront | hlast := List.mem_append.mp hother
    · -- an earlier material has another target, so another bundle identifier
      have hne : otherTarget.bundleIdentifier.value ≠ target.bundleIdentifier.value := by
        intro hvalue
        obtain ⟨hmem, hname⟩ := of_lookup_targetsByName htarget
        obtain ⟨hmem', hname'⟩ := of_lookup_targetsByName hlookup
        have hsame := eq_of_not_differ hplan hmem' hmem
          (Or.inr (eq_of_bundleIdentifier_value hvalue))
        apply hnew
        rw [← hname, ← hsame, hname']
        exact List.mem_map.mpr ⟨other, hfront, rfl⟩
      rw [if_neg hne]
      exact h.profiles other hfront otherTarget hlookup
    · obtain rfl := List.mem_singleton.mp hlast
      rw [htarget] at hlookup
      rw [Option.some.inj hlookup, if_pos rfl]

variable {prepared : PreparedProvisioningMaterials} {team : DevelopmentTeamPlan}

theorem mapProfile_prepared (hplan : request.signingPlan.validate = .ok ())
    {input : ProfileSecretInput} {mapping : Mapping}
    (hmaterial : Prepared tools request team.expected input material)
    (hnew : material.targetName ∉ front.map (·.targetName))
    (h : Mapped request.signingPlan front mapping) :
    ∃ mapping', mapProfile (exportRequest request prepared team) mapping material =
      .ok mapping' ∧ Mapped request.signingPlan (front ++ [material]) mapping' := by
  obtain ⟨target, htarget, hbundle⟩ := hmaterial.target
  have hfresh : material.targetName ∉ mapping.1 := by
    rw [h.names]
    exact fun hmem => hnew (List.mem_toFinset.mp hmem)
  refine ⟨_, ?_, h.insert hplan hnew htarget⟩
  simp only [mapProfile, exportRequest, bind_eq_ok, ofOption_eq_ok]
  refine ⟨target, htarget, (), ?_, rfl⟩
  rw [rejectIf_eq_ok]
  simp [hmaterial.required, hfresh, hbundle, hmaterial.team, hmaterial.fingerprint]

/-- What was prepared is mapped: each bundle identifier to the profile of its target. -/
theorem profileMapping_prepared
    (hplan : request.signingPlan.validate = .ok ())
    (h : Preparing tools request team.expected request.profiles
      (requiredTargets request.signingPlan, prepared.profiles)) :
    ∃ mapping, profileMapping (exportRequest request prepared team) = .ok mapping ∧
      ∀ material ∈ prepared.profiles, ∀ target,
        (targetsByName request.signingPlan).lookup material.targetName = some target →
        mapping.lookup target.bundleIdentifier.value = some material.profile.uuid := by
  obtain ⟨loop, hloop, hmapped⟩ := @foldlM_progress _ _ _ prepared.profiles
    (mapProfile (exportRequest request prepared team)) (∅, [])
    (Mapped request.signingPlan) (by
      intro front material rest mapping hsplit hmapped
      have hmem : material ∈ prepared.profiles := by
        rw [hsplit]
        exact List.mem_append_right _ List.mem_cons_self
      obtain ⟨input, hmaterial⟩ := h.materials.exists_of_mem_right hmem
      apply mapProfile_prepared hplan hmaterial _ hmapped
      have hdistinct := h.distinct
      rw [hsplit, List.map_append, List.map_cons] at hdistinct
      intro hmem
      exact List.disjoint_of_nodup_append hdistinct hmem List.mem_cons_self)
    ⟨rfl, fun _ hmem => absurd hmem List.not_mem_nil⟩
  obtain ⟨seen, mapping⟩ := loop
  have hseen : seen = requiredTargets request.signingPlan := hmapped.names.trans h.names
  refine ⟨mapping, ?_, hmapped.profiles⟩
  simp only [profileMapping, bind_eq_ok]
  refine ⟨(seen, mapping), hloop, (), ?_, rfl⟩
  rw [rejectIf_eq_ok, hseen]
  simp [exportRequest]

/-! ## Installation -/

theorem utf8Size_toLower (c : Char) : c.toLower.utf8Size = c.utf8Size := by
  unfold Char.toLower
  split
  · rename_i h
    -- a letter and its lower case both have one byte
    have hupper : c.val.toNat ≤ 90 := h.2
    have hlow : c.utf8Size = 1 := by
      rw [Char.utf8Size_eq_one_iff, UInt32.le_iff_toNat_le]
      exact Nat.le_trans hupper (by decide)
    rw [hlow, Char.utf8Size_eq_one_iff, UInt32.le_iff_toNat_le]
    show (c.val + 32).toNat ≤ 127
    rw [UInt32.toNat_add]
    show (c.val.toNat + 32) % 2 ^ 32 ≤ 127
    omega
  · rfl

theorem textSize_toLower (text : List Char) :
    Json.textSize (text.map Char.toLower) = Json.textSize text := by
  induction text with
  | nil => rfl
  | cons c text ih => rw [List.map_cons, Json.textSize_cons, Json.textSize_cons, ih,
      utf8Size_toLower]

theorem Volume.utf8ByteSize_key (volume : Volume) (name : String) :
    (volume.key name).utf8ByteSize = name.utf8ByteSize := by
  cases volume with
  | caseSensitive => rfl
  | caseInsensitive =>
    rw [Volume.key, Json.utf8ByteSize_ofList, textSize_toLower, ← Json.utf8ByteSize_ofList,
      String.ofList_toList]

/-- The name of a profile's file is that of a file below the directory. -/
theorem profileFileName_valid {uuid : String} (h : isProfileIdentifier uuid = true) :
    (profileFileName uuid == "" || profileFileName uuid == "." || profileFileName uuid == ".." ||
      (profileFileName uuid).toList.contains '/') = false ∧
    ∀ volume : Volume, (volume.key (profileFileName uuid)).utf8ByteSize ≤
      Directory.maxNameBytes := by
  simp only [isProfileIdentifier, Bool.and_eq_true, decide_eq_true_eq] at h
  obtain ⟨⟨⟨⟨-, hsize⟩, hchars⟩, -⟩, -⟩ := h
  have hext : ".mobileprovision".utf8ByteSize = 16 := by decide
  have hbytes : (profileFileName uuid).utf8ByteSize = uuid.utf8ByteSize + 16 := by
    rw [profileFileName, String.utf8ByteSize_append, hext]
  have hshort : ∀ name : String, name.utf8ByteSize < 16 → profileFileName uuid ≠ name := by
    intro name hname heq
    rw [← heq] at hname
    omega
  constructor
  · have hslash : '/' ∉ (profileFileName uuid).toList := by
      intro hmem
      rw [profileFileName, String.toList_append] at hmem
      obtain hmem | hmem := List.mem_append.mp hmem
      · exact absurd (List.all_eq_true.mp hchars '/' hmem) (by decide)
      · exact absurd hmem (by decide)
    simp [hshort "" (by decide), hshort "." (by decide), hshort ".." (by decide), hslash]
  · intro volume
    rw [volume.utf8ByteSize_key, hbytes]
    show uuid.utf8ByteSize + 16 ≤ 255
    omega

/-- The name under which the file of a profile is found. -/
def installedName (volume : Volume) (material : ProvisioningProfileMaterial) : String :=
  volume.key (profileFileName material.profile.uuid)

theorem writePrivateNewFile_profile {directory directory' : Directory}
    (h : isProfileIdentifier material.profile.uuid = true) :
    writePrivateNewFile volume directory (profileFileName material.profile.uuid)
        material.encodedProfile = .ok directory' ↔
      directory.find (installedName volume material) = none ∧
        directory' = (directory.put (installedName volume material) []).put
          (installedName volume material) material.encodedProfile := by
  obtain ⟨hvalid, hsize⟩ := profileFileName_valid h
  have hcreate := directory.createNew_of_short (hsize volume)
  simp only [writePrivateNewFile, hvalid, hcreate, installedName]
  by_cases hfind : directory.find (volume.key (profileFileName material.profile.uuid)) = none
  · rw [if_pos hfind]
    simp [rejectIf, bind, Except.bind, Except.mapError, pure, Except.pure, hfind, eq_comm]
  · rw [if_neg hfind]
    simp [rejectIf, bind, Except.bind, Except.mapError, hfind]

variable {materials : List ProvisioningProfileMaterial}

/-- Profiles are installed when their files are new and distinct. -/
theorem installs_iff
    (hvalid : ∀ material ∈ materials, isProfileIdentifier material.profile.uuid = true)
    (directory : Directory) :
    (∃ directory', materials.foldlM (fun directory material =>
        writePrivateNewFile volume directory (profileFileName material.profile.uuid)
          material.encodedProfile) directory = Except.ok directory') ↔
      (materials.map (installedName volume)).Nodup ∧
        ∀ material ∈ materials, directory.find (installedName volume material) = none := by
  induction materials generalizing directory with
  | nil => exact ⟨fun _ => ⟨List.nodup_nil, fun _ h => absurd h List.not_mem_nil⟩,
      fun _ => ⟨directory, rfl⟩⟩
  | cons material materials ih =>
    have hfirst := hvalid material List.mem_cons_self
    have hrest : ∀ m ∈ materials, isProfileIdentifier m.profile.uuid = true :=
      fun m hm => hvalid m (List.mem_cons_of_mem _ hm)
    simp only [List.foldlM_cons, bind_eq_ok, List.map_cons, List.nodup_cons, List.forall_mem_cons]
    constructor
    · intro h
      obtain ⟨directory', next, hwrite, hloop⟩ := h
      obtain ⟨hfind, rfl⟩ := (writePrivateNewFile_profile hfirst).mp hwrite
      obtain ⟨hnodup, hothers⟩ := (ih hrest _).mp ⟨directory', hloop⟩
      -- the file of the first profile is there when the others are written
      have hne : ∀ m ∈ materials, installedName volume m ≠ installedName volume material := by
        intro m hm heq
        have hfound := hothers m hm
        rw [Directory.find_put, if_pos heq] at hfound
        cases hfound
      refine ⟨⟨?_, hnodup⟩, hfind, ?_⟩
      · intro hmem
        obtain ⟨m, hm, heq⟩ := List.mem_map.mp hmem
        exact hne m hm heq
      · intro m hm
        have hfound := hothers m hm
        rw [Directory.find_put, if_neg (hne m hm), Directory.find_put, if_neg (hne m hm)] at hfound
        exact hfound
    · intro h
      obtain ⟨⟨hnew, hnodup⟩, hfind, hothers⟩ := h
      have hloop := (ih hrest ((directory.put (installedName volume material) []).put
        (installedName volume material) material.encodedProfile)).mpr ⟨hnodup, by
          intro m hm
          have hne : installedName volume m ≠ installedName volume material :=
            fun heq => hnew (List.mem_map.mpr ⟨m, hm, heq⟩)
          rw [Directory.find_put, if_neg hne, Directory.find_put, if_neg hne]
          exact hothers m hm⟩
      obtain ⟨directory', hloop⟩ := hloop
      exact ⟨directory', _, (writePrivateNewFile_profile hfirst).mpr ⟨hfind, rfl⟩, hloop⟩

/-! ## Export -/

/-- What was prepared can be exported: the mapping has the profile of each target, and the profiles
    can be installed in a fresh home directory. -/
structure Exports (volume : Volume) (request : ProvisioningMaterialRequest)
    (prepared : PreparedProvisioningMaterials) (team : DevelopmentTeamPlan) : Prop where
  mapping : ∃ mapping, profileMapping (exportRequest request prepared team) = .ok mapping ∧
    ∀ target ∈ request.signingPlan.targets, hasProfile target = true →
      ∃ material ∈ prepared.profiles, material.targetName = target.name ∧
        mapping.lookup target.bundleIdentifier.value = some material.profile.uuid
  installed : ∃ directory,
    installProfiles volume (exportRequest request prepared team) .empty = .ok directory

/-- The file to which the profile in an input is written. -/
def profileFile (volume : Volume) (tools : ProvisioningTools) (input : ProfileSecretInput) :
    Except ProvisioningMaterialError String :=
  (readProfile tools input).map fun profile => volume.key (profileFileName profile.uuid)

theorem map_profileFile {inputs : List ProfileSecretInput}
    (h : List.Forall₂ (Prepared tools request team.expected) inputs materials) :
    inputs.map (profileFile volume tools) =
      (materials.map (installedName volume)).map Except.ok := by
  induction h with
  | nil => rfl
  | cons hmaterial _ ih =>
    rw [List.map_cons, List.map_cons, List.map_cons, ih, profileFile, hmaterial.profile]
    rfl

theorem ok_injective {ε α : Type} : Function.Injective (Except.ok : α → Except ε α) := by
  intro a b h
  exact Except.ok.inj h

/-- The prepared profiles that can be exported are those that have distinct files. -/
theorem exports_iff (volume : Volume) (hteam : request.signingPlan.team = some team)
    (h : prepareProvisioningMaterials tools request = .ok prepared) :
    Exports volume request prepared team ↔
      (request.profiles.map (profileFile volume tools)).Nodup := by
  obtain ⟨hplan, team', hteam', hprepared⟩ := prepareProvisioningMaterials_prepared h
  obtain rfl : team' = team := Option.some.inj (hteam'.symm.trans hteam)
  have hvalid : ∀ material ∈ prepared.profiles, isProfileIdentifier material.profile.uuid = true :=
    fun material hmem => (hprepared.materials.exists_of_mem_right hmem).choose_spec.identifier
  have hinstalls : (∃ directory,
      installProfiles volume (exportRequest request prepared team') .empty = .ok directory) ↔
      (request.profiles.map (profileFile volume tools)).Nodup := by
    rw [map_profileFile hprepared.materials, List.nodup_map_iff ok_injective]
    apply (installs_iff hvalid .empty).trans
    exact ⟨fun hdistinct => hdistinct.1, fun hdistinct => ⟨hdistinct, fun _ _ => rfl⟩⟩
  constructor
  · intro hexports
    exact hinstalls.mp hexports.installed
  · intro hdistinct
    obtain ⟨mapping, hmapping, hprofiles⟩ := profileMapping_prepared hplan hprepared
    refine ⟨⟨mapping, hmapping, ?_⟩, hinstalls.mpr hdistinct⟩
    intro target htarget hprofile
    -- the target is required, so it has a material
    have hrequired : target.name ∈ requiredTargets request.signingPlan :=
      List.mem_toFinset.mpr (List.mem_map.mpr ⟨target, List.mem_filter.mpr ⟨htarget, hprofile⟩, rfl⟩)
    have hnames : (prepared.profiles.map (·.targetName)).toFinset =
        requiredTargets request.signingPlan := hprepared.names
    rw [← hnames] at hrequired
    obtain ⟨material, hmaterial, hname⟩ := List.mem_map.mp (List.mem_toFinset.mp hrequired)
    refine ⟨material, hmaterial, hname, hprofiles material hmaterial target ?_⟩
    rw [hname]
    exact lookup_targetsByName hplan htarget

end

end

/-! ## A shared profile -/

namespace ExportSample

open Sample

/-- A wildcard profile for the application and its extension. -/
def wildcardProfile : ProvisioningProfile where
  uuid := "profile-1"
  name := "Profile"
  team := team
  applicationIdentifier := "ABCDE12345.com.example.*"
  bundleIdentifierPattern := "com.example.*"
  wildcard := true
  createdAtUnixSeconds := 1
  expiresAtUnixSeconds := 3
  deviceUdidSha256s := [device.udidSha256]
  entitlements := {
    values := [
      ("application-identifier", .string "ABCDE12345.com.example.*"),
      ("get-task-allow", .bool true)]
    canonical := by decide
    valid := by decide }
  platforms := {.ios}
  profileType := .development
  certificateFingerprints := [fingerprint]

def otherProfile : ProvisioningProfile := { wildcardProfile with uuid := "profile-2" }

/-- The encoded profile is one byte. -/
def tools : ProvisioningTools where
  checkDirectories := .ok ()
  decodeCmsProfile input := .ok input.encodedProfile
  parseDecodedProvisioningProfile decoded :=
    if decoded = [1] then some wildcardProfile
    else if decoded = [2] then some otherProfile else none

def reference : SecretReference := ⟨.worker, "key", by decide⟩

def certificate : SigningCertificate := ⟨"Certificate", fingerprint, team, 3⟩

def extensionTarget : Remote.SigningTarget := ⟨"Share", ⟨"com.example.share", by decide⟩, .ext⟩

def noEntitlements : EntitlementSet := ⟨[], by decide, by decide⟩

def plan : SigningPlan where
  mode := .manualDevelopment
  signing := some ⟨⟨certificate, ⟨reference⟩⟩, some reference⟩
  team := some ⟨team⟩
  device := some device
  targets := [target, extensionTarget]
  provisioning := [⟨"App", reference, .development⟩, ⟨"Share", reference, .development⟩]
  entitlements := [⟨"App", noEntitlements⟩, ⟨"Share", noEntitlements⟩]
  allowProvisioningUpdates := false

def request : ProvisioningMaterialRequest where
  signingPlan := plan
  certificate := certificate
  profiles := [⟨"App", [1], by decide, by decide⟩, ⟨"Share", [1], by decide, by decide⟩]
  nowUnixSeconds := 2

def evidence (bundleIdentifier : String) : ValidatedProvisioningProfile where
  profileUuid := "profile-1"
  targetBundleIdentifier := bundleIdentifier
  teamIdentifier := "ABCDE12345"
  certificateSha256Fingerprint := fingerprint
  profileType := .development
  applicationGroups := ∅
  expiresAtUnixSeconds := 3

def prepared : PreparedProvisioningMaterials where
  profiles := [
    ⟨"App", wildcardProfile, evidence "com.example.app", [1], by decide⟩,
    ⟨"Share", wildcardProfile, evidence "com.example.share", [1], by decide⟩]
  decodedInputsRemoved := true

theorem provisioning_evaluates :
    prepareProvisioningMaterials tools request = .ok prepared ∧
      profileMapping (exportRequest request prepared ⟨team⟩) =
        .ok [("com.example.app", "profile-1"), ("com.example.share", "profile-1")] := by
  decide +kernel

theorem prepare_request : prepareProvisioningMaterials tools request = .ok prepared :=
  provisioning_evaluates.1

/-- The profile that the application shares with its extension is prepared for both and mapped, but
    it is not installed. -/
theorem shared_not_installed :
    prepareProvisioningMaterials tools request = .ok prepared ∧
    profileMapping (exportRequest request prepared ⟨team⟩) =
      .ok [("com.example.app", "profile-1"), ("com.example.share", "profile-1")] ∧
    installProfiles .caseSensitive (exportRequest request prepared ⟨team⟩) .empty =
      .error (.io "create private export file" .alreadyExists) :=
  ⟨prepare_request, provisioning_evaluates.2, by rfl⟩

/-- The extension has a profile of its own. -/
def ownRequest : ProvisioningMaterialRequest :=
  { request with profiles :=
    [⟨"App", [1], by decide, by decide⟩, ⟨"Share", [2], by decide, by decide⟩] }

def ownPrepared : PreparedProvisioningMaterials :=
  { prepared with profiles := [
    ⟨"App", wildcardProfile, evidence "com.example.app", [1], by decide⟩,
    ⟨"Share", otherProfile,
      { evidence "com.example.share" with profileUuid := "profile-2" }, [2], by decide⟩] }

theorem prepare_ownRequest : prepareProvisioningMaterials tools ownRequest = .ok ownPrepared := by
  decide +kernel

/-- The general condition says so of the shared profile, and that two profiles are exported. -/
theorem exports_iff_shared : ¬ Exports .caseSensitive request prepared ⟨team⟩ ∧
    Exports .caseSensitive ownRequest ownPrepared ⟨team⟩ := by
  constructor
  · intro hexports
    have hdistinct := (exports_iff .caseSensitive rfl prepare_request).mp hexports
    exact (List.nodup_cons.mp hdistinct).1 List.mem_cons_self
  · exact (exports_iff .caseSensitive rfl prepare_ownRequest).mpr (by decide)

end ExportSample

end RustFerry.Worker
