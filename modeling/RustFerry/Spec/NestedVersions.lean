import RustFerry.Native.BuildRequest
import RustFerry.Native.Ipa

/-!
# Nested bundle versions in the two inspectors

The unsigned inspection requires version `1.0` and build number `1` of every nested
framework, the IPA inspection the version and build number of the application. A request
therefore passes the version rules of both only for an application `1.0` with build
number `1`, since the runtime bridge framework is always there.
-/

namespace RustFerry.Artifact

open Remote Except

section

variable {nested : UnsignedNestedBundleExpectation}

variable {tools : InspectionTools} {filesystem : ArtifactFilesystem}
  {expectation : UnsignedXcarchiveExpectation}

/-! ## The expectation of the unsigned inspection -/

/-- What the checks on the expectation say about a nested bundle. -/
structure NestedExpectationOk (nested : UnsignedNestedBundleExpectation) : Prop where
  portable : validatePortableRelativePath "nested bundle" nested.relativePath = .ok ()
  extension : hasAsciiExtension nested.relativePath nested.kind.pathExtension = true

/-- What is checked of one nested bundle. -/
private theorem validateNestedExpectation_eq_ok {seen seen' : NestedIdentities}
    (h : validateNestedExpectation tools seen nested = .ok seen') :
    NestedExpectationOk nested ∧
      canonicalArchiveKey tools nested.relativePath ∉ seen.canonicalPaths ∧
      seen'.canonicalPaths =
        canonicalArchiveKey tools nested.relativePath :: seen.canonicalPaths := by
  simp only [validateNestedExpectation, bind_eq_ok, rejectIf_eq_ok, pure, Except.pure,
    Except.ok.injEq, Bool.not_eq_false', List.contains_eq_mem, decide_eq_false_iff_not] at h
  obtain ⟨⟨⟩, hportable, -, -, -, hext, -, -, -, hnew, -, -, rfl⟩ := h
  exact ⟨⟨hportable, hext⟩, hnew, rfl⟩

/-- An accepted expectation has each nested path once. -/
private theorem foldlM_validateNestedExpectation {nested : List UnsignedNestedBundleExpectation}
    {seen seen' : NestedIdentities}
    (h : nested.foldlM (validateNestedExpectation tools) seen = .ok seen') :
    (∀ bundle ∈ nested, NestedExpectationOk bundle ∧
      canonicalArchiveKey tools bundle.relativePath ∉ seen.canonicalPaths) ∧
    nested.Pairwise fun a b => a.relativePath ≠ b.relativePath := by
  induction nested generalizing seen with
  | nil => exact ⟨by simp, List.Pairwise.nil⟩
  | cons bundle nested ih =>
    rw [List.foldlM_cons, bind_eq_ok] at h
    obtain ⟨middle, hstep, hrest⟩ := h
    obtain ⟨hok, hnew, hpaths⟩ := validateNestedExpectation_eq_ok hstep
    obtain ⟨hall, hpairwise⟩ := ih hrest
    rw [hpaths] at hall
    constructor
    · intro b hb
      rcases List.mem_cons.mp hb with rfl | hb
      · exact ⟨hok, hnew⟩
      · exact ⟨(hall b hb).1, fun hmem => (hall b hb).2 (List.mem_cons_of_mem _ hmem)⟩
    · -- equal paths would have equal collision keys
      apply List.Pairwise.cons _ hpairwise
      intro b hb heq
      apply (hall b hb).2
      rw [← heq]
      exact List.mem_cons_self

/-- The facts about an accepted expectation that the version rules rest on. -/
structure ExpectationOk (expectation : UnsignedXcarchiveExpectation) : Prop where
  nested : ∀ bundle ∈ expectation.nestedBundles, NestedExpectationOk bundle
  distinct : (expectation.nestedBundles.map (·.relativePath)).Nodup
  bridge : ∃ bundle ∈ expectation.nestedBundles, bundle.relativePath = runtimeBridgeBundlePath

/-- What is checked of the expectation. -/
private theorem validateUnsignedExpectation_eq_ok
    (h : validateUnsignedExpectation tools expectation = .ok ()) : ExpectationOk expectation := by
  simp only [validateUnsignedExpectation, bind_eq_ok] at h
  obtain ⟨-, -, ⟨⟩, hnested, -⟩ := h
  simp only [validateNestedExpectations, bind_eq_ok, rejectIf_eq_ok, Bool.not_eq_false',
    UnsignedXcarchiveExpectation.hasNested, List.any_eq_true, beq_iff_eq] at hnested
  obtain ⟨seen, hfold, -, hbridge, -⟩ := hnested
  obtain ⟨hall, hdistinct⟩ := foldlM_validateNestedExpectation hfold
  exact ⟨fun bundle hb => (hall bundle hb).1, List.pairwise_map.mpr hdistinct, hbridge⟩

/-- The path of a nested bundle determines it. -/
private theorem ExpectationOk.eq_of_relativePath_eq (h : ExpectationOk expectation)
    {a b : UnsignedNestedBundleExpectation} (ha : a ∈ expectation.nestedBundles)
    (hb : b ∈ expectation.nestedBundles) (heq : a.relativePath = b.relativePath) : a = b :=
  List.inj_on_of_nodup_map h.distinct ha hb heq

/-- The runtime bridge is a framework, by its extension. -/
private theorem ExpectationOk.bridge_kind (h : ExpectationOk expectation)
    {bundle : UnsignedNestedBundleExpectation} (hb : bundle ∈ expectation.nestedBundles)
    (hpath : bundle.relativePath = runtimeBridgeBundlePath) : bundle.kind = .framework := by
  have hext := (h.nested bundle hb).extension
  rw [hpath] at hext
  cases hkind : bundle.kind with
  | framework => rfl
  | appExtension =>
    rw [hkind] at hext
    exact absurd hext (by decide)

/-! ## The nested bundles of an accepted directory -/

/-- What an accepted directory records about a nested bundle. -/
structure NestedBundleOk (tools : InspectionTools) (filesystem : ArtifactFilesystem)
    (expectation : UnsignedXcarchiveExpectation) (nested : UnsignedNestedBundleExpectation)
    (info : Dictionary) : Prop where
  plist : readFilesystemPlist tools filesystem (nested.relativePath ++ "/Info.plist") = .ok info
  bundleIdentifier : lookupString info "CFBundleIdentifier" = some nested.bundleIdentifier
  executable : lookupString info "CFBundleExecutable" = some nested.executable
  version : lookupString info "CFBundleShortVersionString" =
    some (nestedVersions expectation nested.kind).1
  build : lookupString info "CFBundleVersion" = some (nestedVersions expectation nested.kind).2

/-- A plist has an expected text. -/
private theorem validatePlistString_eq_ok {dictionary : Dictionary}
    {context key expected : String} {u : Unit} :
    validatePlistString dictionary context key expected = .ok u ↔
      lookupString dictionary key = some expected := by
  simp only [validatePlistString, bind_eq_ok, rejectIf_eq_ok, requiredPlistString]
  cases hlookup : lookupString dictionary key with
  | none => simp [invalidAppleBundle]
  | some actual => simp

/-- What is known of an accepted nested bundle. -/
private theorem inspectUnsignedNestedBundle_eq_ok
    (nested : UnsignedNestedBundleExpectation)
    (h : inspectUnsignedNestedBundle tools filesystem expectation nested.relativePath nested =
      .ok ()) :
    ∃ info, NestedBundleOk tools filesystem expectation nested info := by
  simp only [inspectUnsignedNestedBundle, bind_eq_ok, validatePlistString_eq_ok] at h
  obtain ⟨info, hplist, -, hid, -, hexec, -, -, -, hversion, -, hbuild, -⟩ := h
  exact ⟨info, hplist, hid, hexec, hversion, hbuild⟩

variable {inspection : UnsignedAppInspection}

/-- The checks of an accepted directory on its name and its nested bundles. -/
private theorem inspectUnsignedAppBundleFromCapability_eq_ok
    (h : inspectUnsignedAppBundleFromCapability tools filesystem expectation = .ok inspection) :
    filesystem.directoryName = expectation.appDirectoryName ∧
    ∀ entry ∈ nestedByPath expectation.nestedBundles,
      inspectUnsignedNestedBundle tools filesystem expectation entry.1 entry.2 = .ok () := by
  unfold inspectUnsignedAppBundleFromCapability at h
  obtain ⟨_, hname, h⟩ := bind_eq_ok.mp h
  obtain ⟨tree, -, h⟩ := bind_eq_ok.mp h
  obtain ⟨info, -, h⟩ := bind_eq_ok.mp h
  obtain ⟨-, -, h⟩ := bind_eq_ok.mp h
  obtain ⟨-, -, h⟩ := bind_eq_ok.mp h
  obtain ⟨-, -, h⟩ := bind_eq_ok.mp h
  obtain ⟨_, hnested, -⟩ := bind_eq_ok.mp h
  rw [rejectIf_eq_ok, bne_eq_false_iff_eq] at hname
  exact ⟨hname, forM_eq_ok.mp hnested⟩

/-- Every nested bundle of an accepted directory has been checked. -/
private theorem nestedBundleOk_of_forall (hexpectation : ExpectationOk expectation)
    (hnested : ∀ entry ∈ nestedByPath expectation.nestedBundles, inspectUnsignedNestedBundle tools
      filesystem expectation entry.1 entry.2 = .ok ())
    (hmem : nested ∈ expectation.nestedBundles) :
    ∃ info, NestedBundleOk tools filesystem expectation nested info := by
  have hentry : (nested.relativePath, nested) ∈
      expectation.nestedBundles.map fun bundle => (bundle.relativePath, bundle) :=
    List.mem_map.mpr ⟨nested, hmem, rfl⟩
  -- the map of the inspector holds some bundle at this path, and paths are distinct
  obtain ⟨other, hother⟩ := BTreeMap.exists_mem_ofList hentry
  obtain ⟨bundle, hbundle, heq⟩ := List.mem_map.mp (BTreeMap.mem_of_mem_ofList hother)
  obtain ⟨hpath, rfl⟩ := Prod.mk.inj heq
  obtain rfl := hexpectation.eq_of_relativePath_eq hbundle hmem hpath
  have hchecked := hnested (bundle.relativePath, bundle) hother
  exact inspectUnsignedNestedBundle_eq_ok bundle hchecked

/-- What acceptance of a directory says about its nested bundles. -/
theorem inspectUnsignedAppBundle_nested
    (h : inspectUnsignedAppBundle tools filesystem expectation = .ok inspection) :
    filesystem.directoryName = expectation.appDirectoryName ∧ ExpectationOk expectation ∧
    ∀ nested ∈ expectation.nestedBundles,
      ∃ info, NestedBundleOk tools filesystem expectation nested info := by
  obtain ⟨_, hexpectation, hbundle⟩ := bind_eq_ok.mp h
  have hok := validateUnsignedExpectation_eq_ok hexpectation
  obtain ⟨hname, hnested⟩ := inspectUnsignedAppBundleFromCapability_eq_ok hbundle
  exact ⟨hname, hok, fun nested hmem => nestedBundleOk_of_forall hok hnested hmem⟩

/-! ## Reading the packed files -/

variable {relative : String} {appPath : String}

/-- Only a path that ends in a slash can be confused with that of a directory. -/
private theorem relative_eq_of_packEntry_name_eq
    {entry : DirectoryEntry} (hrelative : ¬ ['/'] <:+ relative.toList)
    (h : (packEntry appPath entry).name = appPath ++ "/" ++ relative) :
    entry.relative = relative := by
  have hchars := congrArg String.toList h
  unfold packEntry at hchars
  split at hchars
  · simp only [String.toList_append, List.append_assoc, List.append_cancel_left_eq] at hchars
    exact absurd ⟨entry.relative.toList, hchars⟩ hrelative
  · simp only [String.toList_append, List.append_cancel_left_eq] at hchars
    exact String.toList_inj.mp hchars
  · simp only [String.toList_append, List.append_cancel_left_eq] at hchars
    exact String.toList_inj.mp hchars

/-- The file that a successful read has found. -/
private theorem readCheckedFile_eq_ok {bytes : List UInt8} {limit : Nat}
    (h : readCheckedFile filesystem relative limit = .ok bytes) :
    bytes.length ≤ limit ∧ ∃ entry, entry.kind = .file bytes ∧
      filesystem.entries.find? (fun entry => entry.relative == relative) = some entry := by
  unfold readCheckedFile at h
  obtain ⟨_, -, h⟩ := bind_eq_ok.mp h
  split at h
  · rename_i depth mode nlink content hfind
    simp only [bind_eq_ok, rejectIf_eq_ok, pure, Except.pure, Except.ok.injEq,
      decide_eq_false_iff_not, Nat.not_lt] at h
    obtain ⟨-, -, -, -, -, hlimit, rfl⟩ := h
    exact ⟨hlimit, _, rfl, hfind⟩
  · cases h
  · cases h

/-- A file of the directory is the first entry of its name in the packed IPA. -/
theorem readZipEntry_packIpa {bytes : List UInt8} {limit : Nat}
    (fileBytes : List UInt8) (hrelative : ¬ ['/'] <:+ relative.toList)
    (hlimit : limit ≤ maxIpaEntrySize)
    (h : readCheckedFile filesystem relative limit = .ok bytes) :
    "Payload/" ++ filesystem.directoryName ++ "/" ++ relative ∈
        (packIpa filesystem).map ZipEntry.name ∧
      readZipEntry ⟨fileBytes, packIpa filesystem⟩
        ("Payload/" ++ filesystem.directoryName ++ "/" ++ relative) = .ok bytes := by
  obtain ⟨hsize, entry, hkind, hfind⟩ := readCheckedFile_eq_ok h
  obtain ⟨hhit, front, back, hentries, hmiss⟩ := List.find?_eq_some_iff_append.mp hfind
  have hpath : entry.relative = relative := by simpa using hhit
  have hpack : packEntry ("Payload/" ++ filesystem.directoryName) entry =
      { name := "Payload/" ++ filesystem.directoryName ++ "/" ++ relative
        unixMode := some (0x8000 + entry.mode), compressedSize := bytes.length
        size := bytes.length, bytes := some bytes } := by
    simp only [packEntry, hkind, hpath]
  have hlookup : (packIpa filesystem).find? (fun packed =>
      packed.name == "Payload/" ++ filesystem.directoryName ++ "/" ++ relative) =
        some (packEntry ("Payload/" ++ filesystem.directoryName) entry) := by
    rw [packIpa, List.find?_map, hentries, List.find?_eq_some_iff_append.mpr]
    · rfl
    refine ⟨by simp [hpack], front, back, rfl, ?_⟩
    intro other hother
    -- an earlier entry has another path, so it is packed under another name
    have hne := hmiss other hother
    simp only [Bool.not_eq_true', beq_eq_false_iff_ne, Function.comp] at hne ⊢
    intro hname
    exact hne (relative_eq_of_packEntry_name_eq hrelative hname)
  constructor
  · have hmem := List.mem_of_find?_eq_some hlookup
    exact List.mem_map.mpr ⟨_, hmem, by rw [hpack]⟩
  · have hfits : ¬ bytes.length > maxIpaEntrySize := by omega
    simp [readZipEntry, hlookup, hpack, rejectIf, hfits, bind, Except.bind, pure, Except.pure]

variable {info : Dictionary}

/-- A plist of the directory is read back from the packed IPA. -/
theorem readZipPlist_packIpa (fileBytes : List UInt8) (hrelative : ¬ ['/'] <:+ relative.toList)
    (h : readFilesystemPlist tools filesystem relative = .ok info) :
    "Payload/" ++ filesystem.directoryName ++ "/" ++ relative ∈
        (packIpa filesystem).map ZipEntry.name ∧
      readZipPlist tools ⟨fileBytes, packIpa filesystem⟩
        ("Payload/" ++ filesystem.directoryName ++ "/" ++ relative) = .ok info := by
  obtain ⟨bytes, hbytes, hparse⟩ := bind_eq_ok.mp h
  have hlimit : 16 * 1024 * 1024 ≤ maxIpaEntrySize := by decide
  obtain ⟨hmem, hread⟩ := readZipEntry_packIpa fileBytes hrelative hlimit hbytes
  refine ⟨hmem, ?_⟩
  simp only [readZipPlist, hread, bind, Except.bind]
  revert hparse
  cases tools.parsePlist bytes with
  | none => exact fun hparse => nomatch hparse
  | some plist =>
    cases plist with
    | dictionary entries => exact id
    | _ => exact fun hparse => nomatch hparse

/-! ## Locating a nested bundle in the IPA -/

variable {ipa : IpaExpectation} {archive : ZipArchive}

/-- The root of a nested bundle ends in its extension, so one `/Info.plist` is trimmed. -/
private theorem trimEndMatches_infoPlist {root : List Char}
    (hroot : ".appex".toList <:+ root ∨ ".framework".toList <:+ root) {fuel : Nat}
    (hfuel : 2 ≤ fuel) :
    Text.trimEndMatches infoPlistSuffix.toList fuel (root ++ infoPlistSuffix.toList) = root := by
  apply Text.trimEndMatches_append _ hfuel
  intro hagain
  rcases hroot with hext | hext
  · exact absurd (List.suffix_of_suffix_length_le hext hagain (by decide)) (by decide)
  · exact absurd (List.suffix_of_suffix_length_le hext hagain (by decide)) (by decide)

/-- The path of a nested `Info.plist` below the application. -/
private theorem isNestedInfoPlist_root {infoPath : String}
    (h : isNestedInfoPlist appPath infoPath = true) :
    ∃ root, infoPath.toList = root ++ infoPlistSuffix.toList ∧
      (".appex".toList <:+ root ∨ ".framework".toList <:+ root) := by
  simp only [isNestedInfoPlist, Bool.and_eq_true, Bool.or_eq_true, List.isSuffixOf_iff_suffix] at h
  have hsplit : ".appex/Info.plist".toList = ".appex".toList ++ infoPlistSuffix.toList ∧
      ".framework/Info.plist".toList = ".framework".toList ++ infoPlistSuffix.toList := by decide
  rw [hsplit.1, hsplit.2] at h
  rcases h.2 with ⟨front, hfront⟩ | ⟨front, hfront⟩
  · exact ⟨front ++ ".appex".toList, by rw [List.append_assoc, hfront],
      Or.inl (List.suffix_append _ _)⟩
  · exact ⟨front ++ ".framework".toList, by rw [List.append_assoc, hfront],
      Or.inr (List.suffix_append _ _)⟩

/-- A located bundle is an expected one, and its plist is the one at the expected path. -/
private theorem locateNestedBundle_eq_ok {infoPath : String} {bundle : LocatedBundle}
    (hname : isNestedInfoPlist appPath infoPath = true)
    (h : locateNestedBundle tools ipa archive appPath infoPath = .ok bundle) :
    ∃ nested ∈ ipa.nestedBundles,
      infoPath = appPath ++ "/" ++ (nested.relativePath ++ "/Info.plist") ∧
      readZipPlist tools archive infoPath = .ok bundle.info := by
  obtain ⟨root, hinfo, hroot⟩ := isNestedInfoPlist_root hname
  unfold locateNestedBundle at h
  obtain ⟨info, hplist, h⟩ := bind_eq_ok.mp h
  obtain ⟨executable, -, h⟩ := bind_eq_ok.mp h
  have hfuel : 2 ≤ infoPath.toList.length := by
    have hlength : infoPlistSuffix.toList.length = 11 := by decide
    simp only [hinfo, List.length_append, hlength]
    omega
  have htrim : Text.trimEndMatches infoPlistSuffix.toList infoPath.toList.length infoPath.toList =
      root := by
    generalize infoPath.toList.length = fuel at hfuel
    rw [hinfo, trimEndMatches_infoPlist hroot hfuel]
  simp only [htrim] at h
  split at h
  · cases h
  rename_i relative hstrip
  split at h
  · cases h
  rename_i nested hfind
  obtain ⟨identifier, -, h⟩ := bind_eq_ok.mp h
  obtain ⟨_, -, h⟩ := bind_eq_ok.mp h
  cases h
  refine ⟨nested, List.mem_of_find?_eq_some hfind, ?_, hplist⟩
  have hpath : nested.relativePath = String.ofList relative := by
    simpa using List.find?_some hfind
  -- put the path together again from what was stripped
  unfold Text.stripFront at hstrip
  split at hstrip
  · rename_i hfront
    obtain ⟨tail, htail⟩ := List.isPrefixOf_iff_prefix.mp hfront
    cases hstrip
    apply String.toList_inj.mp
    rw [← htail, List.drop_left] at hpath
    have hslash : "/".toList = ['/'] := rfl
    simp only [String.toList_append, hpath, String.toList_ofList, hslash, hinfo, ← htail,
      List.append_assoc]
    rfl
  · cases hstrip

/-- The version rules compare with the version and build number of the application. -/
private theorem validateNestedVersions_eq_ok {bundle : LocatedBundle}
    {appVersion buildNumber version build : String} (happVersion : ipa.appVersion = some appVersion)
    (hbuildNumber : ipa.buildNumber = some buildNumber)
    (hversion : lookupString bundle.info "CFBundleShortVersionString" = some version)
    (hbuild : lookupString bundle.info "CFBundleVersion" = some build) :
    validateNestedVersions ipa bundle = .ok () ↔ version = appVersion ∧ build = buildNumber := by
  simp only [validateNestedVersions, validateOptionalPlistString, happVersion, hbuildNumber,
    plistString, hversion, hbuild, bind_eq_ok, rejectIf_eq_ok, Except.ok.injEq,
    bne_eq_false_iff_eq]
  constructor
  · rintro ⟨_, ⟨_, rfl, rfl⟩, ⟨_, rfl, rfl⟩⟩
    exact ⟨rfl, rfl⟩
  · rintro ⟨rfl, rfl⟩
    exact ⟨(), ⟨_, rfl, rfl⟩, ⟨_, rfl, rfl⟩⟩

/-! ## The version rules -/

/-- The version rules of the IPA inspection reject none of the nested bundles that reach
them. -/
def NestedVersionsAccepted (tools : InspectionTools) (ipa : IpaExpectation)
    (archive : ZipArchive) : Prop :=
  ∀ infoPath ∈ nestedInfoPlists (expectedAppPath ipa) archive, ∀ bundle,
    locateNestedBundle tools ipa archive (expectedAppPath ipa) infoPath = .ok bundle →
      validateNestedVersions ipa bundle = .ok ()

/-- An accepted IPA meets the version rules. -/
theorem inspectIpa_nestedVersions {inspection : IpaInspection}
    (h : inspectIpa tools archive ipa = .ok inspection) :
    NestedVersionsAccepted tools ipa archive := by
  unfold inspectIpa at h
  obtain ⟨_, -, h⟩ := bind_eq_ok.mp h
  obtain ⟨scan, -, h⟩ := bind_eq_ok.mp h
  split at h
  · obtain ⟨_, happ, h⟩ := bind_eq_ok.mp h
    obtain ⟨application, -, h⟩ := bind_eq_ok.mp h
    obtain ⟨_, -, h⟩ := bind_eq_ok.mp h
    obtain ⟨_, -, h⟩ := bind_eq_ok.mp h
    obtain ⟨nested, hnested, -⟩ := bind_eq_ok.mp h
    rw [rejectIf_eq_ok, bne_eq_false_iff_eq] at happ
    rw [happ] at hnested
    -- every iteration of the loop has passed the rules
    have hstep : ∀ (scan : NestedScan) (infoPath : String) (scan' : NestedScan), True →
        inspectNestedBundle tools ipa archive (expectedAppPath ipa) scan infoPath = .ok scan' →
        True ∧ ∃ bundle,
          locateNestedBundle tools ipa archive (expectedAppPath ipa) infoPath = .ok bundle ∧
            validateNestedVersions ipa bundle = .ok () := by
      intro scan infoPath scan' _ hstep
      obtain ⟨bundle, hbundle, hrest⟩ := bind_eq_ok.mp hstep
      obtain ⟨_, hversions, -⟩ := bind_eq_ok.mp hrest
      exact ⟨trivial, bundle, hbundle, hversions⟩
    obtain ⟨-, hall⟩ := foldlM_eq_ok hstep trivial hnested
    intro infoPath hmem bundle hbundle
    obtain ⟨bundle', hbundle', hversions⟩ := hall infoPath hmem
    rw [hbundle] at hbundle'
    cases hbundle'
    exact hversions
  · cases h

/-- The path of the `Info.plist` of a nested bundle. -/
private def nestedInfoPath (appPath relative : String) : String :=
  appPath ++ "/" ++ (relative ++ "/Info.plist")

/-- The path of a nested plist. -/
private theorem toList_nestedInfoPath (appPath relative : String) :
    (nestedInfoPath appPath relative).toList =
      (appPath.toList ++ ['/'] ++ relative.toList) ++ infoPlistSuffix.toList := by
  simp only [nestedInfoPath, String.toList_append, List.append_assoc]
  rfl

section Framework

variable (appPath : String) {relative : String} (hext : ".framework".toList <:+ relative.toList)
include hext

/-- The trimmed and stripped path of a framework's plist is that of the framework. -/
private theorem stripFront_trimEndMatches_nestedInfoPath :
    Text.stripFront (appPath.toList ++ ['/'])
      (Text.trimEndMatches infoPlistSuffix.toList (nestedInfoPath appPath relative).toList.length
        (nestedInfoPath appPath relative).toList) = some relative.toList := by
  have hroot : ".framework".toList <:+ appPath.toList ++ ['/'] ++ relative.toList :=
    hext.trans (List.suffix_append _ _)
  have hlength : infoPlistSuffix.toList.length = 11 := by decide
  have hfuel : 2 ≤ (nestedInfoPath appPath relative).toList.length := by
    rw [toList_nestedInfoPath, List.length_append, hlength]
    omega
  generalize (nestedInfoPath appPath relative).toList.length = fuel at hfuel
  rw [toList_nestedInfoPath, trimEndMatches_infoPlist (Or.inr hroot) hfuel]
  have hfront := List.isPrefixOf_iff_prefix.mpr
    (List.prefix_append (appPath.toList ++ ['/']) relative.toList)
  rw [Text.stripFront, if_pos hfront, List.drop_left]

private theorem framework_infoPlist_suffix :
    ".framework/Info.plist".toList <:+ (nestedInfoPath appPath relative).toList := by
  have hsplit : ".framework/Info.plist".toList =
      ".framework".toList ++ infoPlistSuffix.toList := by decide
  obtain ⟨front, hfront⟩ := hext
  rw [toList_nestedInfoPath, hsplit, ← hfront]
  exact ⟨appPath.toList ++ ['/'] ++ front, by simp only [List.append_assoc]⟩

private theorem isNestedInfoPlist_nestedInfoPath :
    isNestedInfoPlist appPath (nestedInfoPath appPath relative) = true := by
  have hsuffix := framework_infoPlist_suffix appPath hext
  simp only [isNestedInfoPlist, Bool.and_eq_true, Bool.or_eq_true, List.isPrefixOf_iff_prefix,
    List.isSuffixOf_iff_suffix]
  refine ⟨?_, Or.inr hsuffix⟩
  rw [toList_nestedInfoPath, List.append_assoc]
  exact List.prefix_append _ _

private theorem nestedKind_nestedInfoPath :
    nestedKind (nestedInfoPath appPath relative) = .framework := by
  rw [nestedKind, if_neg]
  rw [List.isSuffixOf_iff_suffix]
  intro happex
  -- the longer of the two suffixes would end in the shorter one
  exact absurd (List.suffix_of_suffix_length_le happex (framework_infoPlist_suffix appPath hext)
    (by decide)) (by decide)

end Framework

/-- The expectation that is found at the path of a nested bundle is its own. -/
private theorem ExpectationOk.find?_relativePath (h : ExpectationOk expectation)
    (hmem : nested ∈ expectation.nestedBundles) :
    expectation.nestedBundles.find? (fun other => other.relativePath == nested.relativePath) =
      some nested := by
  cases hfound : expectation.nestedBundles.find? fun other =>
      other.relativePath == nested.relativePath with
  | none =>
    have hmiss := List.find?_eq_none.mp hfound nested hmem
    simp at hmiss
  | some other =>
    have hother : other.relativePath = nested.relativePath := by
      simpa using List.find?_some hfound
    rw [h.eq_of_relativePath_eq (List.mem_of_find?_eq_some hfound) hmem hother]

/-- A framework of an accepted directory is located in an IPA that has its plist. -/
private theorem locateNestedBundle_framework (hok : ExpectationOk expectation)
    (hnested : ipa.nestedBundles = expectation.nestedBundles)
    (hmem : nested ∈ expectation.nestedBundles) (hkind : nested.kind = .framework)
    (hext : ".framework".toList <:+ nested.relativePath.toList)
    (hinfo : NestedBundleOk tools filesystem expectation nested info)
    (hplist : readZipPlist tools archive (nestedInfoPath appPath nested.relativePath) = .ok info) :
    ∃ bundle, locateNestedBundle tools ipa archive appPath
      (nestedInfoPath appPath nested.relativePath) = .ok bundle ∧ bundle.info = info := by
  have hstrip := stripFront_trimEndMatches_nestedInfoPath appPath hext
  have hfind := hok.find?_relativePath hmem
  rw [← hnested] at hfind
  simp [locateNestedBundle, hplist, plistString, hinfo.executable, hinfo.bundleIdentifier,
    hstrip, hfind, nestedKind_nestedInfoPath appPath hext, hkind, bind, Except.bind, rejectIf, pure,
    Except.pure]

/-- The runtime bridge of an accepted directory reaches the version rules. -/
private theorem locateNestedBundle_bridge (fileBytes : List UInt8)
    (hok : ExpectationOk expectation) (hnested : ipa.nestedBundles = expectation.nestedBundles)
    (happ : expectedAppPath ipa = "Payload/" ++ filesystem.directoryName)
    {bridge : UnsignedNestedBundleExpectation} (hmem : bridge ∈ expectation.nestedBundles)
    (hpath : bridge.relativePath = runtimeBridgeBundlePath)
    (hinfo : NestedBundleOk tools filesystem expectation bridge info) :
    ∃ infoPath ∈ nestedInfoPlists (expectedAppPath ipa) ⟨fileBytes, packIpa filesystem⟩,
      ∃ bundle, locateNestedBundle tools ipa ⟨fileBytes, packIpa filesystem⟩ (expectedAppPath ipa)
        infoPath = .ok bundle ∧ bundle.info = info := by
  have hext : ".framework".toList <:+ bridge.relativePath.toList := by
    rw [hpath]
    decide
  have hslash : ¬ ['/'] <:+ (bridge.relativePath ++ "/Info.plist").toList := by
    rw [hpath]
    decide
  obtain ⟨hentry, hplist⟩ := readZipPlist_packIpa fileBytes hslash hinfo.plist
  rw [← happ] at hentry hplist
  have hkind := hok.bridge_kind hmem hpath
  refine ⟨nestedInfoPath (expectedAppPath ipa) bridge.relativePath, ?_, ?_⟩
  · exact List.mem_filter.mpr ⟨hentry, isNestedInfoPlist_nestedInfoPath _ hext⟩
  · exact locateNestedBundle_framework hok hnested hmem hkind hext hinfo hplist

/-- The fields of the client's expectation that the version rules read. -/
private theorem ipaExpectation_eq_ok {request : IosDeviceBuildRequest}
    (h : request.ipaExpectation tools = .ok ipa) :
    ipa.appDirectoryName = request.product.appDirectoryName ∧
      ipa.appVersion = some request.product.appVersion ∧
      ipa.buildNumber = some request.product.buildNumber ∧
      ipa.nestedBundles = request.product.nestedBundles := by
  obtain ⟨_, -, h⟩ := bind_eq_ok.mp h
  cases h
  exact ⟨rfl, rfl, rfl, rfl⟩

section Request

variable {request : IosDeviceBuildRequest} {sdk : DeviceSdk} {resources : List (String × String)}
  {inspection : UnsignedAppInspection} {fileBytes : List UInt8}

private theorem expectedAppPath_eq (hipa : request.ipaExpectation tools = .ok ipa)
    (hname : filesystem.directoryName =
      (request.archiveExpectation sdk resources).appDirectoryName) :
    expectedAppPath ipa = "Payload/" ++ filesystem.directoryName := by
  rw [hname, expectedAppPath, (ipaExpectation_eq_ok hipa).1]
  rfl

/-- The runtime bridge makes version `1.0` and build number `1` necessary. -/
theorem versions_eq_of_nestedVersionsAccepted (hipa : request.ipaExpectation tools = .ok ipa)
    (h : inspectUnsignedAppBundle tools filesystem (request.archiveExpectation sdk resources) =
      .ok inspection)
    (haccepted : NestedVersionsAccepted tools ipa ⟨fileBytes, packIpa filesystem⟩) :
    request.product.appVersion = "1.0" ∧ request.product.buildNumber = "1" := by
  obtain ⟨hname, hok, hbundles⟩ := inspectUnsignedAppBundle_nested h
  obtain ⟨-, hipaVersion, hipaBuild, hnested⟩ := ipaExpectation_eq_ok hipa
  obtain ⟨bridge, hmem, hpath⟩ := hok.bridge
  obtain ⟨info, hinfo⟩ := hbundles bridge hmem
  obtain ⟨infoPath, hplist, bundle, hbundle, rfl⟩ := locateNestedBundle_bridge fileBytes hok
    hnested (expectedAppPath_eq hipa hname) hmem hpath hinfo
  have hrules := haccepted infoPath hplist bundle hbundle
  rw [validateNestedVersions_eq_ok hipaVersion hipaBuild hinfo.version hinfo.build,
    hok.bridge_kind hmem hpath] at hrules
  exact ⟨hrules.1.symm, hrules.2.symm⟩

/-- With that version and build number both inspectors require the same of every kind. -/
theorem nestedVersionsAccepted_of_versions_eq (hipa : request.ipaExpectation tools = .ok ipa)
    (h : inspectUnsignedAppBundle tools filesystem (request.archiveExpectation sdk resources) =
      .ok inspection)
    (hversion : request.product.appVersion = "1.0") (hbuild : request.product.buildNumber = "1") :
    NestedVersionsAccepted tools ipa ⟨fileBytes, packIpa filesystem⟩ := by
  obtain ⟨hname, hok, hbundles⟩ := inspectUnsignedAppBundle_nested h
  obtain ⟨-, hipaVersion, hipaBuild, hnested⟩ := ipaExpectation_eq_ok hipa
  intro infoPath hplist bundle hbundle
  have hnamed := (List.mem_filter.mp hplist).2
  obtain ⟨nested, hmem, rfl, hread⟩ := locateNestedBundle_eq_ok hnamed hbundle
  rw [hnested] at hmem
  obtain ⟨info, hinfo⟩ := hbundles nested hmem
  have hslash : ¬ ['/'] <:+ (nested.relativePath ++ "/Info.plist").toList := by
    rw [String.toList_append]
    intro hsuffix
    exact absurd (List.suffix_of_suffix_length_le hsuffix
      (List.suffix_append _ "/Info.plist".toList) (by decide)) (by decide)
  -- the plist in the IPA is the one that the unsigned inspection has checked
  obtain ⟨-, hread'⟩ := readZipPlist_packIpa fileBytes hslash hinfo.plist
  rw [expectedAppPath_eq hipa hname, hread'] at hread
  cases hread
  rw [validateNestedVersions_eq_ok hipaVersion hipaBuild hinfo.version hinfo.build]
  cases nested.kind with
  | appExtension => exact ⟨rfl, rfl⟩
  | framework => exact ⟨hversion.symm, hbuild.symm⟩

/-- A request whose unsigned bundle is accepted passes the version rules of the IPA
inspection exactly for version `1.0` with build number `1`. -/
theorem nestedVersionsAccepted_iff (hipa : request.ipaExpectation tools = .ok ipa)
    (h : inspectUnsignedAppBundle tools filesystem (request.archiveExpectation sdk resources) =
      .ok inspection) :
    NestedVersionsAccepted tools ipa ⟨fileBytes, packIpa filesystem⟩ ↔
      request.product.appVersion = "1.0" ∧ request.product.buildNumber = "1" := by
  constructor
  · intro haccepted
    exact versions_eq_of_nestedVersionsAccepted hipa h haccepted
  · rintro ⟨hversion, hbuild⟩
    exact nestedVersionsAccepted_of_versions_eq hipa h hversion hbuild

end Request

end

/-! ## A small application

One application with the runtime bridge as its only nested bundle. The readers below know
exactly the files of this application. -/

namespace Sample

def utf8 (text : String) : List UInt8 := text.toByteArray.data.toList

/-- The XML form of a plist value without nested dictionaries. -/
def xmlValue : PlistValue → String
  | .string text => "<string>" ++ text ++ "</string>"
  | .boolean true => "<true/>"
  | .boolean false => "<false/>"
  | .array [.string text] => "<array><string>" ++ text ++ "</string></array>"
  | _ => ""

def xmlPlist (info : Dictionary) : List UInt8 :=
  utf8 "<?xml version=\"1.0\" encoding=\"UTF-8\"?>" ++ utf8 "<plist version=\"1.0\"><dict>" ++
    info.flatMap (fun (key, value) =>
      utf8 "<key>" ++ utf8 key ++ utf8 "</key>" ++ utf8 (xmlValue value)) ++
    utf8 "</dict></plist>"

def platformEntries : Dictionary :=
  [("MinimumOSVersion", .string "17.0"),
    ("CFBundleSupportedPlatforms", .array [.string "iPhoneOS"]),
    ("DTPlatformName", .string "iphoneos"), ("DTSDKName", .string "iphoneos18.2"),
    ("DTSDKBuild", .string "22C146")]

def mainInfo (appVersion buildNumber : String) : Dictionary :=
  [("CFBundleIdentifier", .string "com.example.demo"), ("CFBundleExecutable", .string "Demo"),
    ("CFBundlePackageType", .string "APPL"), ("CFBundleShortVersionString", .string appVersion),
    ("CFBundleVersion", .string buildNumber), ("LSRequiresIPhoneOS", .boolean true),
    ("UIRequiredDeviceCapabilities", .array [.string "arm64"])] ++ platformEntries

def bridgeInfo : Dictionary :=
  [("CFBundleIdentifier", .string "com.example.demo.bridge"),
    ("CFBundleExecutable", .string "FerryRuntimeBridge"), ("CFBundlePackageType", .string "FMWK"),
    ("CFBundleShortVersionString", .string "1.0"), ("CFBundleVersion", .string "1")] ++
    platformEntries

/-- Little-endian 32-bit words. -/
def words (values : List Nat) : List UInt8 :=
  values.flatMap fun n => [UInt8.ofNat n, UInt8.ofNat (n / 2 ^ 8), UInt8.ofNat (n / 2 ^ 16),
    UInt8.ofNat (n / 2 ^ 24)]

/-- `LC_BUILD_VERSION` for iOS 17.0, SDK 18.2. -/
def buildVersionWords : List Nat := [0x32, 24, 2, 0x00110000, 0x00120200, 0]

/-- A thin arm64 executable. -/
def mainCode : List UInt8 :=
  words ([0xfeedfacf, 0x0100000c, 0, 2, 1, 24, 0, 0] ++ buildVersionWords)

/-- A thin arm64 dynamic library with its install name. -/
def bridgeCode : List UInt8 :=
  words ([0xfeedfacf, 0x0100000c, 0, 6, 2, 104, 0, 0] ++ buildVersionWords ++
    [0xd, 80, 24, 0, 0, 0]) ++ utf8 runtimeBridgeInstallName ++ [0, 0]

def mainMach : MachO where
  cputype := 0x0100000c
  cpusubtype := 0
  filetype := 2
  loadCommands := [.buildVersion 2 0x00110000 0x00120200]
  name := none
  libs := ["self"]

def bridgeMach : MachO where
  cputype := 0x0100000c
  cpusubtype := 0
  filetype := 6
  loadCommands := [.buildVersion 2 0x00110000 0x00120200, .idDylib]
  name := some runtimeBridgeInstallName
  libs := [runtimeBridgeInstallName]

def resourcesJson : List UInt8 :=
  ["\x7b\"schema_version\":1,", "\"generator\":\"cargo-ferry\",",
    "\"rust_target\":\"aarch64-apple-ios\",", "\"bundle_identifier\":\"com.example.demo\",",
    "\"ui_backend\":\"slint\"\x7d"].flatMap utf8

def resourcesValue : Json :=
  .object [("schema_version", .number (.unsigned 1)), ("generator", .string "cargo-ferry"),
    ("rust_target", .string "aarch64-apple-ios"),
    ("bundle_identifier", .string "com.example.demo"), ("ui_backend", .string "slint")]

def resources : List (String × String) :=
  [("FerryIcon.png", "c2d4b446a44ce54fab8e01150e24dd24f3d850c7c14dcfe31f6321341dd86874"),
    ("FerryResources.json", "dbd6bf3edace3fb3e7178dab1ce5de107315cd9d5056f55757cba454976d8baa"),
    ("FerrySplash.png", "31d58043e5d08e036adf3f2839325970070f178f2eb3a08b0d25506a15314eb4")]

/-- The readers, on the files of the application. -/
def readers (appVersion buildNumber : String) : InspectionTools where
  parsePlist bytes :=
    if bytes = xmlPlist (mainInfo appVersion buildNumber) then
      some (.dictionary (mainInfo appVersion buildNumber))
    else if bytes = xmlPlist bridgeInfo then some (.dictionary bridgeInfo) else none
  parseMach bytes :=
    if bytes = mainCode then some (.binary mainMach)
    else if bytes = bridgeCode then some (.binary bridgeMach) else none
  parseJson bytes := if bytes = resourcesJson then some resourcesValue else none
  sha256 bytes :=
    if bytes = utf8 "icon" then
      "c2d4b446a44ce54fab8e01150e24dd24f3d850c7c14dcfe31f6321341dd86874"
    else if bytes = utf8 "splash" then
      "31d58043e5d08e036adf3f2839325970070f178f2eb3a08b0d25506a15314eb4"
    else if bytes = resourcesJson then
      "dbd6bf3edace3fb3e7178dab1ce5de107315cd9d5056f55757cba454976d8baa"
    else ""
  nfc := id
  nfkc := id
  toLowercase text := text.map Char.toLower
  charToLowercase c := [c.toLower]

def request (appVersion buildNumber : String) : IosDeviceBuildRequest where
  bundleIdentifier := "com.example.demo"
  minimumIosVersion := "17.0"
  product := {
    appDirectoryName := "Demo.app", executable := "Demo", appVersion, buildNumber
    nestedBundles := [{
      relativePath := runtimeBridgeBundlePath
      bundleIdentifier := "com.example.demo.bridge"
      executable := "FerryRuntimeBridge"
      kind := .framework }] }
  signing := {
    mode := .development
    targets := [⟨"com.example.demo.bridge", .framework⟩, ⟨"com.example.demo", .application⟩] }

def sdk : DeviceSdk := ⟨"18.2", "22C146"⟩

def directory (relative : String) (depth : Nat) : DirectoryEntry :=
  ⟨relative, depth, 0o755, 2, .directory⟩

def file (relative : String) (depth : Nat) (mode : Nat) (bytes : List UInt8) : DirectoryEntry :=
  ⟨relative, depth, mode, 1, .file bytes⟩

/-- The application directory in scan order. -/
def app (appVersion buildNumber : String) : ArtifactFilesystem where
  directoryName := "Demo.app"
  entries := [
    file "Demo" 0 0o755 mainCode,
    file "FerryIcon.png" 0 0o644 (utf8 "icon"),
    file "FerryResources.json" 0 0o644 resourcesJson,
    file "FerrySplash.png" 0 0o644 (utf8 "splash"),
    directory "Frameworks" 0,
    file "Info.plist" 0 0o644 (xmlPlist (mainInfo appVersion buildNumber)),
    directory "Frameworks/FerryRuntimeBridge.framework" 1,
    file "Frameworks/FerryRuntimeBridge.framework/FerryRuntimeBridge" 2 0o755 bridgeCode,
    file "Frameworks/FerryRuntimeBridge.framework/Info.plist" 2 0o644 (xmlPlist bridgeInfo)]

set_option maxRecDepth 10000 in
/-- Both requests are valid, and the unsigned inspection accepts their application. -/
private theorem inspections_succeed :
    (["1.0", "2.0"].all fun version =>
      ((request version "1").ipaExpectation (readers version "1")).toBool &&
        (inspectUnsignedAppBundle (readers version "1") (app version "1")
          ((request version "1").archiveExpectation sdk resources)).toBool) = true := by
  decide +kernel

private theorem exists_inspections {version : String} (hversion : version ∈ ["1.0", "2.0"]) :
    (∃ ipa, (request version "1").ipaExpectation (readers version "1") = .ok ipa) ∧
      ∃ inspection, inspectUnsignedAppBundle (readers version "1") (app version "1")
        ((request version "1").archiveExpectation sdk resources) = .ok inspection := by
  have hboth := List.all_eq_true.mp inspections_succeed version hversion
  rw [Bool.and_eq_true] at hboth
  exact ⟨exists_eq_ok_of_toBool hboth.1, exists_eq_ok_of_toBool hboth.2⟩

theorem nestedVersionsAccepted_version_one :
    ∃ ipa inspection, (request "1.0" "1").ipaExpectation (readers "1.0" "1") = .ok ipa ∧
      inspectUnsignedAppBundle (readers "1.0" "1") (app "1.0" "1")
        ((request "1.0" "1").archiveExpectation sdk resources) = .ok inspection ∧
      NestedVersionsAccepted (readers "1.0" "1") ipa ⟨[], packIpa (app "1.0" "1")⟩ := by
  have hversion : "1.0" ∈ ["1.0", "2.0"] := List.mem_cons_self
  obtain ⟨⟨ipa, hipa⟩, inspection, h⟩ := exists_inspections hversion
  exact ⟨ipa, inspection, hipa, h, (nestedVersionsAccepted_iff hipa h).mpr ⟨rfl, rfl⟩⟩

/-- Version 2.0 is accepted unsigned, but its runtime bridge breaks the version rules. -/
theorem not_nestedVersionsAccepted_version_two :
    ∃ ipa inspection, (request "2.0" "1").ipaExpectation (readers "2.0" "1") = .ok ipa ∧
      inspectUnsignedAppBundle (readers "2.0" "1") (app "2.0" "1")
        ((request "2.0" "1").archiveExpectation sdk resources) = .ok inspection ∧
      ¬ NestedVersionsAccepted (readers "2.0" "1") ipa ⟨[], packIpa (app "2.0" "1")⟩ := by
  have hversion : "2.0" ∈ ["1.0", "2.0"] := List.mem_cons_of_mem _ List.mem_cons_self
  obtain ⟨⟨ipa, hipa⟩, inspection, h⟩ := exists_inspections hversion
  refine ⟨ipa, inspection, hipa, h, ?_⟩
  intro haccepted
  have hone : "2.0" = "1.0" := (versions_eq_of_nestedVersionsAccepted hipa h haccepted).1
  exact absurd hone (by decide)

end Sample

end RustFerry.Artifact
