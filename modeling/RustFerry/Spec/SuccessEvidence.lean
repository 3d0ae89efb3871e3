import Mathlib.Data.List.Perm.Subperm
import RustFerry.ForStd.List
import RustFerry.Spec.RevisionChain

/-!
# No success without evidence

A succeeded revision of an accepted chain rests on a completed run, on exactly the
artifacts of its manifests, on files whose path and identity were durable before they
were validated, and on checkpoints that brought the outcome and the cleanup.
-/

namespace RustFerry.JobStore

open Remote Github Except

section

variable {resume : GithubJobResumeV1} {artifact : StoredArtifactV1} {record : StoredJobV1}
  {tools : ResumeTools} {chain : List StoredJobV1}

/-! ## Artifacts of one record -/

/-- What is checked of an artifact. -/
theorem seeArtifact_eq_ok {projectRoot : String} {seen seen' : SeenArtifacts}
    (h : seeArtifact projectRoot seen artifact = .ok seen') :
    validateArtifact artifact = .ok () ∧ artifact.record.artifactId ∉ seen.artifactIds ∧
      seen'.artifactIds = artifact.record.artifactId :: seen.artifactIds := by
  simp only [seeArtifact, check_bind_eq_ok, rejectIf_eq_ok] at h
  obtain ⟨hartifact, -, hfresh, -, -, hseen⟩ := h
  refine ⟨hartifact, by simpa using hfresh, ?_⟩
  rw [← Except.ok.inj hseen]

/-- What the loop over the artifacts knows about those it has seen. -/
structure SeenOk (done : List StoredArtifactV1) (seen : SeenArtifacts) : Prop where
  artifactIds : seen.artifactIds = (done.map (·.record.artifactId)).reverse
  nodup : (done.map (·.record.artifactId)).Nodup
  checked : ∀ artifact ∈ done, validateArtifact artifact = .ok ()

theorem SeenOk.step {projectRoot : String} {done : List StoredArtifactV1}
    {seen seen' : SeenArtifacts} (h : SeenOk done seen)
    (hstep : seeArtifact projectRoot seen artifact = .ok seen') :
    SeenOk (done ++ [artifact]) seen' := by
  obtain ⟨hartifact, hfresh, hnew⟩ := seeArtifact_eq_ok hstep
  rw [h.artifactIds, List.mem_reverse] at hfresh
  refine ⟨by simp [hnew, h.artifactIds], ?_, ?_⟩
  · rw [List.map_append, List.map_singleton]
    apply List.nodup_append.mpr
    refine ⟨h.nodup, List.nodup_singleton _, ?_⟩
    intro a ha b hb heq
    rw [List.mem_singleton.mp hb] at heq
    exact hfresh (heq ▸ ha)
  · intro a ha
    cases List.mem_append.mp ha with
    | inl hold => exact h.checked a hold
    | inr hlast =>
      rw [List.mem_singleton.mp hlast]
      exact hartifact

/-- The artifacts of a valid record are checked one by one, and no identifier repeats. -/
theorem artifacts_checked (h : record.validateArtifacts = .ok ()) :
    (record.artifacts.map (·.record.artifactId)).Nodup ∧
      ∀ artifact ∈ record.artifacts, validateArtifact artifact = .ok () := by
  rw [StoredJobV1.validateArtifacts, check_bind_eq_ok, bind_eq_ok] at h
  obtain ⟨-, seen, hfold, -⟩ := h
  have hseen : SeenOk record.artifacts seen :=
    foldlM_through (fun _ _ _ _ hinv hstep => hinv.step hstep)
      ⟨rfl, List.nodup_nil, by intro _ hmem; cases hmem⟩ hfold
  exact ⟨hseen.nodup, hseen.checked⟩

/-- A published file is at its destination and has an identity. -/
theorem publication_of_validateArtifact {path : String} (h : validateArtifact artifact = .ok ())
    (hpath : artifact.localPath = some path) :
    artifact.downloadDestination = some path ∧
      ∃ identity, artifact.localFileIdentity = some identity := by
  simp only [validateArtifact, check_bind_eq_ok, validateArtifactPublication, hpath] at h
  obtain ⟨-, -, -, -, -, -, hpublication⟩ := h
  cases hidentity : artifact.localFileIdentity with
  | none =>
    rw [hidentity] at hpublication
    cases hpublication
  | some identity =>
    simp only [hidentity, check_bind_eq_ok, rejectIf_eq_ok, bne_eq_false_iff_eq] at hpublication
    exact ⟨hpublication.2.1, identity, rfl⟩

/-- What the artifacts of a succeeded record are like. -/
theorem artifacts_of_succeeded (h : record.validateArtifacts = .ok ())
    (hs : record.state = .succeeded) :
    record.artifacts ≠ [] ∧ ∀ artifact ∈ record.artifacts, artifact.locallyValidated = true ∧
      ∃ path identity, artifact.localPath = some path ∧
        artifact.downloadDestination = some path ∧
        artifact.localFileIdentity = some identity := by
  have hchecked := (artifacts_checked h).2
  rw [StoredJobV1.validateArtifacts, check_bind_eq_ok, bind_eq_ok] at h
  obtain ⟨-, -, -, h⟩ := h
  simp only [check_bind_eq_ok, rejectIf_eq_ok, hs, StoredJobState.requiresArtifacts,
    Bool.true_and, reduceCtorEq, decide_false, decide_true, Bool.false_or, Bool.or_true,
    List.any_eq_false, Bool.not_eq_true, Option.isNone_eq_false_iff, Bool.not_eq_false',
    beq_eq_false_iff_ne] at h
  obtain ⟨hne, -, hpaths, hvalidated⟩ := h
  refine ⟨hne, ?_⟩
  intro artifact hmem
  obtain ⟨path, hpath⟩ := Option.isSome_iff_exists.mp (hpaths artifact hmem)
  obtain ⟨hdestination, identity, hidentity⟩ :=
    publication_of_validateArtifact (hchecked artifact hmem) hpath
  exact ⟨hvalidated artifact hmem, path, identity, hpath, hdestination, hidentity⟩

/-! ## Artifacts and manifests -/

/-- The map of the loop over the manifests: the artifacts it has seen by their identifiers. -/
structure ExpectedOk (done : List ArtifactRecord) (expected : List (String × ArtifactRecord)) :
    Prop where
  sorted : BTreeMap.Sorted expected
  mem : ∀ id artifact, (id, artifact) ∈ expected ↔ artifact ∈ done ∧ artifact.artifactId = id

/-- Expected artifacts are distinct. -/
theorem ExpectedOk.nodup {done : List ArtifactRecord} {expected : List (String × ArtifactRecord)}
    (h : ExpectedOk done expected) : (expected.map (·.1)).Nodup := by
  rw [List.Nodup, List.pairwise_map]
  exact h.sorted.imp fun hlt => ne_of_lt hlt

/-- One expected artifact more. -/
theorem ExpectedOk.step {done : List ArtifactRecord} {artifact : ArtifactRecord}
    {expected expected' : List (String × ArtifactRecord)} (h : ExpectedOk done expected)
    (hstep : expectedArtifact expected artifact = .ok expected') :
    ExpectedOk (done ++ [artifact]) expected' := by
  simp only [expectedArtifact, check_bind_eq_ok, rejectIf_eq_ok, Option.any_eq_false,
    decide_eq_false_iff_not, not_not, ne_eq] at hstep
  obtain ⟨hsame, hnew⟩ := hstep
  cases hnew
  have hold : ∀ other, (artifact.artifactId, other) ∈ expected → other = artifact := by
    intro other hmem
    exact hsame other ((List.lookup_eq_some_iff_mem h.nodup).mpr hmem)
  refine ⟨BTreeMap.sorted_insert h.sorted, ?_⟩
  intro id other
  rw [List.mem_append, List.mem_singleton]
  constructor
  · intro hmem
    cases BTreeMap.mem_of_mem_insert hmem with
    | inl hnew =>
      obtain ⟨rfl, rfl⟩ := Prod.mk.inj hnew
      exact ⟨Or.inr rfl, rfl⟩
    | inr hmem =>
      obtain ⟨hdone, hid⟩ := (h.mem id other).mp hmem
      exact ⟨Or.inl hdone, hid⟩
  · intro hparts
    obtain ⟨hseen, hid⟩ := hparts
    -- the key is there, and both possible values of it are the artifact itself
    have hkey : ∃ value, (id, value) ∈
        BTreeMap.insert artifact.artifactId artifact expected := by
      apply BTreeMap.exists_mem_insert
      cases hseen with
      | inl hdone => exact Or.inr ⟨other, (h.mem id other).mpr ⟨hdone, hid⟩⟩
      | inr hlast => exact Or.inl (by rw [← hid, hlast])
    obtain ⟨value, hvalue⟩ := hkey
    have hequal : value = other := by
      cases BTreeMap.mem_of_mem_insert hvalue with
      | inl hnew =>
        obtain ⟨rfl, rfl⟩ := Prod.mk.inj hnew
        cases hseen with
        | inl hdone => exact (hold other ((h.mem _ other).mpr ⟨hdone, hid⟩)).symm
        | inr hlast => exact hlast.symm
      | inr hmem =>
        cases hseen with
        | inl hdone =>
          have hother := (h.mem id other).mpr ⟨hdone, hid⟩
          exact Option.some.inj (((List.lookup_eq_some_iff_mem h.nodup).mpr hmem).symm.trans
            ((List.lookup_eq_some_iff_mem h.nodup).mpr hother))
        | inr hlast =>
          rw [hlast]
          exact hold value (by rw [← hlast, hid]; exact hmem)
    rw [← hequal]
    exact hvalue

/-- The artifacts of a record with a checked projection are exactly those of the manifests. -/
theorem manifestArtifacts_iff (h : validateGithubArtifactProjection record resume = .ok ())
    (hnodup : (record.artifacts.map (·.record.artifactId)).Nodup) (artifact : ArtifactRecord) :
    (∃ stored ∈ record.artifacts, stored.record = artifact) ↔
      artifact ∈ manifestArtifacts resume := by
  rw [validateGithubArtifactProjection, bind_eq_ok] at h
  obtain ⟨expected, hfold, hcheck⟩ := h
  have hexpected : ExpectedOk (manifestArtifacts resume) expected :=
    foldlM_through (fun _ _ _ _ hinv hstep => hinv.step hstep)
      ⟨List.Pairwise.nil, by simp⟩ hfold
  simp only [rejectIf_eq_ok, Bool.or_eq_false_iff, bne_eq_false_iff_eq, List.any_eq_false,
    Bool.not_eq_true, List.lookup_eq_some_iff_mem hexpected.nodup] at hcheck
  obtain ⟨hlength, hmem⟩ := hcheck
  -- the stored artifacts by identifier are as many as the expected ones, and among them
  let entry : StoredArtifactV1 → String × ArtifactRecord :=
    fun stored => (stored.record.artifactId, stored.record)
  have hentries : (record.artifacts.map entry).Nodup := by
    apply List.Nodup.of_map Prod.fst
    rw [List.map_map]
    exact hnodup
  have hsubset : record.artifacts.map entry ⊆ expected := by
    intro e he
    obtain ⟨stored, hstored, rfl⟩ := List.mem_map.mp he
    exact hmem stored hstored
  have hperm : (record.artifacts.map entry).Perm expected := by
    apply (List.subperm_of_subset hentries hsubset).perm_of_length_le
    rw [List.length_map, hlength]
  constructor
  · intro hparts
    obtain ⟨stored, hstored, heq⟩ := hparts
    rw [← heq]
    exact ((hexpected.mem _ _).mp (hmem stored hstored)).1
  · intro hartifact
    have hin := (hexpected.mem artifact.artifactId artifact).mpr ⟨hartifact, rfl⟩
    obtain ⟨stored, hstored, heq⟩ := List.mem_map.mp (hperm.mem_iff.mpr hin)
    exact ⟨stored, hstored, (Prod.mk.inj heq).2⟩

/-! ## Evidence over a chain -/

/-- Two neighbours of a chain. -/
theorem AcceptedChain.step (h : AcceptedChain tools chain) {i : Nat} {previous next : StoredJobV1}
    (hp : chain[i]? = some previous) (hn : chain[i + 1]? = some next) :
    AcceptedStep tools previous next := by
  obtain ⟨hi, rfl⟩ := List.getElem?_eq_some_iff.mp hp
  obtain ⟨hi', rfl⟩ := List.getElem?_eq_some_iff.mp hn
  exact List.isChain_iff_getElem.mp h.steps i hi'

/-- The first record of a chain. -/
theorem AcceptedChain.first (h : AcceptedChain tools chain) (h0 : chain[0]? = some record) :
    validateInitialJobRevision record = .ok () :=
  (h.head record (by rw [List.head?_eq_getElem?, h0])).2

theorem exists_previous {i : Nat} (h : chain[i + 1]? = some record) :
    ∃ previous, chain[i]? = some previous := by
  obtain ⟨hi, -⟩ := List.getElem?_eq_some_iff.mp h
  exact ⟨_, List.getElem?_eq_getElem (by omega)⟩

/-- The file of an artifact was published in an earlier revision. -/
def FileDurableBefore (chain : List StoredJobV1) (k : Nat) (artifact : StoredArtifactV1) :
    Prop :=
  ∃ j earlier, j < k ∧ chain[j]? = some earlier ∧ ∃ kept ∈ earlier.artifacts,
    kept.record = artifact.record ∧ kept.localPath.isSome ∧ kept.localFileIdentity.isSome ∧
      kept.localPath = artifact.localPath ∧
      kept.localFileIdentity = artifact.localFileIdentity

/-- Two artifacts of a valid record with one identifier are the same. -/
theorem artifact_eq_of_id {a b : StoredArtifactV1} (h : record.validateArtifacts = .ok ())
    (ha : a ∈ record.artifacts) (hb : b ∈ record.artifacts)
    (hid : a.record.artifactId = b.record.artifactId) : a = b :=
  List.inj_on_of_nodup_map (artifacts_checked h).1 ha hb hid

/-- A validated artifact had its path and its file identity in an earlier revision. -/
theorem AcceptedChain.durable (h : AcceptedChain tools chain) {k : Nat}
    (hk : chain[k]? = some record) (hmem : artifact ∈ record.artifacts)
    (hv : artifact.locallyValidated = true) :
    FileDurableBefore chain k artifact := by
  induction k generalizing record artifact with
  | zero =>
    have hinitial := h.first hk
    simp only [validateInitialJobRevision, rejectIf_eq_ok, Bool.or_eq_false_iff,
      bne_eq_false_iff_eq] at hinitial
    have hnone : record.artifacts = [] := by grind
    rw [hnone] at hmem
    cases hmem
  | succ k ih =>
    obtain ⟨previous, hprevious⟩ := exists_previous hk
    have hstep := h.step hprevious hk
    have hvalid := (validate_eq_ok.mp hstep.1).artifacts
    have hartifacts := hstep.successor.artifacts
    by_cases hold : ∃ old ∈ previous.artifacts,
        old.record.artifactId = artifact.record.artifactId
    · obtain ⟨old, hold, hid⟩ := hold
      obtain ⟨candidate, hfound, hkept⟩ := hartifacts.found old hold
      obtain ⟨hcandidate, hcid⟩ := mem_of_findArtifact hfound
      obtain rfl := artifact_eq_of_id hvalid hcandidate hmem (hcid.trans hid)
      by_cases hov : old.locallyValidated = true
      · -- validated before: the file of the previous revision is the one of an earlier one
        obtain ⟨j, earlier, hj, hearlier, kept, hkmem, hrecord, hps, his, hpath, hidentity⟩ :=
          ih hprevious hold hov
        refine ⟨j, earlier, by omega, hearlier, kept, hkmem, hrecord.trans hkept.record, hps, his,
          ?_, ?_⟩
        · rw [hkept.localPath.eq_of_isSome (hpath ▸ hps), hpath]
        · rw [hkept.localFileIdentity.eq_of_isSome (hidentity ▸ his), hidentity]
      · -- validated by this step: the rule asks for the file in the previous revision
        obtain ⟨hps, his⟩ := hkept.validation (by simpa using hov) hv
        exact ⟨k, previous, by omega, hprevious, old, hold, hkept.record, hps, his,
          (hkept.localPath.eq_of_isSome hps).symm,
          (hkept.localFileIdentity.eq_of_isSome his).symm⟩
    · have hnew := hartifacts.added artifact hmem (by simpa using hold)
      exact nomatch hnew.2.2.symm.trans hv

/-- A checkpoint is never removed, so a changed one is there. -/
theorem resume_isSome_of_changed {previous next : StoredJobV1}
    (h : AcceptedStep tools previous next)
    (hchanged : previous.providerResume ≠ next.providerResume ∨ previous.providerResume.isSome) :
    next.providerResume.isSome := by
  obtain ⟨hkept, -⟩ := validateResumeSuccessor_eq_ok.mp h.successor.resume
  cases hp : previous.providerResume with
  | some old =>
    obtain ⟨new, hnew, -⟩ := hkept old hp
    simp [hnew]
  | none =>
    cases hn : next.providerResume with
    | some new => rfl
    | none => simp [hp, hn] at hchanged

/-- A confirmed cleanup rests on a checkpoint. -/
theorem AcceptedChain.resume_of_cleanup (h : AcceptedChain tools chain) :
    ∀ record ∈ chain, record.cleanupStatus = .confirmed →
    record.providerResume.isSome := by
  apply h.forall_of_step (P := fun record => record.cleanupStatus = .confirmed →
    record.providerResume.isSome)
  · intro record _ hinitial hconfirmed
    simp [validateInitialJobRevision, hconfirmed] at hinitial
  · intro previous next hstep ih hconfirmed
    apply resume_isSome_of_changed hstep
    by_cases hp : previous.cleanupStatus = .confirmed
    · exact Or.inr (ih hp)
    · exact Or.inl (hstep.successor.terminal.newCleanup (by rw [hconfirmed]; exact hp)
        (Or.inl hconfirmed))

/-- The steps of a chain that bring a fact, with a checkpoint that changed. -/
def AppearsWithCheckpoint (chain : List StoredJobV1) (i : Nat) (fact : StoredJobV1 → Prop) :
    Prop :=
  ∃ k previous next, k < i ∧ chain[k]? = some previous ∧ chain[k + 1]? = some next ∧
    (∀ m earlier, m ≤ k → chain[m]? = some earlier → ¬ fact earlier) ∧ fact next ∧
    previous.providerResume ≠ next.providerResume

/-- A fact that no initial revision has, and that a step only brings with a new checkpoint. -/
theorem AcceptedChain.appearsWithCheckpoint (h : AcceptedChain tools chain)
    {fact : StoredJobV1 → Prop} {i : Nat} (hi : chain[i]? = some record) (hfact : fact record)
    (hinitial : ∀ record, validateInitialJobRevision record = .ok () → ¬ fact record)
    (hstep : ∀ previous next, AcceptedStep tools previous next → ¬ fact previous → fact next →
      previous.providerResume ≠ next.providerResume) :
    AppearsWithCheckpoint chain i fact := by
  obtain ⟨k, previous, next, hk, hp, hn, hbefore, hnext⟩ :=
    List.exists_first_step hi hfact fun first hfirst => hinitial first (h.first hfirst)
  exact ⟨k, previous, next, hk, hp, hn, hbefore, hnext,
    hstep previous next (h.step hp hn) (hbefore k previous (Nat.le_refl k) hp) hnext⟩

/-- Nothing follows a success but itself. -/
theorem succeeded_stays {previous next : StoredJobV1} (h : AcceptedStep tools previous next)
    (hp : previous.state = .succeeded) :
    next.state = .succeeded := by
  have hne : previous.state ≠ .unknown := by
    rw [hp]
    decide
  cases h.successor.state.transition hne with
  | inl ht =>
    rw [hp] at ht
    revert ht
    cases next.state <;> decide
  | inr hexact => simp [cleanupFailureHasExactRecovery, hp] at hexact

theorem AcceptedChain.succeeded_stays {tools : ResumeTools} {chain : List StoredJobV1}
    (h : AcceptedChain tools chain) {i j : Nat} {record later : StoredJobV1}
    (hi : chain[i]? = some record) (hs : record.state = .succeeded) (hij : i ≤ j)
    (hj : chain[j]? = some later) : later.state = .succeeded := by
  induction j, hij using Nat.le_induction generalizing later with
  | base => rwa [← Option.some.inj (hi.symm.trans hj)]
  | succ j hij ih =>
    obtain ⟨previous, hprevious⟩ := exists_previous hj
    exact JobStore.succeeded_stays (h.step hprevious hj) (ih hprevious)

/-! ## A succeeded revision -/

/-- What the succeeded revision at a position of a chain rests on. -/
structure SuccessEvidence (chain : List StoredJobV1) (i : Nat) (record : StoredJobV1) : Prop where
  checkpoint : ∃ resume, record.providerResume = some resume ∧
    (∃ run, resume.run = some run ∧ run.status = .completed ∧ run.conclusion = some .success) ∧
    ∀ artifact, (∃ stored ∈ record.artifacts, stored.record = artifact) ↔
      artifact ∈ manifestArtifacts resume
  artifacts : record.artifacts ≠ []
  published : ∀ artifact ∈ record.artifacts, artifact.locallyValidated = true ∧
    ∃ path identity, artifact.localPath = some path ∧ artifact.downloadDestination = some path ∧
      artifact.localFileIdentity = some identity
  durable : ∀ artifact ∈ record.artifacts, ∀ k revision, k ≤ i → chain[k]? = some revision →
    ∀ validated ∈ revision.artifacts,
      validated.record.artifactId = artifact.record.artifactId →
      validated.locallyValidated = true →
      FileDurableBefore chain k artifact
  outcome : record.terminalOutcome = some .succeeded
  cleanup : record.cleanupStatus = .confirmed
  outcomeAppears : AppearsWithCheckpoint chain i fun revision =>
    revision.terminalOutcome = some .succeeded
  cleanupAppears : AppearsWithCheckpoint chain i fun revision =>
    revision.cleanupStatus = .confirmed
  stays : ∀ j later, i ≤ j → chain[j]? = some later → later.state = .succeeded

/-- An artifact of an earlier revision is the one of a later revision with its identifier. -/
theorem AcceptedChain.artifactKept (h : AcceptedChain tools chain) {k i : Nat}
    {revision : StoredJobV1} (hki : k ≤ i) (hk : chain[k]? = some revision)
    (hi : chain[i]? = some record) {earlier later : StoredArtifactV1}
    (hearlier : earlier ∈ revision.artifacts) (hlater : later ∈ record.artifacts)
    (hid : earlier.record.artifactId = later.record.artifactId) : ArtifactKept earlier later := by
  have hvalid := (validate_eq_ok.mp (h.valid record (List.mem_of_getElem? hi))).artifacts
  cases Nat.eq_or_lt_of_le hki with
  | inl heq =>
    subst heq
    obtain rfl : revision = record := Option.some.inj (hk.symm.trans hi)
    obtain rfl := artifact_eq_of_id hvalid hearlier hlater hid
    exact ArtifactKept.refl _
  | inr hlt =>
    obtain ⟨hkl, rfl⟩ := List.getElem?_eq_some_iff.mp hk
    obtain ⟨hil, rfl⟩ := List.getElem?_eq_some_iff.mp hi
    have hforgets := List.pairwise_iff_getElem.mp h.neverForgets k i hkl hil hlt
    obtain ⟨kept, hmem, hkept⟩ := hforgets.artifacts earlier hearlier
    obtain rfl := artifact_eq_of_id hvalid hmem hlater (by rw [← hkept.record, hid])
    exact hkept

/-- A run that completed with success. -/
theorem runCompletedSuccess_iff :
    runCompletedSuccess resume = true ↔
      ∃ run, resume.run = some run ∧ run.status = .completed ∧ run.conclusion = some .success := by
  simp [runCompletedSuccess, Option.any_eq_true]

/-- The checkpoint of a valid record with artifacts: a completed run and its manifests. -/
theorem checkpoint_of_artifacts (hvalid : ValidRecord tools record)
    (hresume : record.providerResume = some resume) (hne : record.artifacts ≠ []) :
    (∃ run, resume.run = some run ∧ run.status = .completed ∧ run.conclusion = some .success) ∧
      ∀ artifact, (∃ stored ∈ record.artifacts, stored.record = artifact) ↔
        artifact ∈ manifestArtifacts resume := by
  have hchecked := validResume_iff.mp (hvalid.resume resume hresume)
  have hiff := manifestArtifacts_iff hchecked.artifacts (artifacts_checked hvalid.artifacts).1
  have hmanifests : resume.manifests ≠ [] := by
    intro hnone
    obtain ⟨artifact, rest, hcons⟩ := List.exists_cons_of_ne_nil hne
    have hmem := (hiff artifact.record).mp ⟨artifact, by simp [hcons], rfl⟩
    simp [manifestArtifacts, hnone] at hmem
  exact ⟨runCompletedSuccess_iff.mp (hchecked.identity.success (Or.inr hmanifests)), hiff⟩

/-- In every accepted chain a succeeded revision has all its evidence, and stays. -/
theorem succeeded_has_evidence {tools : ResumeTools} {chain : List StoredJobV1}
    (h : AcceptedChain tools chain) {i : Nat} {record : StoredJobV1}
    (hi : chain[i]? = some record) (hs : record.state = .succeeded) :
    SuccessEvidence chain i record := by
  have hmem : record ∈ chain := List.mem_of_getElem? hi
  have hvalid := validate_eq_ok.mp (h.valid record hmem)
  -- the record's own validation gives the fields it holds
  have hcleanup := hvalid.state.succeeded hs
  have houtcome : record.terminalOutcome = some .succeeded := by
    have := hvalid.state.outcome
    simpa [validateStateOutcome, hs] using this
  obtain ⟨hne, hpublished⟩ := artifacts_of_succeeded hvalid.artifacts hs
  obtain ⟨resume, hresume⟩ :=
    Option.isSome_iff_exists.mp (h.resume_of_cleanup record hmem hcleanup)
  obtain ⟨hrun, hmanifests⟩ := checkpoint_of_artifacts hvalid hresume hne
  exact {
    checkpoint := ⟨resume, hresume, hrun, hmanifests⟩
    artifacts := hne
    published := hpublished
    -- the flag was set by an earlier step, whose checks read the file
    durable := by
      intro artifact hartifact k revision hki hk validated hvalidated hid hflag
      obtain ⟨j, earlier, hj, hearlier, kept, hkept, hrecord, hps, his, hpath, hidentity⟩ :=
        h.durable hk hvalidated hflag
      have hfinal := h.artifactKept hki hk hi hvalidated hartifact hid
      refine ⟨j, earlier, hj, hearlier, kept, hkept, hrecord.trans hfinal.record, hps, his, ?_, ?_⟩
      · rw [hfinal.localPath.eq_of_isSome (hpath ▸ hps), hpath]
      · rw [hfinal.localFileIdentity.eq_of_isSome (hidentity ▸ his), hidentity]
    outcome := houtcome
    cleanup := hcleanup
    outcomeAppears := by
      apply h.appearsWithCheckpoint hi houtcome
      · intro first hinitial hfirst
        simp [validateInitialJobRevision, hfirst] at hinitial
      · intro previous next hstep hp hn
        exact hstep.successor.terminal.newOutcome (by rw [hn]; exact hp) (Or.inl hn)
    cleanupAppears := by
      apply h.appearsWithCheckpoint hi hcleanup
      · intro first hinitial hfirst
        simp [validateInitialJobRevision, hfirst] at hinitial
      · intro previous next hstep hp hn
        exact hstep.successor.terminal.newCleanup (by rw [hn]; exact hp) (Or.inl hn)
    stays := fun j later hij hj => h.succeeded_stays hi hs hij hj }

end

namespace Sample

/-- The chain of a job that succeeds. -/
def succeededChain : List StoredJobV1 :=
  [created, submitting, running, artifactReady, downloading, downloaded, validating, succeeded]

theorem accepted_succeededChain : AcceptedChain tools succeededChain := by
  apply acceptedChain_of_steps
  simp only [List.isChain_cons_cons, List.isChain_singleton, and_true]
  exact ⟨created_to_submitting, submitting_to_running, running_to_artifactReady,
    artifactReady_to_downloading, downloading_to_downloaded, downloaded_to_validating,
    validating_to_succeeded⟩

theorem succeededChain_has_evidence : SuccessEvidence succeededChain 7 succeeded :=
  succeeded_has_evidence accepted_succeededChain rfl rfl

end Sample

end RustFerry.JobStore
