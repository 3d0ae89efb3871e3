import RustFerry.Native.ProvisioningProfile

/-!
# Profiles and signed entitlements agree

The check of a profile and the check of the signed code have their own value models. For a
development profile, what the first accepts can be signed and is accepted by the second, and
what the second accepts is authorized by the profile.
-/

namespace RustFerry.Worker

open Serde Remote Artifact Except

section

variable {members : Members} {checks : RequiredChecks} {entry : String × Json} {key : String}
  {value : Json}

/-! ## Ordered maps -/

theorem lt_of_mem_areMembers {previous : String}
    (h : Json.areMembers (some previous) members = true) (hmem : (key, value) ∈ members) :
    previous < key := by
  induction members generalizing previous with
  | nil => cases hmem
  | cons member rest ih =>
    obtain ⟨k, v⟩ := member
    simp only [Json.areMembers, Option.all_some, Bool.and_eq_true, decide_eq_true_eq] at h
    obtain ⟨⟨hlt, -⟩, hrest⟩ := h
    cases hmem with
    | head => exact hlt
    | tail _ hmem => exact lt_trans hlt (ih hrest hmem)

/-- The keys of an ordered map are distinct, so each entry is found. -/
theorem lookup_of_mem {previous : Option String} (h : Json.areMembers previous members = true)
    (hmem : (key, value) ∈ members) :
    members.lookup key = some value := by
  induction members generalizing previous with
  | nil => cases hmem
  | cons member rest ih =>
    obtain ⟨k, v⟩ := member
    simp only [Json.areMembers, Bool.and_eq_true] at h
    cases hmem with
    | head => exact List.lookup_cons_self
    | tail _ hmem =>
      have hlt := lt_of_mem_areMembers h.2 hmem
      have hne : (key == k) = false := beq_false_of_ne (ne_of_gt hlt)
      rw [List.lookup_cons, hne]
      exact ih h.2 hmem

theorem mem_of_lookup (h : members.lookup key = some value) :
    (key, value) ∈ members := by
  obtain ⟨front, back, heq, -⟩ := List.lookup_eq_some_iff.mp h
  rw [heq]
  exact List.mem_append_right _ List.mem_cons_self

theorem get_of_mem {set : EntitlementSet} (hmem : (key, value) ∈ set.values) :
    set.get key = some value := by
  have hcanonical := set.canonical
  rw [Json.isValue] at hcanonical
  exact lookup_of_mem hcanonical hmem

theorem mem_of_get {set : EntitlementSet} (h : set.get key = some value) :
    (key, value) ∈ set.values := mem_of_lookup h

theorem isValue_of_mem {previous : Option String} (h : Json.areMembers previous members = true)
    (hmem : (key, value) ∈ members) :
    value.isValue = true := by
  induction members generalizing previous with
  | nil => cases hmem
  | cons member rest ih =>
    obtain ⟨k, v⟩ := member
    simp only [Json.areMembers, Bool.and_eq_true] at h
    cases hmem with
    | head => exact h.1.2
    | tail _ hmem => exact ih h.2 hmem

/-! ## Authorized values -/

/-- What it means that a value of a profile authorizes a value of the signed code: a text
    authorizes itself and, when it ends in an asterisk, every text with its front; a list
    authorizes lists of authorized items, and a dictionary dictionaries of authorized members. -/
inductive Covers : Json → Json → Prop where
  | same (value : Json) : Covers value value
  | text (front rest : String) : Covers (.string (front ++ "*")) (.string (front ++ rest))
  | array {authorized actual : List Json} (candidate : Json → Json)
      (hmem : ∀ item ∈ actual, candidate item ∈ authorized)
      (hitem : ∀ item ∈ actual, Covers (candidate item) item) :
      Covers (.array authorized) (.array actual)
  | object {authorized actual : Members} (candidate : String → Json → Json)
      (hlookup : ∀ key value, (key, value) ∈ actual →
        authorized.lookup key = some (candidate key value))
      (hvalue : ∀ key value, (key, value) ∈ actual → Covers (candidate key value) value) :
      Covers (.object authorized) (.object actual)

/-- What a suffix was removed from. -/
theorem stripBack_eq_some {back text front : List Char} :
    stripBack back text = some front ↔ text = front ++ back := by
  unfold stripBack
  split
  · rename_i hback
    obtain ⟨front', rfl⟩ := List.isSuffixOf_iff_suffix.mp hback
    rw [Option.some_inj]
    simp [eq_comm]
  · rename_i hback
    constructor
    · exact fun h => (by cases h)
    · intro h
      exact absurd (List.isSuffixOf_iff_suffix.mpr ⟨front, h.symm⟩) hback

theorem covers_of_string {pattern actual : String}
    (h : stringEntitlementAuthorized pattern actual = true) :
    Covers (.string pattern) (.string actual) := by
  simp only [stringEntitlementAuthorized, Bool.or_eq_true, beq_iff_eq, Option.any_eq_true,
    Bool.and_eq_true, List.isPrefixOf_iff_prefix] at h
  rcases h with heq | hfront
  · rcases heq with rfl | rfl
    · exact .same _
    · have hcovers := Covers.text "" actual
      simpa using hcovers
  · obtain ⟨front, hpattern, -, rest, hactual⟩ := hfront
    have hp : pattern = .ofList front ++ "*" := by
      apply String.toList_inj.mp
      rw [String.toList_append, String.toList_ofList, stripBack_eq_some.mp hpattern]
      rfl
    have ha : actual = .ofList front ++ .ofList rest := by
      apply String.toList_inj.mp
      rw [String.toList_append, String.toList_ofList, String.toList_ofList, hactual]
    rw [hp, ha]
    exact .text _ _

mutual

theorem covers_of_authorized : ∀ (authorized actual : Json),
    entitlementValueAuthorized authorized actual = true → Covers authorized actual
  | authorized, .string value => by
    intro h
    cases authorized with
    | string pattern => exact covers_of_string h
    | _ => simp [entitlementValueAuthorized] at h
  | authorized, .array actual => by
    intro h
    cases authorized with
    | array candidates =>
      obtain ⟨candidate, hmem, hitem⟩ := covers_of_items candidates actual h
      exact .array candidate hmem hitem
    | _ => simp [entitlementValueAuthorized] at h
  | authorized, .object actual => by
    intro h
    cases authorized with
    | object candidates =>
      obtain ⟨candidate, hlookup, hvalue⟩ := covers_of_members candidates actual h
      exact .object candidate hlookup hvalue
    | _ => simp [entitlementValueAuthorized] at h
  | authorized, .null => by
    intro h
    rw [entitlementValueAuthorized, decide_eq_true_eq] at h
    rw [h]
    exact .same _
  | authorized, .bool b => by
    intro h
    rw [entitlementValueAuthorized, decide_eq_true_eq] at h
    rw [h]
    exact .same _
  | authorized, .number n => by
    intro h
    rw [entitlementValueAuthorized, decide_eq_true_eq] at h
    rw [h]
    exact .same _

/-- The candidates of the items are chosen one by one. -/
private theorem covers_of_items : ∀ (authorized actual : List Json),
    areItemsAuthorized authorized actual = true → ∃ candidate : Json → Json,
      (∀ item ∈ actual, candidate item ∈ authorized) ∧
      ∀ item ∈ actual, Covers (candidate item) item
  | _, [] => fun _ => ⟨id, by simp, by simp⟩
  | authorized, item :: items => by
    intro h
    rw [areItemsAuthorized, Bool.and_eq_true, List.any_eq_true] at h
    obtain ⟨hitem, hitems⟩ := h
    obtain ⟨first, hfirst, hauthorized⟩ := hitem
    have hcovers := covers_of_authorized first item hauthorized
    obtain ⟨candidate, hmem, hrest⟩ := covers_of_items authorized items hitems
    refine ⟨fun i => if i = item then first else candidate i, fun i hi => ?_, fun i hi => ?_⟩
    · dsimp only
      split
      · exact hfirst
      · rename_i hne
        exact hmem i ((List.mem_cons.mp hi).resolve_left hne)
    · dsimp only
      split
      · rename_i heq
        rw [heq]
        exact hcovers
      · rename_i hne
        exact hrest i ((List.mem_cons.mp hi).resolve_left hne)

private theorem covers_of_members : ∀ (authorized actual : Members),
    areMembersAuthorized authorized actual = true → ∃ candidate : String → Json → Json,
      (∀ key value, (key, value) ∈ actual →
        authorized.lookup key = some (candidate key value)) ∧
      ∀ key value, (key, value) ∈ actual → Covers (candidate key value) value
  | _, [] => fun _ => ⟨fun _ => id, by simp, by simp⟩
  | authorized, (key, value) :: members => by
    intro h
    rw [areMembersAuthorized, Bool.and_eq_true, Option.any_eq_true] at h
    obtain ⟨hvalue, hmembers⟩ := h
    obtain ⟨first, hfirst, hauthorized⟩ := hvalue
    have hcovers := covers_of_authorized first value hauthorized
    obtain ⟨candidate, hlookup, hrest⟩ := covers_of_members authorized members hmembers
    refine ⟨fun k v => if (k, v) = (key, value) then first else candidate k v,
      fun k v hkv => ?_, fun k v hkv => ?_⟩
    · dsimp only
      split
      · rename_i heq
        obtain ⟨rfl, rfl⟩ := Prod.mk.inj heq
        exact hfirst
      · rename_i hne
        exact hlookup k v ((List.mem_cons.mp hkv).resolve_left hne)
    · dsimp only
      split
      · rename_i heq
        obtain ⟨rfl, rfl⟩ := Prod.mk.inj heq
        exact hcovers
      · rename_i hne
        exact hrest k v ((List.mem_cons.mp hkv).resolve_left hne)

end

mutual

/-- Every value authorizes itself. -/
theorem authorized_self : ∀ value : Json, value.isValue = true →
    entitlementValueAuthorized value value = true
  | .string value => fun _ => by
    simp [entitlementValueAuthorized, stringEntitlementAuthorized]
  | .array items => fun h => by
    rw [Json.isValue] at h
    exact authorized_items items items h fun _ hitem => hitem
  | .object members => fun h => by
    rw [Json.isValue] at h
    exact authorized_members members members none h fun _ _ hmem => lookup_of_mem h hmem
  | .null => fun _ => by simp [entitlementValueAuthorized]
  | .bool _ => fun _ => by simp [entitlementValueAuthorized]
  | .number _ => fun _ => by simp [entitlementValueAuthorized]

private theorem authorized_items : ∀ (authorized actual : List Json),
    Json.areValues actual = true → (∀ item ∈ actual, item ∈ authorized) →
    areItemsAuthorized authorized actual = true
  | _, [] => fun _ _ => rfl
  | authorized, item :: items => fun h hmem => by
    rw [Json.areValues, Bool.and_eq_true] at h
    rw [areItemsAuthorized, Bool.and_eq_true, List.any_eq_true]
    exact ⟨⟨item, hmem item List.mem_cons_self, authorized_self item h.1⟩,
      authorized_items authorized items h.2 fun i hi => hmem i (List.mem_cons_of_mem _ hi)⟩

private theorem authorized_members : ∀ (authorized actual : Members) (previous : Option String),
    Json.areMembers previous actual = true →
    (∀ key value, (key, value) ∈ actual → authorized.lookup key = some value) →
    areMembersAuthorized authorized actual = true
  | _, [], _ => fun _ _ => rfl
  | authorized, (key, value) :: members, previous => fun h hlookup => by
    rw [Json.areMembers, Bool.and_eq_true, Bool.and_eq_true] at h
    rw [areMembersAuthorized, Bool.and_eq_true, hlookup key value List.mem_cons_self]
    exact ⟨authorized_self value h.1.2, authorized_members authorized members (some key) h.2
      fun k v hkv => hlookup k v (List.mem_cons_of_mem _ hkv)⟩

end

/-! ## Application groups -/

theorem texts_of_groups {values : List Json} {texts : List String}
    (h : values.mapM applicationGroup = some texts) : values = texts.map .string := by
  induction values generalizing texts with
  | nil =>
    rw [List.mapM_nil] at h
    cases h
    rfl
  | cons value values ih =>
    rw [List.mapM_cons] at h
    obtain ⟨text, htext, h⟩ := Option.bind_eq_some_iff.mp h
    obtain ⟨rest, hrest, h⟩ := Option.bind_eq_some_iff.mp h
    cases h
    have hvalue : value = .string text := by
      obtain ⟨hstr, -⟩ := Option.filter_eq_some_iff.mp htext
      cases value with
      | string t => rw [Option.some.inj hstr]
      | _ => cases hstr
    rw [hvalue, ih hrest]
    rfl

/-- AcceptedProfile groups are a list of distinct texts. -/
theorem texts_of_requestedGroups {required : Json} {groups : Finset String}
    (h : requestedApplicationGroups required = some groups) :
    ∃ texts : List String, required = .array (texts.map .string) ∧ texts.Nodup ∧
      groups = texts.toFinset := by
  obtain ⟨values, hvalues, hgroups⟩ := Option.bind_eq_some_iff.mp h
  have hrequired : required = .array values := by
    cases required with
    | array items => rw [Option.some.inj hvalues]
    | _ => cases hvalues
  unfold distinctGroups at hgroups
  split at hgroups
  · cases hgroups
  · obtain ⟨texts, htexts, hset⟩ := Option.map_eq_some_iff.mp hgroups
    obtain ⟨htexts, hnodup⟩ := Option.filter_eq_some_iff.mp htexts
    exact ⟨texts, by rw [hrequired, texts_of_groups htexts], of_decide_eq_true hnodup, hset.symm⟩

theorem mapM_asStr (texts : List String) : (texts.map Json.string).mapM asStr = some texts := by
  induction texts with
  | nil => rfl
  | cons text texts ih =>
    rw [List.map_cons, List.mapM_cons, ih]
    rfl

theorem jsonStringSet_texts {texts : List String} (h : texts.Nodup) :
    jsonStringSet (.array (texts.map .string)) = some texts.toFinset := by
  have hcard : texts.toFinset.card = (texts.map Json.string).length := by
    rw [List.toFinset_card_of_nodup h, List.length_map]
  simp only [jsonStringSet, asArray, Option.bind_eq_bind, Option.bind_some,
    mapM_asStr, hcard, if_true]

/-- A list of texts is authorized by a list that has them all. -/
theorem authorized_texts {authorized actual : List String}
    (h : actual.toFinset ⊆ authorized.toFinset) :
    entitlementValueAuthorized (.array (authorized.map .string)) (.array (actual.map .string)) =
      true := by
  rw [entitlementValueAuthorized]
  apply authorized_items
  · have hvalues : ∀ texts : List String, Json.areValues (texts.map .string) = true := by
      intro texts
      induction texts with
      | nil => rfl
      | cons text texts ih => exact ih
    exact hvalues actual
  · intro item hitem
    obtain ⟨text, htext, rfl⟩ := List.mem_map.mp hitem
    exact List.mem_map.mpr ⟨text, List.mem_toFinset.mp (h (List.mem_toFinset.mpr htext)), rfl⟩

/-! ## AcceptedProfile profiles -/

section

variable {profile : ProvisioningProfile} {request : ProfileValidationRequest}

/-- What an accepted profile says of one required entitlement. -/
inductive Provided (profile : ProvisioningProfile) (request : ProfileValidationRequest) :
    String × Json → Prop where
  | applicationIdentifier : Provided profile request
      (applicationIdentifierKey, .string (expectedApplicationIdentifier request))
  | getTaskAllow :
    Provided profile request (getTaskAllowKey, .bool (expectedGetTaskAllow request))
  | applicationGroups {texts authorized : List String} (hnodup : texts.Nodup)
      (hprofile : profile.entitlements.get applicationGroupsKey =
        some (.array (authorized.map .string)))
      (hsubset : texts.toFinset ⊆ authorized.toFinset) :
    Provided profile request (applicationGroupsKey, .array (texts.map .string))
  | other {key : String} {value : Json} (happlication : key ≠ applicationIdentifierKey)
      (htask : key ≠ getTaskAllowKey) (hgroups : key ≠ applicationGroupsKey)
      (hprofile : profile.entitlements.get key = some value) :
    Provided profile request (key, value)

theorem pushUnique_ne_nil (issues : List ProfileValidationIssue) (issue : ProfileValidationIssue) :
    pushUnique issues issue ≠ [] := by
  unfold pushUnique
  split
  · rename_i hmem
    exact List.ne_nil_of_mem hmem
  · simp

theorem issueIf_eq_nil {bad : Bool} {issue : ProfileValidationIssue} :
    issueIf bad issue = [] ↔ bad = false := by
  cases bad <;> simp [issueIf]

theorem checkRequiredGroups_eq_nil {required : Json}
    (h : (checkRequiredGroups profile checks required).1 = []) :
    checks.1 = [] ∧ Provided profile request (applicationGroupsKey, required) := by
  unfold checkRequiredGroups at h
  split at h
  · rename_i groups hgroups
    split at h
    · rename_i hsubset
      obtain ⟨authorized, hauthorized, hsubset⟩ := (Option.any_eq_true _ _).mp hsubset
      obtain ⟨value, hvalue, hauthorized⟩ := Option.bind_eq_some_iff.mp hauthorized
      obtain ⟨texts, rfl, hnodup, rfl⟩ := texts_of_requestedGroups hgroups
      obtain ⟨names, rfl, -, rfl⟩ := texts_of_requestedGroups hauthorized
      exact ⟨h, .applicationGroups hnodup hvalue (of_decide_eq_true hsubset)⟩
    · exact absurd h (pushUnique_ne_nil _ _)
  · exact absurd h (pushUnique_ne_nil _ _)

/-- An entitlement that adds no issue is provided. -/
theorem checkRequired_eq_nil (h : (checkRequired profile request checks entry).1 = []) :
    checks.1 = [] ∧ Provided profile request entry := by
  obtain ⟨key, required⟩ := entry
  -- the branches by key, in the order of the source
  unfold checkRequired at h
  dsimp only at h
  split at h
  · rename_i hkey
    obtain ⟨hchecks, hissue⟩ := List.append_eq_nil_iff.mp h
    have hstr : asStr required = some (expectedApplicationIdentifier request) := by
      simpa [bne] using issueIf_eq_nil.mp hissue
    rw [hkey]
    cases required with
    | string text =>
      rw [Option.some.inj hstr]
      exact ⟨hchecks, .applicationIdentifier⟩
    | _ => cases hstr
  · rename_i happlication
    split at h
    · rename_i hkey
      split at h
      · rename_i hbool
        rw [hkey]
        cases required with
        | bool b =>
          rw [Option.some.inj hbool]
          exact ⟨h, .getTaskAllow⟩
        | _ => cases hbool
      · exact absurd h (pushUnique_ne_nil _ _)
    · rename_i htask
      split at h
      · rename_i hkey
        rw [hkey]
        exact checkRequiredGroups_eq_nil h
      · rename_i hgroups
        obtain ⟨hchecks, hissue⟩ := List.append_eq_nil_iff.mp h
        unfold otherIssues at hissue
        split at hissue
        · cases hissue
        · rename_i actual hactual
          have hsame : actual = required := by
            simpa using issueIf_eq_nil.mp hissue
          rw [hsame] at hactual
          exact ⟨hchecks, .other happlication htask hgroups hactual⟩

theorem foldl_checkRequired_eq_nil {entries : Members}
    (h : (entries.foldl (checkRequired profile request) checks).1 = []) :
    checks.1 = [] ∧ ∀ entry ∈ entries, Provided profile request entry := by
  induction entries generalizing checks with
  | nil => exact ⟨h, fun _ hmem => (by cases hmem)⟩
  | cons entry entries ih =>
    obtain ⟨hstep, hrest⟩ := ih h
    obtain ⟨hchecks, hentry⟩ := checkRequired_eq_nil hstep
    refine ⟨hchecks, fun e he => ?_⟩
    cases he with
    | head => exact hentry
    | tail _ he => exact hrest e he

/-- What an accepted profile is known to hold. -/
structure AcceptedProfile (profile : ProvisioningProfile) (request : ProfileValidationRequest) :
    Prop where
  metadata : profile.validateMetadataAt request.nowUnixSeconds = .ok ()
  team : profile.team.id = request.team.id
  bundle : bundlePatternMatches profile.bundleIdentifierPattern
    request.target.bundleIdentifier.value = true
  getTaskAllow : profile.entitlements.get getTaskAllowKey =
    some (.bool (expectedGetTaskAllow request))
  applicationIdentifier : profile.entitlements.get applicationIdentifierKey =
    some (.string profile.applicationIdentifier)
  teamIdentifier : ∀ value, profile.entitlements.get teamIdentifierKey = some value →
    value = .string request.team.id
  required : ∀ entry ∈ request.requiredEntitlements.values, Provided profile request entry

theorem eq_string_of_asStr {text : String} (h : asStr value = some text) :
    value = .string text := by
  cases value with
  | string t => rw [Option.some.inj h]
  | _ => cases h

theorem eq_bool_of_asBool {b : Bool} (h : asBool value = some b) :
    value = .bool b := by
  cases value with
  | bool b' => rw [Option.some.inj h]
  | _ => cases h

theorem validateProfileForTarget_accepts {evidence : ValidatedProvisioningProfile}
    (h : validateProfileForTarget profile request = .ok evidence) :
    AcceptedProfile profile request := by
  unfold validateProfileForTarget at h
  dsimp only at h
  split at h
  · rename_i hissues
    obtain ⟨hprofile, hrequired⟩ := foldl_checkRequired_eq_nil (List.isEmpty_iff.mp hissues)
    simp only [profileIssues, List.append_eq_nil_iff, issueIf_eq_nil, bne_eq_false_iff_eq]
      at hprofile
    obtain ⟨⟨⟨⟨⟨⟨⟨⟨⟨⟨⟨⟨⟨hmetadata, hteam⟩, -⟩, -⟩, hbundle⟩, -⟩, -⟩, -⟩, -⟩, -⟩, htask⟩,
      happlication⟩, hteamIdentifier⟩, -⟩ := hprofile
    obtain ⟨task, htask, hbool⟩ := Option.bind_eq_some_iff.mp htask
    obtain ⟨application, happlication, hstr⟩ := Option.bind_eq_some_iff.mp happlication
    exact {
      metadata := by
        unfold metadataIssues at hmetadata
        split at hmetadata
        · assumption
        all_goals cases hmetadata
      team := hteam
      bundle := by simpa using hbundle
      getTaskAllow := by rw [htask, eq_bool_of_asBool hbool]
      applicationIdentifier := by rw [happlication, eq_string_of_asStr hstr]
      teamIdentifier := by
        intro value hvalue
        rw [hvalue, Option.any_some, bne_eq_false_iff_eq] at hteamIdentifier
        exact eq_string_of_asStr hteamIdentifier
      required := hrequired }
  · cases h

/-! ## Agreement -/

/-- The entitlements of the code to be signed: those that the target requires, the identifiers of
    the application and of the team, and the debugging flag that the profile has. -/
def completed (profile : ProvisioningProfile) (request : ProfileValidationRequest)
    (key : String) : Option Json :=
  if key = applicationIdentifierKey then some (.string (expectedApplicationIdentifier request))
  else if key = teamIdentifierKey then some (.string request.team.id)
  else if key = getTaskAllowKey then profile.entitlements.get getTaskAllowKey
  else request.requiredEntitlements.get key

/-- The profile authorizes a signed entitlement: it has a value that covers it, or it is of the
    team that the entitlement names. -/
def Authorizes (profile : ProvisioningProfile) (key : String) (value : Json) : Prop :=
  (∃ authorized, profile.entitlements.get key = some authorized ∧ Covers authorized value) ∨
    (key = teamIdentifierKey ∧ value = .string profile.team.id)

/-- The checks of the signed entitlements. -/
structure SignedChecks (signed : EntitlementSet) (profile : ProvisioningProfile)
    (required : EntitlementSet) (target : Remote.SigningTarget) (team : DevelopmentTeam) :
    Prop where
  applicationIdentifier : signed.get applicationIdentifierKey =
    some (.string (team.qualify target.bundleIdentifier.value))
  teamIdentifier : signed.get teamIdentifierKey = some (.string team.id)
  getTaskAllow : signed.get getTaskAllowKey = some (.bool true)
  required : ∀ entry ∈ required.values, ∃ actual, signed.get entry.1 = some actual ∧
    requiredEntitlementMatches entry.1 entry.2 actual = true
  authorized : ∀ entry ∈ signed.values, isSignedEntitlementAuthorized profile team entry = true

theorem bind_asStr {value : Option Json} {text : String} :
    value.bind asStr = some text ↔ value = some (.string text) := by
  constructor
  · intro h
    obtain ⟨v, rfl, hv⟩ := Option.bind_eq_some_iff.mp h
    rw [eq_string_of_asStr hv]
  · intro h
    rw [h]
    rfl

theorem bind_asBool {value : Option Json} {b : Bool} :
    value.bind asBool = some b ↔ value = some (.bool b) := by
  constructor
  · intro h
    obtain ⟨v, rfl, hv⟩ := Option.bind_eq_some_iff.mp h
    rw [eq_bool_of_asBool hv]
  · intro h
    rw [h]
    rfl

theorem validateSignedEntitlements_ok {signed required : EntitlementSet}
    {target : Remote.SigningTarget} {team : DevelopmentTeam} :
    (∃ groups, validateSignedEntitlements signed profile required target team = .ok groups) ↔
      SignedChecks signed profile required target team := by
  simp only [validateSignedEntitlements, check_bind_eq_ok, rejectIf_eq_ok, Bool.or_eq_false_iff,
    bne_eq_false_iff_eq, bind_asStr, bind_asBool, Bool.not_eq_false', List.all_eq_true,
    Option.any_eq_true]
  constructor
  · intro h
    obtain ⟨_, ⟨⟨happlication, hteam⟩, htask⟩, hrequired, hauthorized, -⟩ := h
    exact ⟨happlication, hteam, htask, hrequired, hauthorized⟩
  · intro h
    exact ⟨_, ⟨⟨h.applicationIdentifier, h.teamIdentifier⟩, h.getTaskAllow⟩, h.required,
      h.authorized, rfl⟩

/-- A provided entitlement is part of the completed set with the same value. -/
theorem completed_of_provided (haccepted : AcceptedProfile profile request)
    (hmem : entry ∈ request.requiredEntitlements.values) :
    completed profile request entry.1 = some entry.2 := by
  have hget := get_of_mem hmem
  cases haccepted.required entry hmem with
  | applicationIdentifier => rfl
  | getTaskAllow => exact haccepted.getTaskAllow
  | applicationGroups => exact hget
  | @other key value happlication htask hgroups hprofile =>
    show completed profile request key = some value
    by_cases hteam : key = teamIdentifierKey
    · rw [hteam] at hprofile ⊢
      rw [haccepted.teamIdentifier _ hprofile]
      rfl
    · rw [completed, if_neg happlication, if_neg hteam, if_neg htask]
      exact hget

theorem requiredEntitlementMatches_self (h : Provided profile request entry) :
    requiredEntitlementMatches entry.1 entry.2 entry.2 = true := by
  cases h with
  | applicationIdentifier =>
    have hne : applicationIdentifierKey ≠ applicationGroupsKey := by decide
    rw [requiredEntitlementMatches, if_neg hne]
    exact decide_eq_true rfl
  | getTaskAllow =>
    have hne : getTaskAllowKey ≠ applicationGroupsKey := by decide
    rw [requiredEntitlementMatches, if_neg hne]
    exact decide_eq_true rfl
  | applicationGroups hnodup =>
    rw [requiredEntitlementMatches, if_pos rfl, jsonStringSet_texts hnodup]
    exact decide_eq_true rfl
  | other _ _ hgroups =>
    rw [requiredEntitlementMatches, if_neg hgroups]
    exact decide_eq_true rfl

/-- An entitlement of the completed set is authorized; the debugging flag has to be set. -/
theorem isSignedEntitlementAuthorized_completed (haccepted : AcceptedProfile profile request)
    (hdevelopment : request.profileType = .development) {actual : Json}
    (hcompleted : completed profile request key = some actual) :
    isSignedEntitlementAuthorized profile request.team (key, actual) = true := by
  unfold completed at hcompleted
  unfold isSignedEntitlementAuthorized
  dsimp only
  split at hcompleted
  · rename_i happlication
    rw [if_pos happlication]
  · rename_i happlication
    rw [if_neg happlication]
    split at hcompleted
    · rename_i hteam
      rw [if_pos hteam, ← Option.some.inj hcompleted]
      exact decide_eq_true rfl
    · rename_i hteam
      rw [if_neg hteam]
      split at hcompleted
      · rename_i htask
        rw [haccepted.getTaskAllow, expectedGetTaskAllow, decide_eq_true hdevelopment] at hcompleted
        rw [if_pos htask, ← Option.some.inj hcompleted]
        exact decide_eq_true rfl
      · rename_i htask
        rw [if_neg htask]
        -- the entitlement is one that the target requires
        have hmem := mem_of_get hcompleted
        have hcanonical := request.requiredEntitlements.canonical
        rw [Json.isValue] at hcanonical
        cases haccepted.required _ hmem with
        | applicationIdentifier => exact absurd rfl happlication
        | getTaskAllow => exact absurd rfl htask
        | applicationGroups _ hprofile hsubset =>
          rw [hprofile]
          exact authorized_texts hsubset
        | other _ _ _ hprofile =>
          rw [hprofile]
          exact authorized_self _ (isValue_of_mem hcanonical hmem)

theorem applicationIdentifier_of_metadata
    (h : profile.validateMetadataAt nowUnixSeconds = .ok ()) :
    profile.applicationIdentifier = profile.team.qualify profile.bundleIdentifierPattern := by
  obtain ⟨hmetadata, -⟩ := check_bind_eq_ok.mp h
  simp only [ProvisioningProfile.validateMetadata, check_bind_eq_ok, rejectIf_eq_ok,
    bne_eq_false_iff_eq] at hmetadata
  exact hmetadata.2.2.2.2.1

/-- The bundle pattern of a profile and the wildcards of its entitlements agree. -/
theorem covers_bundle (id : String) {pattern bundle : String}
    (h : bundlePatternMatches pattern bundle = true) :
    Covers (.string (id ++ "." ++ pattern)) (.string (id ++ "." ++ bundle)) := by
  unfold bundlePatternMatches at h
  split at h
  · rename_i hpattern
    rw [hpattern]
    exact .text _ _
  · split at h
    · rename_i front hfront
      obtain ⟨rest, hrest, hdot⟩ := (Option.any_eq_true _ _).mp h
      -- the bundle identifier goes on after the dot of the pattern
      have hbundle : front.isPrefixOf bundle.toList = true ∧
          rest = bundle.toList.drop front.length := by
        unfold Text.stripFront at hrest
        split at hrest
        · rename_i hstarts
          exact ⟨hstarts, (Option.some.inj hrest).symm⟩
        · cases hrest
      obtain ⟨tail, htail⟩ := List.isPrefixOf_iff_prefix.mp hbundle.1
      have hrest' : rest = tail := by
        rw [hbundle.2, ← htail, List.drop_left]
      rw [hrest', Bool.and_eq_true, beq_iff_eq] at hdot
      cases tail with
      | nil => cases hdot.1
      | cons c tail =>
        have hc : c = '.' := Option.some.inj hdot.1
        have hp : id ++ "." ++ pattern = id ++ "." ++ .ofList front ++ "." ++ "*" := by
          apply String.toList_inj.mp
          simp [stripBack_eq_some.mp hfront]
        have hb : id ++ "." ++ bundle = id ++ "." ++ .ofList front ++ "." ++ .ofList tail := by
          apply String.toList_inj.mp
          simp [← htail, hc]
        rw [hp, hb]
        exact .text _ _
    · rw [of_decide_eq_true h]
      exact .same _

/-- Every entitlement that the second check accepts is authorized by the profile. -/
theorem authorizes_of_checks (haccepted : AcceptedProfile profile request)
    (hdevelopment : request.profileType = .development) {signed : EntitlementSet}
    (hchecks : SignedChecks signed profile request.requiredEntitlements request.target request.team)
    (hget : signed.get key = some value) :
    Authorizes profile key value := by
  have hauthorized := hchecks.authorized _ (mem_of_get hget)
  unfold isSignedEntitlementAuthorized at hauthorized
  dsimp only at hauthorized
  split at hauthorized
  · rename_i hkey
    rw [hkey, hchecks.applicationIdentifier] at hget
    have hmetadata := applicationIdentifier_of_metadata haccepted.metadata
    have hcovers := covers_bundle request.team.id haccepted.bundle
    refine .inl ⟨_, by rw [hkey]; exact haccepted.applicationIdentifier, ?_⟩
    rw [← Option.some.inj hget, hmetadata, DevelopmentTeam.qualify, haccepted.team]
    exact hcovers
  · split at hauthorized
    · rename_i hkey
      refine .inr ⟨hkey, ?_⟩
      rw [haccepted.team]
      exact eq_string_of_asStr (of_decide_eq_true hauthorized)
    · split at hauthorized
      · rename_i hkey
        refine .inl ⟨_, by rw [hkey]; exact haccepted.getTaskAllow, ?_⟩
        rw [eq_bool_of_asBool (of_decide_eq_true hauthorized), expectedGetTaskAllow,
          decide_eq_true hdevelopment]
        exact .same _
      · obtain ⟨authorized, hprofile, hvalue⟩ := (Option.any_eq_true _ _).mp hauthorized
        exact .inl ⟨authorized, hprofile, covers_of_authorized _ _ hvalue⟩

/-- **Agreement.** For a profile that is accepted for a target, the entitlements of the code to be
    signed are accepted exactly when the profile is a development profile, and then every set
    that is accepted holds only what the profile authorizes. -/
theorem signedEntitlements_agree {evidence : ValidatedProvisioningProfile}
    (hprofile : validateProfileForTarget profile request = .ok evidence) :
    (∀ signed : EntitlementSet, (∀ key, signed.get key = completed profile request key) →
      ((∃ groups, validateSignedEntitlements signed profile request.requiredEntitlements
        request.target request.team = .ok groups) ↔ request.profileType = .development)) ∧
    (request.profileType = .development → ∀ signed groups, validateSignedEntitlements signed profile
      request.requiredEntitlements request.target request.team = .ok groups →
      ∀ key value, signed.get key = some value → Authorizes profile key value) := by
  have haccepted := validateProfileForTarget_accepts hprofile
  constructor
  · intro signed hsigned
    rw [validateSignedEntitlements_ok]
    constructor
    · intro hchecks
      -- the flag has to be set, and the profile has it only for development
      have htask : signed.get getTaskAllowKey = profile.entitlements.get getTaskAllowKey :=
        hsigned getTaskAllowKey
      rw [hchecks.getTaskAllow, haccepted.getTaskAllow] at htask
      exact of_decide_eq_true (Json.bool.inj (Option.some.inj htask)).symm
    · intro hdevelopment
      exact {
        applicationIdentifier := hsigned _
        teamIdentifier := hsigned _
        getTaskAllow := by
          have htask : signed.get getTaskAllowKey = profile.entitlements.get getTaskAllowKey :=
            hsigned getTaskAllowKey
          rw [htask, haccepted.getTaskAllow, expectedGetTaskAllow, decide_eq_true hdevelopment]
        required := by
          intro entry hmem
          exact ⟨entry.2, by rw [hsigned, completed_of_provided haccepted hmem],
            requiredEntitlementMatches_self (haccepted.required entry hmem)⟩
        authorized := by
          intro entry hmem
          apply isSignedEntitlementAuthorized_completed haccepted hdevelopment
          rw [← hsigned]
          exact get_of_mem hmem }
  · intro hdevelopment signed groups hsigned key value hget
    exact authorizes_of_checks haccepted hdevelopment
      (validateSignedEntitlements_ok.mp ⟨groups, hsigned⟩) hget

end

end

/-! ## Samples -/

namespace Sample

def team : DevelopmentTeam := ⟨"ABCDE12345", none, by decide⟩

def target : Remote.SigningTarget := ⟨"App", ⟨"com.example.app", .refl true⟩, .application⟩

def fingerprint : String := "9F86D081884C7D659A2FEAA0C55AD015A3BF4F1B2B0B822CD15D6C15B0F00A08"

def device : DevicePlan where
  udidSha256 := "8a3cd5a81b3f9a621aa493d90c45f42ab571d4e42b8ae5aff351cb0a02d06d82"
  displayName := none
  valid := by decide +kernel

def groups : Json := .array [.string "group.com.example.app"]

def requiredEntitlements : EntitlementSet where
  values := [("com.apple.security.application-groups", groups)]
  canonical := by decide
  valid := by decide

/-- The entitlements of a profile, and of the code that is signed with it. -/
def entitlements (getTaskAllow : Bool) : EntitlementSet where
  values := [
    ("application-identifier", .string "ABCDE12345.com.example.app"),
    ("com.apple.developer.team-identifier", .string "ABCDE12345"),
    ("com.apple.security.application-groups", groups),
    ("get-task-allow", .bool getTaskAllow)]
  canonical := by cases getTaskAllow <;> decide
  valid := by cases getTaskAllow <;> decide

def profile (profileType : ProvisioningProfileType) : ProvisioningProfile where
  uuid := "profile-1"
  name := "Profile"
  team := team
  applicationIdentifier := "ABCDE12345.com.example.app"
  bundleIdentifierPattern := "com.example.app"
  wildcard := false
  createdAtUnixSeconds := 1
  expiresAtUnixSeconds := 3
  deviceUdidSha256s := [device.udidSha256]
  entitlements := entitlements (profileType = .development)
  platforms := {.ios}
  profileType := profileType
  certificateFingerprints := [fingerprint]

def request (profileType : ProvisioningProfileType) : ProfileValidationRequest where
  target := target
  team := team
  device := some device
  certificate := ⟨"Certificate", fingerprint, team, 3⟩
  profileType := profileType
  requiredEntitlements := requiredEntitlements
  nowUnixSeconds := 2

def evidence (profileType : ProvisioningProfileType) : ValidatedProvisioningProfile where
  profileUuid := "profile-1"
  targetBundleIdentifier := "com.example.app"
  teamIdentifier := "ABCDE12345"
  certificateSha256Fingerprint := fingerprint
  profileType := profileType
  applicationGroups := {"group.com.example.app"}
  expiresAtUnixSeconds := 3

/-- Both profiles authorize their target; what is signed as the ad-hoc one says is refused. -/
theorem profiles_evaluate :
    validateProfileForTarget (profile .adHoc) (request .adHoc) = .ok (evidence .adHoc) ∧
      validateProfileForTarget (profile .development) (request .development) =
        .ok (evidence .development) ∧
      validateSignedEntitlements (entitlements false) (profile .adHoc) requiredEntitlements target
        team = .error .entitlementsMismatch := by
  decide +kernel

theorem get_entitlements (profileType : ProvisioningProfileType) (key : String) :
    (entitlements (profileType = .development)).get key =
      completed (profile profileType) (request profileType) key := by
  unfold completed
  split
  · rename_i hkey
    rw [hkey]
    rfl
  · rename_i happlication
    split
    · rename_i hkey
      rw [hkey]
      rfl
    · rename_i hteam
      split
      · rename_i hkey
        rw [hkey]
        rfl
      · rename_i htask
        -- only the groups are left
        have happlication' : (key == "application-identifier") = false :=
          beq_false_of_ne happlication
        have hteam' : (key == "com.apple.developer.team-identifier") = false :=
          beq_false_of_ne hteam
        have htask' : (key == "get-task-allow") = false := beq_false_of_ne htask
        simp only [EntitlementSet.get, entitlements, request, requiredEntitlements, List.lookup_cons,
          List.lookup_nil, happlication', hteam', htask']

/-- An ad-hoc profile that authorizes its target; what is signed as it says is refused. -/
theorem adHoc_refused :
    validateProfileForTarget (profile .adHoc) (request .adHoc) = .ok (evidence .adHoc) ∧
    (∀ key, (entitlements false).get key = completed (profile .adHoc) (request .adHoc) key) ∧
    validateSignedEntitlements (entitlements false) (profile .adHoc) requiredEntitlements target
      team = .error .entitlementsMismatch :=
  ⟨profiles_evaluate.1, get_entitlements .adHoc, profiles_evaluate.2.2⟩

/-- The two checks agree on the development profile. -/
theorem signedEntitlements_agree_development :
    (∃ groups, validateSignedEntitlements (entitlements true) (profile .development)
      requiredEntitlements target team = .ok groups) ∧
    Authorizes (profile .development) "get-task-allow" (.bool true) := by
  obtain ⟨haccepts, hauthorizes⟩ := signedEntitlements_agree profiles_evaluate.2.1
  obtain ⟨groups, hgroups⟩ := (haccepts (entitlements true) (get_entitlements .development)).mpr rfl
  exact ⟨⟨groups, hgroups⟩, hauthorizes rfl (entitlements true) groups hgroups _ _ rfl⟩

end Sample

end RustFerry.Worker
