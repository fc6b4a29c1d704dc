import ApiSchema.Settings
import ApiSchema.Proofs.Text.Pieces

/-!
Settings after an environment. Of several variables for one setting the last one counts, and of
those none that is empty. An address that comes anew stands behind those that are there, in the
order in which the platforms are first given one. The same environment changes nothing when it
comes again.
-/

set_option autoImplicit false

namespace ApiSchema

namespace Settings

def GivesEndpoint (platform variableName : String) : Prop :=
  ∃ suffix, suffix ≠ "" ∧ variableName = "PLUM_STRUCTURE_ENDPOINT_" ++ suffix ∧
    Text.lowerAscii suffix = platform

theorem endpointPlatform?_eq_some_iff {variableName platform : String} :
    endpointPlatform? variableName = some platform ↔ GivesEndpoint platform variableName := by
  have cut (suffix : String) : Text.after? variableName endpointVariable = some suffix ↔
      variableName = "PLUM_STRUCTURE_ENDPOINT_" ++ suffix := Text.after?_eq_some_iff
  unfold endpointPlatform? GivesEndpoint
  split
  · rename_i suffix found
    rw [(cut suffix).mp found]
    simp
  · rename_i none
    refine iff_of_false (by simp) ?_
    rintro ⟨suffix, _, spelled, _⟩
    rw [(cut suffix).mpr spelled] at none
    cases none

instance (platform : String) : DecidablePred (GivesEndpoint platform) := fun _ =>
  decidable_of_iff _ endpointPlatform?_eq_some_iff

/-- Whether an entry gives a value to a variable of the kind; an empty one is none. -/
def gives (isKind : String → Prop) [DecidablePred isKind] (entry : String × String) : Bool :=
  isKind entry.1 && entry.2 ≠ ""

/-- The values that an environment gives to variables of the kind, in order. -/
def given (isKind : String → Prop) [DecidablePred isKind] (environment : List (String × String)) :
    List String :=
  (environment.filter (gives isKind)).map Prod.snd

/-- The place of the first entry that gives a value to a variable of the kind. -/
def firstPlace (isKind : String → Prop) [DecidablePred isKind]
    (environment : List (String × String)) : Nat :=
  environment.findIdx (gives isKind)

/-- The platforms whose addresses come anew, in the order in which they are first given one. -/
structure Appended (known : List String) (environment : List (String × String))
    (added : List String) : Prop where
  new : ∀ platform, platform ∈ added ↔
    platform ∉ known ∧ given (GivesEndpoint platform) environment ≠ []
  ordered : added.Pairwise fun first second =>
    firstPlace (GivesEndpoint first) environment < firstPlace (GivesEndpoint second) environment

structure Overridden (settings : Settings) (environment : List (String × String))
    (result : Settings) : Prop where
  language : result.language =
    (given (· = "PLUM_LANGUAGE") environment).getLast?.getD settings.language
  endpoints : ∀ platform, result.endpoints.get? platform =
    (given (GivesEndpoint platform) environment).getLast?.or (settings.endpoints.get? platform)
  platforms : ∃ added, result.endpoints.keys = settings.endpoints.keys ++ added ∧
    Appended settings.endpoints.keys environment added
  others : { result with language := settings.language, endpoints := settings.endpoints } = settings

section

variable {isKind : String → Prop} [DecidablePred isKind] {environment : List (String × String)}
  {entry : String × String}

theorem given_snoc (isGiven : gives isKind entry = true) :
    given isKind (environment ++ [entry]) = given isKind environment ++ [entry.2] := by
  rw [given, List.filter_append, List.map_append, List.filter_singleton, isGiven]
  rfl

theorem given_snoc_of_other (other : gives isKind entry = false) :
    given isKind (environment ++ [entry]) = given isKind environment := by
  rw [given, List.filter_append, List.map_append, List.filter_singleton, other]
  exact List.append_nil _

theorem given_ne_nil_iff : given isKind environment ≠ [] ↔
    ∃ entry ∈ environment, gives isKind entry = true := by
  simp [given]

theorem firstPlace_lt (some : given isKind environment ≠ []) :
    firstPlace isKind environment < environment.length := by
  rwa [firstPlace, List.findIdx_lt_length, ← given_ne_nil_iff]

theorem firstPlace_snoc (some : given isKind environment ≠ []) :
    firstPlace isKind (environment ++ [entry]) = firstPlace isKind environment := by
  have found := firstPlace_lt some
  rw [firstPlace] at found
  rw [firstPlace, List.findIdx_append, if_pos found, firstPlace]

theorem firstPlace_snoc_of_new (new : given isKind environment = [])
    (isNew : gives isKind entry = true) :
    firstPlace isKind (environment ++ [entry]) = environment.length := by
  have absent : ¬ environment.findIdx (gives isKind) < environment.length := by
    rw [List.findIdx_lt_length, ← given_ne_nil_iff]
    exact not_not_intro new
  rw [firstPlace, List.findIdx_append, if_neg absent, List.findIdx_cons, isNew]
  simp

end

inductive OverriddenBy (settings : Settings) (entry : String × String) : Settings → Prop
  | language (isLanguage : gives (· = "PLUM_LANGUAGE") entry = true)
      (noEndpoint : ∀ platform, gives (GivesEndpoint platform) entry = false) :
      OverriddenBy settings entry { settings with language := entry.2 }
  | endpoint (platform : String) (noLanguage : gives (· = "PLUM_LANGUAGE") entry = false)
      (isEndpoint : ∀ other, gives (GivesEndpoint other) entry = true ↔ other = platform) :
      OverriddenBy settings entry
        { settings with endpoints := settings.endpoints.insert platform entry.2 }
  | passed (noLanguage : gives (· = "PLUM_LANGUAGE") entry = false)
      (noEndpoint : ∀ platform, gives (GivesEndpoint platform) entry = false) :
      OverriddenBy settings entry settings

theorem overriddenBy (settings : Settings) (entry : String × String) :
    OverriddenBy settings entry (settings.override entry.1 entry.2) := by
  obtain ⟨name, value⟩ := entry
  unfold override
  dsimp only
  split
  · rename_i empty
    have nothing : value = "" := by simpa using empty
    exact .passed (by simp [gives, nothing]) (by simp [gives, nothing])
  · rename_i filled
    have some : value ≠ "" := by simpa using filled
    split
    · rename_i isLanguage
      have named : name = "PLUM_LANGUAGE" := eq_of_beq isLanguage
      subst named
      refine .language (by simp [gives, some]) fun platform => ?_
      have none : endpointPlatform? "PLUM_LANGUAGE" = none := by decide +kernel
      have other : ¬ GivesEndpoint platform "PLUM_LANGUAGE" := by
        rw [← endpointPlatform?_eq_some_iff, none]
        simp
      simp [gives, other]
    · rename_i noLanguage
      have other : name ≠ "PLUM_LANGUAGE" := fun same => noLanguage (beq_of_eq same)
      split
      · rename_i platform found
        refine .endpoint platform (by simp [gives, other]) fun another => ?_
        rw [gives, Bool.and_eq_true, decide_eq_true_eq, decide_eq_true_eq, and_iff_left some,
          ← endpointPlatform?_eq_some_iff, found, Option.some.injEq, eq_comm]
      · rename_i none
        refine .passed (by simp [gives, other]) fun platform => ?_
        have noEndpoint : ¬ GivesEndpoint platform name := by
          rw [← endpointPlatform?_eq_some_iff, none]
          simp
        simp [gives, noEndpoint]

section

variable {known added : List String} {environment : List (String × String)}
  {entry : String × String} {settings before after : Settings}

/-- An entry gives the address of one platform at most. -/
theorem gives_eq_false {platform other : String}
    (isEndpoint : ∀ other, gives (GivesEndpoint other) entry = true ↔ other = platform)
    (different : other ≠ platform) : gives (GivesEndpoint other) entry = false :=
  Bool.eq_false_of_not_eq_true fun found => different ((isEndpoint other).mp found)

/-- Entries behind those that are there do not change the order. -/
theorem Appended.ordered_snoc (appended : Appended known environment added)
    (entry : String × String) : added.Pairwise fun first second =>
      firstPlace (GivesEndpoint first) (environment ++ [entry]) <
        firstPlace (GivesEndpoint second) (environment ++ [entry]) := by
  refine appended.ordered.imp_of_mem fun member memberToo less => ?_
  rwa [firstPlace_snoc ((appended.new _).mp member).2,
    firstPlace_snoc ((appended.new _).mp memberToo).2]

/-- An entry that gives no new platform adds none. -/
theorem Appended.same (appended : Appended known environment added)
    (old : ∀ platform, gives (GivesEndpoint platform) entry = true → platform ∈ known ++ added) :
    Appended known (environment ++ [entry]) added where
  new := by
    intro platform
    rw [appended.new platform]
    refine and_congr_right fun unknown => ?_
    cases given : gives (GivesEndpoint platform) entry with
    | false => rw [given_snoc_of_other given]
    | true =>
        have found := (List.mem_append.mp (old platform given)).resolve_left unknown
        rw [given_snoc given]
        exact iff_of_true ((appended.new platform).mp found).2 (by simp)
  ordered := appended.ordered_snoc entry

/-- An entry that gives a new platform adds it at the end. -/
theorem Appended.snoc (appended : Appended known environment added) {platform : String}
    (isEndpoint : ∀ other, gives (GivesEndpoint other) entry = true ↔ other = platform)
    (unknown : platform ∉ known ++ added) :
    Appended known (environment ++ [entry]) (added ++ [platform]) := by
  rw [List.mem_append, not_or] at unknown
  have isGiven := (isEndpoint platform).mpr rfl
  have notGiven : given (GivesEndpoint platform) environment = [] := by
    by_contra some
    exact unknown.2 ((appended.new platform).mpr ⟨unknown.1, some⟩)
  refine ⟨fun other => ?_, ?_⟩
  · rw [List.mem_append, List.mem_singleton, appended.new other]
    by_cases same : other = platform
    · subst same
      rw [given_snoc isGiven]
      simp [unknown.1]
    · rw [given_snoc_of_other (gives_eq_false isEndpoint same)]
      simp [same]
  · rw [List.pairwise_append]
    refine ⟨appended.ordered_snoc entry, List.pairwise_singleton _ _,
      fun other member last isLast => ?_⟩
    rw [List.mem_singleton] at isLast
    have some := ((appended.new other).mp member).2
    rw [isLast, firstPlace_snoc some, firstPlace_snoc_of_new notGiven isGiven]
    exact firstPlace_lt some

theorem Overridden.snoc (overridden : Overridden settings environment before)
    (step : OverriddenBy before entry after) :
    Overridden settings (environment ++ [entry]) after := by
  obtain ⟨added, keys, appended⟩ := overridden.platforms
  cases step with
  | language isLanguage noEndpoint =>
      refine ⟨?_, fun platform => ?_, ⟨added, keys, appended.same ?_⟩, overridden.others⟩
      · rw [given_snoc isLanguage]
        simp
      · rw [given_snoc_of_other (noEndpoint platform)]
        exact overridden.endpoints platform
      · simp [noEndpoint]
  | passed noLanguage noEndpoint =>
      refine ⟨?_, fun platform => ?_, ⟨added, keys, appended.same ?_⟩, overridden.others⟩
      · rw [given_snoc_of_other noLanguage]
        exact overridden.language
      · rw [given_snoc_of_other (noEndpoint platform)]
        exact overridden.endpoints platform
      · simp [noEndpoint]
  | endpoint platform noLanguage isEndpoint =>
      refine ⟨?_, fun other => ?_, ?_, overridden.others⟩
      · rw [given_snoc_of_other noLanguage]
        exact overridden.language
      · dsimp only
        rw [OrderedMap.get?_insert]
        by_cases same : other = platform
        · rw [if_pos same, given_snoc ((isEndpoint other).mpr same)]
          simp
        · rw [if_neg same, given_snoc_of_other (gives_eq_false isEndpoint same)]
          exact overridden.endpoints other
      · dsimp only
        rw [OrderedMap.keys_insert, keys]
        split
        · rename_i old
          refine ⟨added, rfl, appended.same fun other found => ?_⟩
          rwa [(isEndpoint other).mp found]
        · rename_i new
          exact ⟨added ++ [platform], List.append_assoc _ _ _, appended.snoc isEndpoint new⟩

end

theorem withOverrides_snoc (settings : Settings) (environment : List (String × String))
    (entry : String × String) :
    settings.withOverrides (environment ++ [entry]) =
      (settings.withOverrides environment).override entry.1 entry.2 := by
  rw [withOverrides, List.foldl_append]
  rfl

theorem overridden (settings : Settings) (environment : List (String × String)) :
    Overridden settings environment (settings.withOverrides environment) := by
  induction environment using List.reverseRecOn with
  | nil =>
      refine ⟨rfl, fun _ => rfl, ⟨[], (List.append_nil _).symm, ?_⟩, rfl⟩
      exact ⟨fun platform => by simp [given], List.Pairwise.nil⟩
  | append_singleton environment entry ih =>
      rw [withOverrides_snoc]
      exact ih.snoc (overriddenBy _ entry)

/-- What an environment has given is there when it comes again. -/
theorem Overridden.again {settings result again : Settings} {environment : List (String × String)}
    (once : Overridden settings environment result)
    (twice : Overridden result environment again) : again = result := by
  have language : again.language = result.language := by
    rw [twice.language, once.language]
    cases (given (· = "PLUM_LANGUAGE") environment).getLast? <;> rfl
  have values (platform : String) :
      again.endpoints.get? platform = result.endpoints.get? platform := by
    rw [twice.endpoints, once.endpoints, ← Option.or_assoc, Option.or_self]
  have keys : again.endpoints.keys = result.endpoints.keys := by
    obtain ⟨added, onceKeys, onceAppended⟩ := once.platforms
    obtain ⟨more, twiceKeys, twiceAppended⟩ := twice.platforms
    -- A platform that is given an address is known before or added the first time.
    have none : more = [] := by
      rw [List.eq_nil_iff_forall_not_mem]
      intro platform member
      obtain ⟨unknown, some⟩ := (twiceAppended.new platform).mp member
      rw [onceKeys, List.mem_append, not_or] at unknown
      exact unknown.2 ((onceAppended.new platform).mpr ⟨unknown.1, some⟩)
    rw [twiceKeys, none, List.append_nil]
  have endpoints : again.endpoints = result.endpoints := OrderedMap.ext_of_keys keys values
  have others := twice.others
  rw [← language, ← endpoints] at others
  exact others

/-- For each setting that variables give, the last value that is not empty counts; an address that
comes anew stands behind the others, and the rest is left. The same environment again changes
nothing. -/
theorem withOverrides_overridden (settings : Settings) (environment : List (String × String)) :
    Overridden settings environment (settings.withOverrides environment) ∧
      (settings.withOverrides environment).withOverrides environment =
        settings.withOverrides environment :=
  ⟨overridden settings environment,
    (overridden settings environment).again (overridden _ environment)⟩

/-- Spellings of one platform fall together, and what is empty resets nothing. -/
example : (default.withOverrides [("PLUM_STRUCTURE_ENDPOINT_Taobao", "a"),
    ("PLUM_STRUCTURE_ENDPOINT_ALIPAY", "b"), ("PLUM_STRUCTURE_ENDPOINT_TAOBAO", "c"),
    ("PLUM_STRUCTURE_ENDPOINT_taobao", "")]).endpoints.entries =
      [("taobao", "c"), ("alipay", "b")] := by
  decide +kernel

end Settings

end ApiSchema
