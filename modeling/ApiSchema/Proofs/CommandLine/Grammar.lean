import ApiSchema.CommandLine
import Mathlib

/-!
The grammar of arguments. Arguments are read exactly if they are a row of groups: options with their
values, flags, a platform and perhaps an input. What is read of them is what the groups say, and
groups of different kinds may change places.
-/

set_option autoImplicit false

namespace ApiSchema.CommandLine

inductive Choice where
  | language
  | settingsFile
  | sourceUrl
  deriving DecidableEq

inductive Flag where
  | page
  | dump
  deriving DecidableEq

/-- Arguments that belong together. -/
inductive Group where
  | option (which : Choice) (value : String)
  | flag (which : Flag)
  | positional (argument : String)
  deriving DecidableEq

inductive Slot where
  | option (which : Choice)
  | flag (which : Flag)
  | positional
  deriving DecidableEq

def Choice.word : Choice → String
  | .language => "--language"
  | .settingsFile => "--config"
  | .sourceUrl => "--source-url"

def Flag.word : Flag → String
  | .page => "--document"
  | .dump => "--dump-ir"

namespace Group

def words : Group → List String
  | .option which value => [which.word, value]
  | .flag which => [which.word]
  | .positional argument => [argument]

def slot : Group → Slot
  | .option which _ => .option which
  | .flag which => .flag which
  | .positional _ => .positional

/-- What the group says besides what it is for. -/
def text : Group → String
  | .option _ value => value
  | .flag _ => ""
  | .positional argument => argument

end Group

def words (groups : List Group) : List String := groups.flatMap Group.words

def texts (slot : Slot) (groups : List Group) : List String :=
  (groups.filter fun group => group.slot == slot).map Group.text

def positionals (groups : List Group) : List String := texts .positional groups

/-- A positional argument does not begin with a hyphen, but a lone hyphen may stand behind exactly
one other. -/
def MayStand (earlier : Nat) (argument : String) : Prop :=
  Text.startsWith argument "-" = false ∨ argument = "-" ∧ earlier = 1

/-- Groups with one or two positional arguments, each of which may stand where it does. -/
structure Grammatical (groups : List Group) : Prop where
  positional : ∀ index argument, (positionals groups)[index]? = some argument →
    MayStand index argument
  count : (positionals groups).length = 1 ∨ (positionals groups).length = 2

/-- The first positional argument is the platform, the second the input unless it is a hyphen. The
last value of an option counts. -/
structure Arguments.Tells (read : Arguments) (groups : List Group) : Prop where
  platform : (positionals groups)[0]? = some read.platform
  inputFile : read.inputFile = (positionals groups)[1]?.filter fun input => input != "-"
  language : read.language = (texts (.option .language) groups).getLast?
  settingsFile : read.settingsFile = (texts (.option .settingsFile) groups).getLast?
  sourceUrl : read.sourceUrl = (texts (.option .sourceUrl) groups).getLast?
  isPage : read.isPage = true ↔ .flag .page ∈ groups
  wantDump : read.wantDump = true ↔ .flag .dump ∈ groups

/-- The same groups, those for one purpose in the same order. -/
def Rearranged (first second : List Group) : Prop :=
  ∀ slot, (first.filter fun group => group.slot == slot) =
    second.filter fun group => group.slot == slot

theorem texts_snoc (slot : Slot) (groups : List Group) (group : Group) :
    texts slot (groups ++ [group]) =
      texts slot groups ++ if group.slot = slot then [group.text] else [] := by
  unfold texts
  rw [List.filter_append, List.map_append]
  by_cases same : group.slot = slot <;> simp [same]

theorem positionals_snoc (groups : List Group) (group : Group) :
    positionals (groups ++ [group]) =
      positionals groups ++ if group.slot = .positional then [group.text] else [] :=
  texts_snoc _ _ _

namespace Draft

def choose (read : Draft) (which : Choice) (value : String) : Draft :=
  match which with
  | .language => { read with language := some value }
  | .settingsFile => { read with settingsFile := some value }
  | .sourceUrl => { read with sourceUrl := some value }

def mark (read : Draft) : Flag → Draft
  | .page => { read with isPage := true }
  | .dump => { read with wantDump := true }

def add (read : Draft) : Group → Except UsageError Draft
  | .option which value => .ok (read.choose which value)
  | .flag which => .ok (read.mark which)
  | .positional argument => read.addOther argument

end Draft

variable {read added after : Draft}

/-- Arguments that are read are those of groups. -/
theorem exists_groups {arguments : List String}
    (success : readArguments read arguments = .ok after) :
    ∃ groups, words groups = arguments ∧ groups.foldlM Draft.add read = .ok after := by
  fun_induction readArguments read arguments with
  | case1 read => exact ⟨[], rfl, success⟩
  | case2 read value rest ih =>
      obtain ⟨groups, spelled, run⟩ := ih success
      exact ⟨.option .language value :: groups, congrArg (["--language", value] ++ ·) spelled, run⟩
  | case3 read value rest ih =>
      obtain ⟨groups, spelled, run⟩ := ih success
      exact ⟨.option .settingsFile value :: groups, congrArg (["--config", value] ++ ·) spelled,
        run⟩
  | case4 read value rest ih =>
      obtain ⟨groups, spelled, run⟩ := ih success
      exact ⟨.option .sourceUrl value :: groups, congrArg (["--source-url", value] ++ ·) spelled,
        run⟩
  | case5 read rest ih =>
      obtain ⟨groups, spelled, run⟩ := ih success
      exact ⟨.flag .page :: groups, congrArg (["--document"] ++ ·) spelled, run⟩
  | case6 read rest ih =>
      obtain ⟨groups, spelled, run⟩ := ih success
      exact ⟨.flag .dump :: groups, congrArg (["--dump-ir"] ++ ·) spelled, run⟩
  | case7 | case8 | case9 => cases success
  | case10 read argument rest _ _ _ _ _ _ _ added adds ih =>
      obtain ⟨groups, spelled, run⟩ := ih success
      refine ⟨.positional argument :: groups, congrArg ([argument] ++ ·) spelled, ?_⟩
      rw [List.foldlM_cons, Draft.add, adds]
      exact run

theorem addOther_eq_ok_iff {argument : String} :
    read.addOther argument = .ok added ↔
      ((argument = "-" ∧ read.platform.isSome = true) ∧ read.input.isNone = true ∨
        Text.startsWith argument "-" = false) ∧ read.addPositional argument = .ok added := by
  have isHyphen : (argument == "-") = true ↔ argument = "-" := beq_iff_eq
  rw [← isHyphen, ← Bool.and_eq_true, ← Bool.and_eq_true, Draft.addOther]
  split
  · rename_i hyphen
    rw [and_iff_right (Or.inl hyphen)]
  · rename_i noHyphen
    rw [or_iff_right noHyphen]
    cases Text.startsWith argument "-" <;> simp

/-- A positional argument is neither an option nor a flag. -/
theorem readArguments_positional {argument : String} (adds : read.addOther argument = .ok added)
    (rest : List String) : readArguments read (argument :: rest) = readArguments added rest := by
  have noWord (word : String) (marked : Text.startsWith word "-" = true) (long : word ≠ "-") :
      argument ≠ word := by
    rintro rfl
    rcases (addOther_eq_ok_iff.mp adds).1 with ⟨⟨hyphen, _⟩, _⟩ | plain
    · exact long hyphen
    · rw [marked] at plain
      cases plain
  have noLanguage := noWord "--language" rfl (by decide)
  have noConfig := noWord "--config" rfl (by decide)
  have noAddress := noWord "--source-url" rfl (by decide)
  have noPage := noWord "--document" rfl (by decide)
  have noDump := noWord "--dump-ir" rfl (by decide)
  have noHelp := noWord "--help" rfl (by decide)
  have noShortHelp := noWord "-h" rfl (by decide)
  rw [readArguments]
  · simp [noLanguage, noConfig, noAddress, noHelp, noShortHelp, adds]
  · exact fun _ _ same _ => noLanguage same
  · exact fun _ _ same _ => noConfig same
  · exact fun _ _ same _ => noAddress same
  · exact noPage
  · exact noDump

theorem readArguments_group {group : Group} (adds : read.add group = .ok added)
    (rest : List String) : readArguments read (group.words ++ rest) = readArguments added rest := by
  cases group with
  | option which value =>
      cases adds
      cases which <;> rfl
  | flag which =>
      cases adds
      cases which <;> rfl
  | positional argument => exact readArguments_positional adds rest

theorem readArguments_words {groups : List Group} (run : groups.foldlM Draft.add read = .ok after) :
    readArguments read (words groups) = .ok after := by
  induction groups generalizing read with
  | nil => exact run
  | cons group rest ih =>
      rw [List.foldlM_cons] at run
      cases adds : read.add group with
      | error refusal =>
          rw [adds] at run
          cases run
      | ok added =>
          rw [adds] at run
          rw [words, List.flatMap_cons, readArguments_group adds]
          exact ih run

/-- The arguments read so far are those that the groups give. -/
structure Draft.Tells (read : Draft) (groups : List Group) : Prop where
  platform : read.platform = (positionals groups)[0]?
  input : read.input = (positionals groups)[1]?
  language : read.language = (texts (.option .language) groups).getLast?
  settingsFile : read.settingsFile = (texts (.option .settingsFile) groups).getLast?
  sourceUrl : read.sourceUrl = (texts (.option .sourceUrl) groups).getLast?
  isPage : read.isPage = true ↔ .flag .page ∈ groups
  wantDump : read.wantDump = true ↔ .flag .dump ∈ groups

/-- Positional arguments that may stand where they do, at most two. -/
structure Allowed (arguments : List String) : Prop where
  positional : ∀ index argument, arguments[index]? = some argument → MayStand index argument
  few : arguments.length ≤ 2

theorem allowed_nil : Allowed [] := ⟨by simp, by simp⟩

theorem allowed_snoc {arguments : List String} {argument : String} :
    Allowed (arguments ++ [argument]) ↔
      Allowed arguments ∧ MayStand arguments.length argument ∧ arguments.length < 2 := by
  constructor
  · intro allowed
    have few := allowed.few
    rw [List.length_append, List.length_singleton] at few
    refine ⟨⟨fun index other found => ?_, by omega⟩, ?_, by omega⟩
    · have inside := (List.getElem?_eq_some_iff.mp found).1
      exact allowed.positional index other (by rwa [List.getElem?_append_left inside])
    · exact allowed.positional _ _ List.getElem?_concat_length
  · rintro ⟨allowed, last, few⟩
    refine ⟨fun index other found => ?_, by simp; omega⟩
    rcases Nat.lt_trichotomy index arguments.length with earlier | rfl | later
    · rw [List.getElem?_append_left earlier] at found
      exact allowed.positional index other found
    · rw [List.getElem?_concat_length] at found
      exact Option.some.inj found ▸ last
    · rw [List.getElem?_eq_none (by simp; omega)] at found
      cases found

namespace Draft.Tells

variable {groups : List Group}

theorem start : Draft.Tells {} [] := by
  constructor <;> simp [positionals, texts]

/-- Behind fewer than two positional arguments there may be another one. -/
theorem addOther (tells : read.Tells groups) {argument : String} :
    (∃ added, read.addOther argument = .ok added) ↔
      MayStand (positionals groups).length argument ∧ (positionals groups).length < 2 := by
  have platform := tells.platform
  have input := tells.input
  simp only [addOther_eq_ok_iff, Draft.addPositional, MayStand]
  match spelled : positionals groups with
  | [] =>
      rw [spelled] at platform input
      simp [platform, input]
  | [first] =>
      rw [spelled] at platform input
      simp [platform, input, or_comm]
  | first :: second :: rest =>
      rw [spelled] at platform input
      simp [platform, input]

/-- One more group is told of as well. -/
theorem add (tells : read.Tells groups) {group : Group} (adds : read.add group = .ok added) :
    added.Tells (groups ++ [group]) := by
  obtain ⟨platform, input, language, settingsFile, sourceUrl, isPage, wantDump⟩ := tells
  cases group with
  | option which value =>
      cases adds
      cases which <;> constructor <;>
        simp_all [positionals, texts_snoc, Group.slot, Group.text, Draft.choose]
  | flag which =>
      cases adds
      cases which <;> constructor <;>
        simp_all [positionals, texts_snoc, Group.slot, Draft.mark]
  | positional argument =>
      have appended : positionals (groups ++ [.positional argument]) =
          positionals groups ++ [argument] := positionals_snoc _ _
      have positional := (addOther_eq_ok_iff.mp adds).2
      unfold Draft.addPositional at positional
      match spelled : positionals groups with
      | [] =>
          rw [spelled] at platform input
          rw [platform] at positional
          cases positional
          constructor <;> simp_all [texts_snoc, Group.slot]
      | [first] =>
          rw [spelled] at platform input
          rw [platform, input] at positional
          cases positional
          constructor <;> simp_all [texts_snoc, Group.slot]
      | first :: second :: rest =>
          rw [spelled] at platform input
          rw [platform, input] at positional
          cases positional

/-- A group is read exactly if its positional argument may stand where it does. -/
theorem exists_add_iff (tells : read.Tells groups) {group : Group} :
    Allowed (positionals groups) ∧ (∃ added, read.add group = .ok added) ↔
      Allowed (positionals (groups ++ [group])) := by
  rw [positionals_snoc]
  cases group with
  | option which value => simp [Draft.add, Group.slot]
  | flag which => simp [Draft.add, Group.slot]
  | positional argument =>
      rw [Group.slot, if_pos rfl, Group.text, allowed_snoc, Draft.add, tells.addOther]

end Draft.Tells

theorem foldlM_snoc {groups : List Group} {group : Group} :
    (groups ++ [group]).foldlM Draft.add read = .ok after ↔
      ∃ middle, groups.foldlM Draft.add read = .ok middle ∧ middle.add group = .ok after := by
  rw [List.foldlM_append]
  cases groups.foldlM Draft.add read with
  | error refusal => simp [bind, Except.bind]
  | ok middle =>
      have single : [group].foldlM Draft.add middle = middle.add group := by
        rw [List.foldlM_cons]
        cases middle.add group <;> rfl
      change [group].foldlM Draft.add middle = .ok after ↔ _
      rw [single]
      simp

/-- What has been read behind groups is what they give. -/
theorem tells_of_run {groups : List Group} (run : groups.foldlM Draft.add {} = .ok after) :
    after.Tells groups := by
  induction groups using List.reverseRecOn generalizing after with
  | nil =>
      cases run
      exact .start
  | append_singleton groups group ih =>
      obtain ⟨middle, before, adds⟩ := foldlM_snoc.mp run
      exact (ih before).add adds

/-- Groups are read exactly if their positional arguments may stand where they do. -/
theorem exists_run_iff {groups : List Group} :
    (∃ after, groups.foldlM Draft.add {} = .ok after) ↔ Allowed (positionals groups) := by
  induction groups using List.reverseRecOn with
  | nil => exact iff_of_true ⟨{}, rfl⟩ allowed_nil
  | append_singleton groups group ih =>
      constructor
      · rintro ⟨after, run⟩
        obtain ⟨middle, before, adds⟩ := foldlM_snoc.mp run
        exact (tells_of_run before).exists_add_iff.mp ⟨ih.mp ⟨middle, before⟩, after, adds⟩
      · intro allowed
        have earlier : Allowed (positionals groups) := by
          rw [positionals_snoc] at allowed
          split at allowed
          · exact (allowed_snoc.mp allowed).1
          · simpa using allowed
        obtain ⟨middle, before⟩ := ih.mpr earlier
        obtain ⟨_, after, adds⟩ := (tells_of_run before).exists_add_iff.mpr allowed
        exact ⟨after, foldlM_snoc.mpr ⟨middle, before, adds⟩⟩

/-- The arguments of groups are read if their positional arguments may stand where they do, and as
what the groups give. -/
theorem readArguments_words_eq_ok {groups : List Group} (allowed : Allowed (positionals groups)) :
    ∃ after, readArguments {} (words groups) = .ok after ∧ after.Tells groups := by
  obtain ⟨after, run⟩ := exists_run_iff.mpr allowed
  exact ⟨after, readArguments_words run, tells_of_run run⟩

theorem grammatical_iff {groups : List Group} :
    Grammatical groups ↔ Allowed (positionals groups) ∧ positionals groups ≠ [] := by
  have count : (positionals groups).length = 1 ∨ (positionals groups).length = 2 ↔
      (positionals groups).length ≤ 2 ∧ positionals groups ≠ [] := by
    rw [← List.length_pos_iff]
    omega
  constructor
  · intro grammatical
    obtain ⟨few, some⟩ := count.mp grammatical.count
    exact ⟨⟨grammatical.positional, few⟩, some⟩
  · rintro ⟨allowed, some⟩
    exact ⟨allowed.positional, count.mpr ⟨allowed.few, some⟩⟩

/-- Groups give one result. -/
theorem Arguments.Tells.unique {groups : List Group} {first second : Arguments}
    (tells : first.Tells groups) (tellsToo : second.Tells groups) : first = second := by
  have platform := Option.some.inj (tells.platform.symm.trans tellsToo.platform)
  have isPage := Bool.eq_iff_iff.mpr (tells.isPage.trans tellsToo.isPage.symm)
  have wantDump := Bool.eq_iff_iff.mpr (tells.wantDump.trans tellsToo.wantDump.symm)
  have inputFile := tells.inputFile.trans tellsToo.inputFile.symm
  have language := tells.language.trans tellsToo.language.symm
  have settingsFile := tells.settingsFile.trans tellsToo.settingsFile.symm
  have sourceUrl := tells.sourceUrl.trans tellsToo.sourceUrl.symm
  cases first
  cases second
  simp_all

/-- Groups in the grammar are read, and as what they give. -/
theorem parseArguments_words {groups : List Group} (grammatical : Grammatical groups) :
    ∃ read, parseArguments (words groups) = .ok read ∧ read.Tells groups := by
  obtain ⟨allowed, some⟩ := grammatical_iff.mp grammatical
  obtain ⟨after, read, tells⟩ := readArguments_words_eq_ok allowed
  obtain ⟨platform, others, spelled⟩ := List.exists_cons_of_ne_nil some
  have first : after.platform = .some platform := by rw [tells.platform, spelled]; rfl
  simp only [parseArguments, read, first]
  refine ⟨_, rfl, ?_⟩
  exact {
    platform := tells.platform.symm.trans first
    inputFile := congrArg (Option.filter _) tells.input
    language := tells.language
    settingsFile := tells.settingsFile
    sourceUrl := tells.sourceUrl
    isPage := tells.isPage
    wantDump := tells.wantDump }

/-- What is read is in the grammar. -/
theorem grammatical_of_parseArguments {arguments : List String} {read : Arguments}
    (success : parseArguments arguments = .ok read) :
    ∃ groups, Grammatical groups ∧ words groups = arguments := by
  unfold parseArguments at success
  split at success
  · cases success
  · rename_i after behind
    obtain ⟨groups, spelled, run⟩ := exists_groups behind
    split at success
    · cases success
    · rename_i platform first
      refine ⟨groups, grammatical_iff.mpr ⟨exists_run_iff.mp ⟨after, run⟩, ?_⟩, spelled⟩
      intro none
      rw [(tells_of_run run).platform, none] at first
      cases first

theorem texts_of_rearranged {first second : List Group} (moved : Rearranged first second)
    (slot : Slot) : texts slot first = texts slot second :=
  congrArg (List.map Group.text) (moved slot)

theorem mem_flag_of_rearranged {first second : List Group} (moved : Rearranged first second)
    (which : Flag) : .flag which ∈ first ↔ .flag which ∈ second := by
  have same := congrArg (Group.flag which ∈ ·) (moved (.flag which))
  simpa [Group.slot] using same

/-- Moving groups keeps them in the grammar, and what they give. -/
theorem Rearranged.grammatical {first second : List Group} (moved : Rearranged first second)
    (grammatical : Grammatical first) : Grammatical second := by
  have same : positionals first = positionals second := texts_of_rearranged moved _
  exact ⟨same ▸ grammatical.positional, same ▸ grammatical.count⟩

theorem Rearranged.tells {first second : List Group} (moved : Rearranged first second)
    {read : Arguments} (tells : read.Tells first) : read.Tells second := by
  have same : positionals first = positionals second := texts_of_rearranged moved _
  exact {
    platform := same ▸ tells.platform
    inputFile := same ▸ tells.inputFile
    language := texts_of_rearranged moved _ ▸ tells.language
    settingsFile := texts_of_rearranged moved _ ▸ tells.settingsFile
    sourceUrl := texts_of_rearranged moved _ ▸ tells.sourceUrl
    isPage := tells.isPage.trans (mem_flag_of_rearranged moved _)
    wantDump := tells.wantDump.trans (mem_flag_of_rearranged moved _) }

/-- Arguments are read exactly if they are those of groups in the grammar. They are read as what the
groups give, so groups for different purposes may change places. -/
theorem parseArguments_eq_ok_iff :
    (∀ arguments, (∃ read, parseArguments arguments = .ok read) ↔
      ∃ groups, Grammatical groups ∧ words groups = arguments) ∧
      (∀ groups read, Grammatical groups →
        (parseArguments (words groups) = .ok read ↔ read.Tells groups)) ∧
      ∀ first second, Grammatical first → Rearranged first second →
        parseArguments (words second) = parseArguments (words first) := by
  refine ⟨fun arguments => ⟨?_, ?_⟩, fun groups read grammatical => ?_, ?_⟩
  · rintro ⟨read, success⟩
    exact grammatical_of_parseArguments success
  · rintro ⟨groups, grammatical, rfl⟩
    obtain ⟨read, success, _⟩ := parseArguments_words grammatical
    exact ⟨read, success⟩
  · obtain ⟨result, success, tells⟩ := parseArguments_words grammatical
    rw [success, Except.ok.injEq]
    exact ⟨fun same => same ▸ tells, tells.unique⟩
  · intro first second grammatical moved
    obtain ⟨read, success, tells⟩ := parseArguments_words grammatical
    obtain ⟨other, successToo, tellsToo⟩ := parseArguments_words (moved.grammatical grammatical)
    rw [success, successToo, (moved.tells tells).unique tellsToo]

def scattered : List Group :=
  [.option .language "Go", .positional "taobao", .option .sourceUrl "--document",
    .option .language "TypeScript", .positional "-", .flag .dump]

def gathered : List Group :=
  [.flag .dump, .option .sourceUrl "--document", .option .language "Go",
    .option .language "TypeScript", .positional "taobao", .positional "-"]

theorem parseArguments_eq_ok_iff_scattered :
    Grammatical scattered ∧ Rearranged scattered gathered ∧
      parseArguments (words gathered) = parseArguments (words scattered) ∧
      ∃ read, parseArguments (words scattered) = .ok read ∧ read.Tells scattered ∧
        read.language = some "TypeScript" ∧ read.inputFile = none ∧ read.isPage = false := by
  obtain ⟨accepts, gives, moves⟩ := parseArguments_eq_ok_iff
  have grammatical : Grammatical scattered := by
    refine ⟨fun index argument found => ?_, .inr rfl⟩
    match index, found with
    | 0, found => exact .inl (Option.some.inj found ▸ rfl)
    | 1, found => exact .inr ⟨(Option.some.inj found).symm, rfl⟩
  have moved : Rearranged scattered gathered := by
    rintro (which | which | _)
    · cases which <;> rfl
    · cases which <;> rfl
    · rfl
  obtain ⟨read, success⟩ := (accepts (words scattered)).mpr ⟨scattered, grammatical, rfl⟩
  have tells := (gives scattered read grammatical).mp success
  have noPage : read.isPage = false := by
    rw [← Bool.not_eq_true, tells.isPage]
    decide
  exact ⟨grammatical, moved, moves scattered gathered grammatical moved, read, success, tells,
    tells.language, tells.inputFile, noPage⟩

end ApiSchema.CommandLine
