import ApiSchema.CommandLine
import Mathlib

/-!
The command line and the generator agree. A run reads its settings and its input and then does what
the generator does, one step after another; what it prints are the lines that the generator gives.
Only settings, input, names or a page that cannot be read end a run with a failure; what a platform
cannot read is told in a comment, as the generator tells it.
-/

set_option autoImplicit false

namespace ApiSchema.CommandLine

open ApiSchema.Json

/-- The bytes of the input: those of a file, or else of the standard input. -/
def Surroundings.inputBytes (surroundings : Surroundings) (inputFile : Option String) :
    Except String ByteArray :=
  match inputFile with
  | some path => surroundings.readFile path
  | none => surroundings.input

theorem decodeBytes_toUTF8 (text : String) : decodeBytes (.ok text.toUTF8) = .ok text := by
  have valid : text.toByteArray.IsValidUTF8 := text.isValidUTF8
  have decoded : String.fromUTF8? text.toUTF8 = some text := by
    rw [String.fromUTF8?, String.toUTF8, dif_pos valid]
    rfl
  simp only [decodeBytes, decoded]

/-- An input in UTF-8 is read as its text. -/
theorem loadInput_of_text {surroundings : Surroundings} {inputFile : Option String} {text : String}
    (given : surroundings.inputBytes inputFile = .ok text.toUTF8) :
    loadInput surroundings inputFile = .ok text := by
  unfold loadInput
  cases inputFile with
  | none =>
      change surroundings.input = _ at given
      simp only [given, decodeBytes_toUTF8]
      rfl
  | some path =>
      change surroundings.readFile path = _ at given
      simp only [given, decodeBytes_toUTF8]
      rfl

/-- The settings without the language that the arguments ask for. -/
def configuration (surroundings : Surroundings) (read : Arguments) : Except Failure Settings :=
  loadSettings surroundings { read with language := none }

/-- The arguments choose nothing but the language. -/
theorem loadSettings_eq (surroundings : Surroundings) (read : Arguments) :
    loadSettings surroundings read =
      (configuration surroundings read).map fun settings =>
        { settings with language := read.language.getD settings.language } := by
  unfold configuration loadSettings
  dsimp only
  cases read.settingsFile with
  | none => rfl
  | some path =>
      cases decoded : decodeBytes (surroundings.readFile path) with
      | error reason =>
          simp only [decoded]
          rfl
      | ok text =>
          cases chosen : Settings.ofJson text with
          | error failure =>
              simp only [decoded, chosen]
              rfl
          | ok settings =>
              simp only [decoded, chosen]
              rfl

section

variable {registry : Registry} {generator : Generator} {platform : Platform} {target : Target}

/-- The generator gives the lines for the outcome of reading, whatever the source of structures. -/
theorem generate_of_known {id language : String} (known : registry.platform id = .ok platform)
    (spoken : registry.target language = .ok target) (document : Documentation) :
    (generator.generate registry id language document).2 =
      generator.renderOutcome platform target (generator.parse platform document none).result := by
  simp only [Generator.generate, spoken, known]

/-- The language of the settings plays no part in what is looked up over the network. -/
theorem connect_withLanguage {network : Network} {settings : Settings}
    (connected : Generator.connect network settings = .ok generator) (language : String) :
    Generator.connect network { settings with language } =
      .ok { generator with settings := { generator.settings with language } } := by
  have sameTimeout : Settings.timeout { settings with language } = settings.timeout := rfl
  unfold Generator.connect at connected ⊢
  rw [sameTimeout]
  cases answered : network settings.timeout with
  | error reason =>
      rw [answered] at connected
      cases connected
  | ok client =>
      rw [answered] at connected
      cases connected
      rfl

/-- Nor does it where the generator is asked for a language. -/
theorem generate_withLanguage (chosen id language : String) (document : Documentation) :
    ({ generator with settings := { generator.settings with language := chosen } }).generate
        registry id language document =
      generator.generate registry id language document := rfl

end

section

variable {registry : Registry} {surroundings : Surroundings} {read : Arguments}
  {settings : Settings} {generator : Generator} {text : String} {platform : Platform}
  {target : Target}

/-- Without an address and a dump, a run prints the lines of the generator for the documentation
that its input is. -/
theorem printedLines_eq (noAddress : read.sourceUrl = none) (noDump : read.wantDump = false)
    (configured : configuration surroundings read = .ok settings)
    (connected : Generator.connect surroundings.network settings = .ok generator)
    (given : surroundings.inputBytes read.inputFile = .ok text.toUTF8)
    (known : registry.platform read.platform = .ok platform)
    (spoken : registry.target (read.language.getD settings.language) = .ok target) :
    printedLines registry surroundings read =
      (documentation read.isPage text).map fun document =>
        (generator.generate registry read.platform (read.language.getD settings.language)
          document).2 := by
  have settled : loadSettings surroundings read =
      .ok { settings with language := read.language.getD settings.language } := by
    rw [loadSettings_eq, configured]
    rfl
  unfold printedLines
  rw [settled, loadInput_of_text given, known, noAddress, noDump]
  dsimp only [bind, Except.bind]
  rw [connect_withLanguage connected, spoken]
  dsimp only
  cases documentation read.isPage text with
  | error failure => rfl
  | ok document =>
      dsimp only
      rw [report_eq_renderOutcome, ← generate_of_known known spoken, generate_withLanguage]
      rfl

end

/-- A run that succeeds prints lines, each ended, and nothing else. -/
structure Outcome.Prints (outcome : Outcome) (lines : List String) : Prop where
  exitCode : outcome.exitCode = 0
  output : outcome.output = String.join (lines.map fun line => line ++ "\n")

/-- A run that fails prints nothing to the standard output. -/
structure Outcome.Fails (outcome : Outcome) : Prop where
  exitCode : outcome.exitCode = 1
  output : outcome.output = ""

/-- Whatever the network answers, the command line prints what the generator gives for the same
settings, platform, language and input. With a page as input it does so if the page can be read, and
otherwise it fails. -/
theorem run_prints_generate {registry : Registry} {surroundings : Surroundings}
    {arguments : List String} {read : Arguments} {settings : Settings} {generator : Generator}
    {text : String} {platform : Platform} {target : Target}
    (parsed : parseArguments arguments = .ok read)
    (noAddress : read.sourceUrl = none) (noDump : read.wantDump = false)
    (configured : configuration surroundings read = .ok settings)
    (connected : Generator.connect surroundings.network settings = .ok generator)
    (given : surroundings.inputBytes read.inputFile = .ok text.toUTF8)
    (known : registry.platform read.platform = .ok platform)
    (spoken : registry.target (read.language.getD settings.language) = .ok target) :
    let outcome := run registry surroundings arguments
    let lines (document : Documentation) : List String :=
      (generator.generate registry read.platform (read.language.getD settings.language) document).2
    (read.isPage = false → outcome.Prints (lines (.payload text))) ∧
      (read.isPage = true →
        (∀ page, Page.ofJson text = .ok page → outcome.Prints (lines (.page page))) ∧
          ∀ error, Page.ofJson text = .error error → outcome.Fails) := by
  intro outcome lines
  have ran : outcome = runArguments registry surroundings read := by
    simp only [outcome, run, parsed]
  have printed := printedLines_eq noAddress noDump configured connected given known spoken
  rw [ran]
  unfold runArguments
  rw [printed]
  refine ⟨fun isPayload => ?_, fun isPage => ⟨fun page decoded => ?_, fun error refused => ?_⟩⟩
  · rw [isPayload]
    exact ⟨rfl, rfl⟩
  · simp only [isPage, documentation, decoded]
    exact ⟨rfl, rfl⟩
  · simp only [isPage, documentation, refused]
    exact ⟨rfl, rfl⟩

/-- What is documented of a buyer. -/
def buyer : Value :=
  .object [("data", .array [.object [("name", .string "id"), ("type", .string "Long")]])]

/-- Servers that know the buyer by the number 7 and do not answer for others. -/
def servers : Client where
  get url := if url.pathText == "/7" then .ok buyer else .error "connection reset"
  documents := [buyer]
  mem_documents := by
    intro url payload success
    split at success
    · cases success
      exact List.mem_singleton_self buyer
    · cases success

def addresses : List (String × String) :=
  [("PLUM_STRUCTURE_ENDPOINT_TAOBAO", "http://localhost/\x7bid\x7d")]

def listening : Generator :=
  let settings := Settings.default.withOverrides addresses
  ⟨settings, .endpoints servers settings⟩

/-- A run without files, where the text is the standard input. -/
def piped (text : String) : Surroundings where
  environment := addresses
  readFile path := .error (path ++ " is not there")
  input := .ok text.toUTF8
  network _ := .ok servers

/-- An order whose buyer is documented elsewhere. -/
def orderOf (buyerId : Nat) : String :=
  (Value.object [("success", .bool true), ("data", .object [("name", .string "a.b"),
    ("requestParams", .array [.object [("name", .string "buyer"), ("type", .string "Buyer"),
      ("structureId", .ofNat buyerId)]])])]).compact

/-- An order whose buyer is looked up, one whose buyer is not to be had, a payload that is no JSON,
a page for a platform that reads no pages, and a page that cannot be read. -/
theorem run_prints_generate_piped :
    (listening.source.fetch "taobao" "7" = .ok buyer ∧
        (run .builtin (piped (orderOf 7)) ["taobao"]).Prints
          (listening.generate .builtin "taobao" "Python" (.payload (orderOf 7))).2) ∧
      (listening.source.fetch "taobao" "8" = .error (.lookup "8" "connection reset") ∧
        (run .builtin (piped (orderOf 8)) ["taobao"]).Prints
          (listening.generate .builtin "taobao" "Python" (.payload (orderOf 8))).2) ∧
      (run .builtin (piped "not json") ["taobao", "--language", "TypeScript"]).Prints
        (listening.generate .builtin "taobao" "TypeScript" (.payload "not json")).2 ∧
      (∃ page, Page.ofJson "\x7b\x7d" = .ok page ∧
        (run .builtin (piped "\x7b\x7d") ["--document", "Kuaishou", "-"]).Prints
          (listening.generate .builtin "Kuaishou" "Python" (.page page)).2) ∧
      (run .builtin (piped "[1]") ["weixin", "--document"]).Fails := by
  have found := @run_prints_generate .builtin (piped (orderOf 7)) ["taobao"] _ _ listening
    (orderOf 7) _ _ rfl rfl rfl rfl rfl rfl rfl rfl
  have missed := @run_prints_generate .builtin (piped (orderOf 8)) ["taobao"] _ _ listening
    (orderOf 8) _ _ rfl rfl rfl rfl rfl rfl rfl rfl
  have noJson := @run_prints_generate .builtin (piped "not json")
    ["taobao", "--language", "TypeScript"] _ _ listening "not json" _ _ rfl rfl rfl rfl rfl rfl rfl
    rfl
  have noPages := @run_prints_generate .builtin (piped "\x7b\x7d")
    ["--document", "Kuaishou", "-"] _ _ listening "\x7b\x7d" _ _ rfl rfl rfl rfl rfl rfl rfl rfl
  have noPage := @run_prints_generate .builtin (piped "[1]")
    ["weixin", "--document"] _ _ listening "[1]" _ _ rfl rfl rfl rfl rfl rfl rfl rfl
  have readable : (Page.ofJson "\x7b\x7d").isOk = true := by decide +kernel
  have unreadable : (Page.ofJson "[1]").isOk = false := by decide +kernel
  refine ⟨⟨rfl, found.1 rfl⟩, ⟨rfl, missed.1 rfl⟩, noJson.1 rfl, ?_, ?_⟩
  · cases decoded : Page.ofJson "\x7b\x7d" with
    | error error => simp [decoded, Except.isOk, Except.toBool] at readable
    | ok page => exact ⟨page, rfl, (noPages.2 rfl).1 page decoded⟩
  · cases decoded : Page.ofJson "[1]" with
    | error error => exact (noPage.2 rfl).2 error decoded
    | ok page => simp [decoded, Except.isOk, Except.toBool] at unreadable

end ApiSchema.CommandLine
