import ApiSchema.Generator
import ApiSchema.Method.Codec

set_option autoImplicit false

namespace ApiSchema.CommandLine

structure Arguments where
  platform : String
  language : Option String
  settingsFile : Option String
  isPage : Bool
  sourceUrl : Option String
  wantDump : Bool
  inputFile : Option String
  deriving DecidableEq

inductive UsageError where
  | helpWanted
  | missingValue (option : String)
  | unknownFlag (argument : String)
  | unexpectedArgument (argument : String)
  | missingPlatform
  deriving DecidableEq

def UsageError.text : UsageError → String
  | .helpWanted => ""
  | .missingValue option => option ++ " requires a value"
  | .unknownFlag argument => "unknown flag: " ++ argument
  | .unexpectedArgument argument => "unexpected argument: " ++ argument
  | .missingPlatform => "missing required argument: <vendor>"

/-- The arguments read so far; the positional ones are the platform and the input. -/
structure Draft where
  platform : Option String := none
  input : Option String := none
  language : Option String := none
  settingsFile : Option String := none
  isPage : Bool := false
  sourceUrl : Option String := none
  wantDump : Bool := false

/-- The arguments with one more positional one. -/
def Draft.addPositional (read : Draft) (argument : String) : Except UsageError Draft :=
  if read.platform.isNone then .ok { read with platform := some argument }
  else if read.input.isNone then .ok { read with input := some argument }
  else .error (.unexpectedArgument argument)

/-- The arguments with one that is neither an option nor a flag. A lone hyphen is the input, and
only that. -/
def Draft.addOther (read : Draft) (argument : String) : Except UsageError Draft :=
  if argument == "-" && read.platform.isSome && read.input.isNone then read.addPositional argument
  else if Text.startsWith argument "-" then .error (.unknownFlag argument)
  else read.addPositional argument

def readArguments (read : Draft) : List String → Except UsageError Draft
  | [] => .ok read
  | "--language" :: value :: rest => readArguments { read with language := some value } rest
  | "--config" :: value :: rest => readArguments { read with settingsFile := some value } rest
  | "--source-url" :: value :: rest => readArguments { read with sourceUrl := some value } rest
  | "--document" :: rest => readArguments { read with isPage := true } rest
  | "--dump-ir" :: rest => readArguments { read with wantDump := true } rest
  | argument :: rest =>
      if argument == "--help" || argument == "-h" then .error .helpWanted
      else if ["--language", "--config", "--source-url"].contains argument then
        .error (.missingValue argument)
      else
        match read.addOther argument with
        | .error refusal => .error refusal
        | .ok added => readArguments added rest

def parseArguments (arguments : List String) : Except UsageError Arguments :=
  match readArguments {} arguments with
  | .error refusal => .error refusal
  | .ok read =>
      match read.platform with
      | none => .error .missingPlatform
      | some platform =>
          .ok
            { platform
              language := read.language
              settingsFile := read.settingsFile
              isPage := read.isPage
              sourceUrl := read.sourceUrl
              wantDump := read.wantDump
              inputFile := read.input.filter fun input => input != "-" }

/-- What a run may read. A file that cannot be read gives the words for why. -/
structure Surroundings where
  environment : List (String × String)
  readFile : String → Except String ByteArray
  input : Except String ByteArray
  network : Network

/-- What a run leaves: its exit code and what it prints. -/
structure Outcome where
  exitCode : Nat
  output : String
  errors : String
  deriving DecidableEq

def usage : List String := [
  "Usage: plum-codegen <vendor> [options] [<payload-file>|-]",
  "",
  "Arguments:",
  "  <vendor>            Vendor id: doudian, taobao, kuaishou, alipay, alibaba, weixin",
  "  <payload-file>      Captured payload; stdin when omitted or '-'",
  "",
  "Options:",
  "  --language <lang>   Python or TypeScript [default: from config]",
  "  --config <file>     JSON generator config",
  "  --document          Input is an extracted page, not an API payload",
  "  --source-url <url>  Page URL, kept as a header comment",
  "  --dump-ir           Print the deduplicated models as JSON"]

/-- Lines, each ended. -/
def unlines (lines : List String) : String := String.join (lines.map fun line => line ++ "\n")

def Outcome.refused (refusal : UsageError) : Outcome :=
  ⟨2, "", unlines (["error: " ++ refusal.text, ""] ++ usage)⟩

def Outcome.failed (failure : Failure) : Outcome := ⟨1, "", unlines ["error: " ++ failure.text]⟩

def Outcome.printed (lines : List String) : Outcome := ⟨0, unlines lines, ""⟩

def decodeBytes (bytes : Except String ByteArray) : Except String String :=
  match bytes with
  | .error reason => .error reason
  | .ok bytes =>
      match String.fromUTF8? bytes with
      | some text => .ok text
      | none => .error "stream did not contain valid UTF-8"

/-- The settings that the arguments and the environment ask for. -/
def loadSettings (surroundings : Surroundings) (arguments : Arguments) :
    Except Failure Settings := do
  let chosen ←
    match arguments.settingsFile with
    | none => pure Settings.default
    | some path =>
        match decodeBytes (surroundings.readFile path) with
        | .error reason => throw (.settings (path ++ ": " ++ reason))
        | .ok text => Settings.ofJson text
  let overridden := chosen.withOverrides surroundings.environment
  return { overridden with language := arguments.language.getD overridden.language }

def loadInput (surroundings : Surroundings) (inputFile : Option String) : Except Failure String :=
  let (name, bytes) :=
    match inputFile with
    | some path => (path, surroundings.readFile path)
    | none => ("stdin", surroundings.input)
  (decodeBytes bytes).mapError fun reason =>
    .settings ("failed to read " ++ name ++ ": " ++ reason)

def documentation (isPage : Bool) (text : String) : Except Failure Documentation :=
  if isPage then (Failure.ofJson (Page.ofJson text)).map .page else .ok (.payload text)

/-- What is printed for a method that was read or could not be read. -/
def report (generator : Generator) (platform : Platform) (target : Target) (wantDump : Bool)
    (outcome : Except Failure Method) : Except Failure (List String) :=
  if wantDump then outcome.map fun method => [method.encode.pretty]
  else
    match outcome with
    | .ok method => .ok (generator.render platform target method)
    | .error failure => .ok [target.comment failure.text]

/-- Without a dump, what is printed are the lines of the generator for the outcome. -/
theorem report_eq_renderOutcome (generator : Generator) (platform : Platform) (target : Target)
    (outcome : Except Failure Method) :
    report generator platform target false outcome =
      .ok (generator.renderOutcome platform target outcome) := by
  cases outcome <;> rfl

/-- The lines that a run with the given arguments prints. -/
def printedLines (registry : Registry) (surroundings : Surroundings) (arguments : Arguments) :
    Except Failure (List String) := do
  let settings ← loadSettings surroundings arguments
  let text ← loadInput surroundings arguments.inputFile
  let generator ← Generator.connect surroundings.network settings
  let platform ← registry.platform arguments.platform
  let target ← registry.target settings.language
  let document ← documentation arguments.isPage text
  report generator platform target arguments.wantDump
    (generator.parse platform document arguments.sourceUrl).result

def runArguments (registry : Registry) (surroundings : Surroundings) (arguments : Arguments) :
    Outcome :=
  match printedLines registry surroundings arguments with
  | .error failure => .failed failure
  | .ok lines => .printed lines

def run (registry : Registry) (surroundings : Surroundings) (arguments : List String) : Outcome :=
  match parseArguments arguments with
  | .error refusal => .refused refusal
  | .ok read => runArguments registry surroundings read

end ApiSchema.CommandLine
