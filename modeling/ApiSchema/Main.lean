import ApiSchema.CommandLine

set_option autoImplicit false

namespace ApiSchema.Program

open ApiSchema.CommandLine

/-- The words of the operating system for an error. -/
def errorText (error : IO.Error) : String :=
  match error with
  | .noFileOrDirectory _ _ _ => "No such file or directory (os error 2)"
  | .permissionDenied _ _ _ => "Permission denied (os error 13)"
  | .inappropriateType _ _ _ => "Is a directory (os error 21)"
  | other => toString other

/-- The result of an action, or the words for its error. -/
def attempt {α : Type} (action : IO α) : IO (Except String α) := do
  try
    return .ok (← action)
  catch error =>
    return .error (errorText error)

partial def readAll (stream : IO.FS.Stream) (taken : ByteArray) : IO ByteArray := do
  let bytes ← stream.read 65536
  if bytes.isEmpty then return taken else readAll stream (taken ++ bytes)

def readEnvironment : IO (List (String × String)) := do
  match ← attempt (IO.FS.readBinFile "/proc/self/environ") with
  | .error _ => return []
  | .ok bytes =>
      let text := (String.fromUTF8? bytes).getD ""
      return (Text.splitChars (fun c => c.toNat == 0) text.toList).filterMap fun entry =>
        (Text.cutAt ['='] entry).map fun (name, value) => (String.ofList name, String.ofList value)

/-- The files that arguments name, with what is read from them. -/
def readFiles (paths : List String) : IO (List (String × Except String ByteArray)) :=
  paths.mapM fun (path : String) => do
    let bytes ← attempt (IO.FS.readBinFile path)
    return (path, bytes)

def surroundings (read : Arguments) : IO Surroundings := do
  let files ← readFiles (read.settingsFile.toList ++ read.inputFile.toList)
  let input ←
    if read.inputFile.isNone then attempt (do readAll (← IO.getStdin) ByteArray.empty)
    else pure (.ok ByteArray.empty)
  return {
    environment := ← readEnvironment
    readFile := fun path =>
      (files.lookup path).getD (.error "No such file or directory (os error 2)")
    input
    network := fun _ => .ok .offline }

def finish (outcome : Outcome) : IO UInt32 := do
  IO.print outcome.output
  IO.eprint outcome.errors
  return outcome.exitCode.toUInt32

end ApiSchema.Program

def main (arguments : List String) : IO UInt32 := do
  match ApiSchema.CommandLine.parseArguments arguments with
  | .error refusal => ApiSchema.Program.finish (.refused refusal)
  | .ok read =>
      ApiSchema.Program.finish
        (ApiSchema.CommandLine.runArguments .builtin (← ApiSchema.Program.surroundings read) read)
