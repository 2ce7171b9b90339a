import Std.Time.DateTime.Timestamp
import TokenAcquisition.CommandLine.Run

/-!
The program.  It reads the settings and the cache file, prints what a run asks and takes the line
that answers, and writes the cache file.  There is no network: every request to the token endpoint
fails.
-/

namespace TokenAcquisition.Main

open CommandLine

def randomBytes (count : Nat) : IO (List UInt8) :=
  return (← IO.getRandomBytes count.toUSize).toList

def randomUuid : IO Uuid :=
  return .ofRandom (← randomBytes 16)

/-- The clock, random values, and a network that nobody can reach. -/
def outside : IO Outside := do
  let time ← Std.Time.Timestamp.now
  let token ← randomUuid
  let correlation ← randomUuid
  let seeds : Seeds := { state := ← randomBytes 24, verifier := ← randomBytes 32 }
  return {
    now := UInt64.ofNat time.toMillisecondsSinceUnixEpoch.val.toNat
    transport := [.fail (.unknown "token request failed" []) 0]
    supply := { seeds := fun _ => seeds, token := fun _ => token }
    correlationId := correlation.render }

def readText (path : String) : IO (Except String String) := do
  try
    return .ok (← IO.FS.readFile path)
  catch e =>
    return .error (toString e)

def folder (path : String) : Option String :=
  match path.toList.reverse.dropWhile (· ≠ '/') with
  | [] => none
  | _ :: rest => some (if rest.isEmpty then "/" else String.ofList rest.reverse)

def exists? (path : String) : IO Bool := do
  try
    let _ ← IO.FS.readFile path
    return true
  catch e =>
    match e with
    | .noFileOrDirectory _ _ _ => return false
    | _ => return true

/-- Lists a folder to find out whether it exists. -/
def folderExists (path : String) : IO Bool := do
  match folder path with
  | none => return true
  | some parent => exists? parent

def readCache (path : String) : IO CacheFile := do
  let entry : CacheFile.Entry ←
    match ← readText path with
    | .ok text => pure (.text text)
    | .error _ => if ← exists? path then pure .unreadable else pure .absent
  return { hasParent := !path.isEmpty, folderExists := ← folderExists path, entry }

/-- Writes a file next to the cache file, which then takes its place. -/
def writeCache (path : String) (before after : CacheFile) : IO Unit := do
  match after.entry with
  | .text content =>
      if before.entry != after.entry then
        let draft := path ++ ".new"
        IO.FS.writeFile draft content
        IO.setAccessRights draft { user := { read := true, write := true } }
        IO.FS.rename draft path
  | _ => return

def finish (ending : Ending) : IO UInt32 := do
  IO.print ending.output
  IO.eprint ending.errors
  return ending.exitCode.toUInt32

def run (settings : Settings) (mode : Mode) (file : CacheFile) (cache : Cache) : IO UInt32 := do
  writeCache settings.cachePath file cache.file
  match start settings cache mode (← outside) with
  | .ended ending after =>
      writeCache settings.cachePath cache.file after.file
      finish ending
  | .asking launch scheduler =>
      IO.eprint (Console.prompt launch)
      let asked ← IO.monoMsNow
      let line ← (← IO.getStdin).getLine
      let answered ← IO.monoMsNow
      match resume scheduler launch (answered - asked) line with
      | .ended ending after =>
          writeCache settings.cachePath cache.file after.file
          finish ending
      | .asking _ _ => finish (.ofReport { text := "command ended without an outcome" })

def runAll (arguments : List String) : IO UInt32 := do
  match Invocation.parse arguments with
  | .error fault => finish (.ofReport (.ofUsage fault))
  | .ok invocation =>
      let environmentPath ← IO.getEnv "CONFIG_PATH"
      let text ← readText (Settings.path invocation.config environmentPath)
      let clientId ← IO.getEnv "IDENTITY_CLIENT_ID"
      match CommandLine.settings invocation environmentPath clientId text with
      | .error report => finish (.ofReport report)
      | .ok settings =>
          let file ← readCache settings.cachePath
          match openCache file with
          | .error report => finish (.ofReport report)
          | .ok cache => run settings invocation.mode file cache

end TokenAcquisition.Main

def main (arguments : List String) : IO UInt32 :=
  TokenAcquisition.Main.runAll arguments
