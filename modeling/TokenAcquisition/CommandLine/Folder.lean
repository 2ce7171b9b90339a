import TokenAcquisition.CommandLine.Run

/-!
Whole runs on a folder of texts: what the program prints and leaves behind is a function of its
arguments, its environment, the texts, and the line that is typed if one is asked for.
-/

namespace TokenAcquisition.CommandLine

/-- The texts of a folder that has no folders in it, by name. -/
abbrev Folder := SortedMap String

structure Environment where
  configPath : Option String := none
  clientId : Option String := none

namespace Folder

inductive Place where
  /-- To the folder or to one around it. -/
  | folder
  /-- To a name in the folder, which a text may have. -/
  | text (name : String)
  /-- To a name beside the folders around it, which no text has. -/
  | outside
  /-- Beyond a text or a name that no folder has. -/
  | nowhere
  deriving DecidableEq

def parts (path : String) : List String :=
  (Url.splitAt '/' path.toList).map String.ofList

/-- A part of a path that leads to where one is. -/
def staysHere (part : String) : Bool :=
  part = "" || part = "."

/-- Where the parts of a path lead from the folder, or from one around it. -/
def follow (isInside : Bool) : List String → Place
  | [] => .folder
  | part :: rest =>
      if staysHere part then follow isInside rest
      else if part = ".." then follow false rest
      else if !rest.isEmpty then .nowhere
      else if isInside then .text part
      else .outside

/-- Where a path leads.  The root of the file system is a folder; nothing else in it is known. -/
def place (path : String) : Place :=
  if path.isEmpty then .nowhere
  else
    match follow true (parts path) with
    | .folder => .folder
    | other => if path.startsWith "/" then .nowhere else other

def text? (folder : Folder) (path : String) : Option String :=
  match place path with
  | .text name => folder.find? name
  | _ => none

def isFileName (name : String) : Bool :=
  name.utf8ByteSize ≤ 255 && !name.toList.any (·.toNat == 0)

/-- The folder that a path without its last part leads to is there. -/
def hasFolder (path : String) : Bool :=
  !path.startsWith "/" &&
    follow true ((parts path).filter fun part => !staysHere part).dropLast = .folder

def cacheFile (folder : Folder) (path : String) : CacheFile :=
  { hasParent := path.toList.any (· != '/')
    folderExists := hasFolder path
    entry :=
      match place path with
      | .folder => .unreadable
      | .text name =>
          match folder.find? name with
          | some text => .text text
          | none => if isFileName name then .absent else .impossible
      | .outside => .absent
      | .nowhere => .impossible }

def withCache (folder : Folder) (path : String) (file : CacheFile) : Folder :=
  match file.entry, place path with
  | .text text, .text name => folder.insert name text
  | _, _ => folder

/-- A run that ends by itself or is answered with the line that `typed` gives for the launch that
asks for it.  The prompt is printed before the errors. -/
def finish (folder : Folder) (path : String) (typed : Launch → String) (first : Turn) :
    Ending × Folder :=
  match first with
  | .ended ending cache => (ending, folder.withCache path cache.file)
  | .asking launch scheduler =>
      match resume scheduler launch 0 (typed launch) with
      | .ended ending cache =>
          ({ ending with errors := Console.prompt launch ++ ending.errors },
            folder.withCache path cache.file)
      | .asking _ _ => (.ofReport { text := "command ended without an outcome" }, folder)

def run (folder : Folder) (environment : Environment) (outside : Outside)
    (typed : Launch → String) (arguments : List String) : Ending × Folder :=
  let started := do
    let invocation ← (Invocation.parse arguments).mapError Report.ofUsage
    let path := Settings.path invocation.config environment.configPath
    let text : Except String String :=
      match folder.text? path with
      | some text => .ok text
      | none => .error "no such file"
    let settings ← settings invocation environment.configPath environment.clientId text
    let cache ← openCache (folder.cacheFile settings.cachePath)
    return folder.finish settings.cachePath typed (start settings cache invocation.mode outside)
  match started with
  | .ok ended => ended
  | .error report => (.ofReport report, folder)

end Folder

end TokenAcquisition.CommandLine
