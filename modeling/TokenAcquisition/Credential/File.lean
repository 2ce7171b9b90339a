import TokenAcquisition.Credential.Store
import TokenAcquisition.Failure
import TokenAcquisition.Json.Parser
import TokenAcquisition.Json.Printer

/-!
The cache file.  A store is written to a temporary file, which is closed to other users and then
takes the place of the cache file.  Each of these steps can fail, and then the cache file is as
it was.
-/

namespace TokenAcquisition

inductive CacheFile.Entry where
  | absent
  | text (content : String)
  /-- Something that is not a readable text, such as a folder. -/
  | unreadable
  /-- Nothing, and no file can be there either: the path asks for a folder, or its name is none. -/
  | impossible
  deriving DecidableEq, Repr

structure CacheFile where
  /-- The path names a file in some folder. -/
  hasParent : Bool := true
  folderExists : Bool := true
  entry : CacheFile.Entry := .absent
  mode : Nat := 0o644
  deriving DecidableEq, Repr

namespace CacheFile

/-- The step at which the cache file could not be read or written. -/
inductive Fault where
  | reading (detail : String)
  | parsing (detail : String)
  | noParent
  | writing (detail : String)
  | closing (detail : String)
  | renaming (detail : String)
  deriving DecidableEq, Repr

def Fault.message : Fault → String
  | .reading detail => "reading cache file: " ++ detail
  | .parsing detail => "parsing cache file: " ++ detail
  | .noParent => "cache path has no parent directory"
  | .writing detail => "writing temp cache file: " ++ detail
  | .closing detail => "setting cache file permissions: " ++ detail
  | .renaming detail => "renaming temp cache file: " ++ detail

def Fault.failure (fault : Fault) : Failure :=
  .client ClientCode.cacheFailure fault.message

/-- The permissions of a written cache file: its owner reads and writes. -/
def ownerOnly : Nat := 0o600

def parse (text : String) : Except Fault Store :=
  match (Json.parseText? text).bind Store.ofJson? with
  | some store => .ok store
  | none => .error (.parsing "unexpected content")

def print (store : Store) : String :=
  store.toJson.renderLines

def write (file : CacheFile) (store : Store) : Except Fault CacheFile :=
  if !file.hasParent then .error .noParent
  else if !file.folderExists then .error (.writing "no such folder")
  else if file.entry = .unreadable ∨ file.entry = .impossible then
    .error (.renaming "not a file")
  else .ok { file with entry := .text (print store), mode := ownerOnly }

/-- The store of the file.  A missing file is made, with an empty store. -/
def load (file : CacheFile) : Except Fault (Store × CacheFile) :=
  match file.entry with
  | .unreadable => .error (.reading "not a text file")
  | .text content => (parse content).map fun store => (store, file)
  | _ => (file.write {}).map fun written => ({}, written)

end CacheFile

structure Cache where
  store : Store
  file : CacheFile

namespace Cache

def load (file : CacheFile) : Except Failure Cache :=
  match file.load with
  | .ok (store, file) => .ok { store, file }
  | .error fault => .error fault.failure

/-- Takes over a store and writes it.  Memory keeps the new store even when writing fails. -/
def replace (cache : Cache) (store : Store) : Except Failure Unit × Cache :=
  match cache.file.write store with
  | .ok file => (.ok (), { store, file })
  | .error fault => (.error fault.failure, { cache with store })

def save (cache : Cache) (clientId : String) (c : Credential) (metadata : Option AppMetadata) :
    Except Failure Unit × Cache :=
  cache.replace (cache.store.save clientId c metadata)

/-- Drops the tokens of an account; nothing is written when it has no credential. -/
def invalidate (cache : Cache) (clientId : String) (account : Account) :
    Except Failure Unit × Cache :=
  match cache.store.invalidate? clientId account with
  | some store => cache.replace store
  | none => (.ok (), cache)

def remove (cache : Cache) (clientId : String) (account : Account) :
    Except Failure Bool × Cache :=
  match cache.store.remove? clientId account with
  | some store =>
      let (written, cache) := cache.replace store
      (written.map fun _ => true, cache)
  | none => (.ok false, cache)

end Cache

end TokenAcquisition
