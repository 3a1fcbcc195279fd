/-
  CodeAudit.Site.Upload
  ─────────────────────
  **UPLOADED FILES.**

  A file comes with a name of the sender's choice.  It is known by the last
  component of that name, and stored in a directory of its owner under a key
  that nobody chooses; only the ending of the name is kept there.
-/
import CodeAudit.Text.Quoted
import CodeAudit.Text.Blank
import CodeAudit.Text.References

namespace CodeAudit.Site

/-! ## §1. Names. -/

/-- A file as it is sent. -/
structure SentFile where
  name : String
  content : List UInt8
  deriving DecidableEq

/-- The ending of a file name: from the last point on, unless only points
precede it. -/
def endingOf (name : List Char) : List Char :=
  let ending := Text.afterLast '.' name
  let stem := name.take (name.length - ending.length - 1)
  if ending.length = name.length || stem.all (· == '.') then [] else '.' :: ending

/-- The longest file name. -/
def nameLimit : Nat := 255

/-- A file name cut to the limit; its ending is kept. -/
def shortened (name : List Char) : List Char :=
  if name.length ≤ nameLimit then name
  else
    let ending := endingOf name
    let stem := name.take (name.length - ending.length)
    let kept := ending.take nameLimit
    stem.take (nameLimit - kept.length) ++ kept

/-- The name by which a file is known: the last component of the sent one. -/
def knownName (sent : String) : String :=
  String.ofList (shortened (Text.afterLast '/' sent.toList))

/-- The file under the name by which it is known. -/
def SentFile.known (f : SentFile) : SentFile := { f with name := knownName f.name }

/-- A file that came over the wire.  There references in its name are resolved, a
backslash parts components too and unprintable characters are lost; a file without a
name is left out. -/
def SentFile.received? (f : SentFile) : Option SentFile :=
  let sent := Text.resolved f.name.toList
  let name := (Text.afterLast '\\' (Text.afterLast '/' sent)).filter Text.isPrintable
  if name ∈ [[], ['.'], ['.', '.']] then none
  else some { f with name := String.ofList (shortened name) }

/-- Whether a file is one of the site's: its name ends as a module's does. -/
def SentFile.isModule (f : SentFile) : Bool := ".py".toList.isSuffixOf f.name.toList

/-! ## §2. Stored files. -/

/-- The key of the `n`-th stored file: 32 hexadecimal digits. -/
def storageKey (n : Nat) : String := String.ofList (Text.hexPadded 32 n)

/-- The ending under which a file is stored: what follows the last point of its
name, or the whole name. -/
def storedEnding (name : String) : String := String.ofList (Text.afterLast '.' name.toList)

/-- The directory in which the files of an owner are stored. -/
def ownDirectory (owner : Int) : String := "user_" ++ toString owner

/-- The path of a stored file. -/
def storedPath (owner : Int) (key name : String) : String :=
  ownDirectory owner ++ "/" ++ key ++ "." ++ storedEnding name

/-- A stored file. -/
structure StoredFile where
  /-- The name by which its owner knows it. -/
  name : String
  path : String
  content : List UInt8
  deriving DecidableEq

/-- Store files; the first gets the key `first`. -/
def storeFiles (owner : Int) (first : Nat) : List SentFile → List StoredFile
  | [] => []
  | f :: rest =>
      ⟨f.name, storedPath owner (storageKey first) f.name, f.content⟩
        :: storeFiles owner (first + 1) rest

end CodeAudit.Site
