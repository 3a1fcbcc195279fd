/-
  CodeAudit.Site.Address
  ──────────────────────
  **ADDRESSES.**

  The target of a request is a path and a query.  The path is read with its
  percent signs decoded; the query keeps its bytes, and its parameters are
  decoded one by one.  An address can be written back, and a visitor may be
  sent on to an address only if it lies on the site.
-/
import CodeAudit.Text.Percent
import CodeAudit.Text.Blank

namespace CodeAudit.Site

open CodeAudit.Text

/-! ## §1. Reading. -/

/-- An address on the site. -/
structure Address where
  path : List Char
  query : List UInt8

/-- Cut at the first `mark`; the mark itself is dropped. -/
def cutOnce (mark : Char) (cs : List Char) : List Char × List Char :=
  (cs.takeWhile (· != mark), (cs.dropWhile (· != mark)).drop 1)

/-- Read the target of a request. -/
def Address.read (target : String) : Address :=
  let (path, query) := cutOnce '?' (cutOnce '#' target.toList).1
  let path := if path.isEmpty then ['/'] else path
  ⟨Utf8.decodeLossy (percentDecode (Utf8.encode (String.ofList path))),
    Utf8.encode (String.ofList query)⟩

/-- Read a name or a value of a query: a plus sign is a space. -/
def formText (bytes : List UInt8) : String :=
  String.ofList (Utf8.decodeLossy (percentDecode (bytes.map fun b => if b == 0x2B then 0x20 else b)))

/-- The parameters of a query, in order. -/
def Address.parameters (a : Address) : List (String × String) :=
  ((cutAt (· == 0x26) a.query).filter (!·.isEmpty)).map fun piece =>
    (formText (piece.takeWhile (· != 0x3D)), formText ((piece.dropWhile (· != 0x3D)).drop 1))

/-- The value of a parameter; of several the last counts. -/
def Address.parameter? (a : Address) (name : String) : Option String :=
  (a.parameters.reverse.find? (·.1 == name)).map (·.2)

/-! ## §2. Writing. -/

/-- The characters that an address may hold as they are. -/
def addressSafe : List Char := "/#%[]=:;$&()+,!?*@'~".toList

/-- An address that may hold any characters, in ASCII. -/
def asciiAddress (address : String) : String :=
  String.ofList (percentEncode addressSafe (Utf8.encode address))

/-- A byte as a character of its own, in bytes again. -/
def asCharacter (b : UInt8) : List UInt8 :=
  if b < 0x80 then [b]
  else [UInt8.ofNat (0xC0 + b.toNat / 64), UInt8.ofNat (0x80 + b.toNat % 64)]

/-- The address, with more at the end of its path.  Bytes of the query beyond ASCII
are taken for characters of their own. -/
def Address.text (a : Address) (more : String) : String :=
  let query := if a.query.isEmpty then []
    else '?' :: percentEncode addressSafe (a.query.flatMap asCharacter)
  String.ofList a.path ++ more ++ String.ofList query

/-! ## §3. Going on to an address. -/

/-- A character of a scheme. -/
def isSchemeChar (c : Char) : Bool :=
  isAsciiLetter c || isAsciiDigit c || c == '+' || c == '-' || c == '.'

/-- The scheme of an address, and what follows its colon. -/
def scheme (cs : List Char) : List Char × List Char :=
  let name := cs.takeWhile (· != ':')
  if !name.isEmpty && name.length < cs.length && name.all isSchemeChar then
    (name.map Char.toLower, cs.drop (name.length + 1))
  else ([], cs)

/-- The host of an address without its scheme: nothing, or what follows two
slashes. -/
def hostOf : List Char → List Char
  | '/' :: '/' :: rest => rest.takeWhile fun c => c != '/' && c != '?' && c != '#'
  | _ => []

/-- Whether brackets around a host come in pairs. -/
def bracketsMatch (host : List Char) : Bool := host.contains '[' == host.contains ']'

/-- Whether an address, read plainly, stays on the site. -/
def staysOn (host : String) (cs : List Char) : Bool :=
  let (name, rest) := scheme cs
  let other := hostOf rest
  !startsWith ['/', '/', '/'] cs && bracketsMatch other && !(other.isEmpty && !name.isEmpty)
    && (cs.head?.map isPrintable).getD false
    && (other.isEmpty || String.ofList other == host)
    && (name.isEmpty || String.ofList name == "http" || String.ofList name == "https")

/-- Whether a visitor may be sent on to an address, where backslashes may be taken
for slashes. -/
def isSafeAddress (host address : String) : Bool :=
  let cs := trim address.toList
  !cs.isEmpty && staysOn host cs && staysOn host (cs.map fun c => if c == '\\' then '/' else c)

end CodeAudit.Site
