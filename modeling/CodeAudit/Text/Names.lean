/-
  CodeAudit.Text.Names
  ────────────────────
  **CHARACTERS BY NAME.**

  A character may be written by its name in the character database, or by
  another name it has there, in letters of either case.  Unified ideographs
  are named by their code point and syllables of Hangul by their sounds, both
  in capitals only.
-/
import CodeAudit.Text.Classes
import CodeAudit.Text.Quoted
import CodeAudit.Text.Names.Table

namespace CodeAudit.Text

/-! ## §1. Names in the tables. -/

/-- The blocks of characters whose names end in their code points. -/
private def numberedBlocks : List (String × Nat × Nat) :=
  [("CJK COMPATIBILITY IDEOGRAPH-", 0xF900, 0xFA6D), ("CJK COMPATIBILITY IDEOGRAPH-", 0xFA70, 0xFAD9),
   ("CJK COMPATIBILITY IDEOGRAPH-", 0x2F800, 0x2FA1D), ("NUSHU CHARACTER-", 0x1B170, 0x1B2FB),
   ("KHITAN SMALL SCRIPT CHARACTER-", 0x18B00, 0x18CD5)]

/-- Names and code points. -/
private def nameEntries : List (String × Nat) :=
  (Names.Table.names ++ Names.Table.aliases).flatMap fun line =>
    (line.splitOn "; ").filterMap fun entry =>
      match entry.splitOn " " with
      | code :: words => some (" ".intercalate words, hexNumber code)
      | [] => none

/-- The character of a block whose name ends in its code point. -/
def numberedNamed (name : String) : Option Char :=
  numberedBlocks.findSome? fun (front, first, last) =>
    ((List.range (last + 1 - first)).map (first + ·)).findSome? fun code =>
      let digits := (hexPadded 4 code).map Char.toUpper
      if name.toList = front.toList ++ digits then some (Char.ofNat code) else none

/-! ## §2. Names in capitals. -/

/-- The blocks of unified ideographs. -/
private def ideographBlocks : List (Nat × Nat) :=
  [(0x3400, 0x4DBF), (0x4E00, 0x9FFF), (0x20000, 0x2A6DF), (0x2A700, 0x2B738), (0x2B740, 0x2B81D),
   (0x2B820, 0x2CEA1), (0x2CEB0, 0x2EBE0), (0x30000, 0x3134A)]

/-- What follows after a given front. -/
def afterFront? (front name : String) : Option (List Char) :=
  if front.toList.isPrefixOf name.toList then some (name.toList.drop front.length) else none

/-- The unified ideograph with a given name: its code point in four or five digits. -/
def ideographNamed (name : String) : Option Char :=
  (afterFront? "CJK UNIFIED IDEOGRAPH-" name).bind fun digits =>
    let code := hexNumber (String.ofList digits)
    if digits.all (fun c => isHexDigit c && c.toUpper == c) && (digits.length = 4 || digits.length = 5)
        && ideographBlocks.any fun (a, b) => a ≤ code && code ≤ b then
      some (Char.ofNat code)
    else none

/-- The sounds that a syllable of Hangul starts with. -/
private def leadSounds : List String :=
  ["G", "GG", "N", "D", "DD", "R", "M", "B", "BB", "S", "SS", "", "J", "JJ", "C", "K", "T", "P", "H"]

/-- The vowels of a syllable of Hangul. -/
private def vowelSounds : List String :=
  ["A", "AE", "YA", "YAE", "EO", "E", "YEO", "YE", "O", "WA", "WAE", "OE", "YO", "U", "WEO", "WE",
   "WI", "YU", "EU", "YI", "I"]

/-- The sounds that a syllable of Hangul ends with. -/
private def tailSounds : List String :=
  ["", "G", "GG", "GS", "N", "NJ", "NH", "D", "L", "LG", "LM", "LB", "LS", "LT", "LP", "LH", "M",
   "B", "BS", "S", "SS", "NG", "J", "C", "K", "T", "P", "H"]

/-- The syllable of Hangul with a given name.  Sounds at either end have no letter of a
vowel. -/
def syllableNamed (name : String) : Option Char := do
  let sounds ← afterFront? "HANGUL SYLLABLE " name
  let vowelLetter (c : Char) : Bool := "AEIOUWY".toList.contains c
  let lead := sounds.takeWhile (!vowelLetter ·)
  let rest := sounds.drop lead.length
  let vowel := rest.takeWhile vowelLetter
  let l ← leadSounds.idxOf? (String.ofList lead)
  let v ← vowelSounds.idxOf? (String.ofList vowel)
  let t ← tailSounds.idxOf? (String.ofList (rest.drop vowel.length))
  return Char.ofNat (0xAC00 + (l * vowelSounds.length + v) * tailSounds.length + t)

/-! ## §3. All names. -/

/-- The character with a given name. -/
def characterNamed (name : String) : Option Char :=
  let capitals := String.ofList (name.toList.map Char.toUpper)
  match nameEntries.lookup capitals with
  | some code => some (Char.ofNat code)
  | none => (syllableNamed name).or ((ideographNamed name).or (numberedNamed capitals))

end CodeAudit.Text
