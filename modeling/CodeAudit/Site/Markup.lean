/-
  CodeAudit.Site.Markup
  ─────────────────────
  **LIGHT MARKUP.**

  Advice comes as text with light markup: paragraphs between empty lines,
  headings behind number signs, lists behind dashes, and stars around words to
  stress them.  It is shown as HTML; tags and character references in the text
  are kept, other special characters are escaped.
-/
import CodeAudit.Text.Blank
import CodeAudit.Text.Classes
import CodeAudit.Text.Wording

namespace CodeAudit.Site.Markup

open CodeAudit.Text

/-! ## §1. Blocks. -/

/-- An item of a list. -/
structure Item where
  /-- Whether it is set apart from its neighbour by an empty line. -/
  loose : Bool
  text : List Char

/-- A part of a text. -/
inductive Block where
  | paragraph (text : List Char)
  | heading (level : Nat) (text : List Char)
  | bullets (items : List Item)

/-- Tabs filled up with spaces to the next column that is a multiple of four. -/
def expandTabs (column : Nat) : List Char → List Char
  | [] => []
  | '\t' :: rest =>
      let width := 4 - column % 4
      List.replicate width ' ' ++ expandTabs (column + width) rest
  | '\n' :: rest => '\n' :: expandTabs 0 rest
  | c :: rest => c :: expandTabs (column + 1) rest

/-- Runs of lines between empty ones. -/
def chunks (lines : List (List Char)) : List (List (List Char)) :=
  (cutAt (fun line => line.all (· == ' ')) lines).filter (!·.isEmpty)

/-- The text of a line that starts an item: after at most three spaces, a mark and
a space. -/
def bullet? (line : List Char) : Option (List Char) :=
  let indent := (line.takeWhile (· == ' ')).length
  match line.drop indent with
  | mark :: ' ' :: rest =>
      if indent ≤ 3 && (mark == '-' || mark == '*' || mark == '+') then
        some (rest.dropWhile (· == ' '))
      else none
  | _ => none

/-- The level and the text of a heading. -/
def heading? (line : List Char) : Option (Nat × List Char) :=
  let level := min 6 (line.takeWhile (· == '#')).length
  if level = 0 then none
  else some (level, trim (dropTail (· == '#') (line.drop level)))

/-- Lines joined by line feeds. -/
def joined (lines : List (List Char)) : List Char := List.intercalate ['\n'] lines

/-- The items of lines; a line without a mark belongs to the item before. -/
def items (lines : List (List Char)) : List (List Char) :=
  (lines.foldl (fun found line =>
    match bullet? line, found with
    | some text, _ => text :: found
    | none, last :: before => (last ++ '\n' :: line) :: before
    | none, [] => [line]) []).reverse

/-- The block of lines without headings. -/
def plainBlock (lines : List (List Char)) : List Block :=
  match lines with
  | [] => []
  | first :: _ =>
      if (bullet? first).isSome then [.bullets ((items lines).map (Item.mk false))]
      else [.paragraph ((joined lines).dropWhile isBlank)]

/-- The blocks of a run of lines; `seen` holds the lines since the last heading,
the last one first. -/
def blocksFrom (seen : List (List Char)) : List (List Char) → List Block
  | [] => plainBlock seen.reverse
  | line :: rest =>
      match heading? line with
      | some (level, text) =>
          plainBlock seen.reverse ++ .heading level text :: blocksFrom [] rest
      | none => blocksFrom (line :: seen) rest

/-- Set apart the last item of a list. -/
def loosenLast (items : List Item) : List Item :=
  items.dropLast ++ items.getLast?.toList.map fun i => { i with loose := true }

/-- Set apart the first item of a list. -/
def loosenFirst : List Item → List Item
  | [] => []
  | i :: rest => { i with loose := true } :: rest

/-- Lists that follow each other become one. -/
def mergeLists (blocks : List Block) : List Block :=
  (blocks.foldl (fun done block =>
    match block, done with
    | .bullets more, .bullets items :: before =>
        .bullets (loosenLast items ++ loosenFirst more) :: before
    | block, done => block :: done) []).reverse

/-- The blocks of a text. -/
def blocks (text : String) : List Block :=
  let lines := splitLines (expandTabs 0 (unifyNewlines text.toList))
  mergeLists ((chunks lines).flatMap (blocksFrom []))

/-! ## §2. Inside a block. -/

/-- Split before the first place, after at least `least` characters, where `mark`
stands and `good` holds of what follows the mark. -/
def splitBefore (mark : List Char) (good : List Char → Bool) (least : Nat) :
    List Char → Option (List Char × List Char)
  | [] => none
  | c :: rest =>
      if least = 0 && startsWith mark (c :: rest) && good ((c :: rest).drop mark.length) then
        some ([], (c :: rest).drop mark.length)
      else (splitBefore mark good (least - 1) rest).map fun (before, after) => (c :: before, after)

/-- The length of a tag at the front, if there is one. -/
def tagLength? (cs : List Char) : Option Nat :=
  match cs with
  | '<' :: rest =>
      let body := rest.takeWhile fun c => c != '<' && c != '>'
      let name := match body with
        | '/' :: name => name
        | name => name
      let closed := (rest.drop body.length).head? == some '>'
      let lettered := (name.head?.map isAsciiLetter).getD false
      if closed && lettered && !(name.takeWhile (· != ' ')).contains '@' then some (body.length + 2)
      else none
  | _ => none

/-- Whether the text between the ampersand and the semicolon names a character. -/
def namesCharacter (name : List Char) : Bool :=
  match name with
  | '#' :: 'x' :: digits => !digits.isEmpty && digits.all isHexDigit
  | '#' :: digits => !digits.isEmpty && digits.all isAsciiDigit
  | letters => !letters.isEmpty && letters.all fun c => isAsciiLetter c || isAsciiDigit c

/-- The length of a character reference at the front, if there is one. -/
def referenceLength? (cs : List Char) : Option Nat :=
  match cs with
  | '&' :: rest =>
      let name := rest.takeWhile (· != ';')
      if name.length < rest.length && namesCharacter name then some (name.length + 2) else none
  | _ => none

/-- Stressed text. -/
inductive Stress where
  | strong (text after : List Char)
  | emphasis (text after : List Char)
  /-- Strong text that begins with emphasis. -/
  | strongBoth (inner text after : List Char)
  /-- Emphasis that begins with strong text. -/
  | emphasisBoth (inner text after : List Char)

/-- Stressed text behind three stars, if there is one. -/
def triple? (cs : List Char) : Option Stress :=
  let one := ['*']
  let two := ['*', '*']
  match splitBefore one (fun rest => (splitBefore two (fun _ => true) 0 rest).isSome) 1 cs with
  | some (inner, rest) =>
      (splitBefore two (fun _ => true) 0 rest).map fun (text, after) => .strongBoth inner text after
  | none => do
      let (inner, rest) ← splitBefore two (fun rest => rest.contains '*') 1 cs
      let (text, after) ← splitBefore one (fun _ => true) 0 rest
      return .emphasisBoth inner text after

/-- Stressed text at the front, if there is one. -/
def stress? (cs : List Char) : Option Stress :=
  match cs with
  | '*' :: '*' :: rest =>
      let three := match rest with
        | '*' :: rest => triple? rest
        | _ => none
      match three with
      | some s => some s
      | none => (splitBefore ['*', '*'] (fun _ => true) 1 rest).map fun (text, after) =>
          .strong text after
  | '*' :: rest =>
      let text := rest.takeWhile (· != '*')
      if !text.isEmpty && text.length < rest.length then
        some (.emphasis text (rest.drop (text.length + 1)))
      else none
  | _ => none

/-- The length of stars at the front that stand alone: at most three, with a blank
or nothing on both sides. -/
def loneStars (before : Option Char) (cs : List Char) : Nat :=
  let stars := (cs.takeWhile (· == '*')).length
  let opening := (before.map isBlank).getD true
  let closed := ((cs.drop stars).head?.map isBlank).getD true
  if stars ≤ 3 && opening && closed then stars else 0

/-- Text inside a block as HTML; `before` is the character in front of it, and
`fuel` at least its length. -/
def inline : Nat → Option Char → List Char → List Char
  | 0, _, _ => []
  | _, _, [] => []
  | fuel + 1, before, c :: rest =>
      let cs := c :: rest
      let keep := fun (n : Nat) => cs.take (n + 1) ++ inline fuel (cs.take (n + 1)).getLast? (cs.drop (n + 1))
      match c with
      | '<' =>
          match tagLength? cs with
          | some n => keep (n - 1)
          | none => "&lt;".toList ++ inline fuel (some c) rest
      | '>' => "&gt;".toList ++ inline fuel (some c) rest
      | '&' =>
          match referenceLength? cs with
          | some n => keep (n - 1)
          | none => "&amp;".toList ++ inline fuel (some c) rest
      | '*' =>
          let stars := loneStars before cs
          if 0 < stars then keep (stars - 1)
          else
            match stress? cs with
            | some (.strong text after) =>
                "<strong>".toList ++ inline fuel none text ++ "</strong>".toList
                  ++ inline fuel (some c) after
            | some (.emphasis text after) =>
                "<em>".toList ++ inline fuel none text ++ "</em>".toList
                  ++ inline fuel (some c) after
            | some (.strongBoth inner text after) =>
                "<strong><em>".toList ++ inline fuel none inner ++ "</em>".toList
                  ++ inline fuel none text ++ "</strong>".toList ++ inline fuel (some c) after
            | some (.emphasisBoth inner text after) =>
                "<em><strong>".toList ++ inline fuel none inner ++ "</strong>".toList
                  ++ inline fuel none text ++ "</em>".toList ++ inline fuel (some c) after
            | none => c :: inline fuel (some c) rest
      | ' ' =>
          if startsWith [' ', '\n'] rest then
            "<br />\n".toList ++ inline fuel (some '\n') (rest.drop 2)
          else c :: inline fuel (some c) rest
      | _ => c :: inline fuel (some c) rest

/-! ## §3. HTML. -/

/-- The inside of a block as HTML. -/
def inside (text : List Char) : String := String.ofList (inline text.length none text)

/-- An item as HTML. -/
def Item.html (i : Item) : String :=
  if i.loose then "<li>\n<p>" ++ inside i.text ++ "</p>\n</li>" else "<li>" ++ inside i.text ++ "</li>"

/-- A block as HTML. -/
def Block.html : Block → String
  | paragraph text => "<p>" ++ inside text ++ "</p>"
  | heading level text =>
      "<h" ++ toString level ++ ">" ++ inside text ++ "</h" ++ toString level ++ ">"
  | bullets items => joinWith "\n" ("<ul>" :: items.map Item.html ++ ["</ul>"])

/-- A text with light markup as HTML. -/
def html (text : String) : String := joinWith "\n" ((blocks text).map Block.html)

/-! ## §4. Torn texts. -/

/-- The first of the characters for private use that stand for halves of surrogate
pairs while a text is marked up. -/
def privateStart : Nat := 0xF0000

/-- A sign as a character without meaning for markup. -/
def standIn : Sign → Char
  | .char c => c
  | .half n => Char.ofNat (privateStart + n)

/-- The sign that a character stands for. -/
def restored (c : Char) : Sign :=
  if h : privateStart ≤ c.toNat ∧ c.toNat < privateStart + 0x800 then
    .half ⟨c.toNat - privateStart, by omega⟩
  else .char c

/-- A text, whole or torn, as HTML. -/
def htmlOf : Wording → Wording
  | .whole s => html s
  | .torn t => .ofSigns ((html (String.ofList (t.signs.map standIn))).toList.map restored)

end CodeAudit.Site.Markup
