/-
  CodeAudit.Text.Wording
  ──────────────────────
  **WHOLE TEXTS AND TORN ONES.**

  A code point beyond the first plane can be spelled as a pair of surrogates.
  A text that is spelled by numbers may hold half of such a pair alone, which
  is no character.  Such a text is torn: it can be kept, joined to others and
  written by numbers again, but it cannot be encoded.

    • `Sign` — what texts are made of,
    • `Wording` — a text, whole or torn,
    • `Torn.gap` — where encoding a torn text fails.
-/
import CodeAudit.Text.Quoted
import CodeAudit.Text.Utf8

namespace CodeAudit.Text

/-! ## §1. Signs. -/

/-- A character, or half of a surrogate pair by its place among the halves. -/
inductive Sign where
  | char (c : Char)
  | half (n : Fin 0x800)
  deriving DecidableEq, Repr

namespace Sign

/-- The sign of a code point. -/
def ofCode (n : Nat) : Sign :=
  if h : 0xD800 ≤ n ∧ n ≤ 0xDFFF then .half ⟨n - 0xD800, by omega⟩ else .char (Char.ofNat n)

/-- The code point of a sign. -/
def code : Sign → Nat
  | char c => c.toNat
  | half n => 0xD800 + n

/-- Whether a sign is no character. -/
def isHalf : Sign → Bool
  | char _ => false
  | half _ => true

/-- The character that is shown for a sign. -/
def shown : Sign → Char
  | char c => c
  | half _ => Utf8.replacement

/-- Change characters; halves stay. -/
def mapChar (f : Char → List Char) : Sign → List Sign
  | char c => (f c).map .char
  | half n => [.half n]

end Sign

/-! ## §2. Wordings. -/

/-- A text with half of a surrogate pair in it. -/
structure Torn where
  signs : List Sign
  torn : signs.any Sign.isHalf = true
  deriving DecidableEq, Repr

/-- A text, whole or torn. -/
inductive Wording where
  | whole (s : String)
  | torn (t : Torn)
  deriving DecidableEq, Repr

instance : Coe String Wording := ⟨.whole⟩

namespace Wording

/-- The signs of a text. -/
def signs : Wording → List Sign
  | whole s => s.toList.map .char
  | torn t => t.signs

/-- The text that signs make. -/
def ofSigns (signs : List Sign) : Wording :=
  if h : signs.any Sign.isHalf = true then .torn ⟨signs, h⟩
  else .whole (String.ofList (signs.map Sign.shown))

/-- Whether a text has no halves. -/
def isWhole : Wording → Bool
  | whole _ => true
  | torn _ => false

/-- Whether there is nothing in a text. -/
def isEmpty : Wording → Bool
  | whole s => s.isEmpty
  | torn _ => false

/-- A text with a character in the place of every half. -/
def shown : Wording → String
  | whole s => s
  | torn t => String.ofList (t.signs.map Sign.shown)

/-- Two texts joined.  Halves that meet make no pair. -/
def append : Wording → Wording → Wording
  | whole a, whole b => .whole (a ++ b)
  | a, b => .ofSigns (a.signs ++ b.signs)

instance : Append Wording := ⟨append⟩

/-- Texts joined with another one between neighbours. -/
def joinWith (separator : Wording) : List Wording → Wording
  | [] => .whole ""
  | [w] => w
  | w :: rest => w ++ separator ++ joinWith separator rest

/-- Texts joined. -/
def join (ws : List Wording) : Wording := ws.foldr (· ++ ·) (.whole "")

/-- Change the characters of a text. -/
def mapChars (f : Char → List Char) : Wording → Wording
  | whole s => .whole (String.ofList (s.toList.flatMap f))
  | torn t => .ofSigns (t.signs.flatMap (Sign.mapChar f))

/-! Wholeness. -/

@[simp] theorem isWhole_whole (s : String) : (whole s).isWhole = true := rfl

@[simp] theorem isWhole_torn (t : Torn) : (torn t).isWhole = false := rfl

theorem isWhole_iff {w : Wording} : w.isWhole = true ↔ ∃ s, w = .whole s := by
  cases w <;> simp

theorem isEmpty_iff {w : Wording} : w.isEmpty = true ↔ w = .whole "" := by
  cases w <;> simp [isEmpty]

theorem isWhole_ofSigns (signs : List Sign) :
    (ofSigns signs).isWhole = !signs.any Sign.isHalf := by
  unfold ofSigns
  split <;> simp_all [isWhole]

@[simp] theorem isWhole_append (v w : Wording) : (v ++ w).isWhole = (v.isWhole && w.isWhole) := by
  show (append v w).isWhole = _
  -- A half on either side is a half of the whole.
  cases v <;> cases w <;> simp [append, isWhole_ofSigns, signs, Torn.torn]

@[simp] theorem isWhole_joinWith (separator : String) (ws : List Wording) :
    (joinWith separator ws).isWhole = ws.all isWhole := by
  fun_induction joinWith separator ws with
  | case1 => rfl
  | case2 w => simp
  | case3 w rest _ ih => simp [ih]

@[simp] theorem isWhole_join (ws : List Wording) : (join ws).isWhole = ws.all isWhole := by
  induction ws with
  | nil => rfl
  | cons w rest ih =>
      show (w ++ join rest).isWhole = _
      simp [ih]

@[simp] theorem isWhole_mapChars (f : Char → List Char) (w : Wording) :
    (w.mapChars f).isWhole = w.isWhole := by
  cases w with
  | whole s => rfl
  | torn t =>
      have hhalf : ∀ s : Sign, (s.mapChar f).any Sign.isHalf = s.isHalf := by
        intro s
        cases s <;> simp [Sign.mapChar, Sign.isHalf, Function.comp_def]
      simp only [mapChars, isWhole_ofSigns, List.any_flatMap, hhalf]
      exact congrArg (!·) t.torn

/-! A text is its signs. -/

@[simp] theorem signs_whole (s : String) : (whole s).signs = s.toList.map .char := rfl

theorem any_isHalf_map_char (cs : List Char) : (cs.map Sign.char).any Sign.isHalf = false := by
  simp [Sign.isHalf]

/-- Texts with the same signs are the same. -/
theorem eq_of_signs {v w : Wording} (h : v.signs = w.signs) : v = w := by
  have hhalves := congrArg (List.any · Sign.isHalf) h
  cases v with
  | whole a =>
      cases w with
      | whole b =>
          have hchars := List.map_inj_right (fun _ _ hc => Sign.char.inj hc) |>.mp h
          rw [String.toList_inj.mp hchars]
      | torn t => cases (any_isHalf_map_char _).symm.trans (hhalves.trans t.torn)
  | torn t =>
      cases w with
      | whole b => cases t.torn.symm.trans (hhalves.trans (any_isHalf_map_char _))
      | torn u =>
          obtain ⟨signs, _⟩ := t
          obtain rfl : signs = u.signs := h
          rfl

@[simp] theorem signs_ofSigns (signs : List Sign) : (ofSigns signs).signs = signs := by
  unfold ofSigns
  split
  · rfl
  · rename_i hnone
    rw [signs_whole, String.toList_ofList, List.map_map]
    refine (List.map_congr_left fun s hs => ?_).trans (List.map_id signs)
    cases s with
    | char c => rfl
    | half n => exact absurd (List.any_eq_true.mpr ⟨_, hs, rfl⟩) hnone

@[simp] theorem signs_append (v w : Wording) : (v ++ w).signs = v.signs ++ w.signs := by
  show (append v w).signs = _
  cases v <;> cases w <;> simp [append]

@[simp] theorem signs_join (ws : List Wording) : (join ws).signs = ws.flatMap signs := by
  induction ws with
  | nil => rfl
  | cons w rest ih =>
      show (w ++ join rest).signs = _
      simp [ih]

end Wording

/-! ## §3. Torn texts. -/

/-- The halves of a text that stand side by side, and the number of signs before
them. -/
structure Gap where
  position : Nat
  halves : List Sign

/-- The first place at which a torn text cannot be encoded. -/
def Torn.gap (t : Torn) : Gap :=
  let characters := t.signs.takeWhile (!·.isHalf)
  ⟨characters.length, (t.signs.drop characters.length).takeWhile Sign.isHalf⟩

/-- The wording of a failure to encode. -/
def Gap.message (g : Gap) : String :=
  let what := match g.halves with
    | [half] => "character '\\u" ++ String.ofList (hexPadded 4 half.code) ++ "' in position "
        ++ toString g.position
    | halves => "characters in position " ++ toString g.position ++ "-"
        ++ toString (g.position + halves.length - 1)
  "'utf-8' codec can't encode " ++ what ++ ": surrogates not allowed"

/-- A sign inside quotes. -/
def Sign.quoted (quote : Char) : Sign → List Char
  | char c => quotedChar quote c
  | half n => '\\' :: 'u' :: hexPadded 4 (half n).code

/-- A torn text in quotes, which is whole again. -/
def Torn.quoted (t : Torn) : String :=
  let quote := quoteFor (t.signs.map Sign.shown)
  String.ofList (quote :: (t.signs.flatMap (Sign.quoted quote) ++ [quote]))

end CodeAudit.Text
