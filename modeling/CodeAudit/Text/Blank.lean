/-
  CodeAudit.Text.Blank
  ────────────────────
  **BLANKS AND LINES.**

  The characters that count as blank at the ends of a text, the separators
  that end a line, and the two ways of cutting a text into lines: at every
  line feed (`splitLines`), and at every separator (`separatedLines`).
-/

namespace CodeAudit.Text

/-! ## §1. Blanks. -/

/-- Blank: the separators of words and lines of all scripts, and the four
information separators. -/
def isBlank (c : Char) : Bool :=
  let n := c.toNat
  (0x09 ≤ n && n ≤ 0x0D) || (0x1C ≤ n && n ≤ 0x20) || n == 0x85 || n == 0xA0 || n == 0x1680
    || (0x2000 ≤ n && n ≤ 0x200A) || n == 0x2028 || n == 0x2029 || n == 0x202F || n == 0x205F
    || n == 0x3000

/-- The list without its trailing elements that satisfy `p`. -/
def dropTail {α : Type} (p : α → Bool) (xs : List α) : List α :=
  (xs.reverse.dropWhile p).reverse

/-- The characters without blanks at either end. -/
def trim (cs : List Char) : List Char := dropTail isBlank (cs.dropWhile isBlank)

/-- The text without blanks at either end. -/
def strip (s : String) : String := String.ofList (trim s.toList)

/-! ## §2. Lines. -/

/-- Cut at every element that satisfies `p`; always at least one piece. -/
def cutAt {α : Type} (p : α → Bool) : List α → List (List α)
  | [] => [[]]
  | c :: rest =>
      if p c then [] :: cutAt p rest
      else match cutAt p rest with
        | [] => [[c]]
        | piece :: pieces => (c :: piece) :: pieces

/-- What is cut nowhere stays whole. -/
theorem cutAt_of_none {α : Type} {p : α → Bool} {cs : List α} (h : ∀ c ∈ cs, p c = false) :
    cutAt p cs = [cs] := by
  induction cs with
  | nil => rfl
  | cons c rest ih =>
      have hc := h c List.mem_cons_self
      have hrest := ih fun d hd => h d (List.mem_cons_of_mem _ hd)
      simp [cutAt, hc, hrest]

/-- The first piece ends at the first cut. -/
theorem cutAt_append {α : Type} {p : α → Bool} {cs : List α} (h : ∀ c ∈ cs, p c = false) {d : α}
    (hd : p d = true) (rest : List α) : cutAt p (cs ++ d :: rest) = cs :: cutAt p rest := by
  induction cs with
  | nil => simp [cutAt, hd]
  | cons c cs ih =>
      have hc := h c List.mem_cons_self
      have hcs := ih fun e he => h e (List.mem_cons_of_mem _ he)
      simp [cutAt, hc, hcs]

/-- A text is not cut at a character that it does not hold. -/
theorem uncut_of_not_mem {d : Char} {cs : List Char} (h : d ∉ cs) :
    ∀ c ∈ cs, (c == d) = false := by
  intro c hc
  exact beq_false_of_ne fun hcd => h (hcd ▸ hc)

theorem cutAt_ne_nil {α : Type} (p : α → Bool) (cs : List α) : cutAt p cs ≠ [] := by
  fun_induction cutAt p cs <;> exact List.cons_ne_nil _ _

/-- What is cut nowhere goes with the first piece of what follows. -/
theorem cutAt_front {α : Type} {p : α → Bool} {cs : List α} (h : ∀ c ∈ cs, p c = false)
    (rest : List α) : cutAt p (cs ++ rest) = (cutAt p rest).modifyHead (cs ++ ·) := by
  obtain ⟨piece, pieces, hrest⟩ := List.exists_cons_of_ne_nil (cutAt_ne_nil p rest)
  rw [hrest]
  induction cs with
  | nil => exact hrest
  | cons c cs ih =>
      have hc := h c List.mem_cons_self
      have hcs := ih fun d hd => h d (List.mem_cons_of_mem _ hd)
      simp [cutAt, hc, hcs]

/-- The pieces hold what there was, all but what was cut at. -/
theorem of_mem_cutAt {α : Type} {p : α → Bool} {cs piece : List α} (h : piece ∈ cutAt p cs) {c : α}
    (hc : c ∈ piece) : c ∈ cs ∧ p c = false := by
  fun_induction cutAt p cs generalizing piece with
  | case1 =>
      rw [List.mem_singleton.mp h] at hc
      cases hc
  | case2 d rest _ ih =>
      rcases List.mem_cons.mp h with rfl | h
      · cases hc
      · exact ⟨List.mem_cons_of_mem d (ih h hc).1, (ih h hc).2⟩
  | case3 d rest _ hnil => exact absurd hnil (cutAt_ne_nil p rest)
  | case4 d rest hd first more hpieces ih =>
      rw [hpieces] at ih
      rcases List.mem_cons.mp h with rfl | h
      -- The first piece has the character in front of what it was.
      · rcases List.mem_cons.mp hc with rfl | hc
        · exact ⟨List.mem_cons_self, Bool.eq_false_iff.mpr hd⟩
        · have hmem := ih List.mem_cons_self hc
          exact ⟨List.mem_cons_of_mem d hmem.1, hmem.2⟩
      · have hmem := ih (List.mem_cons_of_mem first h) hc
        exact ⟨List.mem_cons_of_mem d hmem.1, hmem.2⟩

/-- The lines of a text, cut at every line feed. -/
def splitLines (cs : List Char) : List (List Char) := cutAt (· == '\n') cs

/-- Ends a line in the wide sense. -/
def isSeparator (c : Char) : Bool :=
  let n := c.toNat
  (0x0A ≤ n && n ≤ 0x0D) || (0x1C ≤ n && n ≤ 0x1E) || n == 0x85 || n == 0x2028 || n == 0x2029

/-- The lines of a text in the wide sense.  A separator ends its line, a
carriage return and the line feed after it count as one, and nothing follows
a separator at the very end. -/
def separatedLines (cs : List Char) : List (List Char) := go [] cs
where
  /-- `line` holds the current line, last character first. -/
  go (line : List Char) : List Char → List (List Char)
    | [] => if line.isEmpty then [] else [line.reverse]
    | '\r' :: '\n' :: rest => line.reverse :: go [] rest
    | c :: rest => if isSeparator c then line.reverse :: go [] rest else go (c :: line) rest

/-- Every line ending, of any of the three kinds, becomes a line feed. -/
def unifyNewlines : List Char → List Char
  | [] => []
  | '\r' :: '\n' :: rest => '\n' :: unifyNewlines rest
  | '\r' :: rest => '\n' :: unifyNewlines rest
  | c :: rest => c :: unifyNewlines rest

/-! ## §3. Parts of a text. -/

/-- Whether `part` stands at the front of `cs`. -/
def startsWith {α : Type} [BEq α] (part cs : List α) : Bool := part.isPrefixOf cs

/-- Whether `part` occurs in `cs`. -/
def occursIn {α : Type} [BEq α] (part : List α) : List α → Bool
  | [] => part.isEmpty
  | c :: rest => startsWith part (c :: rest) || occursIn part rest

/-- A text ends in another one when something precedes it there. -/
theorem suffix_toList_iff {ending text : String} :
    ending.toList <:+ text.toList ↔ ∃ stem, text = stem ++ ending := by
  constructor
  · rintro ⟨stem, hstem⟩
    refine ⟨String.ofList stem, String.toList_inj.mp ?_⟩
    rw [String.toList_append, String.toList_ofList, hstem]
  · rintro ⟨stem, rfl⟩
    exact ⟨stem.toList, String.toList_append.symm⟩

/-- Texts joined with a separator between neighbours. -/
def joinWith (separator : String) : List String → String
  | [] => ""
  | [s] => s
  | s :: rest => s ++ separator ++ joinWith separator rest

/-- The part after the last `mark`; the whole when there is none. -/
def afterLast {α : Type} [BEq α] (mark : α) (cs : List α) : List α :=
  (cs.reverse.takeWhile (· != mark)).reverse

section

variable {mark c : Char} {cs : List Char}

theorem not_mem_afterLast (mark : Char) (cs : List Char) : mark ∉ afterLast mark cs := by
  intro hmem
  have hwhile := List.all_eq_true.mp List.all_takeWhile mark (List.mem_reverse.mp hmem)
  simp at hwhile

theorem mem_of_mem_afterLast (h : c ∈ afterLast mark cs) : c ∈ cs := by
  have hwhile := (List.takeWhile_subset _) (List.mem_reverse.mp h)
  exact List.mem_reverse.mp hwhile

/-- What follows a mark and holds no other is the part after the last one. -/
theorem afterLast_append (stem : List Char) (h : mark ∉ cs) :
    afterLast mark (stem ++ mark :: cs) = cs := by
  have hkept : ∀ d ∈ cs.reverse, (d != mark) = true := by
    intro d hd
    rw [bne_iff_ne]
    rintro rfl
    exact h (List.mem_reverse.mp hd)
  unfold afterLast
  rw [List.reverse_append, List.reverse_cons, List.append_assoc, List.takeWhile_append_of_pos hkept]
  simp

end

/-! ## §4. Whole numbers. -/

/-- A whole number is written in digits, with a dash before them if need be. -/
theorem not_mem_toString {c : Char} (hdigit : c.isDigit = false) (hdash : c ≠ '-') (n : Int) :
    c ∉ (toString n).toList := by
  have hdigits : ∀ k : Nat, c ∉ k.repr.toList := by
    intro k hmem
    rw [Nat.repr, String.toList_ofList] at hmem
    rw [Nat.isDigit_of_mem_toDigits (by decide) (by decide) hmem] at hdigit
    cases hdigit
  cases n with
  | ofNat k => exact hdigits k
  | negSucc k =>
      show c ∉ ("-" ++ k.succ.repr).toList
      rw [String.toList_append, List.mem_append, not_or]
      exact ⟨by simpa using hdash, hdigits _⟩

end CodeAudit.Text
