/-
  CodeAudit.Proofs.Ciphers
  ────────────────────────
  **WHICH CALLS OF CIPHERS ARE REPORTED.**

  A cipher is listed by its full name, with a dot between the words.  A call
  goes by the name that it spells, and that is the full name only up to two
  words: of a longer one the last word is left.  So a call by one or two
  words is reported when its full name is listed, and of the usual ciphers
  the one whose name has three words is never reported.

    • `calleeSpelling_short`, `calleeSpelling_long` — the name that a call
      goes by,
    • `dots_joinWith` — a full name has a dot between any two words,
    • `all_listed_ciphers_but_one_reported` — the calls that are reported,
    • `fernet_unreported` — the cipher that is missed.
-/
import CodeAudit.Proofs.Checks

namespace CodeAudit.Audit

open CodeAudit.Data CodeAudit.Source

/-! ## §1. Full names. -/

/-- A name, or an attribute of what is one already, and the words it is made of. -/
inductive Qualified : Node → List String → Prop
  | name (line : Nat) (id : String) : Qualified (.ident line id) [id]
  | attr {value : Node} {words : List String} (line : Nat) (name : String)
      (h : Qualified value words) : Qualified (.attr line value name) (words ++ [name])

theorem Qualified.ne_nil {n : Node} {words : List String} (h : Qualified n words) : words ≠ [] := by
  cases h <;> simp

/-- The words with a dot between neighbours. -/
def fullName (words : List String) : String := Text.joinWith "." words

/-- Up to two words a call goes by its full name. -/
theorem calleeSpelling_short {callee : Node} {words : List String} (h : Qualified callee words)
    (hshort : words.length ≤ 2) : calleeSpelling callee = fullName words := by
  cases h with
  | name line id => rfl
  | attr line name hvalue =>
      cases hvalue with
      | name place id => rfl
      | attr place inner hdeep =>
          have hsome := List.length_pos_of_ne_nil hdeep.ne_nil
          simp only [List.length_append, List.length_singleton] at hshort
          omega

/-- From three words on it goes by the last. -/
theorem calleeSpelling_long {callee : Node} {words : List String} (h : Qualified callee words)
    (hlong : 2 < words.length) : words.getLast? = some (calleeSpelling callee) := by
  cases h with
  | name line id => simp at hlong
  | attr line name hvalue =>
      rw [List.getLast?_concat]
      cases hvalue with
      | name place id => simp at hlong
      | attr place inner hdeep => rfl

/-! ## §2. Dots. -/

/-- The number of dots in a text. -/
def dots (s : String) : Nat := s.toList.count '.'

theorem dots_append (a b : String) : dots (a ++ b) = dots a + dots b := by
  unfold dots
  rw [String.toList_append, List.count_append]

theorem dots_eq_zero {w : String} (h : '.' ∉ w.toList) : dots w = 0 := List.count_eq_zero.mpr h

/-- A full name has one dot less than words. -/
theorem dots_joinWith {words : List String} (hne : words ≠ [])
    (h : ∀ w ∈ words, '.' ∉ w.toList) : dots (fullName words) + 1 = words.length := by
  unfold fullName
  induction words with
  | nil => exact absurd rfl hne
  | cons w rest ih =>
      have hw : dots w = 0 := dots_eq_zero (h w List.mem_cons_self)
      cases rest with
      | nil =>
          show dots w + 1 = 1
          omega
      | cons v rest =>
          have hrest := ih (List.cons_ne_nil v rest) fun u hu => h u (List.mem_cons_of_mem _ hu)
          show dots (w ++ "." ++ Text.joinWith "." (v :: rest)) + 1 = (v :: rest).length + 1
          have hdot : dots "." = 1 := by decide
          rw [dots_append, dots_append, hw, hdot]
          omega

/-- No complete name has a dot. -/
theorem no_dot_of_isName {w : List Char} (h : Token.isName w = true) : '.' ∉ w := by
  intro hdot
  cases w with
  | nil => cases hdot
  | cons c rest =>
      obtain ⟨hfirst, hrest⟩ := Bool.and_eq_true_iff.mp h
      rcases List.mem_cons.mp hdot with rfl | hdot
      · exact absurd hfirst (by decide)
      · exact absurd (List.all_eq_true.mp hrest _ hdot) (by decide)

/-- The usual ciphers have names of two words, but for one of three. -/
theorem dots_standard : ∀ name ∈ Keywords.standard.encryption,
    dots name = if name = "cryptography.fernet.Fernet" then 2 else 1 := by
  decide

/-! ## §3. The check. -/

/-- The finding about a call of a cipher. -/
def cipherFinding (line : Nat) (name excerpt : String) : Finding :=
  .onLine .encryption line excerpt ("Fonction de chiffrement utilisée: " ++ name)
    "Vérifiez que l'implémentation est correcte et utilise des algorithmes forts."

/-- A call is reported: one finding about a cipher, with the line of the call. -/
def CipherReported (k : Keywords) (lines : SourceLines) (n : Node) : Prop :=
  ∃ name, checkEncryption k lines n =
    (lines.excerpt n.line).map fun excerpt => [cipherFinding n.line name excerpt]

section

variable {k : Keywords} {lines : SourceLines} {line : Nat} {callee : Node}
  {arguments keywords : List Node}

/-- Nothing is found about a call by a name that is not listed. -/
theorem checkEncryption_of_not (h : calleeSpelling callee ∉ k.encryption) :
    checkEncryption k lines (.call line callee arguments keywords) = .ok [] := by
  have hcontains : k.encryption.contains (calleeSpelling callee) = false := by
    rw [← Bool.not_eq_true, List.contains_iff_mem]
    exact h
  unfold checkEncryption
  simp only [hcontains, Bool.false_eq_true, if_false]
  rfl

/-- **A call is reported when the name that it goes by is listed.** -/
theorem cipherReported_iff :
    CipherReported k lines (.call line callee arguments keywords) ↔
      calleeSpelling callee ∈ k.encryption := by
  constructor
  · rintro ⟨name, hreported⟩
    by_contra hnot
    rw [checkEncryption_of_not hnot] at hreported
    -- A line that is quoted makes a finding, and one that is not makes a failure.
    cases hexcerpt : lines.excerpt (Node.call line callee arguments keywords).line with
    | error e =>
        rw [hexcerpt] at hreported
        cases hreported
    | ok excerpt =>
        rw [hexcerpt] at hreported
        cases hreported
  · intro hlisted
    refine ⟨calleeSpelling callee, ?_⟩
    have hcontains : k.encryption.contains (calleeSpelling callee) = true :=
      List.contains_iff_mem.mpr hlisted
    unfold checkEncryption
    simp only [hcontains, if_true]
    exact findings_one lines line _

end

/-! ## §4. Ciphers that are listed. -/

/-- Of the usual ciphers, calls of those with two words are reported. -/
theorem standard_reported_iff {callee : Node} {words : List String} (h : Qualified callee words)
    (hwords : ∀ w ∈ words, '.' ∉ w.toList) :
    calleeSpelling callee ∈ Keywords.standard.encryption ↔
      fullName words ∈ Keywords.standard.encryption ∧
        fullName words ≠ "cryptography.fernet.Fernet" := by
  have hdots := dots_joinWith h.ne_nil hwords
  constructor
  · intro hlisted
    have hspelled := dots_standard _ hlisted
    by_cases hshort : words.length ≤ 2
    · rw [calleeSpelling_short h hshort] at hlisted hspelled
      refine ⟨hlisted, fun hthree => ?_⟩
      rw [if_pos hthree] at hspelled
      omega
    · -- The last word has no dot, and every cipher has one.
      have hlast := calleeSpelling_long h (by omega)
      have hnone : dots (calleeSpelling callee) = 0 :=
        dots_eq_zero (hwords _ (List.mem_of_getLast? hlast))
      split at hspelled <;> omega
  · rintro ⟨hlisted, htwo⟩
    have hname := dots_standard _ hlisted
    rw [if_neg htwo] at hname
    rw [calleeSpelling_short h (by omega)]
    exact hlisted

/-- **Calls of listed ciphers are reported, but for one.**  Take a call of a name or
of attributes of a name, made of words without dots, as identifiers are.  Up to
two words it is reported if and only if its full name is listed, whatever is
listed; from three words on if and only if its last word is.  Of the usual
ciphers all are reported but the one with three words, and nothing else is.
A call that is not reported gives no finding and no failure. -/
theorem all_listed_ciphers_but_one_reported (lines : SourceLines) (line : Nat) {callee : Node}
    {words : List String} (arguments keywords : List Node) (h : Qualified callee words)
    (hwords : ∀ w ∈ words, '.' ∉ w.toList) :
    let call := Node.call line callee arguments keywords
    (∀ k : Keywords,
      (words.length ≤ 2 → (CipherReported k lines call ↔ fullName words ∈ k.encryption)) ∧
      (2 < words.length → (CipherReported k lines call ↔
        ∃ last, words.getLast? = some last ∧ last ∈ k.encryption)) ∧
      (¬ CipherReported k lines call → checkEncryption k lines call = .ok [])) ∧
    (CipherReported .standard lines call ↔ fullName words ∈ Keywords.standard.encryption ∧
      fullName words ≠ "cryptography.fernet.Fernet") := by
  intro call
  refine ⟨fun k => ⟨fun hshort => ?_, fun hlong => ?_, fun hnot => ?_⟩, ?_⟩
  · rw [cipherReported_iff, calleeSpelling_short h hshort]
  · rw [cipherReported_iff, calleeSpelling_long h hlong]
    simp
  · exact checkEncryption_of_not fun hlisted => hnot (cipherReported_iff.mpr hlisted)
  · rw [cipherReported_iff]
    exact standard_reported_iff h hwords

/-- A call by two words. -/
theorem all_listed_ciphers_but_one_reported_md5 :
    Qualified (.attr 1 (.ident 1 "hashlib") "md5") ["hashlib", "md5"] ∧
      CipherReported .standard (SourceLines.of "hashlib.md5(k)\n".toList)
        (.call 1 (.attr 1 (.ident 1 "hashlib") "md5") [.ident 1 "k"] []) := by
  have hname : Qualified (.attr 1 (.ident 1 "hashlib") "md5") ["hashlib", "md5"] :=
    .attr 1 "md5" (.name 1 "hashlib")
  have hwords : ∀ w ∈ ["hashlib", "md5"], '.' ∉ w.toList := by
    intro w hw
    have hidentifier : ∀ v ∈ ["hashlib", "md5"], Token.isName v.toList = true := by decide
    exact no_dot_of_isName (hidentifier w hw)
  have hreported := all_listed_ciphers_but_one_reported
    (SourceLines.of "hashlib.md5(k)\n".toList) 1 [.ident 1 "k"] [] hname hwords
  exact ⟨hname, hreported.2.mpr (by decide)⟩

/-- **A listed cipher that is missed:** its name has three words. -/
theorem fernet_unreported :
    Qualified (.attr 1 (.attr 1 (.ident 1 "cryptography") "fernet") "Fernet")
        ["cryptography", "fernet", "Fernet"] ∧
      fullName ["cryptography", "fernet", "Fernet"] ∈ Keywords.standard.encryption ∧
      ¬ CipherReported .standard (SourceLines.of "cryptography.fernet.Fernet(k)\n".toList)
        (.call 1 (.attr 1 (.attr 1 (.ident 1 "cryptography") "fernet") "Fernet")
          [.ident 1 "k"] []) := by
  refine ⟨.attr 1 "Fernet" (.attr 1 "fernet" (.name 1 "cryptography")), by decide, ?_⟩
  rw [cipherReported_iff]
  decide

end CodeAudit.Audit
