/-
  CodeAudit.Proofs.Checks
  ───────────────────────
  **WHAT A CHECK CAN DO.**

  A check looks at nodes of one kind.  On any other node it finds nothing; on
  one of its own it lists findings of its own category about the line of the
  node, each with a recommendation (`run_eq`).  Everything else follows from
  that: a check fails only where a line cannot be quoted (`run_ok`), and what
  it finds is about its node and recommends something (`reports_run`,
  `advises_run`).
-/
import CodeAudit.Proofs.Contribution
import CodeAudit.Proofs.Fallible
import CodeAudit.Proofs.Source.Parsing

namespace CodeAudit.Audit

open CodeAudit.Data CodeAudit.Source

/-! ## §1. Findings about a line. -/

/-- A line of the text can be quoted. -/
theorem excerpt_ok {text : List Char} {line : Nat} (h : LineOf text line) :
    ∃ s, (SourceLines.of text).excerpt line = .ok s := by
  obtain ⟨hfirst, hlast⟩ := h
  have hlt : line - 1 < (Text.splitLines text).length := by omega
  refine ⟨String.ofList (Text.trim (Text.splitLines text)[line - 1]), ?_⟩
  unfold SourceLines.excerpt SourceLines.of
  rw [List.getElem?_toArray, List.getElem?_eq_getElem hlt]

/-- All findings about a line of the text can quote it. -/
theorem findings_ok {text : List Char} {line : Nat} (h : LineOf text line)
    (made : List (String → Finding)) : ∃ fs, findings (SourceLines.of text) line made = .ok fs := by
  obtain ⟨s, hs⟩ := excerpt_ok h
  induction made with
  | nil => exact ⟨[], rfl⟩
  | cons make rest ih =>
      obtain ⟨fs, hfs⟩ := ih
      refine ⟨make s :: fs, ?_⟩
      unfold findings at hfs ⊢
      rw [List.mapM_cons, hfs, hs]
      rfl

/-- Findings about a line are made by the functions handed in, and quote that line. -/
theorem mem_findings {lines : SourceLines} {line : Nat} {made : List (String → Finding)}
    {fs : List Finding} (h : findings lines line made = .ok fs) {f : Finding} (hf : f ∈ fs) :
    ∃ make ∈ made, ∃ excerpt, lines.excerpt line = .ok excerpt ∧ f = make excerpt := by
  obtain ⟨make, hmake, hmk⟩ := mem_of_mapM_ok h hf
  cases hexcerpt : lines.excerpt line with
  | error e =>
      rw [hexcerpt] at hmk
      cases hmk
  | ok s =>
      rw [hexcerpt] at hmk
      cases hmk
      exact ⟨make, hmake, s, rfl, rfl⟩

/-- One finding quotes the line once, and fails where there is nothing to quote. -/
theorem findings_one (lines : SourceLines) (line : Nat) (make : String → Finding) :
    findings lines line [make] = (lines.excerpt line).map fun excerpt => [make excerpt] := by
  unfold findings
  rw [List.mapM_cons]
  cases lines.excerpt line <;> rfl

/-! ## §2. One check. -/

/-- The category of what a check finds. -/
def Check.category : Check → Category
  | .sensitive => .sensitiveVariable
  | .sql => .sqlInjection
  | .pages => .crossSiteScripting
  | .encryption => .encryption
  | .token => .missingToken
  | .authorization => .missingAuthorization
  | .endpoints => .missingValidation

/-- A finding is of a category and recommends something. -/
structure Finding.Advises (f : Finding) (c : Category) : Prop where
  category : f.category = c
  recommended : f.recommendation.isSome = true

/-- Whether the texts of a finding are whole. -/
def Finding.isWhole (f : Finding) : Bool :=
  f.message.isWhole && f.recommendation.all (·.isWhole)

/-- A finding is of the category of a check, recommends something, and is whole. -/
structure Finding.MadeBy (f : Finding) (c : Check) : Prop extends f.Advises c.category where
  whole : f.isWhole = true

/-- The plain names that a node assigns to. -/
def assignedNames : Node → List String
  | .assign _ targets _ => targets.filterMap Node.plainName?
  | _ => []

/-- Whether a name in small letters speaks of a key that should not be seen. -/
def exposesKey (name : String) : Bool :=
  Text.occursIn "api_key".toList name.toList || Text.occursIn "access_token".toList name.toList

/-- A check reports a finding about a node, quoting a line.  Only the check of
variables gives a closer description, and that for some names. -/
structure Check.Reports (c : Check) (n : Node) (excerpt : String) (f : Finding) : Prop where
  made : f.MadeBy c
  line : f.line = some n.line
  excerpt : f.excerpt = some excerpt
  named : c = .sensitive → ∃ id ∈ assignedNames n,
    f.message = .whole ("Variable sensible détectée: '" ++ Text.lower id ++ "'") ∧
      f.subtype.isSome = exposesKey (Text.lower id)
  plain : c ≠ .sensitive → f.subtype = none

/-- What a check other than that of variables writes about a node. -/
theorem reports_onLine {c : Check} (hc : c ≠ .sensitive) (n : Node)
    (excerpt message recommendation : String) :
    c.Reports n excerpt (.onLine c.category n.line excerpt message recommendation) :=
  ⟨⟨⟨rfl, rfl⟩, rfl⟩, rfl, rfl, fun h => absurd h hc, fun _ => rfl⟩

/-- A finding about each of several things is reported if it is about each of them. -/
theorem reports_map {α : Type} {c : Check} {n : Node} {make : α → String → Finding} {xs : List α}
    (h : ∀ x ∈ xs, ∀ excerpt, c.Reports n excerpt (make x excerpt)) :
    ∀ m ∈ xs.map make, ∀ excerpt, c.Reports n excerpt (m excerpt) := by
  intro m hm excerpt
  obtain ⟨x, hx, rfl⟩ := List.mem_map.mp hm
  exact h x hx excerpt

/-- A variable is reported with its name in small letters. -/
theorem reports_sensitive {line place : Nat} {targets : List Node} {value : Node} {id : String}
    (hid : Node.ident place id ∈ targets) (excerpt : String) :
    Check.sensitive.Reports (.assign line targets value) excerpt
      (sensitiveFinding line (Text.lower id) excerpt) := by
  refine ⟨⟨⟨rfl, rfl⟩, rfl⟩, rfl, rfl, fun _ => ?_, fun h => absurd rfl h⟩
  refine ⟨id, List.mem_filterMap.mpr ⟨_, hid, rfl⟩, rfl, ?_⟩
  -- The description is there exactly when one of the two words is.
  have hsubtype : (sensitiveFinding line (Text.lower id) excerpt).subtype
      = if exposesKey (Text.lower id) then some "Exposition de clé API" else none := by
    unfold sensitiveFinding exposesKey
    rfl
  rw [hsubtype]
  cases exposesKey (Text.lower id) <;> rfl

/-- Whatever is found of a branch says one and the same about it. -/
theorem eq_of_mem_firstAccess {branch : Node} {nodes : List Node} {make : String → Finding}
    (h : make ∈ firstAccess branch nodes) : make = unauthorizedFinding branch.line := by
  induction nodes with
  | nil => cases h
  | cons n rest ih =>
      unfold firstAccess at h
      split at h
      · split at h
        · cases h
        · exact List.mem_singleton.mp h
      · exact ih h

/-- **What a check can do:** nothing, or list findings of its category about a node
with a line, and quote that line and no other. -/
theorem run_eq (c : Check) (k : Keywords) (lines : SourceLines) (n : Node) :
    c.run k lines n = .ok [] ∨
      n.lineless = false ∧ ∃ made, c.run k lines n = findings lines n.line made ∧
        ∀ make ∈ made, ∀ excerpt, c.Reports n excerpt (make excerpt) := by
  have hone : ∀ {make : String → Finding}, (∀ excerpt, c.Reports n excerpt (make excerpt)) →
      ∀ m ∈ [make], ∀ excerpt, c.Reports n excerpt (m excerpt) := by
    intro make hmake m hm excerpt
    rw [List.mem_singleton] at hm
    subst hm
    exact hmake excerpt
  -- Each check has one kind of node that it looks at, and lists there what it suspects.
  cases c with
  | sensitive =>
      simp only [Check.run, checkSensitive]
      split
      · refine .inr ⟨rfl, _, rfl, reports_map fun name hname => ?_⟩
        obtain ⟨target, htarget, hlower⟩ := List.mem_filterMap.mp (List.mem_of_mem_filter hname)
        split at hlower
        · cases hlower
          exact reports_sensitive htarget
        · cases hlower
      · exact .inl rfl
  | sql =>
      simp only [Check.run, checkSql]
      split
      · refine .inr ⟨rfl, _, rfl, reports_map fun _ _ excerpt => ?_⟩
        exact reports_onLine (by decide) _ excerpt _ _
      · exact .inl rfl
  | pages =>
      simp only [Check.run, checkPages]
      split
      · refine .inr ⟨rfl, _, rfl, reports_map fun _ _ excerpt => ?_⟩
        exact reports_onLine (by decide) _ excerpt _ _
      · exact .inl rfl
  | encryption =>
      simp only [Check.run, checkEncryption]
      split
      · refine .inr ⟨rfl, _, rfl, ?_⟩
        split
        · exact hone fun excerpt => reports_onLine (by decide) _ excerpt _ _
        · exact fun make hmake => nomatch hmake
      · exact .inl rfl
  | token =>
      simp only [Check.run, checkToken]
      split
      · refine .inr ⟨rfl, _, rfl, ?_⟩
        split
        · exact hone fun excerpt => reports_onLine (by decide) _ excerpt _ _
        · exact fun make hmake => nomatch hmake
      · exact .inl rfl
  | authorization =>
      simp only [Check.run, checkAuthorization]
      split
      · refine .inr ⟨rfl, _, rfl, ?_⟩
        split
        · exact fun make hmake => nomatch hmake
        · intro make hmake excerpt
          rw [eq_of_mem_firstAccess hmake]
          exact reports_onLine (by decide) _ excerpt _ _
      · exact .inl rfl
  | endpoints =>
      simp only [Check.run, checkEndpoints]
      split
      · refine .inr ⟨rfl, _, rfl, ?_⟩
        split
        · exact fun make hmake => nomatch hmake
        · intro make hmake
          obtain ⟨verb, -, hmake⟩ := List.mem_flatMap.mp hmake
          refine reports_map (fun _ _ excerpt => ?_) make hmake
          exact reports_onLine (by decide) _ excerpt _ _
      · exact .inl rfl

/-- **A check never fails on a node whose line is in the text.** -/
theorem run_ok (c : Check) (k : Keywords) {text : List Char} {n : Node}
    (h : n.lineless = true ∨ LineOf text n.line) :
    ∃ fs, c.run k (SourceLines.of text) n = .ok fs := by
  rcases run_eq c k (SourceLines.of text) n with hnone | ⟨hlined, made, hmade, -⟩
  · exact ⟨[], hnone⟩
  · have hline : LineOf text n.line := by
      rcases h with h | h
      · rw [hlined] at h
        cases h
      · exact h
    rw [hmade]
    exact findings_ok hline made

/-- **What a check finds at a node it reports about that node**, quoting its line. -/
theorem reports_run (c : Check) {k : Keywords} {lines : SourceLines} {n : Node} {fs : List Finding}
    (h : c.run k lines n = .ok fs) {f : Finding} (hf : f ∈ fs) :
    n.lineless = false ∧ ∃ excerpt, lines.excerpt n.line = .ok excerpt ∧ c.Reports n excerpt f := by
  rcases run_eq c k lines n with hnone | ⟨hlined, made, hmade, hreports⟩
  · rw [hnone] at h
    cases h
    cases hf
  · rw [hmade] at h
    obtain ⟨make, hmake, excerpt, hexcerpt, rfl⟩ := mem_findings h hf
    exact ⟨hlined, excerpt, hexcerpt, hreports make hmake excerpt⟩

/-- **A check makes whole findings of its category, and each recommends something.** -/
theorem madeBy_run (c : Check) {k : Keywords} {lines : SourceLines} {n : Node} {fs : List Finding}
    (h : c.run k lines n = .ok fs) : ∀ f ∈ fs, f.MadeBy c := by
  intro f hf
  obtain ⟨-, excerpt, -, hreports⟩ := reports_run c h hf
  exact hreports.made

/-- No check finds a failure. -/
theorem category_ne_failure (c : Check) : c.category ≠ .failure := by
  cases c <;> decide

end CodeAudit.Audit
