/-
  CodeAudit.Proofs.Suite.Composition
  ──────────────────────────────────
  **A TEST SUITE IS PUT TOGETHER FROM THE MODULES OF A DIRECTORY.**

  A directory is listed in any order.  Each entry that is a module with a tree
  adds a test of five lines for each of its functions, in the order of the
  source; the module `urls.py` adds a test of its routes at the end, if it
  names any.  The parts are said here without the functions that compute them:
  which entries are modules (`IsModule`), which statements are tested
  (`Defines`), which nodes name a route (`NamesRoute`), and what is gleaned
  from a list.

    • `moduleOf?_eq_some_iff` — an entry has a module when it is one,
    • `route?_eq_some_iff` — of several names the last that is a text counts,
    • `suite_composed` — the text of a suite is that of its parts, and an idle
      entry neither adds to it nor takes from it, wherever it is listed.
-/
import CodeAudit.Proofs.Classes
import Mathlib.Data.List.Forall2

namespace CodeAudit.Audit

open CodeAudit.Data CodeAudit.Source
open CodeAudit.Text (Wording)

/-! ## §1. Directories. -/

/-- A directory as it is listed, in whatever order: entries under distinct names. -/
structure Directory where
  listing : List (String × Entry)
  distinct : (listing.map (·.1)).Nodup

/-! ## §2. The parts of a suite. -/

section

variable {α β : Type}

/-- What items have, in the order of the items; an item may have nothing. -/
inductive Gleaned (R : α → β → Prop) : List α → List β → Prop
  | nil : Gleaned R [] []
  | found {a b as bs} (h : R a b) (rest : Gleaned R as bs) : Gleaned R (a :: as) (b :: bs)
  | nothing {a as bs} (h : ∀ b, ¬ R a b) (rest : Gleaned R as bs) : Gleaned R (a :: as) bs

/-- A function that finds what an item has gleans it from a list. -/
theorem gleaned_filterMap {R : α → β → Prop} {f : α → Option β}
    (hf : ∀ a b, f a = some b ↔ R a b) (as : List α) : Gleaned R as (as.filterMap f) := by
  induction as with
  | nil => exact .nil
  | cons a rest ih =>
      rw [List.filterMap_cons]
      cases ha : f a with
      | none =>
          refine .nothing (fun b hb => ?_) ih
          rw [(hf a b).mpr hb] at ha
          cases ha
      | some b => exact .found ((hf a b).mp ha) ih

end

/-- A name ends as that of a module. -/
def NamedAsModule (name : String) : Prop := ∃ stem, name = stem ++ ".py"

/-- An entry is a module: a file with a text that has a tree. -/
inductive IsModule : String × Entry → String × Node → Prop
  | file {name content text body} (hname : NamedAsModule name) (htext : fileText content = .ok text)
      (htree : parse text = .ok (.module body)) : IsModule (name, .file content) (name, .module body)

/-- An entry without a test: it is called otherwise, or a directory, or has no text or
no tree. -/
inductive Idle : String × Entry → Prop
  | otherwise {name entry} (h : ¬ NamedAsModule name) : Idle (name, entry)
  | directory {name} : Idle (name, .directory)
  | undecoded {name content fault} (h : fileText content = .error fault) : Idle (name, .file content)
  | unparsed {name content text flaw} (htext : fileText content = .ok text)
      (h : parse text = .error flaw) : Idle (name, .file content)

/-- The name by which a module is imported: without its ending, which a name of points
does not have. -/
inductive ImportName : String → String → Prop
  | stem {stem} (h : ∃ c ∈ stem.toList, c ≠ '.') : ImportName (stem ++ ".py") stem
  | points {stem} (h : ∀ c ∈ stem.toList, c = '.') : ImportName (stem ++ ".py") (stem ++ ".py")

/-- A statement defines a function that is tested with so many arguments as it has
regular parameters, `self` not counted. -/
inductive Defines : Node → Tested → Prop
  | function {line endLine name parameters body decorators returns} :
      Defines (.function line endLine false name parameters body decorators returns)
        ⟨name, (regularParameters parameters).countP fun p => parameterName? p != some "self"⟩

/-- What stands before the arguments of a call of `path`. -/
inductive IsPath : Node → Prop
  | plain {line} : IsPath (.ident line "path")
  | attribute {line value} : IsPath (.attr line value "path")

/-- The keyword `name` with a text. -/
def nameText (place : Nat) (w : Wording) : Node := .keyword (some "name") (.constant place (.text w))

/-- A node names a route: it calls `path`, and of its keywords `name` with a text the last
has one that is not empty. -/
inductive NamesRoute : Node → Wording → Prop
  | call {line callee arguments earlier place name later} (hcallee : IsPath callee)
      (hlast : ∀ k ∈ later, ∀ place w, k ≠ nameText place w) (hname : name ≠ .whole "") :
      NamesRoute (.call line callee arguments (earlier ++ nameText place name :: later)) name

/-! ## §3. Lines. -/

/-- Lines, each of them ended. -/
def textOf (lines : List Wording) : Wording := .join (lines.map (· ++ .whole "\n"))

/-- The lines at the head of a suite. -/
def headerLines : List Wording := ["# Tests générés automatiquement avec pytest", "import pytest", ""]

/-- The lines of the test of a function. -/
def testLines (source : String) (t : Tested) : List Wording :=
  ["def test_" ++ t.name ++ "():",
   "    from " ++ source ++ " import " ++ t.name,
   "    result = " ++ t.name ++ "(" ++ Text.joinWith ", " (List.replicate t.arguments "1") ++ ")",
   "    assert result is not None  # TODO: adapter cette assertion",
   ""]

/-- The lines of a module. -/
inductive ModuleLines : String × Node → List Wording → Prop
  | tests {name source body functions} (hsource : ImportName name source)
      (hfunctions : Gleaned Defines body functions) :
      ModuleLines (name, .module body) (functions.flatMap (testLines source))

/-- The lines that call a route. -/
def callLines (route : Wording) : List Wording :=
  ["    response = client.get(reverse('" ++ route ++ "'))",
   "    assert response.status_code in [200, 302]  # 302 si login_required"]

/-- The lines before the calls of routes. -/
def routeHeadLines : List Wording :=
  ["from django.urls import reverse", "", "@pytest.mark.django_db", "def test_django_views(client):"]

/-- The lines of the test of routes. -/
def routeLines (routes : List Wording) : List Wording :=
  routeHeadLines ++ routes.flatMap callLines ++ [.whole ""]

/-- The lines at the end of a suite: a test of routes if and only if `urls.py` is a module
in which a node names one. -/
inductive ClosingLines (modules : List (String × Node)) : List Wording → Prop
  | routes {tree routes} (hurls : ("urls.py", tree) ∈ modules)
      (hroutes : Gleaned NamesRoute tree.walk routes) (hsome : routes ≠ []) :
      ClosingLines modules (routeLines routes)
  | nothing (hnone : ∀ tree, ("urls.py", tree) ∈ modules → ∀ n ∈ tree.walk, ∀ r, ¬ NamesRoute n r) :
      ClosingLines modules []

theorem signs_textOf (lines : List Wording) :
    (textOf lines).signs = lines.flatMap fun l => l.signs ++ [.char '\n'] := by
  unfold textOf
  rw [Wording.signs_join, List.flatMap_map]
  exact List.flatMap_congr fun l _ => Wording.signs_append l _

theorem textOf_append (a b : List Wording) : textOf (a ++ b) = textOf a ++ textOf b := by
  apply Wording.eq_of_signs
  rw [Wording.signs_append, signs_textOf, signs_textOf, signs_textOf, List.flatMap_append]

/-- Texts one after the other are the text of all lines. -/
theorem join_map_textOf {α : Type} (f : α → List Wording) (xs : List α) :
    Wording.join (xs.map fun x => textOf (f x)) = textOf (xs.flatMap f) := by
  induction xs with
  | nil => rfl
  | cons x rest ih =>
      rw [List.flatMap_cons, textOf_append, ← ih]
      rfl

/-- Whole texts are joined as texts are. -/
theorem whole_join (texts : List String) :
    Wording.whole (String.join texts) = .join (texts.map .whole) := by
  apply Wording.eq_of_signs
  rw [Wording.signs_join, Wording.signs_whole, String.toList_join, List.map_flatMap, List.flatMap_map]
  rfl

theorem suiteHeader_eq : .whole suiteHeader = textOf headerLines := by
  decide

theorem test_eq (source : String) (t : Tested) :
    .whole (t.test source) = textOf (testLines source t) := by
  apply Wording.eq_of_signs
  rw [signs_textOf]
  unfold Tested.test testLines
  simp

theorem functionTests_eq (m : String × Node) :
    .whole (functionTests m)
      = textOf (((statementsOf m.2).filterMap tested?).flatMap (testLines (moduleName m.1))) := by
  unfold functionTests
  rw [whole_join, List.map_map, ← join_map_textOf]
  exact congrArg Wording.join (List.map_congr_left fun t _ => test_eq (moduleName m.1) t)

theorem routeTest_eq {routes : List Wording} (h : routes ≠ []) :
    routeTest routes = textOf (routeLines routes) := by
  have hempty : routes.isEmpty = false := by
    rw [List.isEmpty_eq_false_iff]
    exact h
  have hcall : ∀ r, .whole "    response = client.get(reverse('" ++ r ++ .whole "'))\n"
      ++ .whole "    assert response.status_code in [200, 302]  # 302 si login_required\n"
        = textOf (callLines r) := by
    intro r
    apply Wording.eq_of_signs
    rw [signs_textOf]
    simp [callLines]
  unfold routeTest routeLines
  rw [if_neg (by rw [hempty]; decide), textOf_append, textOf_append]
  simp only [hcall, join_map_textOf]
  rfl

/-! ## §4. The modules of a directory. -/

theorem isModuleName_iff (name : String) : isModuleName name = true ↔ NamedAsModule name := by
  unfold isModuleName Text.startsWith
  rw [show "yp.".toList = ".py".toList.reverse by decide, List.isPrefixOf_iff_prefix,
    List.reverse_prefix]
  exact Text.suffix_toList_iff

/-- An entry has a module when it is one. -/
theorem moduleOf?_eq_some_iff (e : String × Entry) (m : String × Node) :
    moduleOf? e = some m ↔ IsModule e m := by
  constructor
  · intro h
    obtain ⟨name, entry⟩ := e
    cases entry with
    | directory => cases h
    | file content =>
        unfold moduleOf? at h
        simp only at h
        split at h
        · rename_i hname
          obtain ⟨tree, htree, rfl⟩ := Option.map_eq_some_iff.mp h
          obtain ⟨text, htext, htree⟩ := readable?_eq_some_iff.mp htree
          obtain ⟨body, rfl⟩ := parse_module (clean_of_fileText htext) htree
          exact .file ((isModuleName_iff name).mp hname) htext htree
        · cases h
  · rintro ⟨hname, htext, htree⟩
    unfold moduleOf?
    simp only
    rw [if_pos ((isModuleName_iff _).mpr hname), readable?_eq_some_iff.mpr ⟨_, htext, htree⟩]
    rfl

/-- An idle entry has none. -/
theorem moduleOf?_of_idle {e : String × Entry} (h : Idle e) : moduleOf? e = none := by
  rw [Option.eq_none_iff_forall_ne_some]
  intro m hm
  have hmodule := (moduleOf?_eq_some_iff e m).mp hm
  cases hmodule with
  | file hname htext htree =>
      cases h with
      | otherwise h => exact h hname
      | undecoded h =>
          rw [htext] at h
          cases h
      | unparsed hother h =>
          rw [htext] at hother
          cases hother
          rw [htree] at h
          cases h

theorem name_of_moduleOf? {e : String × Entry} {m : String × Node} (h : moduleOf? e = some m) :
    m.1 = e.1 := by
  cases (moduleOf?_eq_some_iff e m).mp h with
  | file hname htext htree => rfl

/-- No two modules of a directory have one name. -/
theorem nodup_topModules (d : Directory) : ((topModules d.listing).map (·.1)).Nodup := by
  have hnames : d.listing.Pairwise fun a b => a.1 ≠ b.1 := List.pairwise_map.mp d.distinct
  refine List.pairwise_map.mpr (hnames.filterMap moduleOf? fun a b hne m hm n hn => ?_)
  rw [name_of_moduleOf? hm, name_of_moduleOf? hn]
  exact hne

/-- **An idle entry changes no module**, wherever it is listed. -/
theorem topModules_of_idle {e : String × Entry} (he : Idle e) (before after : List (String × Entry)) :
    topModules (before ++ e :: after) = topModules (before ++ after) := by
  unfold topModules
  rw [List.filterMap_append, List.filterMap_append, List.filterMap_cons_none (moduleOf?_of_idle he)]

/-! ## §5. Tests and routes. -/

/-- A statement is tested when it defines a function. -/
theorem tested?_eq_some_iff (n : Node) (t : Tested) : tested? n = some t ↔ Defines n t := by
  constructor
  · intro h
    unfold tested? at h
    split at h
    · cases h
      rw [← List.countP_eq_length_filter]
      exact .function
    · cases h
  · rintro ⟨⟩
    show some (Tested.mk _ _) = _
    rw [← List.countP_eq_length_filter]

/-- A module is imported by its name without the ending. -/
theorem importName_moduleName {name : String} (h : NamedAsModule name) :
    ImportName name (moduleName name) := by
  obtain ⟨stem, rfl⟩ := h
  have hstem : (stem ++ ".py").toList.take ((stem ++ ".py").length - 3) = stem.toList := by
    rw [String.toList_append, String.length_append, ← String.length_toList]
    exact List.take_left
  unfold moduleName
  simp only [hstem, String.ofList_toList]
  split
  · rename_i hpoints
    exact .points fun c hc => by simpa using List.all_eq_true.mp hpoints c hc
  · rename_i hother
    refine .stem ?_
    simpa using hother

theorem callsPath_iff {line : Nat} {callee : Node} {arguments keywords : List Node} :
    callsPath (.call line callee arguments keywords) = true ↔ IsPath callee := by
  constructor
  · intro h
    unfold callsPath callsName callsAttribute at h
    rw [Bool.or_eq_true] at h
    rcases h with h | h
    · unfold calledName? at h
      split at h
      · rename_i id _ _ heq
        cases heq
        obtain rfl : id = "path" := by simpa using h
        exact .plain
      · cases h
    · unfold calledAttribute? at h
      split at h
      · rename_i name _ _ heq
        cases heq
        obtain rfl : name = "path" := by simpa using h
        exact .attribute
      · cases h
  · rintro (_ | _)
    · rfl
    · rfl

theorem nameKeyword?_eq_some_iff {k : Node} {w : Wording} :
    nameKeyword? k = some w ↔ ∃ place, k = nameText place w := by
  constructor
  · intro h
    unfold nameKeyword? at h
    split at h
    · cases h
      exact ⟨_, rfl⟩
    · cases h
  · rintro ⟨place, rfl⟩
    rfl

theorem lastName_eq_some_iff {keywords : List Node} {w : Wording} :
    (keywords.filterMap nameKeyword?).getLast? = some w ↔
      ∃ earlier place later, keywords = earlier ++ nameText place w :: later ∧
        ∀ k ∈ later, ∀ place w, k ≠ nameText place w := by
  have hno : ∀ k, nameKeyword? k = none ↔ ∀ place w, k ≠ nameText place w := by
    intro k
    rw [Option.eq_none_iff_forall_ne_some]
    constructor
    · intro h place w hk
      exact h w (nameKeyword?_eq_some_iff.mpr ⟨place, hk⟩)
    · intro h w hk
      obtain ⟨place, hk⟩ := nameKeyword?_eq_some_iff.mp hk
      exact h place w hk
  -- The last name is the first one from behind.
  rw [List.getLast?_filterMap, List.findSome?_eq_some_iff]
  constructor
  · rintro ⟨later, k, earlier, hsplit, hk, hlater⟩
    obtain ⟨place, rfl⟩ := nameKeyword?_eq_some_iff.mp hk
    refine ⟨earlier.reverse, place, later.reverse, ?_, ?_⟩
    · rw [← List.reverse_reverse keywords, hsplit]
      simp
    · intro k hk
      exact (hno k).mp (hlater k (List.mem_reverse.mp hk))
  · rintro ⟨earlier, place, later, rfl, hlater⟩
    refine ⟨later.reverse, nameText place w, earlier.reverse, by simp, rfl, ?_⟩
    intro k hk
    exact (hno k).mpr (hlater k (List.mem_reverse.mp hk))

/-- **Of several names the last that is a text counts**, unless it is empty. -/
theorem route?_eq_some_iff (n : Node) (r : Wording) : route? n = some r ↔ NamesRoute n r := by
  constructor
  · intro h
    unfold route? at h
    split at h
    · split at h
      · rename_i hpath
        split at h
        · rename_i hlast
          split at h
          · cases h
          · rename_i hempty
            cases h
            obtain ⟨earlier, place, later, rfl, hlater⟩ := lastName_eq_some_iff.mp hlast
            refine .call (callsPath_iff.mp hpath) hlater ?_
            rintro rfl
            exact hempty rfl
        · cases h
      · cases h
    · cases h
  · rintro (@⟨line, callee, arguments, earlier, place, _, later, hcallee, hlater, hname⟩)
    have hlast : ((earlier ++ nameText place r :: later).filterMap nameKeyword?).getLast? = some r :=
      lastName_eq_some_iff.mpr ⟨earlier, place, later, rfl, hlater⟩
    have hempty : r.isEmpty = false := by
      rw [← Bool.not_eq_true, Wording.isEmpty_iff]
      exact hname
    unfold route?
    simp only [callsPath_iff.mpr hcallee, if_true, hlast, hempty]
    rfl

/-! ## §6. The suite. -/

/-- A suite ends with a test of the routes of `urls.py`. -/
theorem closingLines_of_nodup {modules : List (String × Node)}
    (hnames : (modules.map (·.1)).Nodup) :
    ∃ closing, ClosingLines modules closing ∧
      routeTest ((modules.filter (·.1 == "urls.py")).flatMap fun m => routes m.2)
        = textOf closing := by
  by_cases hall : (modules.filter (·.1 == "urls.py")).flatMap (fun m => routes m.2) = []
  · refine ⟨[], .nothing ?_, ?_⟩
    · -- A route that is named would be among all.
      intro tree htree n hn r hr
      have hmem : r ∈ routes tree := List.mem_filterMap.mpr ⟨n, hn, (route?_eq_some_iff n r).mpr hr⟩
      have hfound : r ∈ (modules.filter (·.1 == "urls.py")).flatMap fun m => routes m.2 :=
        List.mem_flatMap.mpr ⟨("urls.py", tree), List.mem_filter.mpr ⟨htree, rfl⟩, hmem⟩
      rw [hall] at hfound
      cases hfound
    · rw [hall]
      rfl
  · -- The routes are those of one module, for no other is called `urls.py`.
    obtain ⟨r, hr⟩ := List.exists_mem_of_ne_nil _ hall
    obtain ⟨⟨name, tree⟩, hm, -⟩ := List.mem_flatMap.mp hr
    obtain ⟨hurls, hname⟩ := List.mem_filter.mp hm
    obtain rfl : name = "urls.py" := eq_of_beq hname
    rw [filter_key_eq hnames hurls, List.flatMap_singleton] at hall ⊢
    exact ⟨_, .routes hurls (gleaned_filterMap route?_eq_some_iff _) hall, routeTest_eq hall⟩

/-- The lines of each module. -/
theorem moduleLines_of_mem {entries : List (String × Entry)} {m : String × Node}
    (h : m ∈ topModules entries) :
    ModuleLines m (((statementsOf m.2).filterMap tested?).flatMap (testLines (moduleName m.1))) := by
  obtain ⟨e, -, he⟩ := List.mem_filterMap.mp h
  cases (moduleOf?_eq_some_iff e m).mp he with
  | file hname htext htree =>
      exact .tests (importName_moduleName hname) (gleaned_filterMap tested?_eq_some_iff _)

/-- **A suite is put together from the modules of its directory,** in the order in which
the directory is listed, whatever that is, and ends with a test of routes if there are
any.  An entry that is not such a module may come or go at any place of the listing. -/
theorem suite_composed :
    (∀ d : Directory, ∃ modules blocks closing,
      Gleaned IsModule d.listing modules ∧ List.Forall₂ ModuleLines modules blocks ∧
        ClosingLines modules closing ∧
        testSuite d.listing = textOf (headerLines ++ blocks.flatten ++ closing)) ∧
    ∀ (before after : List (String × Entry)) (e : String × Entry), Idle e →
      testSuite (before ++ e :: after) = testSuite (before ++ after) := by
  constructor
  · intro d
    obtain ⟨closing, hclosing, hroutes⟩ := closingLines_of_nodup (nodup_topModules d)
    refine ⟨topModules d.listing, (topModules d.listing).map fun m =>
      ((statementsOf m.2).filterMap tested?).flatMap (testLines (moduleName m.1)), closing,
      gleaned_filterMap moduleOf?_eq_some_iff d.listing, ?_, hclosing, ?_⟩
    · rw [List.forall₂_map_right_iff, List.forall₂_same]
      exact fun m hm => moduleLines_of_mem hm
    · rw [textOf_append, textOf_append, ← hroutes, ← suiteHeader_eq, ← List.flatMap_def,
        ← join_map_textOf]
      simp only [← functionTests_eq]
      rw [← Function.comp_def, ← List.map_map, ← whole_join]
      rfl
  · intro before after e he
    unfold testSuite
    rw [topModules_of_idle he]

/-- A module with a function, and a route with two names that are texts and a last one
that is none. -/
def shopRoutes : String × Entry :=
  ("urls.py", .file "def f(self, a): pass\nu.path(name='old', name='home', name=x)\n".toUTF8.toList)

/-- A module with another function. -/
def shopPrices : String × Entry := ("prices.py", .file "def g(): pass\n".toUTF8.toList)

/-- A directory that is called as a module. -/
def shopParts : String × Entry := ("parts.py", .directory)

/-- The two modules are tested in the order in which they are listed, and the directory
between them is passed by. -/
theorem suite_composed_shop :
    Idle shopParts ∧ testSuite [shopRoutes, shopParts, shopPrices] = textOf (headerLines
      ++ ["def test_f():", "    from urls import f", "    result = f(1)",
        "    assert result is not None  # TODO: adapter cette assertion", "",
        "def test_g():", "    from prices import g", "    result = g()",
        "    assert result is not None  # TODO: adapter cette assertion", ""].map Wording.whole
      ++ routeLines [.whole "home"]) := by
  have hidle : Idle shopParts := .directory
  refine ⟨hidle, ?_⟩
  have hpassed := suite_composed.2 [shopRoutes] [shopPrices] shopParts hidle
  rw [show [shopRoutes, shopParts, shopPrices] = [shopRoutes] ++ shopParts :: [shopPrices] from rfl,
    hpassed]
  decide +kernel

end CodeAudit.Audit
