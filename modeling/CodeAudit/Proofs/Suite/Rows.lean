/-
  CodeAudit.Proofs.Suite.Rows
  ───────────────────────────
  **A TEST SUITE IS WRITTEN IN ROWS.**

  The text of a suite is the text of its rows (`testSuite_eq`), if the names of
  its routes are whole.  The rows are well made as soon as the names that the
  suite takes over can be written as they are (`proper_suiteRows`): the names
  of functions, the dotted names of modules, and the names of routes between
  plain quotes.
-/
import CodeAudit.Audit.TestSuite
import CodeAudit.Proofs.Source.Written

namespace CodeAudit.Audit

open CodeAudit.Data CodeAudit.Source CodeAudit.Source.Token
open CodeAudit.Text (Wording)

/-! ## §1. Names and arguments. -/

/-- The parts of a dotted name. -/
def dottedParts (source : String) : List String :=
  (Text.cutAt (· == '.') source.toList).map String.ofList

/-- A name that can stand between `from` and `import`. -/
def isDottedName (source : String) : Bool := (dottedParts source).all isIdentifier

/-- Names with points between them. -/
def dottedPieces : List String → List Piece
  | [] => []
  | [w] => [.name w]
  | w :: rest => .name w :: .sign '.' :: dottedPieces rest

/-- So many ones with commas between them. -/
def onePieces : Nat → List Piece
  | 0 => []
  | 1 => [.number "1"]
  | n + 2 => .number "1" :: .sign ',' :: .blank :: onePieces (n + 1)

theorem dottedParts_ne_nil (source : String) : dottedParts source ≠ [] :=
  fun hnil => Text.cutAt_ne_nil _ _ (List.map_eq_nil_iff.mp hnil)

/-- The parts of a dotted name are written as the name. -/
theorem chars_dottedPieces (source : String) :
    (dottedPieces (dottedParts source)).flatMap Piece.chars = source.toList := by
  have hcons : ∀ (w : String) (rest : List String), rest ≠ [] →
      (dottedPieces (w :: rest)).flatMap Piece.chars
        = w.toList ++ '.' :: (dottedPieces rest).flatMap Piece.chars := by
    intro w rest hne
    obtain ⟨v, more, rfl⟩ := List.exists_cons_of_ne_nil hne
    rfl
  have hcut : ∀ cs, (dottedPieces ((Text.cutAt (· == '.') cs).map String.ofList)).flatMap
      Piece.chars = cs := by
    intro cs
    fun_induction Text.cutAt (· == '.') cs with
    | case1 => rfl
    | case2 c rest hc ih =>
        have hne : (Text.cutAt (· == '.') rest).map String.ofList ≠ [] :=
          fun h => Text.cutAt_ne_nil _ _ (List.map_eq_nil_iff.mp h)
        rw [List.map_cons, hcons _ _ hne, ih, eq_of_beq hc]
        rfl
    | case3 c rest hc hnil => exact absurd hnil (Text.cutAt_ne_nil _ _)
    | case4 c rest hc piece pieces hpieces ih =>
        -- The first part grows by a character; it stands alone or before a point.
        rw [hpieces] at ih
        by_cases hne : pieces.map String.ofList = []
        · rw [List.map_eq_nil_iff.mp hne] at ih ⊢
          simpa [dottedPieces, Piece.chars] using ih
        · rw [List.map_cons, hcons _ _ hne, String.toList_ofList] at ih ⊢
          rw [List.cons_append, ih]
  exact hcut source.toList

theorem chars_onePieces (n : Nat) :
    (onePieces n).flatMap Piece.chars = (Text.joinWith ", " (List.replicate n "1")).toList := by
  fun_induction onePieces n with
  | case1 => rfl
  | case2 => rfl
  | case3 n ih =>
      have hjoin : Text.joinWith ", " (List.replicate (n + 2) "1")
          = "1" ++ ", " ++ Text.joinWith ", " (List.replicate (n + 1) "1") := rfl
      rw [hjoin, String.toList_append, String.toList_append, ← ih]
      rfl

/-! ## §2. The rows of a suite. -/

/-- The rows at the head of a suite. -/
def headerRows : List Row :=
  [.remark " Tests générés automatiquement avec pytest",
   .code false [.word "import", .blank, .name "pytest"],
   .empty]

/-- The rows of the test of a function. -/
def testRows (source : String) (t : Tested) : List Row :=
  [.code false [.word "def", .blank, .name ("test_" ++ t.name), .sign '(', .sign ')', .sign ':'],
   .code true (.word "from" :: .blank :: (dottedPieces (dottedParts source)
     ++ [.blank, .word "import", .blank, .name t.name])),
   .code true (.name "result" :: .blank :: .sign '=' :: .blank :: .name t.name :: .sign '('
     :: (onePieces t.arguments ++ [.sign ')'])),
   .code true [.word "assert", .blank, .name "result", .blank, .word "is", .blank, .word "not",
     .blank, .word "None", .blank, .blank, .comment " TODO: adapter cette assertion"],
   .empty]

/-- The rows that call a route. -/
def callRows (route : String) : List Row :=
  [.code true [.name "response", .blank, .sign '=', .blank, .name "client", .sign '.', .name "get",
     .sign '(', .name "reverse", .sign '(', .literal route, .sign ')', .sign ')'],
   .code true [.word "assert", .blank, .name "response", .sign '.', .name "status_code", .blank,
     .word "in", .blank, .sign '[', .number "200", .sign ',', .blank, .number "302", .sign ']',
     .blank, .blank, .comment " 302 si login_required"]]

/-- The rows before the calls of routes. -/
def routeHeadRows : List Row :=
  [.code false [.word "from", .blank, .name "django", .sign '.', .name "urls", .blank,
     .word "import", .blank, .name "reverse"],
   .empty,
   .code false [.sign '@', .name "pytest", .sign '.', .name "mark", .sign '.', .name "django_db"],
   .code false [.word "def", .blank, .name "test_django_views", .sign '(', .name "client",
     .sign ')', .sign ':']]

/-- The rows of the test of routes. -/
def routeRows (routes : List String) : List Row :=
  if routes.isEmpty then [] else routeHeadRows ++ (routes.flatMap callRows ++ [.empty])

/-- The functions to be tested, each with the module that it is imported from. -/
def testedFunctions (modules : List (String × Node)) : List (String × Tested) :=
  modules.flatMap fun m => ((statementsOf m.2).filterMap tested?).map fun t => (moduleName m.1, t)

/-- The routes to be tested. -/
def testedRoutes (modules : List (String × Node)) : List Wording :=
  (modules.filter (·.1 == "urls.py")).flatMap fun m => routes m.2

/-- The rows of a suite. -/
def suiteRows (functions : List (String × Tested)) (routes : List String) : List Row :=
  headerRows ++ (functions.flatMap (fun f => testRows f.1 f.2) ++ routeRows routes)

/-! ## §3. The text of a suite. -/

theorem toList_test (source : String) (t : Tested) :
    (t.test source).toList = (testRows source t).flatMap Row.chars := by
  unfold Tested.test testRows
  simp only [String.toList_append, List.flatMap_cons, List.flatMap_nil, Row.chars, Piece.chars,
    List.flatMap_append, chars_dottedPieces, chars_onePieces, margin]
  simp

theorem signs_callTest (route : String) :
    (Wording.whole "    response = client.get(reverse('" ++ .whole route ++ .whole "'))\n"
      ++ .whole "    assert response.status_code in [200, 302]  # 302 si login_required\n").signs
      = ((callRows route).flatMap Row.chars).map .char := by
  unfold callRows
  simp only [List.flatMap_cons, List.flatMap_nil, Row.chars, Piece.chars, quotedChars, margin]
  simp

theorem signs_routeTest (routes : List String) :
    (routeTest (routes.map .whole)).signs = ((routeRows routes).flatMap Row.chars).map .char := by
  unfold routeTest routeRows
  by_cases hempty : routes.isEmpty = true
  · rw [if_pos hempty, if_pos (by simpa using hempty)]
    rfl
  · rw [if_neg hempty, if_neg (by simpa using hempty)]
    have hhead : (routeHeadRows.flatMap Row.chars).map .char = (Wording.whole
        "from django.urls import reverse\n\n@pytest.mark.django_db\ndef test_django_views(client):\n"
        ).signs := by decide
    have hend : (Row.empty.chars).map .char = (Wording.whole "\n").signs := rfl
    have hcalls : ((routes.flatMap callRows).flatMap Row.chars).map .char
        = (Wording.join ((routes.map .whole).map fun r =>
          .whole "    response = client.get(reverse('" ++ r ++ .whole "'))\n" ++ .whole
            "    assert response.status_code in [200, 302]  # 302 si login_required\n")).signs := by
      rw [Wording.signs_join, List.map_map, List.flatMap_map, List.flatMap_assoc, List.map_flatMap]
      exact List.flatMap_congr fun r _ => (signs_callTest r).symm
    rw [List.flatMap_append, List.flatMap_append, List.map_append, List.map_append,
      List.flatMap_singleton, hcalls, hhead, hend, Wording.signs_append, Wording.signs_append,
      List.append_assoc]

/-- **The text of a suite is the text of its rows**, if the names of its routes are
whole. -/
theorem testSuite_eq {entries : List (String × Entry)} {routes : List String}
    (hroutes : testedRoutes (topModules entries) = routes.map .whole) :
    testSuite entries = .whole (String.ofList ((suiteRows
      (testedFunctions (topModules entries)) routes).flatMap Row.chars)) := by
  have hheader : suiteHeader.toList = headerRows.flatMap Row.chars := by decide
  have hfunctions : (String.join ((topModules entries).map functionTests)).toList
      = ((testedFunctions (topModules entries)).flatMap
        fun f => testRows f.1 f.2).flatMap Row.chars := by
    simp only [String.toList_join, List.flatMap_map, testedFunctions, functionTests, toList_test,
      List.flatMap_assoc]
  have htest : (routeTest (testedRoutes (topModules entries))).signs
      = ((routeRows routes).flatMap Row.chars).map .char := by rw [hroutes, signs_routeTest]
  apply Wording.eq_of_signs
  unfold testSuite suiteRows
  simp only [Wording.signs_append, Wording.signs_whole, String.toList_append, String.toList_ofList,
    List.flatMap_append, List.map_append, hheader, hfunctions, List.append_assoc]
  rw [← htest]
  rfl

/-! ## §4. Rows that are well made. -/

/-- A function and its module can be imported by their names, and the function has a test
under its own. -/
structure Importable (source : String) (t : Tested) : Prop where
  source : isDottedName source = true
  name : isIdentifier t.name = true
  test : isIdentifier ("test_" ++ t.name) = true

instance {source : String} {t : Tested} : Decidable (Importable source t) :=
  decidable_of_iff (isDottedName source = true ∧ isIdentifier t.name = true ∧
    isIdentifier ("test_" ++ t.name) = true)
    ⟨fun h => ⟨h.1, h.2.1, h.2.2⟩, fun h => ⟨h.source, h.name, h.test⟩⟩

/-- Points stand well between names. -/
theorem wellSet_dottedPieces {parts : List String} (hne : parts ≠ []) (opened : List Char)
    (rest : List Piece) :
    wellSet opened (dottedPieces parts ++ .blank :: rest) = wellSet opened (.blank :: rest) := by
  fun_induction dottedPieces parts with
  | case1 => exact absurd rfl hne
  | case2 w => rfl
  | case3 w parts hparts ih =>
      obtain ⟨v, more, rfl⟩ := List.exists_cons_of_ne_nil fun h => hparts h
      have hhead : (dottedPieces (v :: more) ++ .blank :: rest).head? = some (.name v) := by
        cases more <;> rfl
      have hpoint : wellSet opened (.sign '.' :: (dottedPieces (v :: more) ++ .blank :: rest))
          = wellSet opened (dottedPieces (v :: more) ++ .blank :: rest) := by
        rw [wellSet, hhead]
        rfl
      exact hpoint.trans (ih (List.cons_ne_nil v more))

/-- Commas stand well between ones. -/
theorem wellSet_onePieces (n : Nat) (opened : List Char) (rest : List Piece) :
    wellSet opened (onePieces n ++ .sign ')' :: rest) = wellSet opened (.sign ')' :: rest) := by
  fun_induction onePieces n with
  | case1 => rfl
  | case2 => rfl
  | case3 n ih => exact ih

theorem proper_dottedPieces {parts : List String} (h : parts.all isIdentifier = true) :
    (dottedPieces parts).all Piece.proper = true := by
  fun_induction dottedPieces parts with
  | case1 => rfl
  | case2 w => exact h
  | case3 w parts hparts ih =>
      obtain ⟨hw, hrest⟩ := Bool.and_eq_true_iff.mp h
      rw [List.all_cons, List.all_cons, ih hrest]
      exact Bool.and_eq_true_iff.mpr ⟨hw, by decide⟩

theorem proper_onePieces (n : Nat) : (onePieces n).all Piece.proper = true := by
  fun_induction onePieces n with
  | case1 => rfl
  | case2 => decide
  | case3 n ih =>
      rw [List.all_cons, List.all_cons, List.all_cons, ih]
      decide

theorem proper_code {deep : Bool} {ps : List Piece} (hpieces : ps.all Piece.proper = true)
    (hset : wellSet [] ps = true) (hbegins : ps.head?.any Piece.begins = true) :
    (Row.code deep ps).proper = true :=
  Bool.and_eq_true_iff.mpr ⟨Bool.and_eq_true_iff.mpr ⟨hpieces, hset⟩, hbegins⟩

/-- **The rows of a test are well made.** -/
theorem proper_testRows {source : String} {t : Tested} (h : Importable source t) :
    ∀ r ∈ testRows source t, r.proper = true := by
  have hname : (Piece.name t.name).proper = true := h.name
  have htest : (Piece.name ("test_" ++ t.name)).proper = true := h.test
  unfold testRows
  simp only [List.forall_mem_cons, List.not_mem_nil, false_implies, implies_true, and_true]
  refine ⟨proper_code ?_ rfl rfl, proper_code ?_ ?_ rfl, proper_code ?_ ?_ rfl, by decide, rfl⟩
  · simp only [List.all_cons, htest]
    decide
  · simp only [List.all_cons, List.all_append, proper_dottedPieces h.source, hname]
    decide
  · exact wellSet_dottedPieces (dottedParts_ne_nil source) [] _
  · simp only [List.all_cons, List.all_append, proper_onePieces, hname]
    decide
  · exact wellSet_onePieces t.arguments ['('] []

/-- The rows that call a route are well made. -/
theorem proper_callRows {route : String} (h : (Piece.literal route).proper = true) :
    ∀ r ∈ callRows route, r.proper = true := by
  unfold callRows
  simp only [List.forall_mem_cons, List.not_mem_nil, false_implies, implies_true, and_true]
  refine ⟨proper_code ?_ rfl rfl, by decide⟩
  simp only [List.all_cons, h]
  decide

/-- **The rows of a suite are well made.** -/
theorem proper_suiteRows {functions : List (String × Tested)} {routes : List String}
    (hfunctions : ∀ f ∈ functions, Importable f.1 f.2)
    (hroutes : ∀ r ∈ routes, (Piece.literal r).proper = true) :
    ∀ r ∈ suiteRows functions routes, r.proper = true := by
  have hheader : ∀ r ∈ headerRows, r.proper = true := by
    unfold headerRows
    simp only [List.forall_mem_cons, List.not_mem_nil, false_implies, implies_true, and_true]
    decide
  have hhead : ∀ r ∈ routeHeadRows, r.proper = true := by
    unfold routeHeadRows
    simp only [List.forall_mem_cons, List.not_mem_nil, false_implies, implies_true, and_true]
    decide
  intro r hr
  unfold suiteRows routeRows at hr
  rw [List.mem_append, List.mem_append] at hr
  rcases hr with hr | hr | hr
  · exact hheader r hr
  · obtain ⟨f, hf, hr⟩ := List.mem_flatMap.mp hr
    exact proper_testRows (hfunctions f hf) r hr
  · split at hr
    · cases hr
    · rw [List.mem_append, List.mem_append, List.mem_singleton] at hr
      rcases hr with hr | hr | rfl
      · exact hhead r hr
      · obtain ⟨route, hroute, hr⟩ := List.mem_flatMap.mp hr
        exact proper_callRows (hroutes route hroute) r hr
      · rfl

end CodeAudit.Audit
