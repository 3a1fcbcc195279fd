/-
  CodeAudit.Proofs.Suite.Accepted
  ───────────────────────────────
  **A TEST SUITE IS A MODULE.**

  The tokens of the rows of a suite are taken by the grammar, statement by
  statement: one import at the head, one function for each test, and one
  function with a decorator for all routes.

    • `Spells` — tokens that stand one behind the other,
    • `Stands` — a statement stands at a token, and other tokens behind it,
    • `stands_test`, `stands_routes` — the two kinds of tests.

  A suite can be read if all names that it takes over can be written as they
  are.  A route whose name holds a quote cannot: the suite takes it over as it
  is, and is no module.
-/
import CodeAudit.Proofs.Source.Taken.Statements
import CodeAudit.Proofs.Suite.Rows

namespace CodeAudit.Audit

open CodeAudit.Data CodeAudit.Source CodeAudit.Source.Token CodeAudit.Source.Grammar
open CodeAudit.Text (Wording compatible)

variable {ts : Tokens} {N i j k : Nat} {xs ys : List (Kind × String)}

/-! ## §1. Tokens one behind the other. -/

/-- Tokens stand one behind the other. -/
def Spells (ts : Tokens) : Nat → List (Kind × String) → Prop
  | _, [] => True
  | i, x :: xs => Shows ts i x ∧ Spells ts (i + 1) xs

theorem spells_of_shows (h : ∀ k x, xs[k]? = some x → Shows ts (i + k) x) : Spells ts i xs := by
  induction xs generalizing i with
  | nil => trivial
  | cons x xs ih =>
      refine ⟨h 0 x rfl, ih fun k y hy => ?_⟩
      rw [Nat.add_assoc, Nat.add_comm 1 k]
      exact h (k + 1) y hy

/-- The tokens of a text stand one behind the other. -/
theorem spells_all (ts : Tokens) :
    Spells ts 0 (ts.all.toList.map fun t => (t.kind, t.text)) := by
  refine spells_of_shows fun k x hx => ?_
  rw [List.getElem?_map, Option.map_eq_some_iff] at hx
  obtain ⟨t, ht, rfl⟩ := hx
  exact ⟨t, by rwa [Nat.zero_add, ← Array.getElem?_toList], rfl, rfl⟩

/-- A statement stands at a token, and other tokens behind it. -/
def Stands (ts : Tokens) (N i : Nat) (ys : List (Kind × String)) : Prop :=
  ∃ j, i < j ∧ Statement ts N i j ∧ Spells ts j ys

/-! ## §2. Names and calls. -/

/-- A dotted name. -/
theorem dotted_of_spells {parts : List String} (hne : parts ≠ [])
    (h : Spells ts i ((dottedPieces parts).flatMap Piece.lexemes ++ ys)) :
    ∃ j, Dotted ts i j ∧ Spells ts j ys := by
  fun_induction dottedPieces parts generalizing i with
  | case1 => exact absurd rfl hne
  | case2 w => exact ⟨i + 1, .one h.1, h.2⟩
  | case3 w parts hparts ih =>
      obtain ⟨hname, hpoint, hrest⟩ := h
      obtain ⟨j, hdotted, hrest⟩ := ih (fun hnil => hparts hnil) hrest
      exact ⟨j, .more hname hpoint hdotted, hrest⟩

/-- An atom alone is an expression where it ends. -/
theorem expression_of_atom {x z : Kind × String} (hx : Shows ts i x) (hbegins : begins x = true)
    (hatom : Atom ts 1 i (i + 1)) (hz : Shows ts (i + 1) z) (hends : ends z = true) :
    Expression ts 14 i (i + 1) := by
  have hoperand : endsOperand z = true := endsOperand_of_ends hends
  have h : Operand ts 10 i (i + 1) := .of_atom hx hbegins hz (ne_of_test hends (by decide)) hatom
    (.done hz hoperand) hz hoperand (Nat.lt_succ_self i)
  exact h.alone hz hends

/-- Ones with commas between them, up to a bracket. -/
theorem listed_of_spells {n : Nat}
    (h : Spells ts i ((onePieces (n + 1)).flatMap Piece.lexemes ++ (.fixed, ")") :: ys)) :
    ∃ j, Listed ts 14 i j ∧ Spells ts j ((.fixed, ")") :: ys) := by
  induction n generalizing i with
  | zero =>
      obtain ⟨hone, hclose, hrest⟩ := h
      refine ⟨i + 1, .one ?_ fun K => hclose.misses_word (by decide), hclose, hrest⟩
      exact expression_of_atom hone rfl (.number hone (by decide)) hclose rfl
  | succ n ih =>
      obtain ⟨hone, hcomma, hrest⟩ := h
      obtain ⟨j, hlisted, hrest⟩ := ih hrest
      refine ⟨j, .more ?_ hcomma hlisted, hrest⟩
      exact expression_of_atom hone rfl (.number hone (by decide)) hcomma rfl

/-- A call with so many ones. -/
theorem call_of_spells {n : Nat} (h : Spells ts i
    ((.fixed, "(") :: ((onePieces n).flatMap Piece.lexemes ++ (.fixed, ")") :: ys))) :
    ∃ j, Call ts 17 i j ∧ Spells ts (j + 1) ys := by
  obtain ⟨hopen, hrest⟩ := h
  cases n with
  | zero =>
      obtain ⟨hclose, hrest⟩ := hrest
      exact ⟨i + 1, (Call.empty hopen hclose).mono (by omega), hrest⟩
  | succ n =>
      obtain ⟨j, hlisted, hclose, hrest⟩ := listed_of_spells hrest
      exact ⟨j, .of_listed hopen hlisted hclose, hrest⟩

/-! ## §3. Lines of tests. -/

/-- `from`, a dotted name, `import` and a name. -/
theorem stands_from {parts : List String} (hne : parts ≠ []) {text : String}
    (h : Spells ts i ((.fixed, "from") :: ((dottedPieces parts).flatMap Piece.lexemes
      ++ (.fixed, "import") :: (.name, text) :: (.newline, "") :: ys))) : Stands ts 1 i ys := by
  obtain ⟨hfrom, hrest⟩ := h
  obtain ⟨j, hsource, himport, hname, hend, hrest⟩ := dotted_of_spells hne hrest
  have hlt : i + 1 < j := hsource.lt
  exact ⟨j + 3, by omega, .simple hfrom (by decide) (settles_from hfrom hsource himport hname hend)
    hend, hrest⟩

/-- A name is assigned what a function gives for so many ones. -/
theorem stands_result {target function : String} (htarget : target ≠ "match") {n : Nat}
    (h : Spells ts i ((.name, target) :: (.fixed, "=") :: (.name, function) :: (.fixed, "(")
      :: ((onePieces n).flatMap Piece.lexemes ++ (.fixed, ")") :: (.newline, "") :: ys))) :
    Stands ts 35 i ys := by
  obtain ⟨hname, hequals, hfunction, hrest⟩ := h
  obtain ⟨j, hcall, hend, hrest⟩ := call_of_spells hrest
  have hlt := hcall.lt
  have htrails : Trails ts 17 (i + 3) (j + 1) :=
    .call hcall (.mono (.done hend rfl) (by omega))
  -- The call is read twice: as a value, and as a target that it turns out not to be.
  have hvalue : Operand ts 26 (i + 2) (j + 1) := .of_atom hfunction rfl hcall.opened (by decide)
    (.name hfunction) htrails hend rfl (by omega)
  have hstatement := settles_assign hname hequals hfunction
    (fun K => (hcall.opened.takes_oneOf (by decide)).ahead) hcall.opened (by decide)
    ((TargetTrails.last hcall hend rfl).mono (by omega)) hcall.opened (hvalue.alone hend rfl) hend
  refine ⟨j + 2, by omega, .simple hname ?_ hstatement hend, hrest⟩
  simp [startsCompound, htarget]

/-- A name is asserted not to be `None`. -/
theorem stands_notNone {text : String} (h : Spells ts i ((.fixed, "assert") :: (.name, text)
    :: (.fixed, "is") :: (.fixed, "not") :: (.fixed, "None") :: (.newline, "") :: ys)) :
    Stands ts 15 i ys := by
  obtain ⟨hassert, hname, his, hnot, hnone, hend, hrest⟩ := h
  have hleft : Operand ts 10 (i + 1) (i + 2) := .of_atom hname rfl his (by decide) (.name hname)
    (.done his rfl) his rfl (by omega)
  have hright : Operand ts 10 (i + 4) (i + 5) := .of_atom hnone rfl hend (by decide) (.none hnone)
    (.done hend rfl) hend rfl (by omega)
  have htest : Expression ts 14 (i + 1) (i + 5) :=
    hleft.compared (fun K => takes_isNot his hnot) (by omega) hright hend rfl
  exact ⟨i + 6, by omega, .simple hassert (by decide) (settles_assert hassert htest hend) hend,
    hrest⟩

/-- A name is assigned what a client gets from a route. -/
theorem stands_response {target client get reverse : String} (htarget : target ≠ "match")
    {route : String} (hroute : (Piece.literal route).proper = true)
    (h : Spells ts i ((.name, target) :: (.fixed, "=") :: (.name, client) :: (.fixed, ".")
      :: (.name, get) :: (.fixed, "(") :: (.name, reverse) :: (.fixed, "(")
      :: (.literal, String.ofList (quotedChars route.toList)) :: (.fixed, ")") :: (.fixed, ")")
      :: (.newline, "") :: ys)) : Stands ts 51 i ys := by
  obtain ⟨hname, hequals, hclient, hpoint, hget, hopen, hreverse, hopen', hliteral, hclose',
    hclose, hend, hrest⟩ := h
  obtain ⟨hne, hbody⟩ := plain_of_proper hroute
  -- The inner call, with the literal.
  have hliterals : Settles ts 1 .literals (i + 8) (some (i + 9)) :=
    settles_literals hliteral hclose' (by decide) fun compile here first t ht =>
      Literal.node_quotedChars hne hbody compile here first t ht
  have hinner : Call ts 17 (i + 7) (i + 9) := .of_listed hopen'
    (.one (expression_of_atom hliteral rfl (.literal hliteral hliterals) hclose' rfl)
      fun K => hclose'.misses_word (by decide)) hclose'
  have hargument : Operand ts 26 (i + 6) (i + 10) := .of_atom hreverse rfl hopen' (by decide)
    (.name hreverse) (.call hinner (.mono (.done hclose rfl) (by omega))) hclose rfl (by omega)
  -- The outer call.
  have houter : Call ts 33 (i + 5) (i + 10) := .of_listed hopen
    (.one (hargument.alone hclose rfl) fun K => hclose.misses_word (by decide)) hclose
  have htrails : Trails ts 33 (i + 3) (i + 11) :=
    .attr hpoint hget (.call houter (.mono (.done hend rfl) (by omega)))
  have hvalue : Operand ts 42 (i + 2) (i + 11) := .of_atom hclient rfl hpoint (by decide)
    (.name hclient) htrails hend rfl (by omega)
  have hfront : TargetTrails ts 33 (i + 3) (i + 5) :=
    .attr hpoint hget hopen (.last houter hend rfl)
  have hstatement := settles_assign hname hequals hclient
    (fun K => (hpoint.takes_oneOf (by decide)).ahead) hpoint (by decide) (hfront.mono (by omega))
    hopen (hvalue.alone hend rfl) hend
  refine ⟨i + 12, by omega, .simple hname ?_ hstatement hend, hrest⟩
  simp [startsCompound, htarget]

/-- An attribute is asserted to be one of two numbers. -/
theorem stands_status {owner attr : String} {first second : String}
    (hfirst : tooLong first = false) (hsecond : tooLong second = false)
    (h : Spells ts i ((.fixed, "assert") :: (.name, owner) :: (.fixed, ".") :: (.name, attr)
      :: (.fixed, "in") :: (.fixed, "[") :: (.number, first) :: (.fixed, ",") :: (.number, second)
      :: (.fixed, "]") :: (.newline, "") :: ys)) : Stands ts 31 i ys := by
  obtain ⟨hassert, howner, hpoint, hattr, hin, hopen, hone, hcomma, htwo, hclose, hend, hrest⟩ := h
  have hleft : Operand ts 10 (i + 1) (i + 4) := .of_atom howner rfl hpoint (by decide)
    (.name howner) (.attr hpoint hattr (.done hin rfl)) hin rfl (by omega)
  have hlisted : Listed ts 14 (i + 6) (i + 9) :=
    .more (expression_of_atom hone rfl (.number hone hfirst) hcomma rfl) hcomma
      (.one (expression_of_atom htwo rfl (.number htwo hsecond) hclose rfl)
        fun K => hclose.misses_word (by decide))
  have hright : Operand ts 26 (i + 5) (i + 10) := .of_atom hopen rfl hone nofun
    (.list hopen (settles_listDisplay hopen hlisted hclose)) (.mono (.done hend rfl) (by omega))
    hend rfl (by omega)
  have htest : Expression ts 30 (i + 1) (i + 10) :=
    Operand.compared (hleft.mono (by decide)) (fun K => takes_in hin) (by omega) hright hend rfl
  exact ⟨i + 11, by omega, .simple hassert (by decide) (settles_assert hassert htest hend) hend,
    hrest⟩

/-! ## §4. Tests. -/

theorem Stands.mono {M : Nat} (h : Stands ts N i ys) (hM : N ≤ M) : Stands ts M i ys := by
  obtain ⟨j, hlt, hstatement, hrest⟩ := h
  exact ⟨j, hlt, hstatement.mono hM, hrest⟩

/-- The tokens of the test of a function, up to the end of its block. -/
theorem written_testRows (source : String) (t : Tested) (rows : List Row) :
    written false (testRows source t ++ rows)
      = (.fixed, "def") :: (.name, compatible ("test_" ++ t.name)) :: (.fixed, "(") :: (.fixed, ")")
        :: (.fixed, ":") :: (.newline, "") :: (.indent, "")
        :: (.fixed, "from") :: ((dottedPieces (dottedParts source)).flatMap Piece.lexemes
        ++ (.fixed, "import") :: (.name, compatible t.name) :: (.newline, "")
        :: (.name, compatible "result") :: (.fixed, "=") :: (.name, compatible t.name)
        :: (.fixed, "(") :: ((onePieces t.arguments).flatMap Piece.lexemes
        ++ (.fixed, ")") :: (.newline, "")
        :: (.fixed, "assert") :: (.name, compatible "result") :: (.fixed, "is") :: (.fixed, "not")
        :: (.fixed, "None") :: (.newline, "") :: written true rows)) := by
  simp [testRows, written, Row.lexemes, Row.levelAfter, marks, Piece.lexemes]

/-- **The test of a function.** -/
theorem stands_test {source : String} {t : Tested} {rows rows' : List Row}
    (hdedent : written true rows = (.dedent, "") :: written false rows')
    (h : Spells ts i (written false (testRows source t ++ rows))) :
    Stands ts 62 i (written false rows') := by
  have hresult : compatible "result" ≠ "match" := by decide
  rw [written_testRows, hdedent] at h
  obtain ⟨hdef, hname, hopen, hclose, hcolon, hline, hindent, hrest⟩ := h
  -- Each statement of the block leaves the tokens of the next one.
  obtain ⟨j, hj, hfrom, hrest⟩ := (stands_from (dottedParts_ne_nil source) hrest).mono (M := 60) (by omega)
  obtain ⟨k, hk, hcall, hrest⟩ := (stands_result hresult hrest).mono (M := 60) (by omega)
  obtain ⟨l, hl, hassert, hend, hrest⟩ := (stands_notNone hrest).mono (M := 60) (by omega)
  have hhead : Head ts i (i + 3) :=
    ⟨hdef, ⟨_, hname⟩, hopen, fun K g => takes_noParameters hclose, hclose, hcolon⟩
  have hblock : Settles ts 62 .block (i + 5) (some (l + 1)) := settles_block hline hindent hfrom
    (.cons hcall hk (.cons hassert hl (.nil hend (.inl rfl)))) hend
  exact ⟨l + 1, by omega, .function hhead hblock, hrest⟩

/-- The tokens of the rows that call a route. -/
theorem written_callRows (route : String) (rows : List Row) :
    written true (callRows route ++ rows)
      = (.name, compatible "response") :: (.fixed, "=") :: (.name, compatible "client")
        :: (.fixed, ".") :: (.name, compatible "get") :: (.fixed, "(")
        :: (.name, compatible "reverse") :: (.fixed, "(")
        :: (.literal, String.ofList (quotedChars route.toList)) :: (.fixed, ")") :: (.fixed, ")")
        :: (.newline, "")
        :: (.fixed, "assert") :: (.name, compatible "response") :: (.fixed, ".")
        :: (.name, compatible "status_code") :: (.fixed, "in") :: (.fixed, "[") :: (.number, "200")
        :: (.fixed, ",") :: (.number, "302") :: (.fixed, "]") :: (.newline, "")
        :: written true rows := by
  simp [callRows, written, Row.lexemes, Row.levelAfter, marks, Piece.lexemes]

/-- A route is called, and what it gives is looked at. -/
theorem stands_call {route : String} (hroute : (Piece.literal route).proper = true) {rows : List Row}
    (h : Spells ts i (written true (callRows route ++ rows))) :
    ∃ j k, i < j ∧ Statement ts 60 i j ∧ j < k ∧ Statement ts 60 j k ∧
      Spells ts k (written true rows) := by
  have hresponse : compatible "response" ≠ "match" := by decide
  rw [written_callRows] at h
  obtain ⟨j, hj, hcall, hrest⟩ := (stands_response hresponse hroute h).mono (M := 60) (by omega)
  obtain ⟨k, hk, hassert, hrest⟩ :=
    (stands_status (by decide) (by decide) hrest).mono (M := 60) (by omega)
  exact ⟨j, k, hj, hcall, hk, hassert, hrest⟩

/-- Routes are called one after the other, up to the end of the block. -/
theorem statements_calls {routes : List String}
    (hroutes : ∀ r ∈ routes, (Piece.literal r).proper = true)
    (h : Spells ts i (written true (routes.flatMap callRows ++ [.empty]))) :
    ∃ k, i ≤ k ∧ Statements ts 60 i k ∧ Spells ts k [(.dedent, ""), (.finish, "")] := by
  induction routes generalizing i with
  | nil => exact ⟨i, Nat.le_refl i, .nil h.1 (.inl rfl), h⟩
  | cons route routes ih =>
      rw [List.flatMap_cons, List.append_assoc] at h
      obtain ⟨j, k, hj, hcall, hk, hassert, hrest⟩ :=
        stands_call (hroutes route List.mem_cons_self) h
      obtain ⟨l, hl, hmore, hrest⟩ := ih (fun r hr => hroutes r (List.mem_cons_of_mem _ hr)) hrest
      exact ⟨l, by omega, .cons hcall hj (.cons hassert hk hmore), hrest⟩

/-- The tokens before the calls of routes. -/
theorem written_routeHeadRows (route : String) (rows : List Row) :
    written false (routeHeadRows ++ (callRows route ++ rows))
      = (.fixed, "from") :: ((dottedPieces ["django", "urls"]).flatMap Piece.lexemes
        ++ (.fixed, "import") :: (.name, compatible "reverse") :: (.newline, "")
        :: (.fixed, "@") :: (.name, compatible "pytest") :: (.fixed, ".")
        :: (.name, compatible "mark") :: (.fixed, ".") :: (.name, compatible "django_db")
        :: (.newline, "")
        :: (.fixed, "def") :: (.name, compatible "test_django_views") :: (.fixed, "(")
        :: (.name, compatible "client") :: (.fixed, ")") :: (.fixed, ":") :: (.newline, "")
        :: (.indent, "") :: written true (callRows route ++ rows)) := by
  simp [routeHeadRows, callRows, dottedPieces, written, Row.lexemes, Row.levelAfter, marks,
    Piece.lexemes]

/-- **The test of routes**, and the end of the text. -/
theorem statements_routes {routes : List String}
    (hroutes : ∀ r ∈ routes, (Piece.literal r).proper = true)
    (h : Spells ts i (written false (routeRows routes))) :
    ∃ k, Statements ts 62 i k ∧ Shows ts k (.finish, "") := by
  cases routes with
  | nil => exact ⟨i, .nil h.1 (.inr rfl), h.1⟩
  | cons route routes =>
      have hrows : routeRows (route :: routes)
          = routeHeadRows ++ (callRows route ++ (routes.flatMap callRows ++ [.empty])) := by
        rw [← List.append_assoc (callRows route)]
        rfl
      rw [hrows, written_routeHeadRows] at h
      obtain ⟨j, hj, himport, hsign, hpytest, hpoint, hmark, hpoint', hmarker, hline, hdef, hname,
        hopen, hclient, hclose, hcolon, hline', hindent, hrest⟩ :=
        stands_from (List.cons_ne_nil _ _) h
      obtain ⟨k, l, hk, hcall, hl, hassert, hrest⟩ :=
        stands_call (hroutes route List.mem_cons_self) hrest
      obtain ⟨m, hm, hmore, hdedent, hfinish, -⟩ :=
        statements_calls (fun r hr => hroutes r (List.mem_cons_of_mem _ hr)) hrest
      -- The decorator, the head and the block of the function.
      have hdecorator : Operand ts 10 (j + 1) (j + 6) := .of_atom hpytest rfl hpoint (by decide)
        (.name hpytest) (.attr hpoint hmark (.attr hpoint' hmarker (.done hline rfl))) hline rfl
        (by omega)
      have hexpression : Expression ts 61 (j + 1) (j + 6) :=
        Stretch.mono (hdecorator.alone hline rfl) (by decide)
      have hhead : Head ts (j + 7) (j + 11) := ⟨hdef, ⟨_, hname⟩, hopen,
        fun K g => takes_oneParameter hclient hclose, hclose, hcolon⟩
      have hblock : Settles ts 62 .block (j + 13) (some (m + 1)) :=
        settles_block hline' hindent hcall (.cons hassert hl hmore) hdedent
      exact ⟨m + 1, .cons (himport.mono (by omega)) hj (.cons
        (.decorated hsign hexpression hline hhead hblock) (by omega) (.nil hfinish (.inr rfl))),
        hfinish⟩

/-! ## §5. Suites. -/

/-- Behind a test the next one begins on the outer level. -/
theorem written_dedent (functions : List (String × Tested)) (routes : List String) :
    written true (functions.flatMap (fun f => testRows f.1 f.2) ++ routeRows routes)
      = (.dedent, "") :: written false (functions.flatMap (fun f => testRows f.1 f.2)
        ++ routeRows routes) := by
  cases functions with
  | cons f functions => rfl
  | nil => cases routes <;> rfl

/-- **The tests of a suite, one after the other.** -/
theorem statements_tests (functions : List (String × Tested)) {routes : List String}
    (hroutes : ∀ r ∈ routes, (Piece.literal r).proper = true)
    (h : Spells ts i (written false (functions.flatMap (fun f => testRows f.1 f.2)
      ++ routeRows routes))) :
    ∃ k, Statements ts 62 i k ∧ Shows ts k (.finish, "") := by
  -- A test ends with the step of indentation out that the next one brings.
  induction functions generalizing i with
  | nil => exact statements_routes hroutes h
  | cons f functions ih =>
      rw [List.flatMap_cons, List.append_assoc] at h
      obtain ⟨j, hj, htest, hrest⟩ := stands_test (written_dedent functions routes) h
      obtain ⟨k, hmore, hfinish⟩ := ih hrest
      exact ⟨k, .cons htest hj hmore, hfinish⟩

/-- The grammar takes the rows of a suite. -/
theorem takes_suiteRows (functions : List (String × Tested)) {routes : List String}
    (hroutes : ∀ r ∈ routes, (Piece.literal r).proper = true)
    (h : Spells ts 0 (written false (suiteRows functions routes))) {n : Nat} (hn : 63 ≤ n) :
    ∃ k, Takes ts (Grammar.Sound ts) (file (rules n)) 0 k := by
  obtain ⟨himport, hname, hline, hrest⟩ := h
  obtain ⟨k, htests, hfinish⟩ := statements_tests functions hroutes hrest
  have hstatement : Statement ts 62 0 3 := Statement.mono
    (.simple himport (by decide) (settles_import himport hname hline) hline) (by decide)
  exact ⟨k + 1, takes_file hstatement htests hfinish hn⟩

/-- A text that is written in rows is read if the grammar takes the tokens of the rows. -/
theorem parse_rows {rows : List Row} (hproper : ∀ r ∈ rows, r.proper = true) (hne : rows ≠ [])
    (htakes : ∀ ts, Spells ts 0 (written false rows) → ∀ n, 1024 ≤ n →
      ∃ k, Takes ts (Grammar.Sound ts) (file (rules n)) 0 k) :
    ∃ tree, parse (rows.flatMap Row.chars) = .ok tree := by
  have hnull : (rows.flatMap Row.chars).contains '\x00' = false := by
    rw [Bool.eq_false_iff]
    exact fun hmem => (mem_rows hproper (List.contains_iff_mem.mp hmem)).2 rfl
  have hspells := spells_all (scan 1 (rows.flatMap Row.chars))
  rw [scan_rows hproper hne] at hspells
  have hdepth : 1024 ≤ depthFor (rows.flatMap Row.chars).length := by
    unfold depthFor ruleCount
    omega
  obtain ⟨k, hfile⟩ := htakes _ hspells _ hdepth
  obtain ⟨tree, hcomplete⟩ := ok_of_takes hfile
  refine ⟨tree, ?_⟩
  unfold parse
  rw [hnull]
  simp only [Bool.false_eq_true, if_false, hcomplete]

/-- A route has a name of at least one character. -/
theorem ne_nil_of_route? {n : Node} {s : String} (h : route? n = some (.whole s)) :
    s.toList ≠ [] := by
  unfold route? at h
  split at h
  · split at h
    · split at h
      · split at h
        · cases h
        · rename_i hempty
          cases h
          intro hnil
          exact hempty (by rw [String.toList_eq_nil_iff.mp hnil]; rfl)
      · cases h
    · cases h
  · cases h

/-- Routes that can be quoted have whole names. -/
theorem quotable_names {routes : List Wording}
    (h : ∀ r ∈ routes, ∃ s, r = .whole s ∧ isQuotable s = true) :
    ∃ names : List String, routes = names.map .whole ∧ ∀ s ∈ names, isQuotable s = true := by
  induction routes with
  | nil => exact ⟨[], rfl, by simp⟩
  | cons r rest ih =>
      obtain ⟨s, rfl, hs⟩ := h r List.mem_cons_self
      obtain ⟨names, rfl, hnames⟩ := ih fun r hr => h r (List.mem_cons_of_mem _ hr)
      exact ⟨s :: names, rfl, List.forall_mem_cons.mpr ⟨hs, hnames⟩⟩

/-- **A suite is a module**, provided that all names that it takes over can be written as
they are. -/
theorem testSuite_parses (entries : List (String × Entry))
    (hfunctions : ∀ f ∈ testedFunctions (topModules entries), Importable f.1 f.2)
    (hroutes : ∀ r ∈ testedRoutes (topModules entries), ∃ s, r = .whole s ∧ isQuotable s = true) :
    ∃ text tree, testSuite entries = .whole text ∧ parse text.toList = .ok tree := by
  obtain ⟨names, hnames, hquotable⟩ := quotable_names hroutes
  have hliterals : ∀ r ∈ names, (Piece.literal r).proper = true := by
    intro r hr
    have hroute : Wording.whole r ∈ testedRoutes (topModules entries) := by
      rw [hnames]
      exact List.mem_map_of_mem hr
    obtain ⟨m, -, hmem⟩ := List.mem_flatMap.mp hroute
    obtain ⟨n, -, hn⟩ := List.mem_filterMap.mp hmem
    refine Bool.and_eq_true_iff.mpr ⟨?_, hquotable r hr⟩
    simpa using ne_nil_of_route? hn
  obtain ⟨tree, htree⟩ := parse_rows (proper_suiteRows hfunctions hliterals) (List.cons_ne_nil _ _)
    fun ts hspells n hn => takes_suiteRows _ hliterals hspells (by omega)
  exact ⟨_, tree, testSuite_eq hnames, by rw [String.toList_ofList, htree]⟩

/-- A module with a function and a route to it. -/
def indexModule : String × Entry :=
  ("urls.py", .file "def index(a, b): pass\npath('', index, name='index')\n".toUTF8.toList)

theorem testSuite_parses_index :
    (testedFunctions (topModules [indexModule])).map (fun f => (f.1, f.2.name, f.2.arguments))
        = [("urls", "index", 2)] ∧
      testedRoutes (topModules [indexModule]) = [.whole "index"] ∧
      ∃ text tree, testSuite [indexModule] = .whole text ∧ parse text.toList = .ok tree := by
  -- The functions and routes are found once for all hypotheses.
  have hfound : (∀ f ∈ testedFunctions (topModules [indexModule]), Importable f.1 f.2) ∧
      (testedFunctions (topModules [indexModule])).map (fun f => (f.1, f.2.name, f.2.arguments))
        = [("urls", "index", 2)] ∧
      testedRoutes (topModules [indexModule]) = [.whole "index"] := by
    decide +kernel
  obtain ⟨himportable, hfunctions, hroutes⟩ := hfound
  refine ⟨hfunctions, hroutes, testSuite_parses _ himportable ?_⟩
  rw [hroutes]
  exact fun r hr => ⟨"index", List.mem_singleton.mp hr, by decide⟩

/-- Half of a surrogate pair in the name of a route is taken over too. -/
example : (testSuite [("urls.py", .file "path('', v, name='\\ud800')\n".toUTF8.toList)]).isWhole
    = false := by
  decide +kernel

/-- A module whose route has a name with a quote. -/
def quoteModule : String × Entry :=
  ("urls.py", .file "path('', v, name=\"l'accueil\")\n".toUTF8.toList)

/-- **The suite takes over a quote as it is, and is then no module.** -/
theorem testSuite_quote_rejected :
    ∃ text flaw, testSuite [quoteModule] = .whole text ∧ parse text.toList = .error flaw := by
  have hsuite : (testSuite [quoteModule]).isWhole = true ∧
      (parse (testSuite [quoteModule]).shown.toList).toOption.isNone = true := by decide +kernel
  obtain ⟨text, htext⟩ := Wording.isWhole_iff.mp hsuite.1
  have hnone := hsuite.2
  rw [htext] at hnone
  cases hparse : parse text.toList with
  | error flaw => exact ⟨text, flaw, htext, hparse⟩
  | ok tree =>
      rw [show (Wording.whole text).shown = text from rfl, hparse] at hnone
      cases hnone

end CodeAudit.Audit
