/-
  CodeAudit.Proofs.Protection
  ───────────────────────────
  **FUNCTIONS OPEN TO FORGED REQUESTS.**

  A function is reported when no decorator protects it and something in it
  changes state.  What lies in a function lies in every function around it,
  so reports spread outwards until a protected function stops them; and the
  decorator that makes a function an endpoint is itself a call in it.

    • `checkToken_eq` — the check makes one finding about a function that is
      exposed, and none about anything else,
    • `Exposed.outwards` — what surrounds an exposed function is exposed,
    • `exposed_of_endpoint` — so is an endpoint that changes state,
    • `token_runAll` — a walk makes one finding for each exposed function.
-/
import CodeAudit.Proofs.Walks

namespace CodeAudit.Audit

open CodeAudit.Data CodeAudit.Source

/-! ## §1. Exposed functions. -/

/-- A function that is not asynchronous, with its decorators. -/
def IsFunction (n : Node) (decorators : List Node) : Prop :=
  ∃ line endLine name parameters body returns,
    n = .function line endLine false name parameters body decorators returns

/-- A decorator that protects: a name, or a call of that name. -/
inductive Protects : Node → Prop
  | name (line : Nat) : Protects (.ident line "csrf_protect")
  | call (line place : Nat) (arguments keywords : List Node) :
      Protects (.call line (.ident place "csrf_protect") arguments keywords)

/-- A call of an attribute that has one of some names. -/
def CallsOneOf (names : List String) (n : Node) : Prop :=
  ∃ line place value name arguments keywords,
    n = .call line (.attr place value name) arguments keywords ∧ name ∈ names

/-- A function without protection, with a call in it that changes state. -/
def Exposed (n : Node) : Prop :=
  ∃ decorators, IsFunction n decorators ∧ (∀ d ∈ decorators, ¬ Protects d) ∧
    ∃ call ∈ n.walk, CallsOneOf ["post", "put", "delete"] call

theorem calledAttribute?_eq_some_iff {n : Node} {name : String} :
    calledAttribute? n = some name ↔ ∃ line place value arguments keywords,
      n = .call line (.attr place value name) arguments keywords := by
  constructor
  · intro h
    unfold calledAttribute? at h
    split at h
    · cases h
      exact ⟨_, _, _, _, _, rfl⟩
    · cases h
  · rintro ⟨line, place, value, arguments, keywords, rfl⟩
    rfl

theorem callsAttribute_iff {names : List String} {n : Node} :
    callsAttribute names n = true ↔ CallsOneOf names n := by
  unfold callsAttribute CallsOneOf
  constructor
  · intro h
    obtain ⟨name, hname, hmem⟩ := Option.any_eq_true _ _ |>.mp h
    obtain ⟨line, place, value, arguments, keywords, rfl⟩ := calledAttribute?_eq_some_iff.mp hname
    exact ⟨line, place, value, name, arguments, keywords, rfl, List.contains_iff_mem.mp hmem⟩
  · rintro ⟨line, place, value, name, arguments, keywords, rfl, hmem⟩
    exact List.contains_iff_mem.mpr hmem

theorem isTokenProtection_iff {d : Node} : isTokenProtection d = true ↔ Protects d := by
  constructor
  · intro h
    unfold isTokenProtection at h
    split at h
    · rw [beq_iff_eq] at h
      subst h
      exact .name _
    · unfold callsName calledName? at h
      split at h
      · rename_i line place id arguments keywords _
        have hid : id = "csrf_protect" := by simpa using h
        subst hid
        exact .call line place arguments keywords
      · cases h
  · rintro (_ | _) <;> rfl

/-! ## §2. The check. -/

/-- The finding about an exposed function. -/
def tokenFinding (n : Node) (excerpt : String) : Finding :=
  .onLine .missingToken n.line excerpt "Point de terminaison modifiant l'état sans protection CSRF"
    "Ajoutez @csrf_protect ou utilisez @require_POST avec csrf_token."

/-- An exposed function is found, and its line is quoted once. -/
theorem checkToken_of_exposed (lines : SourceLines) {n : Node} (h : Exposed n) :
    checkToken lines n = (lines.excerpt n.line).map fun excerpt => [tokenFinding n excerpt] := by
  obtain ⟨decorators, ⟨line, endLine, name, parameters, body, returns, rfl⟩, hplain, call, hcall,
    hchanges⟩ := h
  have hprotected : decorators.any isTokenProtection = false := by
    rw [List.any_eq_false]
    intro d hd hprotects
    exact hplain d hd (isTokenProtection_iff.mp hprotects)
  have hwalk : (Node.function line endLine false name parameters body decorators returns).walk.any
      (callsAttribute ["post", "put", "delete"]) = true :=
    List.any_eq_true.mpr ⟨call, hcall, callsAttribute_iff.mpr hchanges⟩
  unfold checkToken
  simp only [hprotected, hwalk, Bool.not_false, Bool.and_true, if_true]
  exact findings_one lines line _

/-- Nothing else is. -/
theorem checkToken_of_not (lines : SourceLines) {n : Node} (h : ¬ Exposed n) :
    checkToken lines n = .ok [] := by
  unfold checkToken
  split
  · rename_i line endLine name parameters body decorators returns
    split
    · rename_i hboth
      rw [Bool.and_eq_true, Bool.not_eq_true', List.any_eq_false, List.any_eq_true] at hboth
      obtain ⟨hplain, call, hcall, hchanges⟩ := hboth
      refine absurd ⟨decorators, ⟨_, _, _, _, _, _, rfl⟩, ?_, call, hcall,
        callsAttribute_iff.mp hchanges⟩ h
      intro d hd hprotects
      exact hplain d hd (isTokenProtection_iff.mpr hprotects)
    · rfl
  · rfl

/-- Whether the check makes a finding about a node. -/
def reportsToken (lines : SourceLines) (n : Node) : Bool :=
  match checkToken lines n with
  | .ok (_ :: _) => true
  | _ => false

/-- **The check finds the exposed functions, each once.** -/
theorem checkToken_eq {text : List Char} {n : Node} (h : n.lineless = true ∨ LineOf text n.line) :
    (reportsToken (SourceLines.of text) n = true ↔ Exposed n) ∧
      ((∃ f, checkToken (SourceLines.of text) n = .ok [f]) ∨
        checkToken (SourceLines.of text) n = .ok []) := by
  by_cases hexposed : Exposed n
  · -- A function has a line, so there is something to quote.
    have hline : LineOf text n.line := by
      obtain ⟨_, ⟨_, _, _, _, _, _, rfl⟩, -⟩ := hexposed
      rcases h with h | h
      · cases h
      · exact h
    obtain ⟨s, hs⟩ := excerpt_ok hline
    have hfound : checkToken (SourceLines.of text) n = .ok [tokenFinding n s] := by
      rw [checkToken_of_exposed _ hexposed, hs]
      rfl
    refine ⟨⟨fun _ => hexposed, fun _ => ?_⟩, .inl ⟨_, hfound⟩⟩
    unfold reportsToken
    rw [hfound]
  · have hnone := checkToken_of_not (SourceLines.of text) hexposed
    refine ⟨⟨fun hreports => ?_, fun hyes => absurd hyes hexposed⟩, .inr hnone⟩
    unfold reportsToken at hreports
    rw [hnone] at hreports
    cases hreports

/-! ## §3. Outwards, and from endpoints. -/

/-- **An unprotected function around an exposed one is exposed.** -/
theorem Exposed.outwards {outer inner : Node} {decorators : List Node}
    (hfunction : IsFunction outer decorators) (hplain : ∀ d ∈ decorators, ¬ Protects d)
    (hinner : inner ∈ outer.walk) (h : Exposed inner) : Exposed outer := by
  obtain ⟨_, -, -, call, hcall, hchanges⟩ := h
  exact ⟨decorators, hfunction, hplain, call, Node.mem_walk_trans hinner hcall, hchanges⟩

/-- The message about an endpoint for a verb. -/
def endpointMessage (verb : String) : String :=
  "Point de terminaison " ++ verb ++ " sans validation des entrées"

/-- Whether the check of endpoints reports one for a verb among some. -/
def reportsEndpoint (lines : SourceLines) (verbs : List String) (n : Node) : Bool :=
  match checkEndpoints lines n with
  | .ok found => found.any fun f => verbs.any fun verb => f.message == endpointMessage verb
  | .error _ => false

/-- A finding about an endpoint comes from a decorator that calls the verb. -/
theorem decorator_of_endpoint {lines : SourceLines} {n : Node} {fs : List Finding} {f : Finding}
    (h : checkEndpoints lines n = .ok fs) (hf : f ∈ fs) :
    ∃ decorators, IsFunction n decorators ∧ ∃ d ∈ decorators, ∃ verb,
      calledAttribute? d = some verb ∧ verb ∈ ["get", "post", "put", "delete", "patch"] ∧
      f.message = endpointMessage (Text.upper verb) := by
  unfold checkEndpoints at h
  split at h
  · rename_i line endLine name parameters body decorators returns
    obtain ⟨make, hmake, excerpt, -, rfl⟩ := mem_findings h hf
    split at hmake
    · cases hmake
    · obtain ⟨verb, hverb, hmake⟩ := List.mem_flatMap.mp hmake
      obtain ⟨hcalled, hlisted⟩ := List.mem_filter.mp hverb
      obtain ⟨d, hd, hcall⟩ := List.mem_filterMap.mp hcalled
      obtain ⟨_, -, rfl⟩ := List.mem_map.mp hmake
      exact ⟨decorators, ⟨_, _, _, _, _, _, rfl⟩, d, hd, verb, hcall,
        List.contains_iff_mem.mp hlisted, rfl⟩
  · cases h
    cases hf

/-- Verbs in capitals tell the verbs apart. -/
theorem verb_of_upper {verb : String} (hverb : verb ∈ ["get", "post", "put", "delete", "patch"])
    (h : Text.upper verb ∈ ["POST", "PUT", "DELETE"]) : verb ∈ ["post", "put", "delete"] := by
  simp only [List.mem_cons, List.not_mem_nil, or_false] at hverb
  rcases hverb with rfl | rfl | rfl | rfl | rfl
  · exact absurd h (by decide)
  · decide
  · decide
  · decide
  · exact absurd h (by decide)

/-- **An unprotected endpoint that changes state is exposed**: its own decorator is the
call. -/
theorem exposed_of_endpoint {lines : SourceLines} {n : Node} {decorators : List Node}
    (hfunction : IsFunction n decorators) (hplain : ∀ d ∈ decorators, ¬ Protects d)
    (h : reportsEndpoint lines ["POST", "PUT", "DELETE"] n = true) : Exposed n := by
  unfold reportsEndpoint at h
  split at h
  · rename_i fs hfs
    obtain ⟨f, hf, hmessage⟩ := List.any_eq_true.mp h
    obtain ⟨capitals, hcapitals, heq⟩ := List.any_eq_true.mp hmessage
    obtain ⟨same, hsame, d, hd, verb, hcall, hverb, hwritten⟩ := decorator_of_endpoint hfs hf
    obtain ⟨line, endLine, name, parameters, body, returns, rfl⟩ := hfunction
    obtain ⟨_, _, _, _, _, _, hnode⟩ := hsame
    cases hnode
    have hupper : Text.upper verb = capitals := by
      rw [eq_of_beq heq] at hwritten
      unfold endpointMessage at hwritten
      have htext := Text.Wording.whole.inj hwritten
      exact (String.append_right_inj _ |>.mp (String.append_left_inj _ |>.mp htext)).symm
    have hchanges : verb ∈ ["post", "put", "delete"] := verb_of_upper hverb (hupper ▸ hcapitals)
    obtain ⟨l, place, value, arguments, keywords, rfl⟩ := calledAttribute?_eq_some_iff.mp hcall
    refine ⟨decorators, ⟨_, _, _, _, _, _, rfl⟩, hplain, _, ?_,
      l, place, value, verb, arguments, keywords, rfl, hchanges⟩
    refine Node.mem_walk_of_mem_children ?_
    show _ ∈ parameters :: (body ++ (decorators ++ returns.toList))
    simp [hd]
  · cases h

/-! ## §4. A whole walk. -/

/-- **A walk makes one finding for each function that is reported, in order.** -/
theorem token_runAll (k : Keywords) {text : List Char} {tree : Node} (h : OnLines text tree) :
    ∃ reports, Check.token.runAll k (SourceLines.of text) tree = .ok reports ∧
      List.Forall₂ (fun f r => checkToken (SourceLines.of text) f = .ok [r])
        (tree.walk.filter (reportsToken (SourceLines.of text))) reports := by
  have hnodes : ∀ nodes : List Node, (∀ n ∈ nodes, n.lineless = true ∨ LineOf text n.line) →
      ∃ parts, nodes.mapM (checkToken (SourceLines.of text)) = .ok parts ∧
        List.Forall₂ (fun f r => checkToken (SourceLines.of text) f = .ok [r])
          (nodes.filter (reportsToken (SourceLines.of text))) parts.flatten := by
    intro nodes hlines
    induction nodes with
    | nil => exact ⟨[], rfl, .nil⟩
    | cons n rest ih =>
        obtain ⟨parts, hparts, hreports⟩ := ih fun m hm => hlines m (List.mem_cons_of_mem _ hm)
        rcases (checkToken_eq (hlines n List.mem_cons_self)).2 with ⟨f, hf⟩ | hnone
        · have hyes : reportsToken (SourceLines.of text) n = true := by
            unfold reportsToken
            rw [hf]
          refine ⟨[f] :: parts, ?_, ?_⟩
          · rw [List.mapM_cons, hf, hparts]
            rfl
          · rw [List.filter_cons_of_pos hyes]
            exact .cons hf hreports
        · have hno : ¬ reportsToken (SourceLines.of text) n = true := by
            unfold reportsToken
            rw [hnone]
            decide
          refine ⟨[] :: parts, ?_, ?_⟩
          · rw [List.mapM_cons, hnone, hparts]
            rfl
          · rw [List.filter_cons_of_neg hno]
            exact hreports
  obtain ⟨parts, hparts, hreports⟩ := hnodes tree.walk h
  refine ⟨parts.flatten, ?_, hreports⟩
  unfold Check.runAll
  show (tree.walk.mapM (checkToken (SourceLines.of text))).map List.flatten = _
  rw [hparts]
  rfl

/-- **Reports of missing protection spread outwards and cover the endpoints that
change state.**  On a tree whose lines are lines of the text, a function without
protection is reported if any function in it is, and if it is reported as an
endpoint for a verb that changes state.  Conversely a function that is reported
has a call in it that changes state, and is reported once: every node of the
tree is walked once, and the walk makes one finding for each function that is
reported. -/
theorem token_reports_outwards (k : Keywords) {text : List Char} {tree : Node}
    (h : OnLines text tree) :
    (∀ f ∈ tree.walk, ∀ decorators, IsFunction f decorators → (∀ d ∈ decorators, ¬ Protects d) →
      (∀ g ∈ f.walk, reportsToken (SourceLines.of text) g = true →
        reportsToken (SourceLines.of text) f = true) ∧
      (reportsEndpoint (SourceLines.of text) ["POST", "PUT", "DELETE"] f = true →
        reportsToken (SourceLines.of text) f = true)) ∧
    (∀ f ∈ tree.walk, reportsToken (SourceLines.of text) f = true →
      ∃ call ∈ f.walk, CallsOneOf ["post", "put", "delete"] call) ∧
    tree.walk.Perm tree.preorder ∧
    ∃ reports, Check.token.runAll k (SourceLines.of text) tree = .ok reports ∧
      List.Forall₂ (fun f r => checkToken (SourceLines.of text) f = .ok [r])
        (tree.walk.filter (reportsToken (SourceLines.of text))) reports := by
  have hexposed : ∀ n ∈ tree.walk,
      (reportsToken (SourceLines.of text) n = true ↔ Exposed n) :=
    fun n hn => (checkToken_eq (h n hn)).1
  refine ⟨fun f hf decorators hfunction hplain => ⟨fun g hg hreported => ?_, fun hendpoint => ?_⟩,
    fun f hf hreported => ?_, tree.walk_perm, token_runAll k h⟩
  · have hinner : Exposed g := (hexposed g (Node.mem_walk_trans hf hg)).mp hreported
    exact (hexposed f hf).mpr (hinner.outwards hfunction hplain hg)
  · exact (hexposed f hf).mpr (exposed_of_endpoint hfunction hplain hendpoint)
  · obtain ⟨_, -, -, hcall⟩ := (hexposed f hf).mp hreported
    exact hcall

/-- A function inside an endpoint. -/
def nestedEndpoint : List Char :=
  "@app.post('/')\ndef f(request):\n    def g():\n        s.put()\n".toList

/-- Both functions are reported, the outer one first. -/
theorem token_reports_outwards_nested :
    ∃ tree reports, parse nestedEndpoint = .ok tree ∧ OnLines nestedEndpoint tree ∧
      Check.token.runAll .standard (SourceLines.of nestedEndpoint) tree = .ok reports ∧
      reports.map (·.line) = [some 2, some 3] := by
  have hlines : ((parse nestedEndpoint).toOption.bind fun tree =>
      (Check.token.runAll .standard (SourceLines.of nestedEndpoint) tree).toOption.map
        (List.map Finding.line)) = some [some 2, some 3] := by
    decide +kernel
  obtain ⟨tree, htree, hreported⟩ := Option.bind_eq_some_iff.mp hlines
  have hparse : parse nestedEndpoint = .ok tree := eq_ok_of_toOption htree
  have hon : OnLines nestedEndpoint tree := onLines_of_parse (by decide) hparse
  obtain ⟨-, -, -, reports, hreports, -⟩ := token_reports_outwards .standard hon
  refine ⟨tree, reports, hparse, hon, hreports, ?_⟩
  rw [hreports] at hreported
  exact Option.some.inj hreported

end CodeAudit.Audit
