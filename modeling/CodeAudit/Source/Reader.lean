/-
  CodeAudit.Source.Reader
  ───────────────────────
  **READING TOKENS BY ORDERED CHOICE.**

  A reader looks at the tokens from a position on and either finds its
  construct, misses it, or fails.  A miss lets the next alternative try from
  the same position; a failure ends the reading.  The furthest token that any
  reader has looked at is kept, because that is where an unexplained fault is
  reported.

  A text is read at most twice.  The second time, when the first one missed,
  the alternatives that look for a known mistake take part (`diagnosing`).
-/
import CodeAudit.Source.Token

namespace CodeAudit.Source

/-! ## §1. Outcomes. -/

/-- A fault on a line.  `scanned` when the text breaks off there, else a rule
has found a mistake. -/
structure Fault where
  line : Nat
  scanned : Bool
  deriving DecidableEq, Repr

/-- What stays the same while a text is read. -/
structure Setting where
  tokens : Tokens
  /-- Whether alternatives that look for a known mistake take part. -/
  diagnosing : Bool

/-- The outcome of a reader with a state. -/
inductive Outcome (σ α : Type) where
  /-- The construct, and the state after it. -/
  | found (a : α) (s : σ)
  /-- The construct is not here. -/
  | missed (s : σ)
  /-- The text is at fault. -/
  | failed (f : Fault) (s : σ)

/-- The place in the tokens; `μ` is what has been remembered. -/
structure Place (μ : Type) where
  position : Nat
  /-- The number of tokens looked at. -/
  seen : Nat
  memory : μ

/-- A reader of an `α`. -/
def Reader (μ α : Type) := Setting → Place μ → Outcome (Place μ) α

namespace Reader

variable {μ α β γ : Type}

/-! ## §2. Sequence and choice. -/

/-- Find a value without looking. -/
protected def pure (a : α) : Reader μ α := fun _ s => .found a s

/-- One reader, then another. -/
protected def bind (p : Reader μ α) (f : α → Reader μ β) : Reader μ β := fun env s =>
  match p env s with
  | .found a s => f a env s
  | .missed s => .missed s
  | .failed e s => .failed e s

instance : Monad (Reader μ) where
  pure := Reader.pure
  bind := Reader.bind

/-- Find nothing. -/
def miss : Reader μ α := fun _ s => .missed s

/-- The first alternative, or the second from the same position. -/
protected def orElse (p : Reader μ α) (q : Unit → Reader μ α) : Reader μ α := fun env s =>
  let start := s.position
  match p env s with
  | .missed s => q () env { s with position := start }
  | outcome => outcome

instance : OrElse (Reader μ α) := ⟨Reader.orElse⟩

/-- Once `p` has found its construct only `f` counts; otherwise `q` does. -/
def commit (p : Reader μ α) (f : α → Reader μ β) (q : Reader μ β) : Reader μ β := fun env s =>
  let start := s.position
  match p env s with
  | .found a s => f a env s
  | .missed s => q env { s with position := start }
  | .failed e s => .failed e s

/-- The construct, if it is here. -/
def perhaps (p : Reader μ α) : Reader μ (Option α) := fun env s =>
  let start := s.position
  match p env s with
  | .found a s => .found (some a) s
  | .missed s => .found none { s with position := start }
  | .failed e s => .failed e s

/-- Look whether the construct is here, without taking it. -/
def ahead (p : Reader μ α) : Reader μ Unit := fun env s =>
  let start := s.position
  match p env s with
  | .found _ s => .found () { s with position := start }
  | .missed s => .missed s
  | .failed e s => .failed e s

/-- Look that the construct is not here. -/
def notAhead (p : Reader μ α) : Reader μ Unit := fun env s =>
  let start := s.position
  match p env s with
  | .found _ s => .missed s
  | .missed s => .found () { s with position := start }
  | .failed e s => .failed e s

/-- As often as it is here, at most `n` times, and only while it takes tokens. -/
def repeatUpTo (p : Reader μ α) : Nat → Reader μ (List α)
  | 0 => Reader.pure []
  | n + 1 => fun env s =>
      let start := s.position
      match p env s with
      | .found a s =>
          if s.position ≤ start then .found [a] s
          else match repeatUpTo p n env s with
            | .found rest s => .found (a :: rest) s
            | .missed s => .missed s
            | .failed e s => .failed e s
      | .missed s => .found [] { s with position := start }
      | .failed e s => .failed e s

/-- As often as it is here. -/
def many (p : Reader μ α) : Reader μ (List α) := fun env s =>
  repeatUpTo p (env.tokens.all.size + 1) env s

/-- Once, and then as often as it is here. -/
def many1 (p : Reader μ α) : Reader μ (List α) := do
  let first ← p
  let rest ← many p
  return first :: rest

/-- Once, and then as often as it is here after a separator. -/
def separated (p : Reader μ α) (separator : Reader μ β) : Reader μ (List α) := do
  let first ← p
  let rest ← many (do let _ ← separator; p)
  return first :: rest

/-! ## §3. Tokens. -/

/-- The token here, which counts as looked at. -/
def look : Reader μ Token := fun env s =>
  let s := { s with seen := max s.seen (s.position + 1) }
  match env.tokens.all[s.position]? with
  | some t => .found t s
  | none =>
      match env.tokens.break? with
      | some b => .failed ⟨b.line, true⟩ s
      | none => .missed s

/-- Take the token here if it satisfies a condition. -/
def takeIf (ok : Token → Bool) : Reader μ Token := fun env s =>
  match look env s with
  | .found t s => if ok t then .found t { s with position := s.position + 1 } else .missed s
  | outcome => outcome

/-- Take a reserved word, an operator or a bracket. -/
def word (text : String) : Reader μ Token := takeIf fun t => t.kind == .fixed && t.text == text

/-- Take a name that is reserved only here. -/
def soft (text : String) : Reader μ Token := takeIf fun t => t.kind == .name && t.text == text

/-- Take a token of a kind. -/
def kind (k : Kind) : Reader μ Token := takeIf fun t => t.kind == k

/-- Take one of several words. -/
def oneOf (texts : List String) : Reader μ Token :=
  takeIf fun t => t.kind == .fixed && texts.contains t.text

/-- The line of the token here. -/
def here : Reader μ Nat := do return (← look).line

/-- The last token before a position that is no layout. -/
def lastSolid (tokens : Array Token) : Nat → Option Token
  | 0 => none
  | n + 1 =>
      match tokens[n]? with
      | some t => if t.isLayout then lastSolid tokens n else some t
      | none => lastSolid tokens n

/-- The line on which the construct read last ends. -/
def endLine : Reader μ Nat := fun env s =>
  .found (((lastSolid env.tokens.all s.position).map (·.endLine)).getD 0) s

/-- The number of brackets open after the token read last. -/
def depth : Reader μ Nat := fun env s =>
  .found ((env.tokens.all[s.position - 1]?.map (·.depth)).getD 0) s

/-! ## §4. Mistakes. -/

/-- The line of the furthest token looked at. -/
def furthestLine (tokens : Tokens) (seen : Nat) : Nat :=
  ((tokens.all[seen - 1]?).map (·.line)).getD 0

/-- A mistake on a given line. -/
def mistake (line : Nat) : Reader μ α := fun _ s => .failed ⟨line, false⟩ s

/-- A mistake reported at the furthest token looked at. -/
def mistakeHere : Reader μ α := fun env s =>
  .failed ⟨furthestLine env.tokens s.seen, false⟩ s

/-- The line of the furthest token looked at. -/
def furthest : Reader μ Nat := fun env s => .found (furthestLine env.tokens s.seen) s

/-- A word without which the text is at fault. -/
def required (text : String) : Reader μ Token := do
  let t ← look
  if t.kind == .fixed && t.text == text then word text else mistake t.line

/-- An alternative that only looks for a known mistake. -/
def diagnosed (p : Reader μ α) : Reader μ α := fun env s =>
  if env.diagnosing then p env s else .missed s

/-- Read without looking for mistakes. -/
def undiagnosed (p : Reader μ α) : Reader μ α := fun env s =>
  p { env with diagnosing := false } s

/-! ## §5. Whole texts. -/

/-- A fault found by a rule gives way to a firm break later in the text, and to
a bracket that is open where the text breaks off and was opened on a line
before the furthest token. -/
def settle (tokens : Tokens) (seen line : Nat) : Nat :=
  match tokens.break? with
  | some b =>
      if b.firm then b.line
      else match b.bracket with
        | some bracket => if bracket < furthestLine tokens seen then bracket else line
        | none => line
  | none => line

/-- Read a whole text, and report the line of the fault if it has one. -/
def complete (p : Reader μ α) (memory : μ) (tokens : Tokens) : Except Nat α :=
  match p ⟨tokens, false⟩ ⟨0, 0, memory⟩ with
  | .found a _ => .ok a
  | .failed f s => .error (if f.scanned then f.line else settle tokens s.seen f.line)
  | .missed first =>
      match p ⟨tokens, true⟩ ⟨0, first.seen, memory⟩ with
      | .failed f s => .error (if f.scanned then f.line else settle tokens s.seen f.line)
      | .found _ s | .missed s =>
          let last := tokens.all[first.seen - 1]?
          if last.any fun t => t.kind == .indent || t.kind == .dedent then
            .error (furthestLine tokens s.seen)
          else .error (settle tokens s.seen (furthestLine tokens first.seen))

end Reader

end CodeAudit.Source
