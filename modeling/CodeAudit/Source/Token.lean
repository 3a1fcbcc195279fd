/-
  CodeAudit.Source.Token
  ──────────────────────
  **TOKENS OF PYTHON SOURCE.**

  A token has a kind, its text, the lines it spans and the number of brackets
  open after it.  Layout is made of tokens too: the end of a logical line, a
  step of indentation in or out, and the end of the text.
-/

namespace CodeAudit.Source

/-! ## §1. Tokens. -/

/-- The kind of a token. -/
inductive Kind where
  /-- A name that is not reserved; its text is in composed compatibility form. -/
  | name
  /-- A reserved word, an operator or a bracket: the text says which. -/
  | fixed
  /-- A number. -/
  | number
  /-- A literal in quotes, with its letters and quotes. -/
  | literal
  /-- The end of a logical line. -/
  | newline
  /-- A step of indentation in. -/
  | indent
  /-- A step of indentation out. -/
  | dedent
  /-- The end of the text. -/
  | finish
  deriving DecidableEq, Repr

/-- A token. -/
structure Token where
  kind : Kind
  text : String
  /-- The line on which it starts, from one. -/
  line : Nat
  /-- The line on which it ends. -/
  endLine : Nat
  /-- The number of brackets open after it. -/
  depth : Nat
  deriving Repr

/-- Layout tokens do not belong to the extent of a construct. -/
def Token.isLayout (t : Token) : Bool :=
  t.kind == .newline || t.kind == .indent || t.kind == .dedent || t.kind == .finish

/-- The reserved words. -/
def reserved : List String :=
  ["False", "None", "True", "and", "as", "assert", "async", "await", "break", "class", "continue",
   "def", "del", "elif", "else", "except", "finally", "for", "from", "global", "if", "import", "in",
   "is", "lambda", "nonlocal", "not", "or", "pass", "raise", "return", "try", "while", "with",
   "yield"]

/-- Words that are reserved only in some places. -/
def softReserved : List String := ["_", "case", "match"]

/-- Operators of three characters. -/
def longOperators : List String := ["**=", "...", "//=", "<<=", ">>="]

/-- Operators of two characters. -/
def pairOperators : List String :=
  ["!=", "%=", "&=", "**", "*=", "+=", "-=", "->", "//", "/=", ":=", "<<", "<=", "<>", "==", ">=",
   ">>", "@=", "^=", "|="]

/-! ## §2. The end of scanning. -/

/-- A place where the text stops being tokens. -/
structure Break where
  /-- The line to report when the place is reached. -/
  line : Nat
  /-- Whether it counts even when an earlier fault was found first. -/
  firm : Bool
  /-- The line of the innermost open bracket, if one is open there. -/
  bracket : Option Nat
  deriving Repr

/-- The tokens of a text, and the place where they break off, if they do. -/
structure Tokens where
  all : Array Token
  break? : Option Break

end CodeAudit.Source
