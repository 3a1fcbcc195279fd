/-
  CodeAudit.Audit.TestSuite
  ─────────────────────────
  **A FIRST TEST SUITE FOR A PROJECT.**

  One test for each function at the top of a module, and one test for all
  named routes of the module `urls.py`.  Only the modules directly in the
  project's directory take part, in the order in which the directory is
  listed, and of those only the ones that can be read.  The names of routes
  are taken over as they are, so a suite is torn if one of them is.
-/
import CodeAudit.Audit.Project

namespace CodeAudit.Audit

open CodeAudit.Data CodeAudit.Source
open CodeAudit.Text (Wording)

/-! ## §1. Tests of functions. -/

/-- The name by which a module is imported: its file name without the ending,
unless nothing but points is left. -/
def moduleName (fileName : String) : String :=
  let stem := fileName.toList.take (fileName.length - 3)
  if stem.all (· == '.') then fileName else String.ofList stem

/-- A function to be tested. -/
structure Tested where
  name : String
  /-- The number of arguments it is called with. -/
  arguments : Nat

/-- The function that a statement defines, if it is to be tested. -/
def tested? : Node → Option Tested
  | .function _ _ false name parameters _ _ _ =>
      some ⟨name, ((regularParameters parameters).filter fun p =>
        parameterName? p != some "self").length⟩
  | _ => none

/-- The statements of a module. -/
def statementsOf : Node → List Node
  | .module body => body
  | _ => []

/-- The test of a function of a module. -/
def Tested.test (source : String) (t : Tested) : String :=
  "def test_" ++ t.name ++ "():\n    from " ++ source ++ " import " ++ t.name ++ "\n    result = "
    ++ t.name ++ "(" ++ Text.joinWith ", " (List.replicate t.arguments "1")
    ++ ")\n    assert result is not None  # TODO: adapter cette assertion\n\n"

/-! ## §2. Tests of routes. -/

/-- Whether a node calls `path`. -/
def callsPath (n : Node) : Bool := callsName ["path"] n || callsAttribute ["path"] n

/-- The text of a keyword called `name`. -/
def nameKeyword? : Node → Option Wording
  | .keyword (some "name") (.constant _ (.text w)) => some w
  | _ => none

/-- The name of the route that a node declares: its last one, if not empty. -/
def route? (n : Node) : Option Wording :=
  match n with
  | .call _ _ _ keywords =>
      if callsPath n then
        match (keywords.filterMap nameKeyword?).getLast? with
        | some w => if w.isEmpty then none else some w
        | none => none
      else none
  | _ => none

/-- The names of the routes that a module declares. -/
def routes (tree : Node) : List Wording := tree.walk.filterMap route?

/-- The test of routes; nothing without routes. -/
def routeTest (routes : List Wording) : Wording :=
  if routes.isEmpty then ""
  else
    "from django.urls import reverse\n\n@pytest.mark.django_db\ndef test_django_views(client):\n"
      ++ Wording.join (routes.map fun r => "    response = client.get(reverse('" ++ r ++ "'))\n"
        ++ "    assert response.status_code in [200, 302]  # 302 si login_required\n")
      ++ "\n"

/-! ## §3. The suite. -/

/-- The first lines of a suite. -/
def suiteHeader : String := "# Tests générés automatiquement avec pytest\nimport pytest\n\n"

/-- The tree of a file, when it can be read. -/
def readable? (content : List UInt8) : Option Node :=
  (fileText content).toOption.bind fun text => (parse text).toOption

/-- The module that an entry of the directory is: a file that is called as one and
can be read. -/
def moduleOf? : String × Entry → Option (String × Node)
  | (name, .file content) =>
      if isModuleName name then (readable? content).map fun tree => (name, tree) else none
  | (_, .directory) => none

/-- The modules among the entries of a directory. -/
def topModules (entries : List (String × Entry)) : List (String × Node) :=
  entries.filterMap moduleOf?

/-- The tests of the functions of a module. -/
def functionTests (file : String × Node) : String :=
  String.join (((statementsOf file.2).filterMap tested?).map (Tested.test (moduleName file.1)))

/-- A test suite for a directory, from its entries as they are listed. -/
def testSuite (entries : List (String × Entry)) : Wording :=
  let modules := topModules entries
  .whole (suiteHeader ++ String.join (modules.map functionTests))
    ++ routeTest ((modules.filter (·.1 == "urls.py")).flatMap fun f => routes f.2)

/-- Why a directory that is not there has no suite. -/
def missingDirectory (directory : String) : String :=
  "[Errno 2] No such file or directory: " ++ Text.quoted directory

end CodeAudit.Audit
