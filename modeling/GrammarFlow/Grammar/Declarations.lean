import GrammarFlow.Grammar.Project
import GrammarFlow.Grammar.Scan
import GrammarFlow.Diagnosis
import GrammarFlow.Pattern.Match

/-!
Finding what a grammar declares without parsing all of its language: the grammar's name, its rules
and its actions. Declarations are matched in the masked text, which has the offsets of the
source.
-/

namespace GrammarFlow

structure GrammarFindings where
  grammarName : Option String
  parserRules : List String
  lexerRules : List String
  /-- The actions, sorted within each source. -/
  fragments : List Span
  diagnoses : List Diagnosis
deriving DecidableEq

namespace GrammarFindings

def empty : GrammarFindings := ⟨none, [], [], [], []⟩

instance : Inhabited GrammarFindings := ⟨empty⟩

end GrammarFindings

namespace Declarations

def nameStart : CharSet := .unionAll [.range 'A' 'Z', .range 'a' 'z', .single '_']

def name : Pattern := .group "name" (.one nameStart ++ .star true (.one .word))

def blanks : Pattern := .star true (.one .blank)

def someBlanks : Pattern := .plus true (.one .blank)

/-- `lexer grammar Name;`, at the beginning of a line. -/
def grammarPattern : Pattern :=
  .sequence [.anchor .lineStart, blanks,
    .optional true (.group "kind" (.choice (.text "lexer") (.text "parser")) ++ someBlanks),
    .text "grammar", someBlanks, name, blanks, .text ";"]

/-- `fragment NAME :`, at the beginning of a line. -/
def rulePattern : Pattern :=
  .sequence [.anchor .lineStart, .star true (.one (.union (.single ' ') (.single '\t'))),
    .optional true (.group "modifier"
      (.choices [.text "public", .text "private", .text "protected", .text "fragment"] ++
        someBlanks)),
    name, blanks, .optional true (.text "returns" ++ blanks),
    .optional true (.text "locals" ++ blanks), .text ":"]

/-- The name in a grammar declaration, without the ending that the kind of grammar adds to it. -/
def declaredGrammar (found : Match) : String :=
  let name := ((found.capture? "name").map fun name => String.ofList name.text).getD ""
  let kind := (found.capture? "kind").map fun kind => String.ofList kind.text
  let base := match kind with
    | some "lexer" => Project.withoutEnding? "Lexer" name
    | some "parser" => Project.withoutEnding? "Parser" name
    | _ => none
  base.getD name

/-- A rule declaration: its name, where the name stands, and whether the rule is a fragment. -/
structure Declaration where
  name : String
  start : Nat
  isFragment : Bool
deriving DecidableEq, Repr

/-- The first words of blocks and of the grammar declaration are no rule names. -/
def isRuleName (name : String) : Bool := !("grammar" :: Scan.blockKeywords).contains name

def ofMatch? (found : Match) : Option Declaration := do
  let name ← found.capture? "name"
  let isFragment := (found.capture? "modifier").any fun modifier =>
    Text.trim (String.ofList modifier.text) = "fragment"
  return ⟨String.ofList name.text, name.start, isFragment⟩

/-- The rule declarations of a masked text. -/
def declarations (masked : List Char) : List Declaration :=
  ((rulePattern.findAll masked).filterMap ofMatch?).filter fun found => isRuleName found.name

/-- A checker's report in the making, with the names declared so far. -/
structure Checking where
  report : GrammarFindings
  seen : List String

namespace Checking

def diagnose (checking : Checking) (span : Span) (message : String) : Checking :=
  let diagnosis :=
    { Diagnosis.located span message .error .grammarChecked with kind := .grammarCheck }
  { checking with
    report := { checking.report with diagnoses := checking.report.diagnoses ++ [diagnosis] } }

/-- The first grammar declaration gives the name; a source without one is an error. -/
def addGrammar (source : Source) (masked : List Char) (checking : Checking) : Checking :=
  match grammarPattern.find? masked with
  | some found =>
    { checking with
      report := { checking.report with
        grammarName := checking.report.grammarName.or (some (declaredGrammar found)) } }
  | none => checking.diagnose (source.clampedSpan 0 0) "Grammar declaration is missing"

/-- A name that begins with a capital is a lexer rule, which counts unless it is a fragment. -/
def addRule (source : Source) (checking : Checking) (rule : Declaration) : Checking :=
  if rule.name ∈ checking.seen then
    checking.diagnose (source.clampedSpan rule.start (rule.start + rule.name.length))
      ("Rule '" ++ rule.name ++ "' is already declared")
  else
    let report := checking.report
    let report :=
      if rule.name.toList.head?.any Char.isUpper then
        if rule.isFragment then report
        else { report with lexerRules := report.lexerRules ++ [rule.name] }
      else { report with parserRules := report.parserRules ++ [rule.name] }
    ⟨report, rule.name :: checking.seen⟩

def addActions (source : Source) (actions : List (Nat × Nat)) (checking : Checking) : Checking :=
  let fragments := actions.map fun (start, stop) => source.clampedSpan start stop
  { checking with
    report := { checking.report with fragments := checking.report.fragments ++ fragments } }

def addSource (checking : Checking) (source : Source) : Checking :=
  let masked := Scan.mask source.chars
  ((declarations masked.text).foldl (addRule source) (checking.addGrammar source masked.text))
    |>.addActions source masked.actions

end Checking

/-- Checks the sources of a project in order. -/
def check (project : Project) : GrammarFindings :=
  (project.sources.foldl Checking.addSource ⟨.empty, []⟩).report

end Declarations

end GrammarFlow
