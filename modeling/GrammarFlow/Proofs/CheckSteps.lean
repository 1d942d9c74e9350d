import GrammarFlow.Grammar.Declarations

/-! What each step of a check adds to its report. -/

namespace GrammarFlow.Declarations

def beginsCapital (name : String) : Bool := name.toList.head?.any Char.isUpper

def isParserRule (rule : Declaration) : Bool := !beginsCapital rule.name

def isLexerRule (rule : Declaration) : Bool := beginsCapital rule.name && !rule.isFragment

def missing (source : Source) : Diagnosis :=
  { Diagnosis.located (source.clampedSpan 0 0) "Grammar declaration is missing" .error .grammarChecked with
    kind := .grammarCheck }

def duplicate (source : Source) (rule : Declaration) : Diagnosis :=
  { Diagnosis.located (source.clampedSpan rule.start (rule.start + rule.name.length))
      ("Rule '" ++ rule.name ++ "' is already declared") .error .grammarChecked with kind := .grammarCheck }

namespace Checking
variable {checking : Checking} {source : Source} {rule : Declaration}

theorem addGrammar_eq (source : Source) (masked : List Char) (checking : Checking) :
    checking.addGrammar source masked =
      ⟨{ checking.report with
          grammarName := checking.report.grammarName.or ((grammarPattern.find? masked).map declaredGrammar)
          diagnoses := checking.report.diagnoses ++
            if (grammarPattern.find? masked).isSome then [] else [missing source] },
        checking.seen⟩ := by
  rw [addGrammar]
  cases grammarPattern.find? masked with
  | none => simp [diagnose, missing]
  | some found => simp

theorem addRule_known (known : rule.name ∈ checking.seen) : addRule source checking rule =
    ⟨{ checking.report with diagnoses := checking.report.diagnoses ++ [duplicate source rule] }, checking.seen⟩ :=
  if_pos known

theorem addRule_new (new : rule.name ∉ checking.seen) : addRule source checking rule =
    ⟨{ checking.report with
        parserRules := checking.report.parserRules ++ if isParserRule rule then [rule.name] else []
        lexerRules := checking.report.lexerRules ++ if isLexerRule rule then [rule.name] else [] },
      rule.name :: checking.seen⟩ := by
  rw [addRule, if_neg new, isParserRule, isLexerRule, ← beginsCapital]
  cases beginsCapital rule.name <;> cases rule.isFragment <;> simp

end Checking

end GrammarFlow.Declarations
