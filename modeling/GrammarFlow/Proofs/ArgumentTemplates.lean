import GrammarFlow.Target.Settings

/-! The arguments of a target's programs. The placeholders of a template are filled in kind by kind, so a value with a
brace in it can be taken for a placeholder. Where there is no such value each placeholder stands for its value. -/

namespace GrammarFlow

inductive Placeholder where
  | mainFile
  | workingDirectory
  | targetDirectory
  | grammar
deriving DecidableEq

def Placeholder.written : Placeholder → String
  | mainFile => "\x7bmain_file\x7d"
  | workingDirectory => "\x7bworking_dir\x7d"
  | targetDirectory => "\x7bruntime_dir\x7d"
  | grammar => "\x7bgrammar\x7d"

def TemplateValues.valueOf (values : TemplateValues) : Placeholder → String
  | .mainFile => values.mainFile
  | .workingDirectory => values.workingDirectory
  | .targetDirectory => values.targetDirectory
  | .grammar => values.grammar

inductive TemplatePart where
  | plain (text : String)
  | value (placeholder : Placeholder)

theorem Placeholder.written_braced (placeholder : Placeholder) :
    ∃ name, placeholder.written.toList = '\x7b' :: name ∧ '\x7b' ∉ name := by
  cases placeholder <;> exact ⟨_, rfl, by decide⟩

theorem Placeholder.not_prefix_of_ne {placeholder other : Placeholder} (different : placeholder ≠ other)
    (rest : List Char) : ¬ placeholder.written.toList <+: other.written.toList ++ rest := by
  cases placeholder <;> cases other <;> first | exact absurd rfl different | simp [written]

namespace TemplatePart

def written : TemplatePart → List Char
  | plain text => text.toList
  | value placeholder => placeholder.written.toList

def filled (values : TemplateValues) : TemplatePart → List Char
  | plain text => text.toList
  | value placeholder => (values.valueOf placeholder).toList

/-- A part as it stands when these placeholders are filled in. -/
def shown (values : TemplateValues) (known : List Placeholder) : TemplatePart → List Char
  | plain text => text.toList
  | value placeholder => (if placeholder ∈ known then values.valueOf placeholder else placeholder.written).toList

section Filling
variable {values : TemplateValues} {parts : List TemplatePart} {known : List Placeholder}

theorem shown_none : shown values [] = written := by
  funext part
  cases part <;> rfl

theorem shown_all : shown values [.grammar, .targetDirectory, .workingDirectory, .mainFile] = filled values := by
  funext part
  cases part with
  | plain => rfl
  | value placeholder => cases placeholder <;> rfl

theorem replaceChars_shown {placeholder : Placeholder} (new : placeholder ∉ known)
    (noBrace : ∀ part ∈ parts, '\x7b' ∉ part.filled values) :
    Text.replaceChars placeholder.written.toList (values.valueOf placeholder).toList 0
      (parts.flatMap (shown values known)) = parts.flatMap (shown values (placeholder :: known)) := by
  obtain ⟨name, braced, -⟩ := placeholder.written_braced
  refine Text.replaceChars_flatMap fun part member rest => ?_
  have noBrace := noBrace part member
  cases part with
  | plain text =>
    rw [braced]
    exact Text.replaceChars_plain noBrace rest
  | value other =>
    by_cases same : other = placeholder
    · subst same
      simp only [shown, if_neg new, List.mem_cons, true_or, if_true, braced]
      exact Text.replaceChars_hit rest
    · have unchanged : shown values (placeholder :: known) (value other) = shown values known (value other) := by
        simp [shown, same]
      rw [unchanged, shown]
      split
      next =>
        rw [braced]
        exact Text.replaceChars_plain noBrace rest
      next =>
        obtain ⟨others, there, plain⟩ := other.written_braced
        have notHere := Placeholder.not_prefix_of_ne (Ne.symm same) rest
        rw [there, List.cons_append] at notHere ⊢
        rw [Text.replaceChars_miss notHere, braced, Text.replaceChars_plain plain, List.cons_append]

end Filling

end TemplatePart

/-- An argument is its template with each placeholder's value in its place. -/
theorem TemplateValues.expand_parts {values : TemplateValues} {parts : List TemplatePart}
    (noBrace : ∀ part ∈ parts, '\x7b' ∉ part.filled values) :
    values.expand (String.ofList (parts.flatMap TemplatePart.written)) =
      String.ofList (parts.flatMap (TemplatePart.filled values)) := by
  have fill (placeholder : Placeholder) (known : List Placeholder) (new : placeholder ∉ known) :=
    TemplatePart.replaceChars_shown new noBrace
  have first := fill .mainFile [] (by decide)
  have second := fill .workingDirectory [.mainFile] (by decide)
  have third := fill .targetDirectory [.workingDirectory, .mainFile] (by decide)
  have fourth := fill .grammar [.targetDirectory, .workingDirectory, .mainFile] (by decide)
  rw [TemplatePart.shown_none] at first
  rw [TemplatePart.shown_all] at fourth
  simp only [expand, Text.replace, String.toList_ofList]
  exact congrArg String.ofList (by rw [← fourth, ← third, ← second, ← first]; rfl)

end GrammarFlow
