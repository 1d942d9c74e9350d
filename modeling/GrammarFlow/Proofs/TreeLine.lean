import GrammarFlow.Proofs.TranscriptLines
import GrammarFlow.Transcript.TokenDump

/-!
The way of a tree dump over a line. A line cannot hold the line feeds of a dump, so each is written
as a backslash with an `n` behind it, and every such pair is read as a line feed. Pairs that the dump
has of its own are not told apart: a dump comes back as it was just when it has none, which is to
say when none of the names and texts in the tree has one.
-/

namespace GrammarFlow

namespace TreeDump

def HasBreak (text : List Char) : Prop := ['\\', 'n'] <:+: text

theorem hasBreak_cons {c : Char} {rest : List Char} :
    HasBreak (c :: rest) ↔ (c = '\\' ∧ rest.head? = some 'n') ∨ HasBreak rest := by
  rw [HasBreak, List.infix_cons_iff, ← HasBreak]
  cases rest <;> simp [List.cons_prefix_cons, eq_comm]

theorem not_hasBreak_nil : ¬ HasBreak [] := by simp [HasBreak]

theorem hasBreak_append {left right : List Char} (apart : ¬ right.head? = some 'n') :
    HasBreak (left ++ right) ↔ HasBreak left ∨ HasBreak right := by
  induction left with
  | nil => simp [not_hasBreak_nil]
  | cons c left ih =>
    have next : (left ++ right).head? = some 'n' ↔ left.head? = some 'n' := by
      cases left <;> simp [apart]
    rw [List.cons_append, hasBreak_cons, hasBreak_cons, next, ih, or_assoc]

theorem not_hasBreak_margin (width : Nat) : ¬ HasBreak (List.replicate width ' ') := by
  intro broken
  have := broken.mem (a := '\\') (by simp)
  simp at this

theorem hasBreak_append_closing (text : List Char) (width : Nat) :
    HasBreak (text ++ (List.replicate width ' ' ++ [')'])) ↔ HasBreak text := by
  have apart : ¬ (List.replicate width ' ' ++ [')']).head? = some 'n' := by
    cases width <;> simp [List.replicate_succ]
  have margin := not_hasBreak_margin width
  rw [hasBreak_append apart]
  simp [hasBreak_append, hasBreak_cons, margin, not_hasBreak_nil]

theorem unescapeBreaks_cons {c : Char} {rest : List Char}
    (plain : ¬ (c = '\\' ∧ rest.head? = some 'n')) :
    unescapeBreaks (c :: rest) = c :: unescapeBreaks rest := by
  rw [unescapeBreaks]
  rintro other rfl rfl
  exact plain ⟨rfl, rfl⟩

private theorem not_break_of_other {c : Char} {rest : List Char}
    (other : ∀ later, c = '\\' → rest = 'n' :: later → False) :
    ¬ (c = '\\' ∧ rest.head? = some 'n') := by
  rintro ⟨slash, next⟩
  obtain ⟨later, behind⟩ := List.head?_eq_some_iff.mp next
  exact other later slash behind

theorem head?_escapeBreaks {text : List Char} :
    (escapeBreaks text).head? = some 'n' ↔ text.head? = some 'n' := by
  fun_cases escapeBreaks text <;> simp

/-- Pairs that a text already has are read as well, so writing its line feeds as pairs changes
nothing. -/
theorem unescapeBreaks_escapeBreaks (text : List Char) :
    unescapeBreaks (escapeBreaks text) = unescapeBreaks text := by
  fun_induction unescapeBreaks text with
  | case1 rest ih => simp [escapeBreaks, unescapeBreaks, ih]
  | case2 c rest plain ih =>
    by_cases feed : c = '\n'
    · subst feed
      simp [escapeBreaks, unescapeBreaks, ih]
    · rw [escapeBreaks, unescapeBreaks_cons, ih]
      · rw [head?_escapeBreaks]
        exact not_break_of_other plain
      · simpa using feed
  | case3 => rfl

theorem unescapeBreaks_eq_self_iff {text : List Char} :
    unescapeBreaks text = text ↔ ¬ HasBreak text := by
  fun_induction unescapeBreaks text with
  | case1 rest => simp [hasBreak_cons]
  | case2 c rest plain ih => simp [hasBreak_cons, not_break_of_other plain, ih]
  | case3 => simp [not_hasBreak_nil]

theorem head?_tokenChars {text : List Char} :
    (tokenChars text).head? = some 'n' ↔ (TokenDump.withoutBreaks text).head? = some 'n' := by
  fun_induction tokenChars text with
  | case1 => rfl
  | case2 rest => simp [TokenDump.withoutBreaks]
  | case3 c rest _ broken ih =>
    rw [ih]
    rcases broken with rfl | rfl <;> simp [TokenDump.withoutBreaks]
  | case4 c rest _ kept =>
    obtain ⟨noReturn, noFeed⟩ := not_or.mp kept
    simp [TokenDump.withoutBreaks, noReturn, noFeed]

theorem hasBreak_tokenChars {text : List Char} :
    HasBreak (tokenChars text) ↔ HasBreak (TokenDump.withoutBreaks text) := by
  fun_induction tokenChars text with
  | case1 => rfl
  | case2 rest ih =>
    have same : TokenDump.withoutBreaks ('\'' :: rest) = '\'' :: TokenDump.withoutBreaks rest := by
      simp [TokenDump.withoutBreaks]
    simp [same, hasBreak_cons, ih]
  | case3 c rest _ broken ih =>
    rw [ih]
    rcases broken with rfl | rfl <;> simp [TokenDump.withoutBreaks]
  | case4 c rest _ kept ih =>
    obtain ⟨noReturn, noFeed⟩ := not_or.mp kept
    have same : TokenDump.withoutBreaks (c :: rest) = c :: TokenDump.withoutBreaks rest := by
      simp [TokenDump.withoutBreaks, noReturn, noFeed]
    rw [same, hasBreak_cons, hasBreak_cons, head?_tokenChars, ih]

end TreeDump

mutual

/-- The rule names of a tree and its token texts as a dump shows them, without line breaks. -/
def ParseTree.labels : ParseTree → List (List Char)
  | .rule name children => name.toList :: labelsOfAll children
  | .token text => [TokenDump.withoutBreaks text.toList]

def ParseTree.labelsOfAll : List ParseTree → List (List Char)
  | [] => []
  | tree :: trees => tree.labels ++ labelsOfAll trees

end

namespace TreeDump

mutual

theorem hasBreak_treeChars (indent level : Nat) (tree : ParseTree) :
    HasBreak (treeChars indent level tree) ↔ ∃ label ∈ tree.labels, HasBreak label := by
  match tree with
  | .rule name children =>
    have below := hasBreak_childrenChars indent (level + 1) children
    have margin := not_hasBreak_margin (level * indent)
    simp [treeChars, ParseTree.labels, hasBreak_append, hasBreak_append_closing, hasBreak_cons,
      below, margin]
  | .token text =>
    have margin := not_hasBreak_margin (level * indent)
    simp [treeChars, ParseTree.labels, hasBreak_append, hasBreak_cons, margin, hasBreak_tokenChars,
      not_hasBreak_nil]
termination_by structural tree

theorem hasBreak_childrenChars (indent level : Nat) (trees : List ParseTree) :
    HasBreak (childrenChars indent level trees) ↔
      ∃ label ∈ ParseTree.labelsOfAll trees, HasBreak label := by
  match trees with
  | [] => simp [childrenChars, ParseTree.labelsOfAll, not_hasBreak_nil]
  | tree :: trees =>
    have first := hasBreak_treeChars indent level tree
    have others := hasBreak_childrenChars indent level trees
    simp [childrenChars, ParseTree.labelsOfAll, hasBreak_append, hasBreak_cons, first, others,
      or_and_right, exists_or]
termination_by structural trees

end

end TreeDump

theorem resultEvent_renderOnLine (indent : Nat) (tree : ParseTree) :
    resultEvent ("Tree " ++ TreeDump.renderOnLine indent tree) =
      .tree (String.ofList (TreeDump.unescapeBreaks (TreeDump.render indent tree).toList)) := by
  rw [resultEvent_tree, TreeDump.renderOnLine, TreeDump.render, String.toList_ofList,
    String.toList_ofList, TreeDump.unescapeBreaks_escapeBreaks]

/-- A tree that is printed on a line is stored and shown as its dump with the pairs in it read. That is
the dump itself unless a rule name or a token text has a backslash with an `n` behind it. -/
theorem Transcript.tree_line (output : Transcript) (indent : Nat) (tree : ParseTree) :
    let dump := TreeDump.render indent tree
    let stored := String.ofList (TreeDump.unescapeBreaks dump.toList)
    let after := output.line .out ("Tree " ++ TreeDump.renderOnLine indent tree)
    after = output.receive (.tree stored) ∧ after.artifacts.tree = some stored ∧
      after.events = output.observer.notify output.events (.tree stored) ∧
      (stored = dump ↔ ∀ label ∈ tree.labels, ¬ TreeDump.HasBreak label) := by
  intro dump stored after
  have received : after = output.receive (.tree stored) :=
    congrArg output.receive (resultEvent_renderOnLine indent tree)
  refine ⟨received, by rw [received]; rfl, by rw [received]; rfl, ?_⟩
  have same : stored = dump ↔ TreeDump.unescapeBreaks dump.toList = dump.toList := by
    rw [← String.ofList_inj, String.ofList_toList]
  have chars : dump.toList = TreeDump.treeChars indent 0 tree := String.toList_ofList
  rw [same, TreeDump.unescapeBreaks_eq_self_iff, chars, TreeDump.hasBreak_treeChars]
  simp only [not_exists, not_and]

/-- The text of a token that is written with an escape of its own comes back broken in two. -/
theorem Transcript.tree_line_breaks_token :
    let tree : ParseTree := .rule "value" [.token "\"a\\n\""]
    let output := start none .parserMessage .listening
    let after := output.line .out ("Tree " ++ TreeDump.renderOnLine 2 tree)
    TreeDump.render 2 tree = "(value\n  '\"a\\n\"'\n)" ∧
      after.artifacts.tree = some "(value\n  '\"a\n\"'\n)" ∧
      after.events = [.tree "(value\n  '\"a\n\"'\n)"] := by
  decide

end GrammarFlow
