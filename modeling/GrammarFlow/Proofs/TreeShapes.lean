import GrammarFlow.Transcript.TokenDump
import GrammarFlow.Transcript.TreeDump

/-!
A tree dump shows one tree. The first visible character of a line tells whether the line opens a rule, closes one
or holds a token, and neither a rule's name nor a token goes on behind its line, so a dump can be read back line
by line. The indent is of no help in that and need not be there. Only the line breaks in token texts are lost.
-/

namespace GrammarFlow

namespace ParseTree

mutual

def withoutBreaks : ParseTree → ParseTree
  | .rule name children => .rule name (allWithoutBreaks children)
  | .token text => .token (String.ofList (TokenDump.withoutBreaks text.toList))

def allWithoutBreaks : List ParseTree → List ParseTree
  | [] => []
  | tree :: trees => tree.withoutBreaks :: allWithoutBreaks trees

end

mutual

def ruleNames : ParseTree → List String
  | .rule name children => name :: allRuleNames children
  | .token _ => []

def allRuleNames : List ParseTree → List String
  | [] => []
  | tree :: trees => tree.ruleNames ++ allRuleNames trees

end

end ParseTree

namespace TreeDump

section Lines
variable {line other rest later : List Char}

theorem line_inj (here : '\n' ∉ line) (there : '\n' ∉ other)
    (same : line ++ '\n' :: rest = other ++ '\n' :: later) : line = other ∧ rest = later := by
  induction line generalizing other with
  | nil =>
    cases other with
    | nil => exact ⟨rfl, (List.cons.inj same).2⟩
    | cons d other => exact absurd ((List.cons.inj same).1 ▸ List.mem_cons_self) there
  | cons c line ih =>
    cases other with
    | nil => exact absurd ((List.cons.inj same).1 ▸ List.mem_cons_self) here
    | cons d other =>
      obtain ⟨rfl, behind⟩ := List.cons.inj same
      obtain ⟨rfl, rest⟩ := ih (fun inside => here (List.mem_cons_of_mem _ inside))
        (fun inside => there (List.mem_cons_of_mem _ inside)) behind
      exact ⟨rfl, rest⟩

theorem margin_inj {width breadth : Nat} {c d : Char} (visible : c ≠ ' ') (seen : d ≠ ' ')
    (same : List.replicate width ' ' ++ c :: rest = List.replicate breadth ' ' ++ d :: later) :
    c = d ∧ rest = later := by
  induction width generalizing breadth with
  | zero =>
    cases breadth with
    | zero => exact List.cons.inj same
    | succ breadth => exact absurd (List.cons.inj same).1 visible
  | succ width ih =>
    cases breadth with
    | zero => exact absurd (List.cons.inj same).1.symm seen
    | succ breadth => exact ih (List.cons.inj same).2

end Lines

section Tokens

theorem lineFeed_not_mem_tokenChars (text : List Char) : '\n' ∉ tokenChars text := by
  fun_induction tokenChars text with
  | case1 => simp
  | case2 rest ih => simpa using ih
  | case3 c rest _ broken ih => exact ih
  | case4 c rest _ kept ih =>
    obtain ⟨-, noFeed⟩ := not_or.mp kept
    simpa [eq_comm, noFeed] using ih

/-- A quote in a text is never its first character in a dump: a backslash stands before it. -/
theorem head?_tokenChars_ne_quote (text : List Char) : (tokenChars text).head? ≠ some '\'' := by
  fun_induction tokenChars text with
  | case1 | case2 => simp
  | case3 c rest _ broken ih => exact ih
  | case4 c rest plain kept =>
    rintro ⟨⟩
    exact plain rfl

def unescapeQuotes : List Char → List Char
  | '\\' :: '\'' :: rest => '\'' :: unescapeQuotes rest
  | c :: rest => c :: unescapeQuotes rest
  | [] => []

/-- Backslashes of a text stay as they are, and no two texts are dumped alike for that. -/
theorem unescapeQuotes_tokenChars (text : List Char) :
    unescapeQuotes (tokenChars text) = TokenDump.withoutBreaks text := by
  fun_induction tokenChars text with
  | case1 => rfl
  | case2 rest ih => simp [unescapeQuotes, ih, TokenDump.withoutBreaks]
  | case3 c rest _ broken ih =>
    rw [ih]
    rcases broken with rfl | rfl <;> simp [TokenDump.withoutBreaks]
  | case4 c rest _ kept ih =>
    obtain ⟨noReturn, noFeed⟩ := not_or.mp kept
    rw [unescapeQuotes, ih]
    · simp [TokenDump.withoutBreaks, noReturn, noFeed]
    · intro later _ quoted
      exact head?_tokenChars_ne_quote rest (by rw [quoted]; rfl)

theorem tokenChars_withoutBreaks (text : List Char) :
    tokenChars (TokenDump.withoutBreaks text) = tokenChars text := by
  fun_induction tokenChars text with
  | case1 => rfl
  | case2 rest ih =>
    rw [← ih]
    rfl
  | case3 c rest _ broken ih =>
    rw [← ih]
    rcases broken with rfl | rfl <;> simp [TokenDump.withoutBreaks]
  | case4 c rest plain kept ih =>
    obtain ⟨noReturn, noFeed⟩ := not_or.mp kept
    have same : TokenDump.withoutBreaks (c :: rest) = c :: TokenDump.withoutBreaks rest := by
      simp [TokenDump.withoutBreaks, noReturn, noFeed]
    rw [same, tokenChars, if_neg kept, ih]
    exact plain

end Tokens

mutual

theorem treeChars_withoutBreaks (indent level : Nat) (tree : ParseTree) :
    treeChars indent level tree.withoutBreaks = treeChars indent level tree := by
  match tree with
  | .rule name children =>
    simp only [ParseTree.withoutBreaks, treeChars,
      childrenChars_withoutBreaks indent (level + 1) children]
  | .token text =>
    simp only [ParseTree.withoutBreaks, treeChars, String.toList_ofList, tokenChars_withoutBreaks]
termination_by structural tree

theorem childrenChars_withoutBreaks (indent level : Nat) (trees : List ParseTree) :
    childrenChars indent level (ParseTree.allWithoutBreaks trees) = childrenChars indent level trees := by
  match trees with
  | [] => rfl
  | tree :: trees =>
    simp only [ParseTree.allWithoutBreaks, childrenChars, treeChars_withoutBreaks indent level tree,
      childrenChars_withoutBreaks indent level trees]
termination_by structural trees

end

theorem treeChars_opens (indent level : Nat) (tree : ParseTree) :
    ∃ c later, treeChars indent level tree = List.replicate (level * indent) ' ' ++ c :: later ∧
      (c = '(' ∨ c = '\'') := by
  cases tree
  all_goals simp only [treeChars, List.append_assoc, List.cons_append]
  case rule => exact ⟨'(', _, rfl, .inl rfl⟩
  case token => exact ⟨'\'', _, rfl, .inr rfl⟩

theorem treeChars_ne_closing {indent level width : Nat} {tree : ParseTree} {rest later : List Char}
    (same : treeChars indent level tree ++ rest = List.replicate width ' ' ++ ')' :: later) : False := by
  obtain ⟨c, inside, begins, opening⟩ := treeChars_opens indent level tree
  rw [begins, List.append_assoc, List.cons_append] at same
  have closing : c = ')' := (margin_inj (by rcases opening with rfl | rfl <;> decide) (by decide) same).1
  rcases opening with rfl | rfl <;> simp at closing

mutual

theorem treeChars_inj {indent level : Nat} {tree other : ParseTree} {rest later : List Char}
    (here : ∀ name ∈ tree.ruleNames, '\n' ∉ name.toList)
    (there : ∀ name ∈ other.ruleNames, '\n' ∉ name.toList)
    (same : treeChars indent level tree ++ '\n' :: rest = treeChars indent level other ++ '\n' :: later) :
    tree.withoutBreaks = other.withoutBreaks ∧ rest = later := by
  match tree, other with
  | .rule name children, .rule title others =>
    rw [ParseTree.ruleNames, List.forall_mem_cons] at here there
    simp only [treeChars, List.append_assoc, List.cons_append, List.nil_append] at same
    obtain ⟨-, named⟩ := margin_inj (by decide) (by decide) same
    obtain ⟨titled, below⟩ := line_inj here.1 there.1 named
    obtain ⟨children, rest⟩ := childrenChars_inj here.2 there.2 below
    rw [ParseTree.withoutBreaks, ParseTree.withoutBreaks, String.toList_inj.mp titled, children]
    exact ⟨rfl, rest⟩
  | .token text, .token word =>
    simp only [treeChars, List.append_assoc, List.cons_append, List.nil_append] at same
    obtain ⟨-, quoted⟩ := margin_inj (by decide) (by decide) same
    have closed (text : List Char) : '\n' ∉ tokenChars text ++ ['\''] := by
      simpa using lineFeed_not_mem_tokenChars text
    obtain ⟨shown, rest⟩ := line_inj (closed _) (closed _) (by simpa using quoted)
    have texts := congrArg unescapeQuotes (List.append_cancel_right shown)
    rw [unescapeQuotes_tokenChars, unescapeQuotes_tokenChars] at texts
    rw [ParseTree.withoutBreaks, ParseTree.withoutBreaks, texts]
    exact ⟨rfl, rest⟩
  | .rule name children, .token word =>
    simp only [treeChars, List.append_assoc, List.cons_append] at same
    exact absurd (margin_inj (by decide) (by decide) same).1 (by decide)
  | .token text, .rule title others =>
    simp only [treeChars, List.append_assoc, List.cons_append] at same
    exact absurd (margin_inj (by decide) (by decide) same).1 (by decide)
termination_by structural tree

/-- The children of a rule end where the rule is closed. -/
theorem childrenChars_inj {indent level width : Nat} {trees others : List ParseTree} {rest later : List Char}
    (here : ∀ name ∈ ParseTree.allRuleNames trees, '\n' ∉ name.toList)
    (there : ∀ name ∈ ParseTree.allRuleNames others, '\n' ∉ name.toList)
    (same : childrenChars indent level trees ++ (List.replicate width ' ' ++ ')' :: '\n' :: rest) =
      childrenChars indent level others ++ (List.replicate width ' ' ++ ')' :: '\n' :: later)) :
    ParseTree.allWithoutBreaks trees = ParseTree.allWithoutBreaks others ∧ rest = later := by
  match trees, others with
  | [], [] =>
    obtain ⟨-, rest⟩ := margin_inj (by decide) (by decide) same
    exact ⟨rfl, (List.cons.inj rest).2⟩
  | [], other :: others =>
    simp only [childrenChars, List.append_assoc, List.cons_append, List.nil_append] at same
    exact (treeChars_ne_closing same.symm).elim
  | tree :: trees, [] =>
    simp only [childrenChars, List.append_assoc, List.cons_append, List.nil_append] at same
    exact (treeChars_ne_closing same).elim
  | tree :: trees, other :: others =>
    rw [ParseTree.allRuleNames, List.forall_mem_append] at here there
    simp only [childrenChars, List.append_assoc, List.cons_append] at same
    obtain ⟨first, behind⟩ := treeChars_inj here.1 there.1 same
    obtain ⟨further, rest⟩ := childrenChars_inj here.2 there.2 behind
    rw [ParseTree.allWithoutBreaks, ParseTree.allWithoutBreaks, first, further]
    exact ⟨rfl, rest⟩
termination_by structural trees

end

/-- Two trees are dumped alike just when they differ in nothing but line breaks within tokens. -/
theorem render_eq_iff (indent : Nat) {tree other : ParseTree}
    (here : ∀ name ∈ tree.ruleNames, '\n' ∉ name.toList)
    (there : ∀ name ∈ other.ruleNames, '\n' ∉ name.toList) :
    render indent tree = render indent other ↔ tree.withoutBreaks = other.withoutBreaks := by
  rw [render, render, String.ofList_inj]
  constructor
  · intro same
    have lines : treeChars indent 0 tree ++ ['\n'] = treeChars indent 0 other ++ ['\n'] := by rw [same]
    exact (treeChars_inj here there lines).1
  · intro same
    rw [← treeChars_withoutBreaks indent 0 tree, same, treeChars_withoutBreaks]

/-- With no indent, a backslash before a quote is kept apart from a line break, and a token inside a rule from one
behind it. -/
theorem render_eq_iff_inside_rule :
    let tree : ParseTree := .rule "e" [.rule "e" [.token "\\'"]]
    let broken : ParseTree := .rule "e" [.rule "e" [.token "\\\r'\n"]]
    let other : ParseTree := .rule "e" [.rule "e" [], .token "\\'"]
    (∀ name ∈ tree.ruleNames, '\n' ∉ name.toList) ∧ (∀ name ∈ broken.ruleNames, '\n' ∉ name.toList) ∧
      (∀ name ∈ other.ruleNames, '\n' ∉ name.toList) ∧
      render 0 tree = render 0 broken ∧ render 0 tree ≠ render 0 other := by
  intro tree broken other
  have here : ∀ name ∈ tree.ruleNames, '\n' ∉ name.toList := by decide
  have there : ∀ name ∈ broken.ruleNames, '\n' ∉ name.toList := by decide
  have elsewhere : ∀ name ∈ other.ruleNames, '\n' ∉ name.toList := by decide
  refine ⟨here, there, elsewhere, (render_eq_iff 0 here there).mpr rfl, fun same => ?_⟩
  have shapes := (render_eq_iff 0 here elsewhere).mp same
  simp [tree, other, ParseTree.withoutBreaks, ParseTree.allWithoutBreaks] at shapes

end TreeDump

end GrammarFlow
