/-!
Replacing every occurrence of one text in another, from left to right and without overlaps.
-/

namespace GrammarFlow.Text

/-- `skip` characters still belong to an occurrence that has been replaced. -/
def replaceChars (needle substitute : List Char) : (skip : Nat) → List Char → List Char
  | _, [] => []
  | skip + 1, _ :: rest => replaceChars needle substitute skip rest
  | 0, c :: rest =>
    if needle.isPrefixOf (c :: rest) then
      substitute ++ replaceChars needle substitute (needle.length - 1) rest
    else c :: replaceChars needle substitute 0 rest

def replace (text needle substitute : String) : String :=
  String.ofList (replaceChars needle.toList substitute.toList 0 text.toList)

section
variable {needle substitute rest : List Char} {c : Char}

theorem replaceChars_skip (gone rest : List Char) :
    replaceChars needle substitute gone.length (gone ++ rest) = replaceChars needle substitute 0 rest := by
  induction gone with
  | nil => rfl
  | cons c gone ih => exact ih

theorem replaceChars_hit (rest : List Char) : replaceChars (c :: needle) substitute 0 (c :: needle ++ rest) =
    substitute ++ replaceChars (c :: needle) substitute 0 rest := by
  have here : (c :: needle).isPrefixOf (c :: (needle ++ rest)) = true :=
    List.isPrefixOf_iff_prefix.mpr (List.prefix_append (c :: needle) rest)
  rw [List.cons_append, replaceChars, if_pos here, List.length_cons, Nat.add_sub_cancel, replaceChars_skip]

theorem replaceChars_miss (notHere : ¬ needle <+: c :: rest) :
    replaceChars needle substitute 0 (c :: rest) = c :: replaceChars needle substitute 0 rest := by
  rw [replaceChars, if_neg (mt List.isPrefixOf_iff_prefix.mp notHere)]

/-- What does not have the first character of the replaced text is kept. -/
theorem replaceChars_plain {plain : List Char} (absent : c ∉ plain) (rest : List Char) :
    replaceChars (c :: needle) substitute 0 (plain ++ rest) =
      plain ++ replaceChars (c :: needle) substitute 0 rest := by
  induction plain with
  | nil => rfl
  | cons d plain ih =>
    have notHere : ¬ c :: needle <+: d :: (plain ++ rest) := fun here =>
      List.ne_of_not_mem_cons absent (List.cons_prefix_cons.mp here).1
    rw [List.cons_append, replaceChars_miss notHere, ih (List.not_mem_of_not_mem_cons absent), List.cons_append]

theorem replaceChars_flatMap {α : Type} {pieces : List α} {before after : α → List Char}
    (each : ∀ piece ∈ pieces, ∀ rest, replaceChars needle substitute 0 (before piece ++ rest) =
      after piece ++ replaceChars needle substitute 0 rest) :
    replaceChars needle substitute 0 (pieces.flatMap before) = pieces.flatMap after := by
  induction pieces with
  | nil => rfl
  | cons piece pieces ih =>
    obtain ⟨here, behind⟩ := List.forall_mem_cons.mp each
    rw [List.flatMap_cons, here, ih behind, List.flatMap_cons]

end

end GrammarFlow.Text
