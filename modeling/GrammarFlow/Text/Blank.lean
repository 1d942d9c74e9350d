import GrammarFlow.Text.CharRange

/-!
Blank characters: the White_Space property, which has the line and paragraph separators and the
no-break space beside the ASCII blanks. Trimming removes them from the ends of a text.
-/

namespace GrammarFlow.Text

def blanks : List CharRange :=
  [(0x9, 0xd), (0x20, 0x20), (0x85, 0x85), (0xa0, 0xa0), (0x1680, 0x1680), (0x2000, 0x200a),
   (0x2028, 0x2029), (0x202f, 0x202f), (0x205f, 0x205f), (0x3000, 0x3000)]

def isBlank (c : Char) : Bool := inRanges blanks c

def trimEndChars (blank : Char → Bool) (chars : List Char) : List Char :=
  (chars.reverse.dropWhile blank).reverse

def trimChars (chars : List Char) : List Char :=
  trimEndChars isBlank (chars.dropWhile isBlank)

def trim (text : String) : String := String.ofList (trimChars text.toList)

section
variable {kept ending : List Char}

theorem trimEndChars_append {blank : Char → Bool} (visible : ∀ c ∈ kept, blank c = false)
    (ends : ∀ c ∈ ending, blank c = true) : trimEndChars blank (kept ++ ending) = kept := by
  have trimmed : kept.reverse.dropWhile blank = kept.reverse := by
    cases reversed : kept.reverse with
    | nil => rfl
    | cons last front =>
      have member : last ∈ kept := List.mem_reverse.mp (reversed ▸ List.mem_cons_self)
      exact List.dropWhile_cons_of_neg (by simp [visible last member])
  rw [trimEndChars, List.reverse_append, List.dropWhile_append_of_pos (by simpa using ends), trimmed,
    List.reverse_reverse]

theorem trimChars_append (visible : ∀ c ∈ kept, isBlank c = false) (ends : ∀ c ∈ ending, isBlank c = true) :
    trimChars (kept ++ ending) = kept := by
  cases kept with
  | nil =>
    have nothing : (ending ++ []).dropWhile isBlank = [] := List.dropWhile_append_of_pos ends
    rw [List.append_nil] at nothing
    rw [List.nil_append, trimChars, nothing]
    rfl
  | cons c kept =>
    have first : ((c :: kept) ++ ending).dropWhile isBlank = (c :: kept) ++ ending :=
      List.dropWhile_cons_of_neg (by simp [visible c List.mem_cons_self])
    rw [trimChars, first, trimEndChars_append visible ends]

end

end GrammarFlow.Text
