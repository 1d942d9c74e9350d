import GrammarFlow.Process.Lines

/-!
Reading lines from a stream while it is written. The bytes arrive in chunks of any size. A line is read up to its
line feed, or up to the end of the stream, before it is decoded; when nothing is left to be read, reading ends.
-/

namespace GrammarFlow

/-- Reads on to the end of a line of which some bytes have been read. -/
def readLine : (begun : List UInt8) → (chunks : List (List UInt8)) → List UInt8 × List (List UInt8)
  | begun, [] => (begun, [])
  | begun, chunk :: chunks =>
    match chunk.dropWhile (· ≠ 0x0a) with
    | [] => readLine (begun ++ chunk) chunks
    | feed :: rest => (begun ++ chunk.takeWhile (· ≠ 0x0a) ++ [feed], rest :: chunks)

theorem readLine_whole (begun : List UInt8) (chunks : List (List UInt8)) :
    (readLine begun chunks).1 ++ (readLine begun chunks).2.flatten = begun ++ chunks.flatten := by
  fun_induction readLine begun chunks with
  | case1 => rfl
  | case2 begun chunk chunks unended ih => rw [ih, List.flatten_cons, List.append_assoc]
  | case3 begun chunk chunks feed rest ended =>
    have parts := List.takeWhile_append_dropWhile (p := (· ≠ 0x0a)) (l := chunk)
    rw [ended] at parts
    calc begun ++ chunk.takeWhile (· ≠ 0x0a) ++ [feed] ++ (rest :: chunks).flatten
        = begun ++ (chunk.takeWhile (· ≠ 0x0a) ++ feed :: rest ++ chunks.flatten) := by simp
      _ = begun ++ (chunk :: chunks).flatten := by rw [parts, List.flatten_cons]

/-- The lines of the bytes that arrive. -/
def readLines (chunks : List (List UInt8)) : List String :=
  match _read : readLine [] chunks with
  | ([], _) => []
  | (byte :: line, rest) => String.ofList (trimLineEnd (Text.Utf8.decodeLossy (byte :: line))) :: readLines rest
termination_by chunks.flatten.length
decreasing_by
  have whole := congrArg List.length (readLine_whole [] chunks)
  simp only [_read, List.nil_append, List.length_append, List.length_cons] at whole
  omega

end GrammarFlow
