import GrammarFlow.Proofs.BoundedReports
import GrammarFlow.Proofs.CopiedActions

/-! A compiler error inside an action that was copied unchanged is shown at the very character of the
grammar, however many actions the generated file has. -/

namespace GrammarFlow

/-- A region that holds the text of its fragment. Its lines end in line feeds only. -/
structure Region.Verbatim (fragments : List Span) (region : Region) : Prop where
  copied : fragments[region.number]?.map (fun fragment => fragment.text.toList) = some region.body
  noReturn : '\r' ∉ region.body

theorem Region.Verbatim.fragment {fragments : List Span} {region : Region} (copy : region.Verbatim fragments) :
    ∃ grammar, fragments[region.number]? = some grammar ∧ grammar.text.toList = region.body :=
  Option.map_eq_some_iff.mp copy.copied

namespace Compilation

theorem sourceOf?_mapped {maps : FragmentMaps} {file : FragmentMap} {name : String} (files : FileStore)
    (directory : String) (mapped : maps.lookup name = some file) :
    sourceOf? maps files directory name = some file.source := by
  simp only [sourceOf?, mapped]

/-- In a file in memory a place that there is can be computed in 64 bits. -/
theorem checkedDiagnose_mapped {format : ReportFormat} {maps : FragmentMaps} {file : FragmentMap} {report : Report}
    {line path : String} {number offset : Nat} (files : FileStore) (directory : String)
    (read : format.read? line = some report) (about : report.file = some path)
    (mapped : maps.lookup (Path.shownName path) = some file) (atLine : report.line = some number)
    (place : file.source.offsetAt? ⟨number, report.column.getD 1⟩ = some offset)
    (addressable : file.source.Addressable) (held : ¬format.Exceeds line) :
    checkedDiagnose format maps directory files line = .ok (diagnose format maps directory files line) := by
  refine (exact_checkedDiagnose ..).within ?_
  rintro (beyond | ⟨other, same, path', source, row, about', found, atRow, beyond⟩)
  · exact held beyond
  · cases read.symm.trans same
    cases about.symm.trans about'
    cases atLine.symm.trans atRow
    cases (sourceOf?_mapped files directory mapped).symm.trans found
    exact addressable.not_exceeds place beyond

theorem locate?_mapped {maps : FragmentMaps} {file : FragmentMap} {report : Report} {path : String}
    {number offset : Nat} (files : FileStore) (directory : String)
    (about : report.file = some path) (mapped : maps.lookup (Path.shownName path) = some file)
    (atLine : report.line = some number)
    (place : file.source.offsetAt? ⟨number, report.column.getD 1⟩ = some offset) :
    locate? maps files directory report =
      some ((file.grammarSpan? offset).getD (file.source.clampedSpan offset offset)) := by
  have source := sourceOf?_mapped files directory mapped
  simp only [locate?, Option.bind_eq_bind, Option.bind_some, Option.pure_def, about, atLine, source, place, mapped]

theorem offsetAt?_reported {file : FragmentMap} {report : Report} {offset : Nat}
    (column : report.column = some (file.source.positionAt offset).column) (inside : offset ≤ file.source.length) :
    file.source.offsetAt? ⟨(file.source.positionAt offset).line, report.column.getD 1⟩ = some offset := by
  rw [column]
  exact file.source.offsetAt?_positionAt offset inside

theorem locate?_grammarSpan {maps : FragmentMaps} {file : FragmentMap} {report : Report} {path : String}
    {offset : Nat} {span : Span} (files : FileStore) (directory : String)
    (about : report.file = some path) (mapped : maps.lookup (Path.shownName path) = some file)
    (line : report.line = some (file.source.positionAt offset).line)
    (column : report.column = some (file.source.positionAt offset).column)
    (inside : offset ≤ file.source.length) (inGrammar : file.grammarSpan? offset = some span) :
    locate? maps files directory report = some span := by
  rw [locate?_mapped files directory about mapped line (offsetAt?_reported column inside), inGrammar]
  rfl

/-- Errors in copied actions are located in the fragments that the actions were copied from. -/
theorem error_in_copied_action {marks : MarkStyle} (noUnderscore : '_' ∉ marks.opening.toList)
    (name : String) {fragments : List Span} {regions : List Region} {tail : List Char}
    (readable : ∀ region ∈ regions, region.Readable marks)
    (verbatim : ∀ region ∈ regions, region.Verbatim fragments)
    (separated : ∀ region ∈ regions.tail, region.before ≠ [])
    (unmarked : ¬ marks.openLead <:+: tail) :
    ∃ file, FragmentMap.strip name (String.ofList (marks.markRegions regions tail)) marks fragments = .ok file ∧
      file.source = ⟨name, String.ofList (joinRegions regions tail)⟩ ∧
      ∀ earlier region later, regions = earlier ++ region :: later →
        ∃ grammar, fragments[region.number]? = some grammar ∧ ∀ inner ≤ region.body.length,
          ∀ (format : ReportFormat) (maps : FragmentMaps) (directory : String) (files : FileStore)
            (line path : String) (report : Report),
            let position := file.source.positionAt ((joinRegions earlier region.before).length + inner)
            format.read? line = some report → report.file = some path →
            maps.lookup (Path.shownName path) = some file →
            report.line = some position.line → report.column = some position.column →
            ∃ span, diagnose format maps directory files line =
                .located span report.message report.severity .parserCompiled ∧
              (file.source.Addressable → ¬format.Exceeds line → checkedDiagnose format maps directory files line =
                .ok (diagnose format maps directory files line)) ∧
              span.source = grammar.source ∧ span.start = grammar.start + inner := by
  have known : ∀ region ∈ regions, region.number < fragments.length := by
    intro region member
    obtain ⟨grammar, found, -⟩ := (verbatim region member).fragment
    exact (List.getElem?_eq_some_iff.mp found).1
  refine ⟨_, FragmentMap.strip_markRegions noUnderscore name readable known unmarked, rfl, ?_⟩
  rintro earlier region later rfl
  have copy := verbatim region (by simp)
  obtain ⟨grammar, found, copied⟩ := copy.fragment
  refine ⟨grammar, found, ?_⟩
  intro inner inside format maps directory files line path report position read about mapped atLine atColumn
  have bounded : (joinRegions earlier region.before).length + inner ≤
      Source.length ⟨name, String.ofList (joinRegions (earlier ++ region :: later) tail)⟩ := by
    rw [Source.length_ofList, joinRegions_append, List.length_append, List.length_append]
    omega
  have inGrammar := FragmentMap.grammarSpan?_copy name tail found copied copy.noReturn inside separated
  have located := locate?_grammarSpan files directory about mapped atLine atColumn bounded inGrammar
  have within : grammar.start + inner ≤ grammar.source.length := by
    have width := grammar.length_text
    have bound := grammar.inside
    rw [copied] at width
    omega
  refine ⟨grammar.source.clampedSpan (grammar.start + inner) (grammar.start + inner), ?_, ?_, rfl,
    grammar.source.clampedSpan_start _ within⟩
  · simp only [diagnose, read, located, diagnosis]
  · exact checkedDiagnose_mapped files directory read about mapped atLine (offsetAt?_reported atColumn bounded)

/-- The second copy of an action of two lines; the error is on its second line. -/
theorem error_in_second_copy :
    let grammar : Source := ⟨"E.g4", "e : \x7bint x;\n  x = y;\x7d ;"⟩
    let action : Span := ⟨grammar, 5, 15, by decide⟩
    let body := "int x;\n  x = y;".toList
    let regions : List Region := [⟨"e() \x7b".toList, 0, body⟩, ⟨"\x7d f() \x7b".toList, 0, body⟩]
    let marks : MarkStyle := default
    let format : ReportFormat := ⟨.sequence [.group "file" (.plus false (.one .notLineFeed)), .text ":",
      .group "line" .digits, .text ":", .group "column" .digits, .text ": ",
      .group "message" (.plus true (.one .notLineFeed))], 1⟩
    ∃ file, FragmentMap.strip "P.java" (String.ofList (marks.markRegions regions ['\x7d'])) marks [action] =
        .ok file ∧
      ∃ span, checkedDiagnose format [("P.java", file)] "out" default "P.java:3:7: cannot find symbol" =
          .ok (.located span "cannot find symbol" .error .parserCompiled) ∧
        span.source = grammar ∧ span.start = 18 := by
  intro grammar action body regions marks format
  have readable : ∀ region ∈ regions, region.Readable marks :=
    List.forall_mem_cons.mpr ⟨⟨by decide, by decide +kernel, by decide +kernel⟩,
      List.forall_mem_cons.mpr ⟨⟨by decide, by decide +kernel, by decide +kernel⟩, by simp⟩⟩
  have verbatim : ∀ region ∈ regions, region.Verbatim [action] :=
    List.forall_mem_cons.mpr ⟨⟨by decide +kernel, by decide +kernel⟩,
      List.forall_mem_cons.mpr ⟨⟨by decide +kernel, by decide +kernel⟩, by simp⟩⟩
  have unmarked : ¬ marks.openLead <:+: ['\x7d'] := by decide +kernel
  obtain ⟨file, stripped, source, reports⟩ := error_in_copied_action (by decide) "P.java" readable verbatim
    (by decide) unmarked
  obtain ⟨fragment, found, located⟩ := reports [regions[0]] regions[1] [] rfl
  obtain rfl : action = fragment := Option.some.inj found
  have position : file.source.positionAt ((joinRegions [regions[0]] regions[1].before).length + 13) =
      ⟨3, 7⟩ := by
    rw [source]
    decide +kernel
  have read : format.read? "P.java:3:7: cannot find symbol" =
      some ⟨some "P.java", some 3, some 7, .error, "cannot find symbol"⟩ := by decide +kernel
  have name : Path.shownName "P.java" = "P.java" := by decide +kernel
  have mapped : [("P.java", file)].lookup (Path.shownName "P.java") = some file := by simp [name]
  obtain ⟨span, diagnosed, computed, place⟩ := located 13 (by decide) format [("P.java", file)] "out" default _
    "P.java" _ read rfl mapped (by rw [position]) (by rw [position])
  have addressable : file.source.Addressable := by
    rw [source]
    decide +kernel
  refine ⟨file, stripped, span, ?_, place⟩
  rw [computed addressable (ReportFormat.not_exceeds read rfl (by decide)), diagnosed]

end Compilation

end GrammarFlow
