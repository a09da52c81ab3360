import Lipogram.DecodeProgram
import Lipogram.Proofs.Layout
import Lipogram.Proofs.RoundTrip
import Mathlib.Data.List.TakeWhile

/-!
# Trimming of sources

Blanks at the ends of a source are no lexemes, so a source has the lexemes that it has without them
(`ofSource_trim`). The decoder, which trims its source, gives the text that the source as it stands
evaluates to.
-/

set_option autoImplicit false

namespace Lipogram

/-! ## Trimmed texts -/

namespace Text

/-- Trimming takes off blanks in front and behind, and nothing else. -/
theorem trimChars_split (cs : List Char) :
    ∃ front back, cs = front ++ (trimChars cs ++ back) ∧ (∀ c ∈ front, isBlank c = true) ∧
      ∀ c ∈ back, isBlank c = true := by
  have blank {ds : List Char} {c : Char} (mem : c ∈ ds.takeWhile isBlank) : isBlank c = true :=
    List.mem_takeWhile_imp mem
  refine ⟨cs.takeWhile isBlank,
    (((cs.dropWhile isBlank).reverse).takeWhile isBlank).reverse, ?_, fun c mem => blank mem,
    fun c mem => blank (List.mem_reverse.mp mem)⟩
  unfold trimChars
  rw [← List.reverse_append, List.takeWhile_append_dropWhile, List.reverse_reverse,
    List.takeWhile_append_dropWhile]

end Text

/-! ## Lexemes of trimmed sources -/

namespace Lexeme

/-- Blanks in front of lexemes are passed. -/
theorem scan_blank {c : Char} (h : Text.isBlank c = true) (cs : List Char) :
    scan [] (c :: cs) = scan [] cs := by
  have no_start := starts_eq_false_of_ends (Reader.continues_eq_false_of_blank h)
  simp [scan, no_start, h, scan.ended]

/-- Blanks in front of a source are no lexemes. -/
theorem scan_blanks {bs : List Char} (h : ∀ b ∈ bs, Text.isBlank b = true) (cs : List Char) :
    scan [] (bs ++ cs) = scan [] cs := by
  induction bs with
  | nil => rfl
  | cons b bs ih =>
    rw [List.cons_append, scan_blank (h b (by simp))]
    exact ih (fun c mem => h c (by simp [mem]))

/-- Blanks behind a source end the last word, which the end of the source does as well. -/
theorem scan_append_blanks {bs : List Char} (h : ∀ b ∈ bs, Text.isBlank b = true)
    (letters cs : List Char) : scan letters (cs ++ bs) = scan letters cs := by
  have ends : EndsWord bs := by
    intro b first
    exact Reader.continues_eq_false_of_blank (h b (List.mem_of_mem_head? first))
  have behind : scan [] bs = [] := by
    have scanned := scan_blanks h []
    rw [List.append_nil] at scanned
    exact scanned
  rw [scan_append ends, behind, List.append_nil]

/-- A source has the lexemes that it has as a line. -/
theorem ofSource_line (source : String) : ofSource (source ++ "\n") = ofSource source := by
  have blank : ∀ c ∈ "\n".toList, Text.isBlank c = true := by
    intro c mem
    obtain rfl : c = '\n' := by simpa using mem
    rfl
  rw [ofSource, ofSource, String.toList_append, scan_append_blanks blank]

/-- A source has the lexemes that it has without the blanks at its ends. -/
theorem ofSource_trim (source : String) : ofSource (Text.trim source) = ofSource source := by
  obtain ⟨front, back, whole, front_blank, back_blank⟩ := Text.trimChars_split source.toList
  have scanned : scan [] source.toList = scan [] (Text.trimChars source.toList) := by
    calc scan [] source.toList
        = scan [] (front ++ (Text.trimChars source.toList ++ back)) := congrArg (scan []) whole
      _ = scan [] (Text.trimChars source.toList ++ back) := scan_blanks front_blank _
      _ = scan [] (Text.trimChars source.toList) := scan_append_blanks back_blank _ _
  rw [ofSource, ofSource, Text.trim, String.toList_ofList, scanned]

end Lexeme

/-! ## Values of trimmed sources -/

/-- Sources with the same lexemes evaluate to the same values. -/
theorem evaluate_eq_ok_of_lexemes {source other : String} {v : Value}
    (h : Lexeme.ofSource source = Lexeme.ofSource other) :
    evaluate source = .ok v ↔ evaluate other = .ok v := by
  rw [← placeless_eq_ok, evaluate_lexemes, h, ← evaluate_lexemes, placeless_eq_ok]

/-- A line evaluates to what stands on it. -/
theorem evaluateText_line {source text : String} :
    evaluateText (source ++ "\n") = .ok text ↔ evaluateText source = .ok text := by
  rw [evaluateText_eq_ok, evaluateText_eq_ok,
    evaluate_eq_ok_of_lexemes (Lexeme.ofSource_line source)]

/-- The decoder gives the text that the source evaluates to, if it evaluates to one. -/
theorem DecodeProgram.decode_eq_ok {source text : String} :
    decode source = .ok text ↔ evaluateText source = .ok text := by
  unfold decode
  rw [evaluateText_eq_ok, evaluateText_eq_ok,
    evaluate_eq_ok_of_lexemes (Lexeme.ofSource_trim source)]

end Lipogram
