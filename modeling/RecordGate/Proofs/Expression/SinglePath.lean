import RecordGate.Proofs.Expression.Juxtaposition
import RecordGate.Proofs.Path.Characters

/-!
# Texts of one path

A rule that is cut into a single path and nothing else is the text of that path with blanks around it.  So it
reads as the same path wherever paths are read by themselves, and as a rule it stands for what the path leads to.

Main statements: `ofChars?_of_tokens`, `parse_of_tokens_path`.
-/

namespace RecordGate.Expression

open RecordGate.Text

theorem isBlank_of_scan_eq_nil {offset skip : Nat} {cs : List Char} (h : scan offset skip cs = .ok []) :
    ∀ c ∈ cs.drop skip, isBlank c = true := by
  induction cs generalizing offset skip with
  | nil => simp
  | cons c rest ih =>
    cases skip with
    | succ skip =>
      rw [scan] at h
      exact ih h
    | zero =>
      by_cases hc : isBlank c = true
      · rw [scan, if_pos hc] at h
        intro d hd
        rcases List.mem_cons.1 hd with rfl | hd
        · exact hc
        · exact ih h d hd
      · rw [Bool.not_eq_true] at hc
        obtain ⟨t, taken, ts, -, -, hts⟩ := scan_cons_eq_ok hc h
        cases hts

theorem ofChars?_of_word? {cs : List Char} {p : Path} (h : word? cs = some (.path p)) :
    Path.ofChars? cs = some p := by
  unfold word? at h
  split at h
  next => cases h
  split at h
  next => cases h
  split at h
  next => cases h
  next =>
    obtain ⟨q, hq, heq⟩ := Option.map_eq_some_iff.1 h
    rw [hq, Token.path.inj heq]

theorem exists_word_of_scan {start offset : Nat} {cs : List Char} {p : Path}
    (h : scan start 0 cs = .ok [⟨.path p, offset⟩]) :
    ∃ before word after, cs = before ++ (word ++ after) ∧ (∀ c ∈ before, isBlank c = true) ∧
      (∀ c ∈ after, isBlank c = true) ∧ Path.ofChars? word = some p := by
  induction cs generalizing start with
  | nil => cases h
  | cons c rest ih =>
    by_cases hc : isBlank c = true
    · rw [scan, if_pos hc] at h
      obtain ⟨before, word, after, rfl, hbefore, hafter, hword⟩ := ih h
      refine ⟨c :: before, word, after, rfl, ?_, hafter, hword⟩
      intro d hd
      rcases List.mem_cons.1 hd with rfl | hd
      · exact hc
      · exact hbefore d hd
    · rw [Bool.not_eq_true] at hc
      obtain ⟨t, taken, ts, hlexeme, hrest, hts⟩ := scan_cons_eq_ok hc h
      obtain ⟨⟨rfl, -⟩, rfl⟩ : (Token.path p = t ∧ offset = start) ∧ [] = ts := by simpa using hts
      cases hlexeme with
      | word hstart hword =>
        refine ⟨[], c :: rest.takeWhile isPathChar, rest.dropWhile isPathChar, ?_, ?_, ?_,
          ofChars?_of_word? hword⟩
        · simp
        · simp
        · have hdrop : rest.drop (rest.takeWhile isPathChar).length = rest.dropWhile isPathChar := by
            calc rest.drop (rest.takeWhile isPathChar).length
                = (rest.takeWhile isPathChar ++ rest.dropWhile isPathChar).drop
                    (rest.takeWhile isPathChar).length := by rw [List.takeWhile_append_dropWhile]
              _ = rest.dropWhile isPathChar := List.drop_left
          rw [← hdrop]
          exact isBlank_of_scan_eq_nil hrest

/-- **A rule of one path reads as that path.** -/
theorem ofChars?_of_tokens {cs : List Char} {p : Path} {offset : Nat}
    (h : tokens cs = .ok [⟨.path p, offset⟩]) : Path.ofChars? cs = some p := by
  obtain ⟨before, word, after, rfl, hbefore, hafter, hword⟩ := exists_word_of_scan h
  rw [← Path.ofChars?_trim, trim_append_of_blank hbefore, trim_append_blank hafter, Path.ofChars?_trim,
    hword]

theorem parse_of_tokens_path {source : String} {p : Path} {offset : Nat}
    (hlength : byteLength source.toList ≤ maxLength) (h : tokens source.toList = .ok [⟨.path p, offset⟩]) :
    parse source = .ok ⟨source, .path p⟩ := by
  rw [parse, if_neg (Nat.not_lt.2 hlength), h]
  rfl

end RecordGate.Expression
