import RecordGate.Proofs.Path.Parts

/-!
# The characters of a path

The text of a path consists of key characters, points, brackets and blanks around it.  In particular it
holds no braces, which is why a placeholder ends at the first one after it.  Blanks around the text do not
matter to the path, nor does trimming it once more.

Main statements: `ofChars?_trim`, `mem_characters_of_ofChars?`.
-/

namespace RecordGate

open RecordGate.Text

/-! ### Trimming -/

namespace Text

theorem mem_trim_or_isBlank {c : Char} {cs : List Char} (h : c ∈ cs) :
    c ∈ trim cs ∨ isBlank c = true := by
  have hstart : c ∈ trimStart cs ∨ isBlank c = true := by
    rw [← List.takeWhile_append_dropWhile (p := isBlank) (l := cs)] at h
    rcases List.mem_append.1 h with h | h
    · exact .inr (List.mem_takeWhile_imp h)
    · exact .inl h
  rcases hstart with hstart | hblank
  · rw [← List.rdropWhile_append_rtakeWhile (p := isBlank) (l := trimStart cs)] at hstart
    rcases List.mem_append.1 hstart with h | h
    · exact .inl h
    · exact .inr (List.mem_rtakeWhile_imp h)
  · exact .inr hblank

theorem trimStart_trim (cs : List Char) : trimStart (trim cs) = trim cs := by
  unfold trimStart
  rw [List.dropWhile_eq_self_iff]
  intro hlength hblank
  have hpre : trim cs <+: trimStart cs := List.rdropWhile_prefix isBlank _
  have hhead := hpre.getElem hlength
  have hstart : List.dropWhile isBlank (trimStart cs) = trimStart cs :=
    List.dropWhile_idempotent isBlank cs
  rw [List.dropWhile_eq_self_iff] at hstart
  rw [hhead] at hblank
  exact hstart (Nat.lt_of_lt_of_le hlength hpre.length_le) hblank

theorem trim_trim (cs : List Char) : trim (trim cs) = trim cs := by
  have hend : trimEnd (trim cs) = trim cs := List.rdropWhile_idempotent isBlank (trimStart cs)
  calc trim (trim cs) = trimEnd (trimStart (trim cs)) := rfl
    _ = trimEnd (trim cs) := by rw [trimStart_trim]
    _ = trim cs := hend

theorem trim_eq_self {cs : List Char} (h : ∀ c ∈ cs, isBlank c = false) : trim cs = cs := by
  have hdrop (ds : List Char) (hds : ∀ c ∈ ds, isBlank c = false) : ds.dropWhile isBlank = ds := by
    cases ds with
    | nil => rfl
    | cons c ds => exact List.dropWhile_cons_of_neg (by simp [hds c List.mem_cons_self])
  rw [trim, trimStart, hdrop cs h, trimEnd, hdrop, List.reverse_reverse]
  intro c hc
  exact h c (List.mem_reverse.1 hc)

theorem trim_append_of_blank {before cs : List Char} (h : ∀ c ∈ before, isBlank c = true) :
    trim (before ++ cs) = trim cs := by
  unfold trim trimStart
  rw [List.dropWhile_append_of_pos h]

theorem trim_append_blank {cs after : List Char} (h : ∀ c ∈ after, isBlank c = true) :
    trim (cs ++ after) = trim cs := by
  have hend (ds : List Char) : trimEnd (ds ++ after) = trimEnd ds := by
    unfold trimEnd
    rw [List.reverse_append, List.dropWhile_append_of_pos]
    intro c hc
    exact h c (List.mem_reverse.1 hc)
  by_cases hcs : ∀ c ∈ cs, isBlank c = true
  · have hblank : trimStart cs = [] := List.dropWhile_eq_nil_iff.2 hcs
    have hafter : trimStart after = [] := List.dropWhile_eq_nil_iff.2 h
    rw [trim_append_of_blank hcs, trim, trim, hblank, hafter]
  · have hstart : trimStart (cs ++ after) = trimStart cs ++ after := by
      have hne : trimStart cs ≠ [] := by
        intro hnil
        exact hcs (List.dropWhile_eq_nil_iff.1 hnil)
      unfold trimStart at hne ⊢
      rw [List.dropWhile_append, if_neg (by simpa using hne)]
    rw [trim, trim, hstart, hend]

end Text

/-! ### Paths -/

namespace Path

theorem ofChars?_trim (cs : List Char) : ofChars? (trim cs) = ofChars? cs := by
  unfold ofChars?
  rw [trim_trim]

/-- **The text of a path has no other characters than those of paths, and blanks.** -/
theorem mem_characters_of_ofChars? {cs : List Char} {p : Path} (h : ofChars? cs = some p) :
    ∀ c ∈ cs, isPathCharacter c = true ∨ isBlank c = true := by
  intro c hc
  rcases mem_trim_or_isBlank hc with hc | hblank
  · obtain ⟨parts, hparts, -⟩ := ofChars?_eq_some_iff.1 h
    exact .inl (hparts.of_mem hc)
  · exact .inr hblank

end Path

end RecordGate
