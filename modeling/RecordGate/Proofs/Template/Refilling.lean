import RecordGate.Proofs.Template.Agreement

/-!
# Filling a filled template

A template that the check accepts is filled once and for all when the values are harmless: filling the result
again changes nothing.  The argument is about the places where two parts of the result meet.  A dollar sign of
the template cannot come before an opening brace there, because what follows it begins like the template, with
a value or with a placeholder that is left (`head?_fill_of_cut`), and a value has no dollar sign of its own.

A value is harmless if it is written with some text, and without a dollar sign or an opening brace in it.  Nothing is
asked of closing braces: they are text wherever no placeholder is open.  A placeholder that has no value is left as it
stands, and is found and left again the second time.  The induction is on the cut of the template, with the head of
what follows as the only thing that has to be known of the rest.

Main statement: `fill_fill_of_harmless`.
-/

namespace RecordGate.Template

/-! ### Harmless values -/

/-- A text that is there, and that neither a placeholder nor the rest of one can start in.  A closing brace
does no harm. -/
structure Harmless (text : List Char) : Prop where
  ne_nil : text ≠ []
  dollar : '$' ∉ text
  opening : '\x7b' ∉ text

/-- All values that are filled in for the given pieces are harmless. -/
def HarmlessValues (root : Value) (ps : List Piece) : Prop :=
  ∀ content v, .placeholder content ∈ ps → lookup? root content = some v → Harmless (rendering v)

theorem HarmlessValues.of_cons {root : Value} {p : Piece} {ps : List Piece}
    (h : HarmlessValues root (p :: ps)) : HarmlessValues root ps :=
  fun content v hmem => h content v (List.mem_cons_of_mem _ hmem)

section

variable {root : Value}

theorem fillChars_append_of_no_dollar {text : List Char} (h : '$' ∉ text) (cs : List Char) :
    fillChars root (text ++ cs) = text ++ fillChars root cs := by
  induction text with
  | nil => rfl
  | cons c text ih =>
    have hstart : ¬ StartsPlaceholder (c :: (text ++ cs)) := by
      intro hstart
      exact List.ne_of_not_mem_cons h hstart.eq_dollar.symm
    rw [List.cons_append, fillChars_char root hstart, ih (List.not_mem_of_not_mem_cons h), List.cons_append]

/-! ### Where the parts of a filled template meet -/

theorem head?_fill_placeholder {content : List Char}
    (h : ∀ v, lookup? root content = some v → Harmless (rendering v)) (more : List Char) :
    ((Piece.placeholder content).fill root ++ more).head? ≠ some '\x7b' := by
  cases hlookup : lookup? root content with
  | none => simp [fill_placeholder_of_none root hlookup]
  | some v =>
    obtain ⟨hne, -, hopening⟩ := h v hlookup
    obtain ⟨c, text, htext⟩ := List.exists_cons_of_ne_nil hne
    rw [htext] at hopening
    have hc : c ≠ '\x7b' := Ne.symm (List.ne_of_not_mem_cons hopening)
    simp [fill_placeholder_of_some root hlookup, htext, hc]

theorem head?_fill_of_cut {cs : List Char} {ps : List Piece} (h : Cut cs ps)
    (hharmless : HarmlessValues root ps) (hhead : (ps.flatMap (·.fill root)).head? = some '\x7b') :
    cs.head? = some '\x7b' := by
  cases h with
  | nil => cases hhead
  | char => exact hhead
  | placeholder =>
    rw [List.flatMap_cons] at hhead
    exact absurd hhead (head?_fill_placeholder (fun v => hharmless _ v List.mem_cons_self) _)

/-! ### Filling again -/

/-- What the pieces of a well-formed template are filled to is left as it is when it is filled again. -/
theorem fillChars_fill_of_cut {cs : List Char} {ps : List Piece} (h : Cut cs ps) (hwell : WellFormed cs)
    (hharmless : HarmlessValues root ps) :
    fillChars root (ps.flatMap (·.fill root)) = ps.flatMap (·.fill root) := by
  induction h with
  | nil => rfl
  | @char c cs ps hc hcut ih =>
    have hstart : ¬ StartsPlaceholder (c :: ps.flatMap (·.fill root)) := by
      rintro ⟨content, after, -, heq⟩
      obtain ⟨rfl, htext⟩ := List.cons.inj heq
      -- the brace stands in the template already, and there a placeholder would start with it
      have hhead := head?_fill_of_cut hcut hharmless.of_cons (by rw [htext]; rfl)
      obtain ⟨rest, rfl⟩ := List.head?_eq_some_iff.1 hhead
      obtain ⟨content, after, path, rfl, hpath⟩ := hwell [] rest rfl
      exact hc ⟨content, after, braceFree_of_ofChars? hpath, rfl⟩
    have htail := ih (WellFormed.of_append [c] hwell) hharmless.of_cons
    rw [List.flatMap_cons, Piece.fill, List.singleton_append, fillChars_char root hstart, htail]
  | @placeholder content cs ps hfree _ ih =>
    have htail := ih hwell.of_placeholder hharmless.of_cons
    rw [List.flatMap_cons]
    cases hlookup : lookup? root content with
    | some v =>
      have hdollar := (hharmless content v List.mem_cons_self hlookup).dollar
      rw [fill_placeholder_of_some root hlookup, fillChars_append_of_no_dollar hdollar, htail]
    | none =>
      have hagain := fillChars_placeholder root hfree (ps.flatMap (·.fill root))
      rw [fill_placeholder_of_none root hlookup, htail] at hagain
      simpa [fill_placeholder_of_none root hlookup] using hagain

end

/-- **Filling again changes nothing**, if the template has no issues and the values that are filled in are
harmless. -/
theorem fill_fill_of_harmless (root : Value) (template : String) (hnone : issues template = [])
    (hharmless : HarmlessValues root (pieces 0 template.toList)) :
    fill root (fill root template) = fill root template := by
  have hagain := fillChars_fill_of_cut (cut_pieces template.toList) (wellFormed_of_issues_eq_nil hnone) hharmless
  have hchars : fillChars root (fillChars root template.toList) = fillChars root template.toList := hagain
  rw [fill, fill, String.toList_ofList, hchars]

/-- A dollar sign, a value and braces stand next to each other, and a placeholder is left. -/
theorem fill_fill_of_harmless_adjacent :
    issues "$$\x7ba\x7d\x7bb\x7d$\x7bb\x7d" = [] ∧
      fill (.object [("a", .text "v\x7d")]) "$$\x7ba\x7d\x7bb\x7d$\x7bb\x7d" = "$v\x7d\x7bb\x7d$\x7bb\x7d" ∧
      fill (.object [("a", .text "v\x7d")])
          (fill (.object [("a", .text "v\x7d")]) "$$\x7ba\x7d\x7bb\x7d$\x7bb\x7d") =
        fill (.object [("a", .text "v\x7d")]) "$$\x7ba\x7d\x7bb\x7d$\x7bb\x7d" := by
  have hnone : issues "$$\x7ba\x7d\x7bb\x7d$\x7bb\x7d" = [] := by decide +kernel
  refine ⟨hnone, by decide +kernel, fill_fill_of_harmless _ _ hnone ?_⟩
  have hpieces : pieces 0 "$$\x7ba\x7d\x7bb\x7d$\x7bb\x7d".toList =
      [.char '$', .placeholder ['a'], .char '\x7b', .char 'b', .char '\x7d', .placeholder ['b']] := by
    decide +kernel
  rw [hpieces]
  intro content v hmem hv
  obtain rfl | rfl : content = ['a'] ∨ content = ['b'] := by simpa using hmem
  · obtain rfl : .text "v\x7d" = v := Option.some.inj hv
    exact ⟨by decide, by decide, by decide⟩
  · cases hv

/-- An empty value can bring a dollar sign and a brace together. -/
example :
    fill (.object [("a", .text ""), ("b", .text "v")]) "$$\x7ba\x7d\x7bb\x7d" = "$\x7bb\x7d" ∧
      fill (.object [("a", .text ""), ("b", .text "v")]) "$\x7bb\x7d" = "v" := by decide +kernel

end RecordGate.Template
