import RecordGate.Proofs.Template.Pieces

/-!
# Filling in a single pass

The placeholders of a template are its leftmost ones that do not overlap (`Leftmost`): the first that stands in
it, then the first behind that one, and so on.  They are found in the template alone.  Filling writes the texts
between them as they are and, for each of them, the value that its path leads to or the placeholder itself
(`Assembled`), so that nothing of a value is ever read as a placeholder.

`Leftmost` is about the text alone and has exactly one solution for every template.  `Assembled` is about the values and
does not look at the template again.  The cut into pieces, by which filling is defined, is shown to go the way of both
(`Leftmost.fillChars_eq`).  A template in which no placeholder opens is returned as it is, without being cut at all.

Main statement: `fill_in_single_pass`.
-/

namespace RecordGate.Template

/-! ### The placeholders of a text -/

/-- A placeholder stands in a text, behind `before` and in front of `after`. -/
structure PlaceholderAt (cs before content after : List Char) : Prop where
  braceFree : BraceFree content
  eq : cs = before ++ '$' :: '\x7b' :: (content ++ '\x7d' :: after)

theorem PlaceholderAt.cons {cs before content after : List Char} (h : PlaceholderAt cs before content after)
    (c : Char) : PlaceholderAt (c :: cs) (c :: before) content after :=
  ⟨h.braceFree, by rw [h.eq, List.cons_append]⟩

theorem PlaceholderAt.append {cs before content after : List Char}
    (h : PlaceholderAt cs before content after) (more : List Char) :
    PlaceholderAt (cs ++ more) before content (after ++ more) :=
  ⟨h.braceFree, by simp [h.eq]⟩

theorem PlaceholderAt.rest_eq {cs before content after rest : List Char}
    (h : PlaceholderAt cs before content after) (heq : cs = before ++ '$' :: '\x7b' :: rest) :
    rest = content ++ '\x7d' :: after := by
  have hopening := List.append_cancel_left (heq.symm.trans h.eq)
  exact (List.cons.inj (List.cons.inj hopening).2).2

theorem PlaceholderAt.unique {cs before content content' after after' : List Char}
    (h : PlaceholderAt cs before content after) (h' : PlaceholderAt cs before content' after') :
    content = content' ∧ after = after' :=
  content_inj h.braceFree.not_mem_closing h'.braceFree.not_mem_closing (h'.rest_eq h.eq)

theorem PlaceholderAt.of_cons {c : Char} {cs before content after : List Char}
    (h : PlaceholderAt (c :: cs) before content after) (hc : ¬ StartsPlaceholder (c :: cs)) :
    ∃ before', before = c :: before' ∧ PlaceholderAt cs before' content after := by
  cases before with
  | nil => exact absurd ⟨content, after, h.braceFree, h.eq⟩ hc
  | cons d before =>
    obtain ⟨rfl, heq⟩ := List.cons.inj h.eq
    exact ⟨before, rfl, h.braceFree, heq⟩

def PlaceholderFree (cs : List Char) : Prop := ∀ before content after, ¬ PlaceholderAt cs before content after

theorem PlaceholderFree.not_startsPlaceholder {cs : List Char} (h : PlaceholderFree cs) :
    ¬ StartsPlaceholder cs := by
  rintro ⟨content, after, hfree, heq⟩
  exact h [] content after ⟨hfree, heq⟩

theorem PlaceholderFree.of_cons {c : Char} {cs : List Char} (h : PlaceholderFree (c :: cs)) :
    PlaceholderFree cs :=
  fun _ _ _ hplace => h _ _ _ (hplace.cons c)

/-- The leftmost placeholders of a text that do not overlap, each with the text between it and the one before
it, and the text behind the last. -/
inductive Leftmost :
    (cs : List Char) → (found : List (List Char × List Char)) → (rest : List Char) → Prop where
  | none {cs : List Char} (h : PlaceholderFree cs) : Leftmost cs [] cs
  | first {cs before content after rest : List Char} {found : List (List Char × List Char)}
      (hplace : PlaceholderAt cs before content after)
      (hfirst : ∀ before' content' after', PlaceholderAt cs before' content' after' →
        before.length ≤ before'.length)
      (h : Leftmost after found rest) : Leftmost cs ((before, content) :: found) rest

theorem Leftmost.unique {cs rest rest' : List Char} {found found' : List (List Char × List Char)}
    (h : Leftmost cs found rest) (h' : Leftmost cs found' rest') : found' = found ∧ rest' = rest := by
  induction h generalizing found' rest' with
  | none hnone =>
    cases h' with
    | none => exact ⟨rfl, rfl⟩
    | first hplace => exact absurd hplace (hnone _ _ _)
  | @first cs before content after rest found hplace hfirst _ ih =>
    cases h' with
    | none hnone => exact absurd hplace (hnone _ _ _)
    | @first _ before' content' after' _ found' hplace' hfirst' hrest' =>
      have hlength : before.length = before'.length :=
        Nat.le_antisymm (hfirst _ _ _ hplace') (hfirst' _ _ _ hplace)
      obtain rfl : before = before' := List.append_inj_left (hplace.eq.symm.trans hplace'.eq) hlength
      obtain ⟨rfl, rfl⟩ := hplace.unique hplace'
      obtain ⟨rfl, rfl⟩ := ih hrest'
      exact ⟨rfl, rfl⟩

/-- A character in front of a text in which the leftmost placeholders are known belongs to what stands before
the first of them, unless a placeholder starts at once. -/
theorem Leftmost.cons {c : Char} {cs rest : List Char} {found : List (List Char × List Char)}
    (h : Leftmost cs found rest) (hc : ¬ StartsPlaceholder (c :: cs)) :
    ∃ found' rest', Leftmost (c :: cs) found' rest' := by
  cases h with
  | none hnone =>
    refine ⟨[], c :: cs, .none ?_⟩
    intro before content after hplace
    obtain ⟨before', -, hplace'⟩ := hplace.of_cons hc
    exact hnone _ _ _ hplace'
  | first hplace hfirst hrest =>
    refine ⟨_, _, .first (hplace.cons c) ?_ hrest⟩
    intro before' content' after' hplace'
    obtain ⟨before', rfl, htail⟩ := hplace'.of_cons hc
    exact Nat.succ_le_succ (hfirst _ _ _ htail)

theorem exists_leftmost (cs : List Char) : ∃ found rest, Leftmost cs found rest := by
  have h := cut_pieces cs
  generalize pieces 0 cs = ps at h
  induction h with
  | nil =>
    refine ⟨[], [], .none ?_⟩
    intro before content after hplace
    simpa using hplace.eq
  | char hc _ ih =>
    obtain ⟨found, rest, hleft⟩ := ih
    exact hleft.cons hc
  | @placeholder content cs ps hfree _ ih =>
    obtain ⟨found, rest, hleft⟩ := ih
    exact ⟨([], content) :: found, rest, .first ⟨hfree, rfl⟩ (fun _ _ _ _ => Nat.zero_le _) hleft⟩

/-! ### Pieces of a text -/

theorem pieces_eq_map_char {cs : List Char} (h : PlaceholderFree cs) : pieces 0 cs = cs.map Piece.char := by
  induction cs with
  | nil => rfl
  | cons c cs ih => rw [pieces_char h.not_startsPlaceholder, ih h.of_cons, List.map_cons]

theorem placeholderFree_of_first {cs before content after : List Char}
    (hplace : PlaceholderAt cs before content after)
    (hfirst : ∀ before' content' after', PlaceholderAt cs before' content' after' →
      before.length ≤ before'.length) : PlaceholderFree before := by
  intro before' content' after' hplace'
  have hle : before.length ≤ before'.length := by
    apply hfirst before' content' _
    rw [hplace.eq]
    exact hplace'.append _
  have hlength := congrArg List.length hplace'.eq
  simp only [List.length_append, List.length_cons] at hlength
  omega

/-- **The pieces of a text are its leftmost placeholders and, one by one, all its other characters.** -/
theorem Leftmost.pieces_eq {cs rest : List Char} {found : List (List Char × List Char)}
    (h : Leftmost cs found rest) :
    pieces 0 cs =
      found.flatMap (fun p => p.1.map Piece.char ++ [.placeholder p.2]) ++ rest.map Piece.char := by
  induction h with
  | none hnone => exact pieces_eq_map_char hnone
  | @first cs before content after rest found hplace hfirst _ ih =>
    have hbefore := pieces_eq_map_char (placeholderFree_of_first hplace hfirst)
    rw [hplace.eq, pieces_append_opening, pieces_placeholder hplace.braceFree, hbefore, ih]
    simp

/-! ### Filled texts -/

section

variable (root : Value)

/-- What stands for a placeholder in a filled text.  A text that its path leads to stands there as it is, any
other value as compact JSON; without a path, or with one that leads to nothing, the placeholder is left. -/
inductive Replacement : (content text : List Char) → Prop where
  | text {content : List Char} {path : Path} {s : String} (hpath : Path.ofChars? content = some path)
      (hv : path.resolve? root = some (.text s)) : Replacement content s.toList
  | json {content : List Char} {path : Path} {v : Value} (hpath : Path.ofChars? content = some path)
      (hv : path.resolve? root = some v) (hother : ∀ s, v ≠ .text s) : Replacement content v.compactChars
  | verbatim {content : List Char}
      (h : ∀ path, Path.ofChars? content = some path → path.resolve? root = none) :
      Replacement content ('$' :: '\x7b' :: (content ++ ['\x7d']))

/-- The texts between placeholders as they are, with the replacement of each placeholder in its place. -/
inductive Assembled :
    (found : List (List Char × List Char)) → (rest text : List Char) → Prop where
  | rest {rest : List Char} : Assembled [] rest rest
  | placeholder {before content text rest more : List Char} {found : List (List Char × List Char)}
      (h : Replacement root content text) (hmore : Assembled found rest more) :
      Assembled ((before, content) :: found) rest (before ++ (text ++ more))

theorem replacement_rendering {content : List Char} {path : Path} {v : Value}
    (hpath : Path.ofChars? content = some path) (hv : path.resolve? root = some v) :
    Replacement root content (rendering v) := by
  cases v with
  | text s => exact .text hpath hv
  | null => exact .json hpath hv (by simp)
  | bool b => exact .json hpath hv (by simp)
  | number n => exact .json hpath hv (by simp)
  | list items => exact .json hpath hv (by simp)
  | object fields => exact .json hpath hv (by simp)

theorem rendering_of_ne_text {v : Value} (h : ∀ s, v ≠ .text s) : rendering v = v.compactChars := by
  cases v with
  | text s => exact absurd rfl (h s)
  | _ => rfl

/-- Filling a placeholder writes its replacement, and it has no other. -/
theorem replacement_iff {content text : List Char} :
    Replacement root content text ↔ text = (Piece.placeholder content).fill root := by
  constructor
  · intro h
    cases h with
    | text hpath hv => simp [fill_placeholder_of_path root hpath, hv, rendering]
    | json hpath hv hother =>
      simp [fill_placeholder_of_path root hpath, hv, rendering_of_ne_text hother]
    | verbatim hnone =>
      have hlookup : lookup? root content = none := Option.bind_eq_none_iff.2 hnone
      rw [fill_placeholder_of_none root hlookup]
  · rintro rfl
    cases hlookup : lookup? root content with
    | none =>
      rw [fill_placeholder_of_none root hlookup]
      exact .verbatim (Option.bind_eq_none_iff.1 hlookup)
    | some v =>
      obtain ⟨path, hpath, hv⟩ := Option.bind_eq_some_iff.1 hlookup
      rw [fill_placeholder_of_some root hlookup]
      exact replacement_rendering root hpath hv

theorem assembled_iff {found : List (List Char × List Char)} {rest text : List Char} :
    Assembled root found rest text ↔
      text = found.flatMap (fun p => p.1 ++ (Piece.placeholder p.2).fill root) ++ rest := by
  constructor
  · intro h
    induction h with
    | rest => rfl
    | placeholder h _ ih => rw [(replacement_iff root).1 h, ih]; simp
  · rintro rfl
    induction found with
    | nil => exact .rest
    | cons p found ih =>
      obtain ⟨before, content⟩ := p
      rw [List.flatMap_cons, List.append_assoc, List.append_assoc]
      exact .placeholder ((replacement_iff root).2 rfl) ih

theorem Leftmost.fillChars_eq {cs rest : List Char} {found : List (List Char × List Char)}
    (h : Leftmost cs found rest) :
    fillChars root cs = found.flatMap (fun p => p.1 ++ (Piece.placeholder p.2).fill root) ++ rest := by
  rw [fillChars, h.pieces_eq, List.flatMap_append, flatMap_fill_map_char, List.flatMap_assoc]
  simp only [List.flatMap_append, flatMap_fill_map_char, List.flatMap_singleton]

theorem fill_eq_self_of_not_opens {template : String} (h : ¬ Opens template.toList) :
    fill root template = template := by
  have hchars : fillChars root (template.toList ++ []) = template.toList ++ fillChars root [] :=
    fillChars_append_of_not_opens root h (by simp)
  have hnil : fillChars root [] = [] := rfl
  rw [hnil, List.append_nil] at hchars
  rw [fill, hchars, String.ofList_toList]

end

instance : DecidablePred Opens := fun cs => inferInstanceAs (Decidable (['$', '\x7b'] <:+: cs))

/-- **Filling is a single pass over the template.**  The template alone determines its placeholders and the
texts between them; whatever the values are, it is filled to these texts as they are, with the replacement of
each placeholder in its place.  A template in which no dollar sign stands before an opening brace may be taken
as it is without looking for placeholders, with the same result. -/
theorem fill_in_single_pass (template : String) :
    ∃ found rest,
      (∀ found' rest', Leftmost template.toList found' rest' ↔ found' = found ∧ rest' = rest) ∧
      (∀ root text, Assembled root found rest text ↔ text = (fill root template).toList) ∧
      ∀ root, (if Opens template.toList then fill root template else template) = fill root template := by
  obtain ⟨found, rest, hleft⟩ := exists_leftmost template.toList
  refine ⟨found, rest, ?_, ?_, ?_⟩
  · intro found' rest'
    constructor
    · exact hleft.unique
    · rintro ⟨rfl, rfl⟩
      exact hleft
  · intro root text
    rw [assembled_iff, fill, String.toList_ofList, hleft.fillChars_eq]
  · intro root
    split
    next => rfl
    next hopens => rw [fill_eq_self_of_not_opens root hopens]

/-- What is filled in is never looked at again, whatever it opens or glues together. -/
example :
    fill (.object [("a", .text "$\x7bb\x7d$1"), ("b", .list [.text "\x7b"])])
      "$$\x7ba\x7d$\x7ba$\x7bb\x7d\x7d$\x7bc\x7d$\x7b" =
    "$$\x7bb\x7d$1$\x7ba[\"\x7b\"]\x7d$\x7bc\x7d$\x7b" := by decide +kernel

end RecordGate.Template
