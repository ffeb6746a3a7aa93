import Mathlib.Data.List.TakeWhile
import RecordGate.Template.Placeholder

/-!
# Cutting templates into pieces

`Cut` says what the pieces of a template are without saying how they are found: a placeholder is cut out
wherever one starts, and everything else is cut into single characters.  A template has exactly one cut, and
`pieces` finds it (`cut_iff`).

A dollar sign with an opening brace after it always begins a new piece, because the content of a placeholder
has no braces (`pieces_append_opening`).  What no placeholder starts in is copied character by character
(`pieces_append_of_not_opens`).
-/

namespace RecordGate.Template

/-! ### Placeholders in texts -/

def BraceFree (cs : List Char) : Prop := ∀ c ∈ cs, isBrace c = false

def StartsPlaceholder (cs : List Char) : Prop :=
  ∃ content rest, BraceFree content ∧ cs = '$' :: '\x7b' :: (content ++ '\x7d' :: rest)

/-- A dollar sign with an opening brace after it stands somewhere in the text. -/
def Opens (cs : List Char) : Prop := ['$', '\x7b'] <:+: cs

theorem StartsPlaceholder.eq_dollar {c : Char} {cs : List Char} (h : StartsPlaceholder (c :: cs)) :
    c = '$' := by
  obtain ⟨content, rest, -, heq⟩ := h
  exact (List.cons.inj heq).1

theorem StartsPlaceholder.append {cs : List Char} (h : StartsPlaceholder cs) (more : List Char) :
    StartsPlaceholder (cs ++ more) := by
  obtain ⟨content, rest, hfree, rfl⟩ := h
  exact ⟨content, rest ++ more, hfree, by simp⟩

theorem BraceFree.not_mem_opening {cs : List Char} (h : BraceFree cs) : '\x7b' ∉ cs := by
  intro hmem
  cases h _ hmem

theorem BraceFree.not_mem_closing {cs : List Char} (h : BraceFree cs) : '\x7d' ∉ cs := by
  intro hmem
  cases h _ hmem

theorem braceFree_of_not_mem {cs : List Char} (hopening : '\x7b' ∉ cs) (hclosing : '\x7d' ∉ cs) :
    BraceFree cs := by
  intro c hc
  have h₁ : c ≠ '\x7b' := fun h => hopening (h ▸ hc)
  have h₂ : c ≠ '\x7d' := fun h => hclosing (h ▸ hc)
  simp [isBrace, h₁, h₂]

/-- Of two ways to divide a text, one of them at a closing brace, either the other leaves the brace on its
right side, or the brace belongs to its left. -/
theorem append_eq_append_closing {xs ys content after : List Char}
    (h : xs ++ ys = content ++ '\x7d' :: after) :
    (∃ more, content = xs ++ more ∧ ys = more ++ '\x7d' :: after) ∨
      ∃ more, xs = content ++ '\x7d' :: more ∧ after = more ++ ys := by
  rcases List.append_eq_append_iff.1 h with h | ⟨more, hxs, hafter⟩
  · exact .inl h
  · cases more with
    | nil => exact .inl ⟨[], by simpa using hxs.symm, hafter.symm⟩
    | cons c more =>
      obtain ⟨rfl, rfl⟩ := List.cons.inj hafter
      exact .inr ⟨more, hxs, rfl⟩

/-- What opens inside a text that ends at a closing brace opens after it, if there is no opening brace in the
text. -/
theorem eq_append_of_append_opening {xs rest content after : List Char} (hopening : '\x7b' ∉ content)
    (h : xs ++ '$' :: '\x7b' :: rest = content ++ '\x7d' :: after) :
    ∃ more, xs = content ++ '\x7d' :: more ∧ after = more ++ '$' :: '\x7b' :: rest := by
  rcases append_eq_append_closing h with ⟨more, hcontent, hrest⟩ | hafter
  · -- the text would run over the brace that opens
    have hmem : '\x7b' ∈ more := by
      cases more with
      | nil =>
        obtain ⟨hd, -⟩ := List.cons.inj hrest
        exact absurd hd (by decide)
      | cons c more =>
        obtain ⟨-, hrest⟩ := List.cons.inj hrest
        cases more with
        | nil =>
          obtain ⟨hd, -⟩ := List.cons.inj hrest
          exact absurd hd (by decide)
        | cons d more =>
          obtain ⟨rfl, -⟩ := List.cons.inj hrest
          exact List.mem_cons_of_mem _ List.mem_cons_self
    exact absurd (hcontent ▸ List.mem_append_right _ hmem) hopening
  · exact hafter

theorem content_inj {content content' after after' : List Char} (hc : '\x7d' ∉ content)
    (hc' : '\x7d' ∉ content') (h : content ++ '\x7d' :: after = content' ++ '\x7d' :: after') :
    content = content' ∧ after = after' := by
  rcases append_eq_append_closing h with ⟨more, hcontent, hafter⟩ | ⟨more, hcontent, -⟩
  · cases more with
    | nil =>
      rw [List.append_nil] at hcontent
      exact ⟨hcontent.symm, (List.cons.inj hafter).2⟩
    | cons c more =>
      obtain ⟨rfl, -⟩ := List.cons.inj hafter
      exact absurd (by simp [hcontent]) hc'
  · exact absurd (by simp [hcontent]) hc

theorem content?_eq_some_iff {cs content : List Char} :
    content? cs = some content ↔
      BraceFree content ∧ ∃ rest, cs = '\x7b' :: (content ++ '\x7d' :: rest) := by
  constructor
  · intro h
    unfold content? at h
    split at h
    next cs =>
      split at h
      next rest hdrop =>
        cases h
        refine ⟨?_, rest, ?_⟩
        · intro c hc
          simpa using List.mem_takeWhile_imp hc
        · rw [← hdrop, List.takeWhile_append_dropWhile]
      next => cases h
    next => cases h
  · rintro ⟨hfree, rest, rfl⟩
    have hall : ∀ c ∈ content, (!isBrace c) = true := by
      intro c hc
      simp [hfree c hc]
    have hbrace : isBrace '\x7d' = true := rfl
    simp [content?, List.dropWhile_append_of_pos hall, List.takeWhile_append_of_pos hall, hbrace]

/-! ### The cut of a template -/

inductive Cut : List Char → List Piece → Prop where
  | nil : Cut [] []
  | char {c : Char} {cs : List Char} {ps : List Piece} (hc : ¬ StartsPlaceholder (c :: cs))
      (h : Cut cs ps) : Cut (c :: cs) (.char c :: ps)
  | placeholder {content cs : List Char} {ps : List Piece} (hcontent : BraceFree content)
      (h : Cut cs ps) : Cut ('$' :: '\x7b' :: (content ++ '\x7d' :: cs)) (.placeholder content :: ps)

theorem pieces_skip (taken cs : List Char) : pieces taken.length (taken ++ cs) = pieces 0 cs := by
  induction taken with
  | nil => rfl
  | cons c taken ih => exact ih

theorem pieces_cons (c : Char) (cs : List Char) :
    pieces 0 (c :: cs) =
      match if c = '$' then content? cs else none with
      | some content => .placeholder content :: pieces (content.length + 2) cs
      | none => .char c :: pieces 0 cs := rfl

theorem pieces_placeholder {content : List Char} (hcontent : BraceFree content) (cs : List Char) :
    pieces 0 ('$' :: '\x7b' :: (content ++ '\x7d' :: cs)) = .placeholder content :: pieces 0 cs := by
  have hsome : content? ('\x7b' :: (content ++ '\x7d' :: cs)) = some content :=
    content?_eq_some_iff.2 ⟨hcontent, cs, rfl⟩
  have hskip := pieces_skip ('\x7b' :: (content ++ ['\x7d'])) cs
  have hlength : ('\x7b' :: (content ++ ['\x7d'])).length = content.length + 2 := by simp
  rw [hlength, List.cons_append, List.append_assoc, List.singleton_append] at hskip
  simp only [pieces_cons, if_true, hsome, hskip]

theorem pieces_char {c : Char} {cs : List Char} (hc : ¬ StartsPlaceholder (c :: cs)) :
    pieces 0 (c :: cs) = .char c :: pieces 0 cs := by
  by_cases hd : c = '$'
  · subst hd
    have hnone : content? cs = none := by
      cases h : content? cs with
      | none => rfl
      | some content =>
        obtain ⟨hfree, rest, rfl⟩ := content?_eq_some_iff.1 h
        exact absurd ⟨content, rest, hfree, rfl⟩ hc
    simp only [pieces_cons, if_true, hnone]
  · simp only [pieces_cons, if_neg hd]

theorem Cut.pieces_eq {cs : List Char} {ps : List Piece} (h : Cut cs ps) : pieces 0 cs = ps := by
  induction h with
  | nil => rfl
  | char hc _ ih => rw [pieces_char hc, ih]
  | placeholder hcontent _ ih => rw [pieces_placeholder hcontent, ih]

/-- The recursion is on the length of what is left, since a placeholder is taken as a whole. -/
theorem cut_pieces : ∀ cs : List Char, Cut cs (pieces 0 cs)
  | [] => .nil
  | c :: cs => by
    by_cases hc : StartsPlaceholder (c :: cs)
    · obtain ⟨content, rest, hfree, heq⟩ := hc
      have hlt : rest.length < (c :: cs).length := by
        rw [heq]
        simp
        omega
      rw [heq, pieces_placeholder hfree]
      exact .placeholder hfree (cut_pieces rest)
    · rw [pieces_char hc]
      exact .char hc (cut_pieces cs)
termination_by cs => cs.length
decreasing_by
  · exact hlt
  · exact Nat.lt_succ_self cs.length

/-- **A template has one cut, and it is the one that is found.** -/
theorem cut_iff {cs : List Char} {ps : List Piece} : Cut cs ps ↔ pieces 0 cs = ps := by
  constructor
  · exact Cut.pieces_eq
  · rintro rfl
    exact cut_pieces cs

/-- Nothing of a template is lost: its pieces, written one after another, are the template. -/
theorem flatMap_write_pieces (cs : List Char) : (pieces 0 cs).flatMap Piece.write = cs := by
  have h := cut_pieces cs
  generalize pieces 0 cs = ps at h
  induction h with
  | nil => rfl
  | char _ _ ih => simp [Piece.write, ih]
  | placeholder _ _ ih => simp [Piece.write, ih]

/-! ### Where a template can be divided -/

theorem StartsPlaceholder.of_append_opening {c : Char} {cs rest : List Char}
    (h : StartsPlaceholder (c :: (cs ++ '$' :: '\x7b' :: rest))) : StartsPlaceholder (c :: cs) := by
  obtain ⟨content, after, hfree, heq⟩ := h
  rw [List.cons.injEq] at heq
  obtain ⟨rfl, heq⟩ := heq
  cases cs with
  | nil =>
    obtain ⟨hd, -⟩ := List.cons.inj heq
    exact absurd hd (by decide)
  | cons d cs =>
    rw [List.cons_append, List.cons.injEq] at heq
    obtain ⟨rfl, heq⟩ := heq
    obtain ⟨more, hcs, -⟩ := eq_append_of_append_opening hfree.not_mem_opening heq
    exact ⟨content, more, hfree, by rw [hcs]⟩

/-- **A dollar sign with an opening brace begins a piece**, whatever stands before it. -/
theorem pieces_append_opening (cs rest : List Char) :
    pieces 0 (cs ++ '$' :: '\x7b' :: rest) = pieces 0 cs ++ pieces 0 ('$' :: '\x7b' :: rest) := by
  have h := cut_pieces cs
  generalize pieces 0 cs = ps at h
  induction h with
  | nil => rfl
  | char hc _ ih =>
    rw [List.cons_append, pieces_char fun h => hc h.of_append_opening, ih, List.cons_append]
  | @placeholder content cs ps hcontent _ ih =>
    have happend : ('$' :: '\x7b' :: (content ++ '\x7d' :: cs)) ++ '$' :: '\x7b' :: rest =
        '$' :: '\x7b' :: (content ++ '\x7d' :: (cs ++ '$' :: '\x7b' :: rest)) := by simp
    rw [happend, pieces_placeholder hcontent, ih, List.cons_append]

theorem pieces_append_of_not_opens {cs rest : List Char} (hcs : ¬ Opens cs)
    (hrest : rest.head? ≠ some '\x7b') :
    pieces 0 (cs ++ rest) = cs.map Piece.char ++ pieces 0 rest := by
  induction cs with
  | nil => rfl
  | cons c cs ih =>
    have htail : ¬ Opens cs := by
      intro h
      exact hcs (List.infix_cons h)
    have hc : ¬ StartsPlaceholder (c :: (cs ++ rest)) := by
      rintro ⟨content, after, -, heq⟩
      rw [List.cons.injEq] at heq
      obtain ⟨rfl, heq⟩ := heq
      cases cs with
      | nil =>
        rw [List.nil_append] at heq
        exact hrest (by rw [heq]; rfl)
      | cons d cs =>
        rw [List.cons_append, List.cons.injEq] at heq
        obtain ⟨rfl, -⟩ := heq
        exact hcs ⟨[], cs, rfl⟩
    rw [List.cons_append, pieces_char hc, ih htail, List.map_cons, List.cons_append]

/-! ### Filling -/

section

variable (root : Value)

theorem fill_placeholder_of_some {content : List Char} {v : Value} (h : lookup? root content = some v) :
    (Piece.placeholder content).fill root = rendering v := by
  simp [Piece.fill, h]

theorem fill_placeholder_of_none {content : List Char} (h : lookup? root content = none) :
    (Piece.placeholder content).fill root = '$' :: '\x7b' :: (content ++ ['\x7d']) := by
  simp [Piece.fill, h, Piece.write]

theorem fillChars_placeholder {content : List Char} (hcontent : BraceFree content)
    (cs : List Char) :
    fillChars root ('$' :: '\x7b' :: (content ++ '\x7d' :: cs)) =
      (Piece.placeholder content).fill root ++ fillChars root cs := by
  rw [fillChars, pieces_placeholder hcontent, List.flatMap_cons]
  rfl

theorem fillChars_char {c : Char} {cs : List Char} (hc : ¬ StartsPlaceholder (c :: cs)) :
    fillChars root (c :: cs) = c :: fillChars root cs := by
  rw [fillChars, pieces_char hc, List.flatMap_cons]
  rfl

theorem fillChars_append_opening (cs rest : List Char) :
    fillChars root (cs ++ '$' :: '\x7b' :: rest) =
      fillChars root cs ++ fillChars root ('$' :: '\x7b' :: rest) := by
  rw [fillChars, pieces_append_opening, List.flatMap_append]
  rfl

theorem flatMap_fill_map_char (cs : List Char) :
    (cs.map Piece.char).flatMap (Piece.fill root) = cs := by
  induction cs with
  | nil => rfl
  | cons c cs ih =>
    rw [List.map_cons, List.flatMap_cons, ih]
    rfl

theorem fillChars_append_of_not_opens {cs rest : List Char} (hcs : ¬ Opens cs)
    (hrest : rest.head? ≠ some '\x7b') :
    fillChars root (cs ++ rest) = cs ++ fillChars root rest := by
  rw [fillChars, pieces_append_of_not_opens hcs hrest, List.flatMap_append, flatMap_fill_map_char]
  rfl

theorem fill_placeholder_of_path {content : List Char} {path : Path}
    (hpath : Path.ofChars? content = some path) :
    (Piece.placeholder content).fill root =
      match path.resolve? root with
      | some v => rendering v
      | none => '$' :: '\x7b' :: (content ++ ['\x7d']) := by
  simp only [Piece.fill, lookup?, hpath, Option.bind_some]
  cases path.resolve? root <;> rfl

/-- **What holds no path is copied.**  A place that opens and runs to the first closing brace is left as it
is when nothing opens in it and it holds no path, with what stands before and after it filled as if it were
alone. -/
theorem fillChars_of_ofChars?_eq_none {content : List Char} (hclosing : '\x7d' ∉ content)
    (hopens : ¬ Opens content) (hpath : Path.ofChars? content = none) (cs after : List Char) :
    fillChars root (cs ++ '$' :: '\x7b' :: (content ++ '\x7d' :: after)) =
      fillChars root cs ++ '$' :: '\x7b' :: (content ++ '\x7d' :: fillChars root after) := by
  rw [fillChars_append_opening]
  congr 1
  by_cases hopening : '\x7b' ∈ content
  · -- a brace inside keeps it from being a placeholder
    have hstart : ¬ StartsPlaceholder ('$' :: '\x7b' :: (content ++ '\x7d' :: after)) := by
      rintro ⟨content', after', hfree, heq⟩
      obtain ⟨-, heq⟩ := List.cons.inj heq
      obtain ⟨-, heq⟩ := List.cons.inj heq
      obtain ⟨rfl, -⟩ := content_inj hclosing hfree.not_mem_closing heq
      exact hfree.not_mem_opening hopening
    have hbrace : ¬ StartsPlaceholder ('\x7b' :: (content ++ '\x7d' :: after)) := by
      intro h
      cases h.eq_dollar
    have hclose : ¬ StartsPlaceholder ('\x7d' :: after) := by
      intro h
      cases h.eq_dollar
    rw [fillChars_char root hstart, fillChars_char root hbrace,
      fillChars_append_of_not_opens root hopens (by simp), fillChars_char root hclose]
  · have hfree := braceFree_of_not_mem hopening hclosing
    rw [fillChars_placeholder root hfree]
    simp [Piece.fill, lookup?, hpath, Piece.write]

end

end RecordGate.Template
