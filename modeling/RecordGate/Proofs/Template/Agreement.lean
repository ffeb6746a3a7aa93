import RecordGate.Proofs.Path.Characters
import RecordGate.Proofs.Template.Scan

/-!
# Checked templates are filled as they were checked

The check of a template scans it with two counters of open braces; filling cuts it into pieces.  Both see the
same placeholders.  In a template without issues every dollar sign with an opening brace starts a placeholder
with a path in it (`WellFormed`), all of these are cut out (`AllRecognized`), and filling replaces them
(`Filled`).  A place that the check reports because there is no path in it (`Reported`) is copied by filling.

Main statement: `issues_agree_with_fill`.
-/

namespace RecordGate.Template

open RecordGate.Text

/-! ### Well-formed templates -/

/-- Wherever a dollar sign stands before an opening brace, a path follows that ends at a closing brace. -/
def WellFormed (cs : List Char) : Prop :=
  ∀ before rest, cs = before ++ '$' :: '\x7b' :: rest →
    ∃ content after path, rest = content ++ '\x7d' :: after ∧ Path.ofChars? content = some path

theorem braceFree_of_ofChars? {content : List Char} {path : Path}
    (h : Path.ofChars? content = some path) : BraceFree content := by
  refine braceFree_of_not_mem ?_ ?_
  · intro hmem
    have := Path.mem_characters_of_ofChars? h _ hmem
    revert this
    decide
  · intro hmem
    have := Path.mem_characters_of_ofChars? h _ hmem
    revert this
    decide

theorem wellFormed_nil : WellFormed [] := by
  intro before rest heq
  simp at heq

theorem WellFormed.cons {c : Char} {cs : List Char} (h : WellFormed cs)
    (hopens : ¬ ['$', '\x7b'] <+: c :: cs) : WellFormed (c :: cs) := by
  intro before rest heq
  cases before with
  | nil => exact absurd ⟨rest, heq.symm⟩ hopens
  | cons d before =>
    obtain ⟨-, heq⟩ := List.cons.inj heq
    exact h before rest heq

theorem WellFormed.placeholder {content cs : List Char} {path : Path} (h : WellFormed cs)
    (hpath : Path.ofChars? content = some path) :
    WellFormed ('$' :: '\x7b' :: (content ++ '\x7d' :: cs)) := by
  intro before rest heq
  cases before with
  | nil =>
    obtain ⟨-, heq⟩ := List.cons.inj heq
    obtain ⟨-, heq⟩ := List.cons.inj heq
    exact ⟨content, cs, path, heq.symm, hpath⟩
  | cons c before =>
    obtain ⟨-, heq⟩ := List.cons.inj heq
    cases before with
    | nil => exact absurd (List.cons.inj heq).1 (by decide)
    | cons d before =>
      -- nothing opens in a path, so this opens behind it
      obtain ⟨-, heq⟩ := List.cons.inj heq
      have hopening := (braceFree_of_ofChars? hpath).not_mem_opening
      obtain ⟨more, -, rfl⟩ := eq_append_of_append_opening hopening heq.symm
      exact h more rest rfl

theorem Region.ofChars?_of_issue?_eq_none {r : Region} {offset : Nat} (h : r.issue? offset = none) :
    ∃ path, Path.ofChars? r.inner = some path := by
  simp only [Region.issue?] at h
  split at h
  next => cases h
  next =>
    split at h
    next => cases h
    next =>
      split at h
      next => cases h
      next hpath =>
        rw [Path.ofChars?_trim, Option.isNone_iff_eq_none] at hpath
        exact Option.ne_none_iff_exists'.1 hpath

/-- A check that finds nothing has met placeholders with paths in them only. -/
theorem Scanned.wellFormed {offset depth : Nat} {cs : List Char} {found : List Issue}
    (h : Scanned offset depth cs found) (hnone : found = []) : WellFormed cs := by
  induction h with
  | nil => exact wellFormed_nil
  | unclosed => cases hnone
  | @region offset depth r cs found hregion hrest ih =>
    obtain ⟨hissue, hfound⟩ := List.append_eq_nil_iff.1 hnone
    obtain ⟨path, hpath⟩ := r.ofChars?_of_issue?_eq_none (Option.toList_eq_nil_iff.1 hissue)
    exact (ih hfound).placeholder hpath
  | opening _ ih => exact (ih hnone).cons (by simp)
  | closing _ ih => exact (ih hnone).cons (by simp)
  | unmatched => cases hnone
  | char _ hopens _ ih => exact (ih hnone).cons hopens

theorem wellFormed_of_issues_eq_nil {template : String} (h : issues template = []) :
    WellFormed template.toList :=
  (scanned_issuesFrom 0 0 template.toList).wellFormed h

/-! ### Recognized placeholders -/

/-- The place between two texts is cut out of the template as a placeholder with the given content, and the
texts are cut on their own. -/
def Recognized (before content after : List Char) : Prop :=
  pieces 0 (before ++ '$' :: '\x7b' :: (content ++ '\x7d' :: after)) =
    pieces 0 before ++ .placeholder content :: pieces 0 after

theorem recognized_of_braceFree {content : List Char} (h : BraceFree content)
    (before after : List Char) : Recognized before content after := by
  rw [Recognized, pieces_append_opening, pieces_placeholder h]

/-- A template is read as placeholders at all places where it could open one, and each holds a path. -/
def AllRecognized (cs : List Char) : Prop :=
  ∀ before rest, cs = before ++ '$' :: '\x7b' :: rest →
    ∃ content after path, rest = content ++ '\x7d' :: after ∧ Recognized before content after ∧
      Path.ofChars? content = some path

theorem WellFormed.allRecognized {cs : List Char} (h : WellFormed cs) : AllRecognized cs := by
  intro before rest heq
  obtain ⟨content, after, path, hrest, hpath⟩ := h before rest heq
  exact ⟨content, after, path, hrest, recognized_of_braceFree (braceFree_of_ofChars? hpath) _ _, hpath⟩

theorem recognized_of_pieces_eq_append {cs content : List Char} {ps qs : List Piece}
    (h : pieces 0 cs = ps ++ .placeholder content :: qs) :
    ∃ before after, cs = before ++ '$' :: '\x7b' :: (content ++ '\x7d' :: after) ∧
      pieces 0 before = ps ∧ pieces 0 after = qs := by
  have hcut := cut_pieces cs
  rw [h] at hcut
  generalize hall : ps ++ .placeholder content :: qs = all at hcut
  clear h
  induction hcut generalizing ps with
  | nil => simp at hall
  | @char c cs all hc hcut ih =>
    cases ps with
    | nil => cases hall
    | cons p ps =>
      rw [List.cons_append, List.cons.injEq] at hall
      obtain ⟨rfl, rfl⟩ := hall
      obtain ⟨before, after, rfl, hbefore, hafter⟩ := ih rfl
      refine ⟨c :: before, after, rfl, ?_, hafter⟩
      have hstart : ¬ StartsPlaceholder (c :: before) := by
        intro h
        exact hc (h.append _)
      rw [pieces_char hstart, hbefore]
  | @placeholder content' cs all hfree hcut ih =>
    cases ps with
    | nil =>
      obtain ⟨heq, rfl⟩ := List.cons.inj hall
      obtain rfl := Piece.placeholder.inj heq
      exact ⟨[], cs, rfl, rfl, hcut.pieces_eq⟩
    | cons p ps =>
      rw [List.cons_append, List.cons.injEq] at hall
      obtain ⟨rfl, rfl⟩ := hall
      obtain ⟨before, after, rfl, hbefore, hafter⟩ := ih rfl
      refine ⟨'$' :: '\x7b' :: (content' ++ '\x7d' :: before), after, by simp, ?_, hafter⟩
      rw [pieces_placeholder hfree, hbefore]

/-! ### What filling leaves -/

/-- A template, what it is filled to from a value, and the contents of the placeholders that are left.  A
placeholder is a dollar sign with a path in braces behind it; the value of the path takes its place, or
it is left as it is when the path leads to nothing. -/
inductive Filled (root : Value) : (template text : List Char) → (left : List (List Char)) → Prop where
  | nil : Filled root [] [] []
  | char {c : Char} {cs text : List Char} {left : List (List Char)}
      (hopens : ¬ ['$', '\x7b'] <+: c :: cs) (h : Filled root cs text left) :
      Filled root (c :: cs) (c :: text) left
  | value {content cs text : List Char} {left : List (List Char)} {path : Path} {v : Value}
      (hpath : Path.ofChars? content = some path) (hv : path.resolve? root = some v)
      (h : Filled root cs text left) :
      Filled root ('$' :: '\x7b' :: (content ++ '\x7d' :: cs)) (rendering v ++ text) left
  | left {content cs text : List Char} {left : List (List Char)} {path : Path}
      (hpath : Path.ofChars? content = some path) (hv : path.resolve? root = none)
      (h : Filled root cs text left) :
      Filled root ('$' :: '\x7b' :: (content ++ '\x7d' :: cs))
        ('$' :: '\x7b' :: (content ++ '\x7d' :: text)) (content :: left)

/-- The content of a placeholder that leads to nothing. -/
def Piece.left? (root : Value) : Piece → Option (List Char)
  | char _ => none
  | placeholder content => if (lookup? root content).isNone then some content else none

theorem WellFormed.of_append (before : List Char) {cs : List Char} (h : WellFormed (before ++ cs)) :
    WellFormed cs := by
  rintro before' rest rfl
  exact h (before ++ before') rest (by simp)

theorem WellFormed.of_placeholder {content cs : List Char}
    (h : WellFormed ('$' :: '\x7b' :: (content ++ '\x7d' :: cs))) : WellFormed cs := by
  apply WellFormed.of_append ('$' :: '\x7b' :: (content ++ ['\x7d']))
  simpa using h

/-- **A well-formed template is filled throughout**; what is left are those of its placeholders whose paths
lead to nothing. -/
theorem WellFormed.filled {cs : List Char} (h : WellFormed cs) (root : Value) :
    Filled root cs (fillChars root cs)
      ((pieces 0 cs).filterMap (Piece.left? root)) := by
  have hcut := cut_pieces cs
  rw [fillChars]
  generalize pieces 0 cs = ps at hcut
  induction hcut with
  | nil => exact .nil
  | @char c cs ps hc _ ih =>
    refine .char ?_ (ih (WellFormed.of_append [c] h))
    rintro ⟨rest, heq⟩
    obtain ⟨content, after, path, rfl, hpath⟩ := h [] rest heq.symm
    exact hc ⟨content, after, braceFree_of_ofChars? hpath, heq.symm⟩
  | @placeholder content cs ps hfree _ ih =>
    have htail := h.of_placeholder
    obtain ⟨content', after, path, heq, hpath⟩ := h [] _ rfl
    obtain ⟨rfl, -⟩ := content_inj hfree.not_mem_closing
      (braceFree_of_ofChars? hpath).not_mem_closing heq
    rw [List.flatMap_cons, fill_placeholder_of_path root hpath]
    cases hv : path.resolve? root with
    | some v =>
      have hlookup : lookup? root content = some v := by simp [lookup?, hpath, hv]
      simpa [Piece.left?, hlookup] using Filled.value hpath hv (ih htail)
    | none =>
      have hlookup : lookup? root content = none := by simp [lookup?, hpath, hv]
      simpa [Piece.left?, hlookup] using Filled.left hpath hv (ih htail)

/-! ### Reported contents -/

/-- The issue is one of a content in which there is no path. -/
def Issue.isOfContent : Issue → Bool
  | empty _ => true
  | invalidPath _ _ => true
  | _ => false

/-- What an issue says of the content that it was found in. -/
inductive Issue.Denies : Issue → (content : List Char) → Prop where
  | empty {offset : Nat} {content : List Char} (h : trim content = []) : Denies (.empty offset) content
  | invalidPath {offset : Nat} {content : List Char} (h : Path.ofChars? content = none) :
      Denies (.invalidPath (String.ofList (trim content)) offset) content

theorem Issue.Denies.ofChars?_eq_none {issue : Issue} {content : List Char} (h : issue.Denies content) :
    Path.ofChars? content = none := by
  cases h with
  | empty h => rw [← Path.ofChars?_trim, h]; rfl
  | invalidPath h => exact h

theorem Region.denies_of_issue?_eq_some {r : Region} {offset : Nat} {issue : Issue}
    (h : r.issue? offset = some issue) (hcontent : issue.isOfContent = true) :
    issue.offset = offset ∧ r.nested = false ∧ issue.Denies r.inner := by
  simp only [Region.issue?] at h
  split at h
  next =>
    cases h
    cases hcontent
  next hnested =>
    split at h
    next hempty =>
      cases h
      exact ⟨rfl, by simpa using hnested, .empty (List.isEmpty_iff.1 hempty)⟩
    next =>
      split at h
      next hpath =>
        cases h
        rw [Path.ofChars?_trim, Option.isNone_iff_eq_none] at hpath
        exact ⟨rfl, by simpa using hnested, .invalidPath hpath⟩
      next => cases h

/-- The issue is that of a place in the text, from a dollar sign with an opening brace to the first closing
brace after it, and nothing else opens there. -/
def Reported (offset : Nat) (cs : List Char) (issue : Issue) : Prop :=
  ∃ before content after, cs = before ++ '$' :: '\x7b' :: (content ++ '\x7d' :: after) ∧
    issue.offset = offset + byteLength before ∧ '\x7d' ∉ content ∧ ¬ Opens content ∧
    issue.Denies content

theorem Reported.append {offset : Nat} {taken cs : List Char} {issue : Issue}
    (h : Reported (offset + byteLength taken) cs issue) : Reported offset (taken ++ cs) issue := by
  obtain ⟨before, content, after, rfl, hoffset, hcontent⟩ := h
  refine ⟨taken ++ before, content, after, by simp, ?_, hcontent⟩
  rw [hoffset, byteLength_append, Nat.add_assoc]

theorem Scanned.reported {offset depth : Nat} {cs : List Char} {found : List Issue}
    (h : Scanned offset depth cs found) {issue : Issue} (hmem : issue ∈ found)
    (hcontent : issue.isOfContent = true) : Reported offset cs issue := by
  induction h with
  | nil => cases hmem
  | unclosed =>
    obtain rfl := List.mem_singleton.1 hmem
    cases hcontent
  | @region offset depth r cs found hregion _ ih =>
    rcases List.mem_append.1 hmem with hmem | hmem
    · obtain ⟨hoffset, hnested, hdenies⟩ := r.denies_of_issue?_eq_some (Option.mem_toList.1 hmem) hcontent
      obtain ⟨hclosing, hopens⟩ := not_opens_of_region? hregion hnested
      exact ⟨[], r.inner, cs, rfl, hoffset, hclosing, hopens, hdenies⟩
    · simpa using (ih hmem).append
  | opening _ ih => exact (ih hmem).append
  | closing _ ih => exact (ih hmem).append
  | unmatched _ ih =>
    rcases List.mem_cons.1 hmem with rfl | hmem
    · cases hcontent
    · exact (ih hmem).append
  | char _ _ _ ih => exact (ih hmem).append

/-! ### Agreement -/

/-- **The check of a template and its filling agree.**  If a template has no issues, the placeholders that
filling replaces are exactly the places where one could open, each holds a path, and from a value in which all
these paths lead somewhere the template is filled with no placeholder left.  Whatever issues a template has,
the place of each one that says that there is no path is copied by filling, from any value, between what the
text before it and the text after it are filled to. -/
theorem issues_agree_with_fill (template : String) :
    (issues template = [] →
      AllRecognized template.toList ∧
      (∀ ps content qs, pieces 0 template.toList = ps ++ .placeholder content :: qs →
        ∃ before after, template.toList = before ++ '$' :: '\x7b' :: (content ++ '\x7d' :: after) ∧
          pieces 0 before = ps ∧ pieces 0 after = qs) ∧
      ∀ root, (∀ content, .placeholder content ∈ pieces 0 template.toList →
          (lookup? root content).isSome = true) →
        Filled root template.toList (fill root template).toList []) ∧
    ∀ issue ∈ issues template, issue.isOfContent = true →
      ∃ before content after,
        template.toList = before ++ '$' :: '\x7b' :: (content ++ '\x7d' :: after) ∧
        issue.offset = byteLength before ∧ '\x7d' ∉ content ∧ issue.Denies content ∧
        ∀ root, (fill root template).toList =
          fillChars root before ++ '$' :: '\x7b' :: (content ++ '\x7d' :: fillChars root after) := by
  constructor
  · intro hnone
    have hwell := wellFormed_of_issues_eq_nil hnone
    refine ⟨hwell.allRecognized, fun _ _ _ => recognized_of_pieces_eq_append, ?_⟩
    intro root hall
    have hfilled := hwell.filled root
    have hleft : (pieces 0 template.toList).filterMap (Piece.left? root) = [] := by
      rw [List.filterMap_eq_nil_iff]
      rintro (_ | content) hmem
      · rfl
      · simpa [Piece.left?, Option.isNone_iff_eq_none, ← Option.isSome_iff_ne_none] using hall content hmem
    rw [fill, String.toList_ofList]
    exact hleft ▸ hfilled
  · intro issue hmem hcontent
    obtain ⟨before, content, after, heq, hoffset, hclosing, hopens, hdenies⟩ :=
      (scanned_issuesFrom 0 0 template.toList).reported hmem hcontent
    refine ⟨before, content, after, heq, by simpa using hoffset, hclosing, hdenies, ?_⟩
    intro root
    rw [fill, String.toList_ofList, heq]
    exact fillChars_of_ofChars?_eq_none root hclosing hopens hdenies.ofChars?_eq_none _ _

/-- A greeting has no issues and is filled throughout; a path with an empty part is reported, and is copied. -/
theorem issues_agree_with_fill_greeting :
    (AllRecognized "Hello $\x7buser.name\x7d, \x7bbraces\x7d".toList ∧
      Filled (.object [("user", .object [("name", .text "Ana")])])
        "Hello $\x7buser.name\x7d, \x7bbraces\x7d".toList "Hello Ana, \x7bbraces\x7d".toList []) ∧
    .invalidPath "a..b" 2 ∈ issues "x $\x7b a..b \x7d\x7d" ∧
      ∃ before content after,
        "x $\x7b a..b \x7d\x7d".toList = before ++ '$' :: '\x7b' :: (content ++ '\x7d' :: after) ∧
        byteLength before = 2 ∧ ∀ root, (fill root "x $\x7b a..b \x7d\x7d").toList =
          fillChars root before ++ '$' :: '\x7b' :: (content ++ '\x7d' :: fillChars root after) := by
  obtain ⟨hrecognized, -, hfilled⟩ :=
    (issues_agree_with_fill "Hello $\x7buser.name\x7d, \x7bbraces\x7d").1 (by decide +kernel)
  have hsome : .invalidPath "a..b" 2 ∈ issues "x $\x7b a..b \x7d\x7d" := by decide +kernel
  obtain ⟨before, content, after, heq, hoffset, -, -, hcopied⟩ :=
    (issues_agree_with_fill "x $\x7b a..b \x7d\x7d").2 _ hsome rfl
  refine ⟨⟨hrecognized, ?_⟩, hsome, before, content, after, heq, hoffset.symm, hcopied⟩
  have hpieces : pieces 0 "Hello $\x7buser.name\x7d, \x7bbraces\x7d".toList =
      "Hello ".toList.map .char ++ .placeholder "user.name".toList ::
        ", \x7bbraces\x7d".toList.map .char := by decide +kernel
  have htext : fill (.object [("user", .object [("name", .text "Ana")])])
      "Hello $\x7buser.name\x7d, \x7bbraces\x7d" = "Hello Ana, \x7bbraces\x7d" := by decide +kernel
  rw [← htext]
  refine hfilled _ ?_
  intro content hcontent
  rw [hpieces] at hcontent
  obtain rfl : content = "user.name".toList := by simpa using hcontent
  decide +kernel

end RecordGate.Template
