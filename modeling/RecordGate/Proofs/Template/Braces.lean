import Mathlib.Data.List.Infix
import RecordGate.Proofs.Template.Agreement
import RecordGate.Proofs.Template.Leftmost

/-!
# Braces of checked templates

What the check of a template accepts, in terms of its braces.  A text is covered when none of its prefixes has
more closing than opening braces (`Covered`).  A template has no issues exactly when its placeholders are well
formed and the text is covered (`issues_eq_nil_iff_covered`), and it makes no difference whether the
placeholders are counted, since each brings an opening brace and its closing one (`Leftmost.covered_iff`).

Covered texts are those in which each closing brace has an opening one that it belongs to
(`covered_iff_openedIn`).  Nothing is asked of opening braces that are text: the check counts those that are
open and does not look at their number in the end.

Main statements: `issues_eq_nil_iff_paths_and_braces`, `mismatch_reported`.
-/

namespace RecordGate.Template

open RecordGate.Text

/-! ### Covered texts -/

/-- After `depth` open braces, no prefix of the text closes more than are open. -/
def Covered (depth : Nat) (cs : List Char) : Prop :=
  ∀ start, start <+: cs → start.count '\x7d' ≤ depth + start.count '\x7b'

instance (depth : Nat) (cs : List Char) : Decidable (Covered depth cs) :=
  decidable_of_iff (∀ start ∈ cs.inits, start.count '\x7d' ≤ depth + start.count '\x7b')
    (by simp only [Covered, List.mem_inits])

theorem covered_nil (depth : Nat) : Covered depth [] := by
  intro start hstart
  rw [List.prefix_nil.1 hstart]
  exact Nat.zero_le _

theorem covered_cons {depth : Nat} {c : Char} {cs : List Char} :
    Covered depth (c :: cs) ↔
      ∀ start, start <+: cs → (c :: start).count '\x7d' ≤ depth + (c :: start).count '\x7b' := by
  constructor
  · intro h start hstart
    exact h _ ((List.prefix_cons_inj c).2 hstart)
  · intro h start hstart
    rcases List.prefix_cons_iff.1 hstart with rfl | ⟨start', rfl, hstart'⟩
    · exact Nat.zero_le _
    · exact h _ hstart'

theorem covered_opening {depth : Nat} {cs : List Char} :
    Covered depth ('\x7b' :: cs) ↔ Covered (depth + 1) cs := by
  rw [covered_cons]
  refine forall₂_congr fun start _ => ?_
  rw [List.count_cons_of_ne (by decide), List.count_cons_self]
  omega

theorem covered_closing {depth : Nat} {cs : List Char} :
    Covered (depth + 1) ('\x7d' :: cs) ↔ Covered depth cs := by
  rw [covered_cons]
  refine forall₂_congr fun start _ => ?_
  rw [List.count_cons_self, List.count_cons_of_ne (by decide)]
  omega

theorem not_covered_closing (cs : List Char) : ¬ Covered 0 ('\x7d' :: cs) := by
  intro h
  have hcount := covered_cons.1 h [] List.nil_prefix
  simp at hcount

theorem covered_char {depth : Nat} {c : Char} {cs : List Char} (hc : isBrace c = false) :
    Covered depth (c :: cs) ↔ Covered depth cs := by
  obtain ⟨hopening, hclosing⟩ : c ≠ '\x7b' ∧ c ≠ '\x7d' := by simpa [isBrace] using hc
  rw [covered_cons]
  refine forall₂_congr fun start _ => ?_
  rw [List.count_cons_of_ne hclosing, List.count_cons_of_ne hopening]

theorem covered_append_of_braceFree {depth : Nat} {content cs : List Char} (h : BraceFree content) :
    Covered depth (content ++ cs) ↔ Covered depth cs := by
  induction content with
  | nil => rfl
  | cons c content ih =>
    obtain ⟨hc, hcontent⟩ := List.forall_mem_cons.1 h
    rw [List.cons_append, covered_char hc, ih hcontent]

theorem covered_placeholder {depth : Nat} {content cs : List Char} (h : BraceFree content) :
    Covered depth ('$' :: '\x7b' :: (content ++ '\x7d' :: cs)) ↔ Covered depth cs := by
  rw [covered_char rfl, covered_opening, covered_append_of_braceFree h, covered_closing]

theorem covered_cons_congr {cs ds : List Char} (h : ∀ depth, Covered depth cs ↔ Covered depth ds)
    (c : Char) (depth : Nat) : Covered depth (c :: cs) ↔ Covered depth (c :: ds) := by
  by_cases hopening : c = '\x7b'
  · rw [hopening, covered_opening, covered_opening, h]
  · by_cases hclosing : c = '\x7d'
    · subst hclosing
      cases depth with
      | zero => exact iff_of_false (not_covered_closing cs) (not_covered_closing ds)
      | succ depth => rw [covered_closing, covered_closing, h]
    · have hc : isBrace c = false := by simp [isBrace, hopening, hclosing]
      rw [covered_char hc, covered_char hc, h]

theorem covered_append_congr {cs ds : List Char} (h : ∀ depth, Covered depth cs ↔ Covered depth ds)
    (before : List Char) (depth : Nat) : Covered depth (before ++ cs) ↔ Covered depth (before ++ ds) := by
  induction before generalizing depth with
  | nil => exact h depth
  | cons c before ih => exact covered_cons_congr ih c depth

/-- **Whether a text is covered is seen without its placeholders.** -/
theorem Leftmost.covered_iff {cs rest : List Char} {found : List (List Char × List Char)}
    (h : Leftmost cs found rest) (depth : Nat) :
    Covered depth (found.flatMap Prod.fst ++ rest) ↔ Covered depth cs := by
  induction h generalizing depth with
  | none => rfl
  | @first cs before content after rest found hplace _ _ ih =>
    rw [List.flatMap_cons, List.append_assoc, hplace.eq]
    refine covered_append_congr ?_ before depth
    intro depth
    rw [ih, covered_placeholder hplace.braceFree]

/-! ### Checked templates -/

theorem region?_of_braceFree {content : List Char} (h : BraceFree content) (after : List Char) :
    region? 0 (content ++ '\x7d' :: after) = some ⟨content, false⟩ := by
  induction content with
  | nil => rfl
  | cons c content ih =>
    obtain ⟨hc, hcontent⟩ := List.forall_mem_cons.1 h
    have hclosing : c ≠ '\x7d' := by
      rintro rfl
      cases hc
    have hopening : ∀ cs, c = '$' → content ++ '\x7d' :: after ≠ '\x7b' :: cs := by
      intro cs _ heq
      cases content with
      | nil => exact absurd (List.cons.inj heq).1 (by decide)
      | cons d content =>
        obtain ⟨rfl, -⟩ := List.cons.inj heq
        exact BraceFree.not_mem_opening hcontent List.mem_cons_self
    rw [List.cons_append, region?, ih hcontent]
    · rfl
    · exact hopening
    · exact fun _ heq => hclosing heq
    · exact fun _ _ heq => hclosing heq

theorem issue?_eq_none_of_path {content : List Char} {path : Path} (hpath : Path.ofChars? content = some path)
    (offset : Nat) : (Region.mk content false).issue? offset = none := by
  have htrim : Path.ofChars? (trim content) = some path := by rw [Path.ofChars?_trim, hpath]
  have hempty : (trim content).isEmpty = false := by
    rw [Bool.eq_false_iff, ne_eq, List.isEmpty_iff]
    intro hnil
    rw [hnil] at htrim
    cases htrim
  simp [Region.issue?, hempty, htrim]

theorem Scanned.covered {offset depth : Nat} {cs : List Char} {found : List Issue}
    (h : Scanned offset depth cs found) (hnone : found = []) : Covered depth cs := by
  induction h with
  | nil => exact covered_nil _
  | unclosed => cases hnone
  | @region offset depth r cs found _ _ ih =>
    obtain ⟨hissue, hfound⟩ := List.append_eq_nil_iff.1 hnone
    obtain ⟨path, hpath⟩ := r.ofChars?_of_issue?_eq_none (Option.toList_eq_nil_iff.1 hissue)
    exact (covered_placeholder (braceFree_of_ofChars? hpath)).2 (ih hfound)
  | opening _ ih => exact covered_opening.2 (ih hnone)
  | closing _ ih => exact covered_closing.2 (ih hnone)
  | unmatched => cases hnone
  | char hbrace _ _ ih => exact (covered_char hbrace).2 (ih hnone)

theorem Scanned.eq_nil {offset depth : Nat} {cs : List Char} {found : List Issue}
    (h : Scanned offset depth cs found) (hwell : WellFormed cs) (hcovered : Covered depth cs) :
    found = [] := by
  induction h with
  | nil => rfl
  | unclosed hregion =>
    obtain ⟨content, after, path, rfl, hpath⟩ := hwell [] _ rfl
    rw [region?_of_braceFree (braceFree_of_ofChars? hpath)] at hregion
    cases hregion
  | @region offset depth r cs found hregion _ ih =>
    obtain ⟨content, after, path, heq, hpath⟩ := hwell [] _ rfl
    have hfree := braceFree_of_ofChars? hpath
    rw [heq, region?_of_braceFree hfree] at hregion
    obtain rfl := Option.some.inj hregion
    obtain ⟨-, rfl⟩ := content_inj hfree.not_mem_closing hfree.not_mem_closing heq
    rw [issue?_eq_none_of_path hpath, ih hwell.of_placeholder ((covered_placeholder hfree).1 hcovered)]
    rfl
  | opening _ ih => exact ih (.of_append ['\x7b'] hwell) (covered_opening.1 hcovered)
  | closing _ ih => exact ih (.of_append ['\x7d'] hwell) (covered_closing.1 hcovered)
  | unmatched => exact absurd hcovered (not_covered_closing _)
  | @char _ _ c _ _ hbrace _ _ ih => exact ih (.of_append [c] hwell) ((covered_char hbrace).1 hcovered)

theorem issues_eq_nil_iff_covered {template : String} :
    issues template = [] ↔ WellFormed template.toList ∧ Covered 0 template.toList := by
  have h := scanned_issuesFrom 0 0 template.toList
  constructor
  · intro hnone
    exact ⟨h.wellFormed hnone, h.covered hnone⟩
  · rintro ⟨hwell, hcovered⟩
    exact h.eq_nil hwell hcovered

/-- **What the check accepts.**  A template has no issues exactly if each dollar sign in front of an opening
brace starts a placeholder with a path in it, and, with its placeholders taken out, no prefix has more closing
than opening braces. -/
theorem issues_eq_nil_iff_paths_and_braces (template : String) :
    issues template = [] ↔
      (∀ before rest, template.toList = before ++ '$' :: '\x7b' :: rest →
        ∃ content after path, PlaceholderAt template.toList before content after ∧
          Path.ofChars? content = some path) ∧
      ∃ found rest, Leftmost template.toList found rest ∧
        ∀ start, start <+: found.flatMap Prod.fst ++ rest → start.count '\x7d' ≤ start.count '\x7b' := by
  have hcovered {cs : List Char} :
      Covered 0 cs ↔ ∀ start, start <+: cs → start.count '\x7d' ≤ start.count '\x7b' := by
    simp only [Covered, Nat.zero_add]
  rw [issues_eq_nil_iff_covered]
  constructor
  · rintro ⟨hwell, hcov⟩
    constructor
    · intro before rest heq
      obtain ⟨content, after, path, rfl, hpath⟩ := hwell before rest heq
      exact ⟨content, after, path, ⟨braceFree_of_ofChars? hpath, heq⟩, hpath⟩
    · obtain ⟨found, rest, hleft⟩ := exists_leftmost template.toList
      exact ⟨found, rest, hleft, hcovered.1 ((hleft.covered_iff 0).2 hcov)⟩
  · rintro ⟨hplaces, found, rest, hleft, hcov⟩
    refine ⟨?_, (hleft.covered_iff 0).1 (hcovered.2 hcov)⟩
    intro before rest heq
    obtain ⟨content, after, path, hplace, hpath⟩ := hplaces before rest heq
    exact ⟨content, after, path, hplace.rest_eq heq, hpath⟩

/-! ### Braces that belong together -/

/-- All braces in the text belong to each other. -/
def Balanced (cs : List Char) : Prop := Covered 0 cs ∧ cs.count '\x7b' = cs.count '\x7d'

/-- An opening brace in front of the text has its closing one in it. -/
def ClosedIn (rest : List Char) : Prop :=
  ∃ inside after, rest = inside ++ '\x7d' :: after ∧ Balanced inside

/-- A closing brace behind the text has its opening one in it. -/
def OpenedIn (before : List Char) : Prop :=
  ∃ earlier inside, before = earlier ++ '\x7b' :: inside ∧ Balanced inside

/-- Each brace of a text has one that it belongs to. -/
structure BracesMatch (cs : List Char) : Prop where
  closed : ∀ before rest, cs = before ++ '\x7b' :: rest → ClosedIn rest
  opened : ∀ before rest, cs = before ++ '\x7d' :: rest → OpenedIn before

theorem BraceFree.balanced {content : List Char} (h : BraceFree content) : Balanced content := by
  constructor
  · rw [← List.append_nil content, covered_append_of_braceFree h]
    exact covered_nil 0
  · rw [List.count_eq_zero.2 h.not_mem_opening, List.count_eq_zero.2 h.not_mem_closing]

theorem Covered.count_lt {before rest : List Char} (h : Covered 0 (before ++ '\x7d' :: rest)) :
    before.count '\x7d' < before.count '\x7b' := by
  have hle := h (before ++ ['\x7d']) ⟨rest, by simp⟩
  have hopening : ['\x7d'].count '\x7b' = 0 := rfl
  rw [List.count_append, List.count_append, List.count_singleton_self, hopening] at hle
  omega

theorem not_closedIn_of_covered {rest : List Char} (h : Covered 0 rest) : ¬ ClosedIn rest := by
  rintro ⟨inside, after, rfl, -, hcount⟩
  exact absurd hcount.symm (Nat.ne_of_lt h.count_lt)

theorem balanced_of_suffixes {inside : List Char}
    (hle : ∀ tail, tail <:+ inside → tail.count '\x7b' ≤ tail.count '\x7d')
    (hcount : inside.count '\x7b' = inside.count '\x7d') : Balanced inside := by
  refine ⟨?_, hcount⟩
  rintro start ⟨tail, rfl⟩
  have hend := hle tail (List.suffix_append start tail)
  rw [List.count_append, List.count_append] at hcount
  omega

/-- Where more is opened than closed behind some place of a text, a closing brace after the text has its
opening one in it: the brace at the last such place. -/
theorem openedIn_of_suffix {before : List Char}
    (h : ∃ tail, tail <:+ before ∧ tail.count '\x7d' < tail.count '\x7b') : OpenedIn before := by
  induction before with
  | nil =>
    obtain ⟨tail, htail, hlt⟩ := h
    rw [List.suffix_nil.1 htail] at hlt
    exact absurd hlt (Nat.lt_irrefl _)
  | cons c before ih =>
    by_cases hlater : ∃ tail, tail <:+ before ∧ tail.count '\x7d' < tail.count '\x7b'
    · obtain ⟨earlier, inside, rfl, hinside⟩ := ih hlater
      exact ⟨c :: earlier, inside, rfl, hinside⟩
    · have hle : ∀ tail, tail <:+ before → tail.count '\x7b' ≤ tail.count '\x7d' := by
        intro tail htail
        exact Nat.le_of_not_lt fun hlt => hlater ⟨tail, htail, hlt⟩
      have hwhole := hle before List.suffix_rfl
      obtain ⟨tail, htail, hlt⟩ := h
      rcases List.suffix_cons_iff.1 htail with rfl | htail
      · -- only the first character can make the difference
        obtain rfl : c = '\x7b' := by
          by_contra hc
          have hclosing := List.count_le_count_cons (a := '\x7d') (b := c) (l := before)
          rw [List.count_cons_of_ne hc] at hlt
          omega
        rw [List.count_cons_self, List.count_cons_of_ne (by decide)] at hlt
        exact ⟨[], before, rfl, balanced_of_suffixes hle (by omega)⟩
      · exact absurd hlt (Nat.not_lt.2 (hle tail htail))

/-- The induction is on the length of the prefix.  One that ends in a closing brace is a shorter one, the opening
brace, a balanced text and the closing brace. -/
theorem covered_of_openedIn {cs : List Char}
    (h : ∀ before rest, cs = before ++ '\x7d' :: rest → OpenedIn before) : Covered 0 cs := by
  intro start
  induction hlength : start.length using Nat.strong_induction_on generalizing start with
  | _ n ih =>
    rintro ⟨rest, rfl⟩
    rcases List.eq_nil_or_concat' start with rfl | ⟨start, c, rfl⟩
    · exact Nat.zero_le _
    · rw [List.length_append, List.length_singleton] at hlength
      by_cases hc : c = '\x7d'
      · subst hc
        obtain ⟨earlier, inside, rfl, -, hcount⟩ := h start rest (by simp)
        rw [List.length_append, List.length_cons] at hlength
        have hearlier := ih earlier.length (by omega) earlier rfl
          ⟨'\x7b' :: (inside ++ '\x7d' :: rest), by simp⟩
        have hopening : (earlier ++ '\x7b' :: inside ++ ['\x7d']).count '\x7b' =
            earlier.count '\x7b' + (inside.count '\x7b' + 1) := by simp
        have hclosing : (earlier ++ '\x7b' :: inside ++ ['\x7d']).count '\x7d' =
            earlier.count '\x7d' + (inside.count '\x7d' + 1) := by simp
        omega
      · have hstart := ih start.length (by omega) start rfl ⟨c :: rest, by simp⟩
        rw [List.count_append, List.count_append, List.count_singleton, if_neg (by simpa using hc)]
        omega

/-- **A text is covered exactly if each closing brace has its opening one.** -/
theorem covered_iff_openedIn {cs : List Char} :
    Covered 0 cs ↔ ∀ before rest, cs = before ++ '\x7d' :: rest → OpenedIn before := by
  constructor
  · rintro h before rest rfl
    exact openedIn_of_suffix ⟨before, List.suffix_rfl, h.count_lt⟩
  · exact covered_of_openedIn

/-! ### Mismatched braces -/

/-- **Braces without a partner are reported, but for opening ones that are text.**  A closing brace that has no
opening one and the brace of a placeholder that is never closed always lead to an issue.
A template has no issues exactly if its placeholders are well formed and its closing braces have their opening
ones, whether or not the opening braces that are text have their closing ones. -/
theorem mismatch_reported (template : String) :
    ((∃ before rest, template.toList = before ++ '\x7d' :: rest ∧ ¬ OpenedIn before) ∨
        (∃ before rest, template.toList = before ++ '$' :: '\x7b' :: rest ∧ ¬ ClosedIn rest) →
      issues template ≠ []) ∧
    (issues template = [] ↔
      (∀ before rest, template.toList = before ++ '$' :: '\x7b' :: rest →
        ∃ content after path, rest = content ++ '\x7d' :: after ∧ Path.ofChars? content = some path) ∧
      ∀ before rest, template.toList = before ++ '\x7d' :: rest → OpenedIn before) := by
  have hiff := @issues_eq_nil_iff_covered template
  rw [covered_iff_openedIn] at hiff
  refine ⟨?_, hiff⟩
  rintro (⟨before, rest, heq, hopened⟩ | ⟨before, rest, heq, hclosed⟩) hnone
  · exact hopened ((hiff.1 hnone).2 before rest heq)
  · obtain ⟨content, after, path, rfl, hpath⟩ := (hiff.1 hnone).1 before rest heq
    exact hclosed ⟨content, after, rfl, (braceFree_of_ofChars? hpath).balanced⟩

/-- The brace of a placeholder whose path runs over another opening brace is never closed. -/
theorem mismatch_reported_overrun :
    ¬ ClosedIn "a\x7bb\x7d".toList ∧ issues "\x7bn\x7d $\x7ba\x7bb\x7d" ≠ [] := by
  have hclosed : ¬ ClosedIn "a\x7bb\x7d".toList := not_closedIn_of_covered (by decide +kernel)
  exact ⟨hclosed, (mismatch_reported _).1 (.inr ⟨"\x7bn\x7d ".toList, _, rfl, hclosed⟩)⟩

/-- An opening brace that is text and is never closed is not reported. -/
theorem mismatch_unreported :
    ¬ BracesMatch "a \x7b $\x7bb\x7d".toList ∧ issues "a \x7b $\x7bb\x7d" = [] := by
  constructor
  · intro h
    exact not_closedIn_of_covered (by decide +kernel) (h.closed "a ".toList " $\x7bb\x7d".toList rfl)
  · decide +kernel

end RecordGate.Template
