import RecordGate.Proofs.Template.Agreement
import RecordGate.Proofs.Template.Bytes

/-!
# Where issues stand

The offsets of the issues of a template are byte offsets of places in it.  Each issue stands where its mark does
(`StandsAt`): a closing brace that is unmatched, or the dollar sign and the opening brace of a placeholder.  The
offsets increase, since the check goes on behind what it has reported, and after a placeholder that is never closed
it does not go on at all.

A check is followed along its account (`Scanned`), so that the places, the order and the end are three inductions with
the same cases.  `StandsAt` is a split of the text whose first part has the offset as its size in bytes, so that an
offset never lies inside a character.

Main statement: `wellPlaced_issues`.
-/

namespace RecordGate.Template

open RecordGate.Text

/-! ### Marks -/

/-- What stands in a template at the offset of an issue. -/
def Issue.mark : Issue → List Char
  | unmatchedClose _ => ['\x7d']
  | _ => ['$', '\x7b']

/-- The mark of an issue stands at its offset in a text that starts at byte `offset`. -/
def StandsAt (offset : Nat) (cs : List Char) (issue : Issue) : Prop :=
  ∃ before rest, cs = before ++ (issue.mark ++ rest) ∧ issue.offset = offset + byteLength before

theorem StandsAt.append {offset : Nat} {taken cs : List Char} {issue : Issue}
    (h : StandsAt (offset + byteLength taken) cs issue) : StandsAt offset (taken ++ cs) issue := by
  obtain ⟨before, rest, rfl, hoffset⟩ := h
  refine ⟨taken ++ before, rest, by simp, ?_⟩
  rw [hoffset, byteLength_append, Nat.add_assoc]

theorem StandsAt.offset_le {offset : Nat} {cs : List Char} {issue : Issue} (h : StandsAt offset cs issue) :
    offset ≤ issue.offset := by
  obtain ⟨before, rest, -, hoffset⟩ := h
  omega

theorem Issue.byteLength_mark_pos (issue : Issue) : 0 < byteLength issue.mark := by
  cases issue <;> exact Nat.add_pos_left (Char.utf8Size_pos _) _

theorem StandsAt.offset_lt {offset : Nat} {cs : List Char} {issue : Issue} (h : StandsAt offset cs issue) :
    issue.offset < offset + byteLength cs := by
  obtain ⟨before, rest, rfl, hoffset⟩ := h
  have hmark := issue.byteLength_mark_pos
  rw [byteLength_append, byteLength_append]
  omega

theorem Region.issue?_cases {r : Region} {offset : Nat} {issue : Issue} (h : r.issue? offset = some issue) :
    issue = .nested offset ∨ issue = .empty offset ∨ ∃ path, issue = .invalidPath path offset := by
  simp only [Region.issue?] at h
  split at h
  next => exact .inl (Option.some.inj h).symm
  next =>
    split at h
    next => exact .inr (.inl (Option.some.inj h).symm)
    next =>
      split at h
      next => exact .inr (.inr ⟨_, (Option.some.inj h).symm⟩)
      next => cases h

theorem Region.standsAt_of_issue?_eq_some {r : Region} {offset : Nat} {issue : Issue}
    (h : r.issue? offset = some issue) (cs : List Char) :
    issue.offset = offset ∧ StandsAt offset ('$' :: '\x7b' :: cs) issue := by
  rcases r.issue?_cases h with rfl | rfl | ⟨path, rfl⟩
  · exact ⟨rfl, [], cs, rfl, rfl⟩
  · exact ⟨rfl, [], cs, rfl, rfl⟩
  · exact ⟨rfl, [], cs, rfl, rfl⟩

/-! ### Issues of a check -/

theorem Scanned.standsAt {offset depth : Nat} {cs : List Char} {found : List Issue}
    (h : Scanned offset depth cs found) : ∀ issue ∈ found, StandsAt offset cs issue := by
  induction h with
  | nil =>
    intro issue hmem
    cases hmem
  | @unclosed offset depth cs hregion =>
    intro issue hmem
    obtain rfl := List.mem_singleton.1 hmem
    exact ⟨[], cs, rfl, rfl⟩
  | @region offset depth r cs found hregion _ ih =>
    intro issue hmem
    rcases List.mem_append.1 hmem with hmem | hmem
    · exact (r.standsAt_of_issue?_eq_some (Option.mem_toList.1 hmem) _).2
    · simpa using (ih issue hmem).append
  | opening _ ih =>
    intro issue hmem
    exact (ih issue hmem).append
  | closing _ ih =>
    intro issue hmem
    exact (ih issue hmem).append
  | @unmatched offset cs found _ ih =>
    intro issue hmem
    rcases List.mem_cons.1 hmem with rfl | hmem
    · exact ⟨[], cs, rfl, rfl⟩
    · exact (ih issue hmem).append
  | char _ _ _ ih =>
    intro issue hmem
    exact (ih issue hmem).append

/-- A check reports each of its issues behind those that it has reported before. -/
theorem Scanned.increasing {offset depth : Nat} {cs : List Char} {found : List Issue}
    (h : Scanned offset depth cs found) : found.Pairwise fun a b => a.offset < b.offset := by
  induction h with
  | nil => exact .nil
  | unclosed => exact List.pairwise_singleton _ _
  | @region offset depth r cs found _ hrest ih =>
    refine List.pairwise_append.2 ⟨?_, ih, ?_⟩
    · cases r.issue? offset with
      | none => exact .nil
      | some issue => exact List.pairwise_singleton _ _
    · intro issue hissue later hlater
      have hoffset := (r.standsAt_of_issue?_eq_some (Option.mem_toList.1 hissue) []).1
      have hle := (hrest.standsAt later hlater).offset_le
      have hdollar : '$'.utf8Size = 1 := rfl
      rw [byteLength_cons, hdollar] at hle
      omega
  | opening _ ih => exact ih
  | closing _ ih => exact ih
  | @unmatched offset cs found hrest ih =>
    refine List.pairwise_cons.2 ⟨?_, ih⟩
    intro later hlater
    exact (hrest.standsAt later hlater).offset_le
  | char _ _ _ ih => exact ih

theorem Scanned.eq_nil_of_unclosed {offset depth : Nat} {cs : List Char} {found : List Issue}
    (h : Scanned offset depth cs found) {earlier later : List Issue} {start : Nat}
    (hfound : found = earlier ++ .unclosed start :: later) : later = [] := by
  induction h generalizing earlier with
  | nil => simp at hfound
  | unclosed =>
    cases earlier with
    | nil => exact (List.cons.inj hfound).2.symm
    | cons issue earlier => simp at hfound
  | @region offset depth r cs found _ _ ih =>
    cases hissue : r.issue? offset with
    | none =>
      rw [hissue] at hfound
      exact ih hfound
    | some issue =>
      rw [hissue] at hfound
      cases earlier with
      | nil =>
        -- the issue of a closed placeholder is of another kind
        have hunclosed : issue = .unclosed start := (List.cons.inj hfound).1
        rcases r.issue?_cases hissue with hother | hother | ⟨path, hother⟩
        · cases hother.symm.trans hunclosed
        · cases hother.symm.trans hunclosed
        · cases hother.symm.trans hunclosed
      | cons other earlier => exact ih (List.cons.inj hfound).2
  | opening _ ih => exact ih hfound
  | closing _ ih => exact ih hfound
  | unmatched _ ih =>
    cases earlier with
    | nil => cases (List.cons.inj hfound).1
    | cons other earlier => exact ih (List.cons.inj hfound).2
  | char _ _ _ ih => exact ih hfound

/-! ### Issues of a template -/

/-- The issues of a template stand at places in it, from left to right.  Where a content is reported to be no path,
it runs from a dollar sign with an opening brace to the first closing brace, no other placeholder opens in it, and
the path that is named is what it holds between blanks. -/
structure WellPlaced (template : String) (found : List Issue) : Prop where
  increasing : found.Pairwise fun a b => a.offset < b.offset
  inside : ∀ issue ∈ found, issue.offset < template.utf8ByteSize
  marked : ∀ issue ∈ found, ∃ before rest,
    template.toList = before ++ (issue.mark ++ rest) ∧ issue.offset = byteLength before
  unclosed_last : ∀ earlier start later, found = earlier ++ .unclosed start :: later → later = []
  content : ∀ issue ∈ found, issue.isOfContent = true →
    ∃ before content after, template.toList = before ++ '$' :: '\x7b' :: (content ++ '\x7d' :: after) ∧
      issue.offset = byteLength before ∧ '\x7d' ∉ content ∧ ¬ Opens content ∧ issue.Denies content

/-- **Issues stand at real places.**  The check may be made on characters or on bytes, with cursors that
count bytes: both find the same issues, so that each text that is cut out between two cursors starts and ends
between characters and does not end before it starts; and these issues are well placed. -/
theorem wellPlaced_issues (template : String) :
    WellPlaced template (issues template) ∧ bytewise? template = some (issues template) := by
  have hscanned := scanned_issuesFrom 0 0 template.toList
  refine ⟨⟨hscanned.increasing, ?_, ?_, ?_, ?_⟩, bytewise?_eq_some template⟩
  · intro issue hmem
    have hlt := (hscanned.standsAt issue hmem).offset_lt
    rwa [Nat.zero_add, byteLength_toList] at hlt
  · intro issue hmem
    obtain ⟨before, rest, heq, hoffset⟩ := hscanned.standsAt issue hmem
    exact ⟨before, rest, heq, by rw [hoffset, Nat.zero_add]⟩
  · intro earlier start later hfound
    exact hscanned.eq_nil_of_unclosed hfound
  · intro issue hmem hcontent
    obtain ⟨before, content, after, heq, hoffset, hreported⟩ := hscanned.reported hmem hcontent
    exact ⟨before, content, after, heq, by rw [hoffset, Nat.zero_add], hreported⟩

/-- Characters before a place count with all their bytes, and so do those inside a placeholder. -/
example :
    issues "\u00e9\x7d $\x7b\u00fc x\x7d $\x7ba$\x7bb\x7d\x7d $\x7b\u20ac" =
      [.unmatchedClose 2, .invalidPath "\u00fc x" 4, .nested 12, .unclosed 21] := by decide +kernel

end RecordGate.Template
