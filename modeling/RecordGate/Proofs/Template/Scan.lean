import RecordGate.Template.Check
import RecordGate.Proofs.Template.Pieces

/-!
# The account of a check

`Scanned` lists what the check of a template meets on its way, from the byte and with the open braces that it
starts with, and the issues that it has found at the end.  Every check has such an account
(`scanned_issuesFrom`), and facts about the issues of a template are inductions on it.
-/

namespace RecordGate.Template

open RecordGate.Text

/-! ### Regions -/

theorem eq_append_of_region? {depth : Nat} {cs : List Char} {r : Region}
    (h : region? depth cs = some r) : ∃ after, cs = r.inner ++ '\x7d' :: after := by
  fun_induction region? depth cs generalizing r with
  | case1 => cases h
  | case2 depth cs ih =>
    obtain ⟨inside, hinside, rfl⟩ := Option.map_eq_some_iff.1 h
    obtain ⟨after, rfl⟩ := ih hinside
    exact ⟨after, rfl⟩
  | case3 cs =>
    cases h
    exact ⟨cs, rfl⟩
  | case4 cs depth ih =>
    obtain ⟨inside, hinside, rfl⟩ := Option.map_eq_some_iff.1 h
    obtain ⟨after, rfl⟩ := ih hinside
    exact ⟨after, rfl⟩
  | case5 depth c cs _ _ _ ih =>
    obtain ⟨inside, hinside, rfl⟩ := Option.map_eq_some_iff.1 h
    obtain ⟨after, rfl⟩ := ih hinside
    exact ⟨after, rfl⟩

/-- A region that is not nested ends at the first closing brace, and nothing opens in it. -/
theorem not_opens_of_region? {cs : List Char} {r : Region} (h : region? 0 cs = some r)
    (hnested : r.nested = false) : '\x7d' ∉ r.inner ∧ ¬ Opens r.inner := by
  induction cs generalizing r with
  | nil => cases h
  | cons c cs ih =>
    unfold region? at h
    split at h
    next => contradiction
    next =>
      obtain ⟨inside, -, rfl⟩ := Option.map_eq_some_iff.1 h
      cases hnested
    next =>
      cases h
      refine ⟨List.not_mem_nil, ?_⟩
      rintro ⟨before, after, happend⟩
      simp at happend
    next depth hzero _ => cases hzero
    next hopening heq hclosing _ =>
      obtain ⟨rfl, rfl⟩ := List.cons.inj heq
      obtain ⟨inside, hinside, rfl⟩ := Option.map_eq_some_iff.1 h
      obtain ⟨hmem, hopens⟩ := ih hinside hnested
      obtain ⟨after, hafter⟩ := eq_append_of_region? hinside
      constructor
      · intro hc
        rcases List.mem_cons.1 hc with rfl | hc
        · exact hclosing rfl rfl
        · exact hmem hc
      · intro hc
        rcases List.infix_cons_iff.1 hc with ⟨tail, htail⟩ | hc
        · -- the text would go on with an opening brace
          obtain ⟨rfl, hinner⟩ := List.cons.inj htail
          rw [← hinner] at hafter
          exact hopening _ rfl hafter
        · exact hopens hc

/-! ### Accounts -/

/-- What is met from byte `offset` on, inside `depth` open braces that are text. -/
inductive Scanned : (offset depth : Nat) → List Char → List Issue → Prop where
  | nil {offset depth : Nat} : Scanned offset depth [] []
  | unclosed {offset depth : Nat} {cs : List Char} (h : region? 0 cs = none) :
      Scanned offset depth ('$' :: '\x7b' :: cs) [.unclosed offset]
  | region {offset depth : Nat} {r : Region} {cs : List Char} {found : List Issue}
      (h : region? 0 (r.inner ++ '\x7d' :: cs) = some r)
      (hrest : Scanned (offset + byteLength ('$' :: '\x7b' :: (r.inner ++ ['\x7d']))) depth cs found) :
      Scanned offset depth ('$' :: '\x7b' :: (r.inner ++ '\x7d' :: cs))
        ((r.issue? offset).toList ++ found)
  | opening {offset depth : Nat} {cs : List Char} {found : List Issue}
      (hrest : Scanned (offset + byteLength ['\x7b']) (depth + 1) cs found) :
      Scanned offset depth ('\x7b' :: cs) found
  | closing {offset depth : Nat} {cs : List Char} {found : List Issue}
      (hrest : Scanned (offset + byteLength ['\x7d']) depth cs found) :
      Scanned offset (depth + 1) ('\x7d' :: cs) found
  | unmatched {offset : Nat} {cs : List Char} {found : List Issue}
      (hrest : Scanned (offset + byteLength ['\x7d']) 0 cs found) :
      Scanned offset 0 ('\x7d' :: cs) (.unmatchedClose offset :: found)
  | char {offset depth : Nat} {c : Char} {cs : List Char} {found : List Issue}
      (hbrace : isBrace c = false) (hopens : ¬ ['$', '\x7b'] <+: c :: cs)
      (hrest : Scanned (offset + byteLength [c]) depth cs found) :
      Scanned offset depth (c :: cs) found

theorem issuesFrom_skip (offset depth : Nat) (taken cs : List Char) :
    issuesFrom offset depth taken.length (taken ++ cs) =
      issuesFrom (offset + byteLength taken) depth 0 cs := by
  induction taken generalizing offset with
  | nil => rfl
  | cons c taken ih =>
    rw [byteLength_cons, ← Nat.add_assoc]
    exact ih _

theorem issuesFrom_placeholder (offset depth : Nat) (cs : List Char) :
    issuesFrom offset depth 0 ('$' :: '\x7b' :: cs) =
      match region? 0 cs with
      | none => [.unclosed offset]
      | some r =>
        (r.issue? offset).toList ++
          issuesFrom (offset + '$'.utf8Size) depth (r.inner.length + 2) ('\x7b' :: cs) := by
  rw [issuesFrom]
  rfl

theorem issuesFrom_region {offset depth : Nat} {r : Region} {cs : List Char}
    (h : region? 0 (r.inner ++ '\x7d' :: cs) = some r) :
    issuesFrom offset depth 0 ('$' :: '\x7b' :: (r.inner ++ '\x7d' :: cs)) =
      (r.issue? offset).toList ++
        issuesFrom (offset + byteLength ('$' :: '\x7b' :: (r.inner ++ ['\x7d']))) depth 0 cs := by
  have hskip := issuesFrom_skip (offset + '$'.utf8Size) depth ('\x7b' :: (r.inner ++ ['\x7d'])) cs
  have hlength : ('\x7b' :: (r.inner ++ ['\x7d'])).length = r.inner.length + 2 := by simp
  rw [hlength, Nat.add_assoc, ← byteLength_cons, List.cons_append, List.append_assoc,
    List.singleton_append] at hskip
  rw [issuesFrom_placeholder, h, ← hskip]

theorem issuesFrom_char {offset depth : Nat} {c : Char} {cs : List Char} (hbrace : isBrace c = false)
    (hopens : ¬ ['$', '\x7b'] <+: c :: cs) :
    issuesFrom offset depth 0 (c :: cs) = issuesFrom (offset + byteLength [c]) depth 0 cs := by
  have hdollar : (c = '$' && cs.head? = some '\x7b') = false := by
    rw [← Bool.not_eq_true, Bool.and_eq_true, decide_eq_true_iff, decide_eq_true_iff]
    rintro ⟨rfl, hhead⟩
    obtain ⟨tail, rfl⟩ := List.head?_eq_some_iff.1 hhead
    exact hopens ⟨tail, rfl⟩
  simp only [isBrace, Bool.or_eq_false_iff, decide_eq_false_iff_not] at hbrace
  rw [issuesFrom, if_neg (by simp [hdollar]), if_neg hbrace.1, if_neg hbrace.2]
  rfl

/-- **Every check has an account.**  The recursion is on the length of what is left, since a region is taken
as a whole. -/
theorem scanned_issuesFrom (offset depth : Nat) :
    ∀ cs : List Char, Scanned offset depth cs (issuesFrom offset depth 0 cs)
  | [] => .nil
  | c :: cs => by
    by_cases hopens : ['$', '\x7b'] <+: c :: cs
    · obtain ⟨tail, htail⟩ := hopens
      cases hregion : region? 0 tail with
      | none =>
        rw [← htail]
        have hissues := issuesFrom_placeholder offset depth tail
        rw [hregion] at hissues
        exact hissues ▸ .unclosed hregion
      | some r =>
        obtain ⟨after, rfl⟩ := eq_append_of_region? hregion
        have hlt : after.length < (c :: cs).length := by
          rw [← htail]
          simp
          omega
        rw [← htail]
        exact issuesFrom_region hregion ▸ .region hregion (scanned_issuesFrom _ _ after)
    · by_cases hopening : c = '\x7b'
      · subst hopening
        exact .opening (scanned_issuesFrom _ _ cs)
      · by_cases hclosing : c = '\x7d'
        · subst hclosing
          cases depth with
          | zero => exact .unmatched (scanned_issuesFrom _ _ cs)
          | succ depth => exact .closing (scanned_issuesFrom _ _ cs)
        · have hbrace : isBrace c = false := by simp [isBrace, hopening, hclosing]
          rw [issuesFrom_char hbrace hopens]
          exact .char hbrace hopens (scanned_issuesFrom _ _ cs)
termination_by cs => cs.length
decreasing_by
  · exact hlt
  all_goals exact Nat.lt_succ_self cs.length

end RecordGate.Template
