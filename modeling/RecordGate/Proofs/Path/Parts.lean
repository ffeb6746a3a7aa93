import Mathlib.Data.List.DropRight
import Mathlib.Data.List.TakeWhile
import RecordGate.Proofs.Text.Digits
import RecordGate.Path

/-!
# The parts of a path

Between its points the text of a path has one or more parts.  A part is a key, or a key with one index in brackets.
Here a part is data of its own, with its text and the segments that it stands for, and what reads as a path is shown
to be a list of well-formed parts, blanks around it aside.

A `Part` has a text and segments, and the text and the segments determine each other.  `Part.WellFormed` asks for key
characters, and for an index that is a number of 64 bits; both directions for single parts are in `part?_eq_some_iff`.
Points do not occur in parts, so that a text with points between well-formed parts is cut into these parts
(`ConsistsOf.splitAt_eq`), and `ofChars?_eq_some_iff` says of any text whether it reads as a path and as which.

Main statements: `part?_eq_some_iff`, `ofChars?_eq_some_iff`.
-/

namespace RecordGate

open RecordGate.Text

/-! ### Cutting a text -/

theorem Text.splitAt_eq_splitOn (separator : Char) (cs : List Char) :
    splitAt separator cs = cs.splitOn separator := by
  induction cs with
  | nil => rfl
  | cons c cs ih =>
    rw [splitAt, ih, List.splitOn, List.splitOn, List.splitOnP_cons_eq_if_modifyHead]
    by_cases hc : c = separator
    · simp [hc]
    · obtain ⟨part, parts, hparts⟩ :=
        List.exists_cons_of_ne_nil (List.splitOnP_ne_nil (fun x => x == separator) cs)
      simp [hc, hparts]

theorem Text.intercalate_cons (separator : Char) (first : List Char) (rest : List (List Char)) :
    [separator].intercalate (first :: rest) = first ++ rest.flatMap (separator :: ·) := by
  induction rest generalizing first with
  | nil => simp
  | cons second rest ih => simp [List.intercalate_cons_cons, ih]

namespace Path

/-- A part of a path as it is written: a key, or a key with the digits of an index. -/
inductive Part where
  | key (name : List Char)
  | indexed (name ds : List Char)

namespace Part

/-- The text of a part. -/
def text : Part → List Char
  | key name => name
  | indexed name ds => name ++ '[' :: (ds ++ [']'])

/-- What a part stands for. -/
def segments : Part → List Segment
  | key name => [.key (String.ofList name)]
  | indexed name ds => [.key (String.ofList name), .index (number ds)]

/-- Keys have one or more characters, all of them letters, digits, `_`, `$` or `-`.  An index has one or more
decimal digits, and 64 bits hold what they read as. -/
inductive WellFormed : Part → Prop where
  | key {name : List Char} (hne : name ≠ []) (hname : ∀ c ∈ name, isKeyChar c = true) : WellFormed (.key name)
  | indexed {name ds : List Char} (hne : name ≠ []) (hname : ∀ c ∈ name, isKeyChar c = true) (hdigits : ds ≠ [])
      (hds : ∀ c ∈ ds, isDigit c = true) (hbound : number ds < 2 ^ 64) : WellFormed (.indexed name ds)

end Part

/-- The characters that the text of a path can have between the blanks around it. -/
def isPathCharacter (c : Char) : Bool := isKeyChar c || c = '.' || c = '[' || c = ']'

theorem not_isBlank_of_isPathCharacter {c : Char} (h : isPathCharacter c = true) : isBlank c = false := by
  by_contra hblank
  simp only [isBlank, Bool.not_eq_false, Bool.or_eq_true, Bool.and_eq_true, decide_eq_true_eq, beq_iff_eq] at hblank
  simp only [isPathCharacter, isKeyChar, Bool.or_eq_true, decide_eq_true_eq, isLetter_iff, isDigit_iff] at h
  rcases h with ((((((h | h) | rfl) | rfl) | rfl) | rfl) | rfl) | rfl
  · omega
  · omega
  all_goals exact absurd hblank (by decide)

/-! ### Keys and indexes -/

theorem ne_bracket_of_isKeyChar {c : Char} (h : isKeyChar c = true) : c ≠ '[' := by
  rintro rfl
  exact absurd h (by decide)

theorem key?_eq_some_iff {cs : List Char} {s : Segment} :
    key? cs = some s ↔ cs ≠ [] ∧ (∀ c ∈ cs, isKeyChar c = true) ∧ s = .key (String.ofList cs) := by
  unfold key?
  constructor
  · intro h
    split at h
    next hcs =>
      simp only [Bool.and_eq_true, Bool.not_eq_true', List.isEmpty_eq_false_iff, List.all_eq_true] at hcs
      exact ⟨hcs.1, hcs.2, (Option.some.inj h).symm⟩
    next => cases h
  · rintro ⟨hne, hall, rfl⟩
    rw [if_pos]
    simpa [hne] using hall

theorem index?_eq_some_iff {cs : List Char} {s : Segment} :
    index? cs = some s ↔
      cs ≠ [] ∧ (∀ c ∈ cs, isDigit c = true) ∧ number cs < 2 ^ 64 ∧ s = .index (number cs) := by
  unfold index?
  constructor
  · intro h
    split at h
    next hcs =>
      simp only [Bool.and_eq_true, Bool.not_eq_true', List.isEmpty_eq_false_iff, List.all_eq_true,
        decide_eq_true_eq] at hcs
      exact ⟨hcs.1.1, hcs.1.2, hcs.2, (Option.some.inj h).symm⟩
    next => cases h
  · rintro ⟨hne, hall, hbound, rfl⟩
    rw [if_pos]
    simpa [hne] using ⟨hall, hbound⟩

theorem dropLast?_eq_some_iff {c : Char} {cs ds : List Char} : dropLast? c cs = some ds ↔ cs = ds ++ [c] := by
  unfold dropLast?
  constructor
  · intro h
    split at h
    next hlast =>
      obtain rfl := Option.some.inj h
      exact (List.dropLast_append_getLast? c hlast).symm
    next => cases h
  · rintro rfl
    simp

/-! ### Parts -/

theorem part?_text {part : Part} (h : part.WellFormed) : part? part.text = some part.segments := by
  cases h with
  | @key name hne hname =>
    have hdrop : name.dropWhile (· ≠ '[') = [] := by
      rw [List.dropWhile_eq_nil_iff]
      intro c hc
      simpa using ne_bracket_of_isKeyChar (hname c hc)
    have hkey := key?_eq_some_iff.2 ⟨hne, hname, rfl⟩
    rw [Part.text, part?, hdrop]
    simp [hkey, Part.segments]
  | @indexed name ds hne hname hdigits hds hbound =>
    have hbefore : ∀ c ∈ name, decide (c ≠ '[') = true := by
      intro c hc
      simpa using ne_bracket_of_isKeyChar (hname c hc)
    have hdrop : (name ++ '[' :: (ds ++ [']'])).dropWhile (· ≠ '[') = '[' :: (ds ++ [']']) := by
      rw [List.dropWhile_append_of_pos hbefore]
      rfl
    have htake : (name ++ '[' :: (ds ++ [']'])).takeWhile (· ≠ '[') = name := by
      rw [List.takeWhile_append_of_pos hbefore]
      simp
    have hinner := dropLast?_eq_some_iff.2 (rfl : ds ++ [']'] = ds ++ [']'])
    have hindex := index?_eq_some_iff.2 ⟨hdigits, hds, hbound, rfl⟩
    have hkey := key?_eq_some_iff.2 ⟨hne, hname, rfl⟩
    rw [Part.text, part?, hdrop, htake]
    simp [hinner, hindex, hkey, Part.segments]

/-- **What is read as a part is the text of a well-formed one.** -/
theorem part?_eq_some_iff {cs : List Char} {ss : List Segment} :
    part? cs = some ss ↔ ∃ part : Part, part.WellFormed ∧ part.text = cs ∧ part.segments = ss := by
  constructor
  · intro h
    unfold part? at h
    split at h
    next hdrop =>
      obtain ⟨s, hkey, rfl⟩ := Option.map_eq_some_iff.1 h
      obtain ⟨hne, hname, rfl⟩ := key?_eq_some_iff.1 hkey
      exact ⟨.key cs, .key hne hname, rfl, rfl⟩
    next bracket rest hdrop =>
      obtain ⟨ds, hinner, h⟩ := Option.bind_eq_some_iff.1 h
      obtain ⟨i, hindex, h⟩ := Option.bind_eq_some_iff.1 h
      obtain ⟨k, hkey, h⟩ := Option.bind_eq_some_iff.1 h
      obtain ⟨hdigits, hds, hbound, rfl⟩ := index?_eq_some_iff.1 hindex
      obtain ⟨hne, hname, rfl⟩ := key?_eq_some_iff.1 hkey
      obtain rfl : bracket = '[' := by
        have hhead := List.head?_dropWhile_not (· ≠ '[') cs
        rw [hdrop] at hhead
        simpa using hhead
      have htext : cs.takeWhile (· ≠ '[') ++ '[' :: (ds ++ [']']) = cs := by
        rw [← dropLast?_eq_some_iff.1 hinner, ← hdrop, List.takeWhile_append_dropWhile]
      exact ⟨.indexed _ ds, .indexed hne hname hdigits hds hbound, htext, Option.some.inj h⟩
  · rintro ⟨part, hpart, rfl, rfl⟩
    exact part?_text hpart

theorem Part.WellFormed.of_mem_text {part : Part} (h : part.WellFormed) {c : Char} (hc : c ∈ part.text) :
    isKeyChar c = true ∨ c = '[' ∨ c = ']' := by
  cases h with
  | key hne hname => exact .inl (hname c hc)
  | indexed hne hname hdigits hds hbound =>
    simp only [Part.text, List.mem_append, List.mem_cons, List.not_mem_nil, or_false] at hc
    rcases hc with hc | rfl | hc | rfl
    · exact .inl (hname c hc)
    · exact .inr (.inl rfl)
    · exact .inl (by simp [isKeyChar, hds c hc])
    · exact .inr (.inr rfl)

theorem Part.WellFormed.text_ne_nil {part : Part} (h : part.WellFormed) : part.text ≠ [] := by
  cases h with
  | key hne hname => exact hne
  | indexed hne hname hdigits hds hbound => exact List.append_ne_nil_of_left_ne_nil hne _

/-! ### Paths -/

theorem parts?_eq_some_iff {texts : List (List Char)} {ss : List Segment} :
    parts? texts = some ss ↔
      ∃ parts : List Part, (∀ part ∈ parts, part.WellFormed) ∧ parts.map Part.text = texts ∧
        parts.flatMap Part.segments = ss := by
  induction texts generalizing ss with
  | nil =>
    constructor
    · intro h
      exact ⟨[], by simp, rfl, Option.some.inj h⟩
    · rintro ⟨parts, -, hnil, rfl⟩
      obtain rfl := List.map_eq_nil_iff.1 hnil
      rfl
  | cons cs rest ih =>
    constructor
    · intro h
      obtain ⟨first, hfirst, h⟩ := Option.bind_eq_some_iff.1 h
      obtain ⟨others, hothers, h⟩ := Option.bind_eq_some_iff.1 h
      obtain ⟨part, hpart, rfl, rfl⟩ := part?_eq_some_iff.1 hfirst
      obtain ⟨parts, hparts, rfl, rfl⟩ := ih.1 hothers
      exact ⟨part :: parts, List.forall_mem_cons.2 ⟨hpart, hparts⟩, rfl, Option.some.inj h⟩
    · rintro ⟨parts, hall, htexts, rfl⟩
      obtain ⟨part, parts, rfl, rfl, hrest⟩ := List.map_eq_cons_iff.1 htexts
      obtain ⟨hpart, hparts⟩ := List.forall_mem_cons.1 hall
      rw [parts?, part?_text hpart, ih.2 ⟨parts, hparts, hrest, rfl⟩]
      rfl

/-- A text consists of well-formed parts, one or more, with points between them. -/
structure ConsistsOf (cs : List Char) (parts : List Part) : Prop where
  ne_nil : parts ≠ []
  wellFormed : ∀ part ∈ parts, part.WellFormed
  text_eq : ['.'].intercalate (parts.map Part.text) = cs

namespace ConsistsOf

variable {cs : List Char} {parts : List Part}

theorem cs_ne_nil (h : ConsistsOf cs parts) : cs ≠ [] := by
  obtain ⟨part, rest, rfl⟩ := List.exists_cons_of_ne_nil h.ne_nil
  rw [← h.text_eq, List.map_cons, intercalate_cons]
  exact List.append_ne_nil_of_left_ne_nil (h.wellFormed part List.mem_cons_self).text_ne_nil _

theorem splitAt_eq (h : ConsistsOf cs parts) : splitAt '.' cs = parts.map Part.text := by
  rw [splitAt_eq_splitOn, ← h.text_eq]
  apply List.splitOn_intercalate
  · intro text htext hpoint
    obtain ⟨part, hpart, rfl⟩ := List.mem_map.1 htext
    rcases (h.wellFormed part hpart).of_mem_text hpoint with hkey | hbracket | hbracket
    · exact absurd hkey (by decide)
    · exact absurd hbracket (by decide)
    · exact absurd hbracket (by decide)
  · exact mt List.map_eq_nil_iff.1 h.ne_nil

theorem of_mem (h : ConsistsOf cs parts) {c : Char} (hc : c ∈ cs) : isPathCharacter c = true := by
  have hmem : ∀ part ∈ parts, c ∈ part.text → isPathCharacter c = true := by
    intro part hpart hc
    rcases (h.wellFormed part hpart).of_mem_text hc with hkey | rfl | rfl
    · simp [isPathCharacter, hkey]
    · rfl
    · rfl
  obtain ⟨first, rest, rfl⟩ := List.exists_cons_of_ne_nil h.ne_nil
  rw [← h.text_eq, List.map_cons, intercalate_cons, List.mem_append, List.mem_flatMap] at hc
  rcases hc with hc | ⟨text, htext, hc⟩
  · exact hmem first List.mem_cons_self hc
  · obtain ⟨part, hpart, rfl⟩ := List.mem_map.1 htext
    rcases List.mem_cons.1 hc with rfl | hc
    · rfl
    · exact hmem part (List.mem_cons_of_mem _ hpart) hc

end ConsistsOf

/-- **What reads as a path consists of parts**, blanks around it aside, and the path is what the parts stand for. -/
theorem ofChars?_eq_some_iff {cs : List Char} {p : Path} :
    ofChars? cs = some p ↔ ∃ parts, ConsistsOf (trim cs) parts ∧ p = ⟨parts.flatMap Part.segments⟩ := by
  unfold ofChars?
  constructor
  · intro h
    split at h
    next => cases h
    next =>
      obtain ⟨ss, hss, rfl⟩ := Option.map_eq_some_iff.1 h
      obtain ⟨parts, hparts, htexts, rfl⟩ := parts?_eq_some_iff.1 hss
      refine ⟨parts, ⟨?_, hparts, ?_⟩, rfl⟩
      · rintro rfl
        exact splitAt_ne_nil _ _ htexts.symm
      · rw [htexts, splitAt_eq_splitOn, List.intercalate_splitOn]
  · rintro ⟨parts, hparts, rfl⟩
    split
    next hnil => exact absurd hnil hparts.cs_ne_nil
    next =>
      rw [hparts.splitAt_eq, parts?_eq_some_iff.2 ⟨parts, hparts.wellFormed, rfl, rfl⟩]
      rfl

end Path

end RecordGate
