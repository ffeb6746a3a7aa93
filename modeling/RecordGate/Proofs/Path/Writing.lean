import RecordGate.Proofs.Path.Characters

/-!
# Paths and their texts

A path is written as the shortest of its texts: the blanks around the text it was read from are gone, and so are the
zeros before an index.  What is written reads as the same path.

What is written of a path is again a text that consists of parts, the shortest ones with the same segments
(`ConsistsOf.write`).  So the text of a path reads as that path, and need not be looked at character by character.

Main statement: `corresponds_to_text`.
-/

namespace RecordGate

open RecordGate.Text

namespace Path

/-! ### The shortest text -/

namespace Part

/-- The same part with the index in as few digits as possible. -/
def shortest : Part → Part
  | key name => key name
  | indexed name ds => indexed name (withoutZeros ds)

variable {part : Part}

theorem segments_shortest : part.shortest.segments = part.segments := by
  cases part with
  | key name => rfl
  | indexed name ds => rw [shortest, segments, segments, number_withoutZeros]

theorem WellFormed.shortest (h : part.WellFormed) : part.shortest.WellFormed := by
  cases h with
  | key hne hname => exact .key hne hname
  | indexed hne hname hdigits hds hbound =>
    refine .indexed hne hname (withoutZeros_ne_nil hdigits) ?_ ?_
    · intro c hc
      exact hds c ((withoutZeros_suffix _).subset hc)
    · rwa [number_withoutZeros]

end Part

theorem writeRest_segments {part : Part} (h : part.WellFormed) (rest : List Segment) :
    writeRest (part.segments ++ rest) = '.' :: (part.shortest.text ++ writeRest rest) := by
  cases h with
  | key hne hname => simp [Part.segments, Part.shortest, Part.text, writeRest]
  | indexed hne hname hdigits hds hbound =>
    simp [Part.segments, Part.shortest, Part.text, writeRest, digits_number hdigits hds]

theorem writeRest_flatMap {parts : List Part} (h : ∀ part ∈ parts, part.WellFormed) :
    writeRest (parts.flatMap Part.segments) = (parts.map (·.shortest.text)).flatMap ('.' :: ·) := by
  induction parts with
  | nil => rfl
  | cons part rest ih =>
    obtain ⟨hpart, hrest⟩ := List.forall_mem_cons.1 h
    rw [List.flatMap_cons, writeRest_segments hpart, ih hrest, List.map_cons, List.flatMap_cons, List.cons_append]

theorem point_cons_write (part : Part) (rest : List Segment) :
    '.' :: write ⟨part.segments ++ rest⟩ = writeRest (part.segments ++ rest) := by
  cases part with
  | key name => rfl
  | indexed name ds => rfl

namespace ConsistsOf

variable {cs : List Char} {parts : List Part}

theorem write_eq (h : ConsistsOf cs parts) :
    write ⟨parts.flatMap Part.segments⟩ = ['.'].intercalate (parts.map (·.shortest.text)) := by
  obtain ⟨part, rest, rfl⟩ := List.exists_cons_of_ne_nil h.ne_nil
  obtain ⟨hpart, hrest⟩ := List.forall_mem_cons.1 h.wellFormed
  have hwrite := point_cons_write part (rest.flatMap Part.segments)
  rw [writeRest_segments hpart, writeRest_flatMap hrest] at hwrite
  rw [List.flatMap_cons, List.map_cons, intercalate_cons]
  exact (List.cons.inj hwrite).2

/-- What is written consists of the parts in their shortest texts. -/
theorem write (h : ConsistsOf cs parts) :
    ConsistsOf (write ⟨parts.flatMap Part.segments⟩) (parts.map Part.shortest) where
  ne_nil := mt List.map_eq_nil_iff.1 h.ne_nil
  wellFormed := by
    intro part hpart
    obtain ⟨written, hwritten, rfl⟩ := List.mem_map.1 hpart
    exact (h.wellFormed written hwritten).shortest
  text_eq := by
    rw [h.write_eq, List.map_map]
    rfl

theorem trim_eq (h : ConsistsOf cs parts) : trim cs = cs :=
  trim_eq_self fun _ hc => not_isBlank_of_isPathCharacter (h.of_mem hc)

end ConsistsOf

/-! ### Reading and writing -/

/-- A text determines the path, whichever parts it is cut into. -/
theorem ConsistsOf.eq_of_ofString? {source : String} {parts : List Part}
    (h : ConsistsOf (trim source.toList) parts) {p : Path} (hp : ofString? source = some p) :
    p = ⟨parts.flatMap Part.segments⟩ :=
  Option.some.inj (hp.symm.trans (ofChars?_eq_some_iff.2 ⟨parts, h, rfl⟩))

theorem ofString?_toString_of_ofString? {source : String} {p : Path} (h : ofString? source = some p) :
    ofString? p.toString = some p := by
  obtain ⟨parts, hparts, rfl⟩ := ofChars?_eq_some_iff.1 h
  have hwritten := hparts.write
  rw [ofString?, toString, String.toList_ofList]
  refine ofChars?_eq_some_iff.2 ⟨parts.map Part.shortest, hwritten.trim_eq.symm ▸ hwritten, ?_⟩
  simp only [List.flatMap_map, Part.segments_shortest]

theorem resolveIn?_eq_of_ofString? {source : String} {p : Path} (h : ofString? source = some p)
    (root : Table Value) : p.resolveIn? root = p.resolve? (.ofTable root) := by
  obtain ⟨parts, hparts, rfl⟩ := ofChars?_eq_some_iff.1 h
  obtain ⟨part, rest, rfl⟩ := List.exists_cons_of_ne_nil hparts.ne_nil
  cases part with
  | key name => rfl
  | indexed name ds => rfl

/-- What a path has to do with the text that it is read from. -/
structure CorrespondsTo (source : String) : Prop where
  reads_iff : (∃ p, ofString? source = some p) ↔ ∃ parts, ConsistsOf (trim source.toList) parts
  segments_eq : ∀ p, ofString? source = some p → ∀ parts, ConsistsOf (trim source.toList) parts →
    p.segments = parts.flatMap Part.segments
  written : ∀ p, ofString? source = some p → ∀ parts, ConsistsOf (trim source.toList) parts →
    p.toString.toList = ['.'].intercalate (parts.map (·.shortest.text))
  read_again : ∀ p, ofString? source = some p → ofString? p.toString = some p
  resolved : ∀ p, ofString? source = some p → ∀ root : Table Value, p.resolveIn? root = p.resolve? (.ofTable root)

/-- **Paths correspond to their texts.**  A text reads as a path exactly when it consists of well-formed parts,
blanks around it aside, and the path is what these parts stand for.  It is written with the parts in their shortest
form, which reads as the path again; and it leads to the same from a table as from the object of the table. -/
theorem corresponds_to_text (source : String) : CorrespondsTo source where
  reads_iff := by
    constructor
    · rintro ⟨p, hp⟩
      obtain ⟨parts, hparts, -⟩ := ofChars?_eq_some_iff.1 hp
      exact ⟨parts, hparts⟩
    · rintro ⟨parts, hparts⟩
      exact ⟨_, ofChars?_eq_some_iff.2 ⟨parts, hparts, rfl⟩⟩
  segments_eq := by
    intro p hp parts hparts
    rw [hparts.eq_of_ofString? hp]
  written := by
    intro p hp parts hparts
    rw [hparts.eq_of_ofString? hp, toString, String.toList_ofList, hparts.write_eq]
  read_again _ hp := ofString?_toString_of_ofString? hp
  resolved _ hp root := resolveIn?_eq_of_ofString? hp root

example : ofString? " items[007].k-1 " = some ⟨[.key "items", .index 7, .key "k-1"]⟩ ∧
    toString ⟨[.key "items", .index 7, .key "k-1"]⟩ = "items[7].k-1" ∧ ofString? "a[0][1]" = none := by
  decide +kernel

end Path

end RecordGate
