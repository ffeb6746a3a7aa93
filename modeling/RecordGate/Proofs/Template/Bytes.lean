import Mathlib.Data.List.Basic
import RecordGate.Proofs.Template.Scan
import RecordGate.Proofs.Text.ByteOrder

/-!
# Checking a template byte by byte

A template can be checked on its bytes, without taking them for characters first: a cursor goes from byte to byte,
and where a placeholder opens a second cursor goes ahead to the brace that closes it.  What stands between the two is
cut out of the text as a slice, which exists only between two places where characters start or the text ends.

All bytes that the cursors stop at are ASCII characters, and no other character has such a byte in it.  So this check
goes the way of the check on characters (`Scanned`), with cursors that count the bytes of the characters passed, and
no slice is missing.

The steps, from the bytes up:

* `Ahead bs i cs` says that the bytes of the characters `cs` are what a cursor at `i` has before it.  Every fact about
  a byte that is read is a fact about the first character: an ASCII character is its one byte
  (`utf8EncodeChar_of_lt`), and all bytes of any other one are 128 or more (`le_of_mem_utf8EncodeChar`).
* `Ahead.pass`: a loop that does the same at each byte of a character passes it as a whole.  Both cursors use it.
* `closing?_eq` and `slice?_eq`: the second cursor stops behind the region that the check on characters finds, and
  the slice in between exists and is the inner text of this region.
* `Scanned.bytewiseFrom?_eq` carries this along the account of a check, one case for each of its steps.

Main statement: `bytewise?_eq_some`.
-/

namespace RecordGate.Template

open RecordGate.Text

/-! ### The check -/

/-- Whether a dollar sign stands at a byte and an opening brace behind it. -/
def opensAt (bs : List UInt8) (i : Nat) : Bool := bs[i]? == some 0x24 && bs[i + 1]? == some 0x7b

/-- The byte behind the brace that closes the last of `depth` open placeholders, from byte `j` on, and whether
another one opens before it. -/
def closing? (bs : List UInt8) : (depth j : Nat) → (nested : Bool) → Option (Nat × Bool)
  | 0, j, nested => some (j, nested)
  | depth + 1, j, nested =>
    if j < bs.length then
      if opensAt bs j then closing? bs (depth + 2) (j + 2) true
      else if bs[j]? = some 0x7d then closing? bs depth (j + 1) nested
      else closing? bs (depth + 1) (j + 1) nested
    else none
termination_by _ j => bs.length - j

/-- The text between two bytes.  There is none unless both stand in front of a character or at the end, the first
of them not behind the second. -/
def slice? (text : String) (start stop : Nat) : Option String :=
  if h : String.Pos.Raw.IsValid text ⟨start⟩ ∧ String.Pos.Raw.IsValid text ⟨stop⟩ ∧ start ≤ stop then
    some (text.extract ⟨⟨start⟩, h.1⟩ ⟨⟨stop⟩, h.2.1⟩)
  else none

theorem le_of_closing? {bs : List UInt8} {depth j j' : Nat} {nested nested' : Bool}
    (h : closing? bs depth j nested = some (j', nested')) : j ≤ j' := by
  fun_induction closing? bs depth j nested with
  | case1 j nested =>
    obtain ⟨rfl, -⟩ := Prod.mk.inj (Option.some.inj h)
    exact Nat.le_refl _
  | case2 j nested depth _ _ ih => exact Nat.le_trans (by omega) (ih h)
  | case3 j nested depth _ _ _ ih => exact Nat.le_trans (by omega) (ih h)
  | case4 j nested depth _ _ _ ih => exact Nat.le_trans (by omega) (ih h)
  | case5 => cases h

/-- The issues of a template from byte `i` on, after `depth` open braces that are text, unless a slice is missing. -/
def bytewiseFrom? (template : String) (depth i : Nat) : Option (List Issue) :=
  if i < (bytes template).length then
    if opensAt (bytes template) i then
      match _hclosing : closing? (bytes template) 1 (i + 2) false with
      | none => some [.unclosed i]
      | some (j, nested) =>
        match slice? template (i + 2) (j - 1) with
        | none => none
        | some inner =>
          (bytewiseFrom? template depth j).map (((Region.mk inner.toList nested).issue? i).toList ++ ·)
    else if (bytes template)[i]? = some 0x7b then bytewiseFrom? template (depth + 1) (i + 1)
    else if (bytes template)[i]? = some 0x7d then
      if depth = 0 then (bytewiseFrom? template 0 (i + 1)).map (.unmatchedClose i :: ·)
      else bytewiseFrom? template (depth - 1) (i + 1)
    else bytewiseFrom? template depth (i + 1)
  else some []
termination_by (bytes template).length - i
decreasing_by
  · have := le_of_closing? _hclosing
    omega
  all_goals omega

/-- The issues of a template, found on its bytes. -/
def bytewise? (template : String) : Option (List Issue) := bytewiseFrom? template 0 0

/-! ### The bytes of characters -/

/-- The bytes of characters, one after the other. -/
def encode (cs : List Char) : List UInt8 := cs.flatMap String.utf8EncodeChar

theorem encode_cons (c : Char) (cs : List Char) : encode (c :: cs) = String.utf8EncodeChar c ++ encode cs := rfl

theorem encode_append (cs ds : List Char) : encode (cs ++ ds) = encode cs ++ encode ds := List.flatMap_append

@[simp] theorem length_encode (cs : List Char) : (encode cs).length = byteLength cs := by
  induction cs with
  | nil => rfl
  | cons c cs ih => rw [encode_cons, List.length_append, String.length_utf8EncodeChar, ih, byteLength_cons]

theorem byteLength_toList (text : String) : byteLength text.toList = text.utf8ByteSize := by
  have hbytes : text.toByteArray = (encode text.toList).toByteArray := String.utf8Encode_toList.symm
  rw [← length_encode, ← String.size_toByteArray, hbytes, List.size_toByteArray]

theorem utf8EncodeChar_of_lt {c : Char} (h : c.toNat < 128) : String.utf8EncodeChar c = [c.toNat.toUInt8] := by
  unfold String.utf8EncodeChar
  have hval : c.val.toNat ≤ 127 := Nat.le_of_lt_succ h
  simp only [if_pos hval]
  rfl

theorem le_of_mem_utf8EncodeChar {c : Char} (h : 128 ≤ c.toNat) {b : UInt8}
    (hb : b ∈ String.utf8EncodeChar c) : 128 ≤ b.toNat := by
  have hval : ¬ c.val.toNat ≤ 127 := Nat.not_le.2 h
  have hvalid := c.valid
  simp only [UInt32.isValidChar, Nat.isValidChar] at hvalid
  unfold String.utf8EncodeChar at hb
  simp only [if_neg hval] at hb
  split_ifs at hb <;> simp only [List.mem_cons, List.not_mem_nil, or_false] at hb
  · rcases hb with rfl | rfl <;> simp <;> omega
  · rcases hb with rfl | rfl | rfl <;> simp <;> omega
  · rcases hb with rfl | rfl | rfl | rfl <;> simp <;> omega

theorem toUInt8_inj {c a : Char} (hc : c.toNat < 128) (ha : a.toNat < 128)
    (h : c.toNat.toUInt8 = a.toNat.toUInt8) : c = a := by
  have hnat := congrArg UInt8.toNat h
  simp only [Nat.toUInt8, UInt8.toNat_ofNat'] at hnat
  apply Char.toNat_inj.1
  omega

/-! ### Cursors -/

/-- The bytes from a cursor on are those of the given characters. -/
def Ahead (bs : List UInt8) (i : Nat) (cs : List Char) : Prop := bs.drop i = encode cs

theorem ahead_bytes (text : String) : Ahead (bytes text) 0 text.toList := rfl

theorem Ahead.append {bs : List UInt8} {i : Nat} {taken cs : List Char} (h : Ahead bs i (taken ++ cs)) :
    Ahead bs (i + byteLength taken) cs := by
  rw [Ahead, ← List.drop_drop, h, encode_append, ← length_encode, List.drop_left]

theorem Ahead.cons {bs : List UInt8} {i : Nat} {c : Char} {cs : List Char} (h : Ahead bs i (c :: cs)) :
    Ahead bs (i + c.utf8Size) cs :=
  have hsplit : Ahead bs i ([c] ++ cs) := h
  hsplit.append

theorem Ahead.opening {bs : List UInt8} {i : Nat} {cs : List Char} (h : Ahead bs i ('$' :: '\x7b' :: cs)) :
    Ahead bs (i + 2) cs :=
  have hsplit : Ahead bs i (['$', '\x7b'] ++ cs) := h
  hsplit.append

theorem Ahead.getElem? {bs : List UInt8} {i : Nat} {cs : List Char} (h : Ahead bs i cs) (k : Nat) :
    bs[i + k]? = (encode cs)[k]? := by
  rw [← List.getElem?_drop, h]

theorem Ahead.length_le {bs : List UInt8} {i : Nat} (h : Ahead bs i []) : bs.length ≤ i :=
  List.drop_eq_nil_iff.1 h

theorem Ahead.getElem?_eq {bs : List UInt8} {i : Nat} {c : Char} {cs : List Char} (h : Ahead bs i (c :: cs))
    {k : Nat} (hk : k < c.utf8Size) : ∃ b ∈ String.utf8EncodeChar c, bs[i + k]? = some b := by
  have hlt : k < (String.utf8EncodeChar c).length := by rwa [String.length_utf8EncodeChar]
  refine ⟨(String.utf8EncodeChar c)[k], List.getElem_mem hlt, ?_⟩
  rw [h.getElem?, encode_cons, List.getElem?_append_left hlt, List.getElem?_eq_getElem hlt]

theorem Ahead.lt {bs : List UInt8} {i : Nat} {c : Char} {cs : List Char} (h : Ahead bs i (c :: cs)) :
    i < bs.length := by
  obtain ⟨b, -, hb⟩ := h.getElem?_eq c.utf8Size_pos
  exact (List.getElem?_eq_some_iff.1 hb).1

/-- The byte of an ASCII character is found where this character is, and nowhere in another one. -/
theorem Ahead.eq_some_iff {bs : List UInt8} {i : Nat} {c : Char} {cs : List Char} (h : Ahead bs i (c :: cs))
    {a : Char} (ha : a.toNat < 128) {k : Nat} (hk : k < c.utf8Size) :
    bs[i + k]? = some a.toNat.toUInt8 ↔ c = a := by
  obtain ⟨b, hmem, hb⟩ := h.getElem?_eq hk
  rw [hb, Option.some.injEq]
  constructor
  · rintro rfl
    by_cases hc : c.toNat < 128
    · rw [utf8EncodeChar_of_lt hc, List.mem_singleton] at hmem
      exact toUInt8_inj hc ha hmem.symm
    · have hle := le_of_mem_utf8EncodeChar (Nat.le_of_not_lt hc) hmem
      simp only [Nat.toUInt8, UInt8.toNat_ofNat'] at hle
      omega
  · rintro rfl
    rw [utf8EncodeChar_of_lt ha, List.mem_singleton] at hmem
    exact hmem

theorem Ahead.opensAt_iff {bs : List UInt8} {i : Nat} {cs : List Char} (h : Ahead bs i cs) :
    opensAt bs i = true ↔ ['$', '\x7b'] <+: cs := by
  rw [opensAt, Bool.and_eq_true, beq_iff_eq, beq_iff_eq]
  cases cs with
  | nil =>
    rw [List.getElem?_eq_none h.length_le]
    simp
  | cons c cs =>
    have hdollar := h.eq_some_iff (a := '$') (by decide) c.utf8Size_pos
    rw [List.cons_prefix_cons]
    constructor
    · rintro ⟨hfirst, hsecond⟩
      obtain rfl : c = '$' := hdollar.1 hfirst
      refine ⟨rfl, ?_⟩
      have hcons : Ahead bs (i + 1) cs := h.cons
      cases cs with
      | nil => simp [List.getElem?_eq_none hcons.length_le] at hsecond
      | cons d cs =>
        obtain rfl : d = '\x7b' := (hcons.eq_some_iff (by decide) d.utf8Size_pos).1 hsecond
        exact ⟨cs, rfl⟩
    · rintro ⟨rfl, tail, rfl⟩
      have hcons : Ahead bs (i + 1) ('\x7b' :: tail) := h.cons
      exact ⟨hdollar.2 rfl, (hcons.eq_some_iff (a := '\x7b') (by decide) (Char.utf8Size_pos _)).2 rfl⟩

/-- No placeholder opens inside a character, so a cursor sees none in it if it sees none in front of it. -/
theorem Ahead.opensAt_eq_false {bs : List UInt8} {i : Nat} {c : Char} {cs : List Char} (h : Ahead bs i (c :: cs))
    (hopens : ¬ ['$', '\x7b'] <+: c :: cs) {k : Nat} (hk : k < c.utf8Size) : opensAt bs (i + k) = false := by
  rw [← Bool.not_eq_true]
  intro hopensAt
  rw [opensAt, Bool.and_eq_true, beq_iff_eq] at hopensAt
  obtain rfl : c = '$' := (h.eq_some_iff (by decide) hk).1 hopensAt.1
  obtain rfl : k = 0 := Nat.lt_one_iff.1 hk
  apply hopens
  rw [← h.opensAt_iff, opensAt, Bool.and_eq_true, beq_iff_eq]
  exact hopensAt

theorem Ahead.getElem?_of_lt {bs : List UInt8} {i : Nat} {a : Char} {cs : List Char} (h : Ahead bs i (a :: cs))
    (ha : a.toNat < 128) : bs[i]? = some a.toNat.toUInt8 :=
  (h.eq_some_iff ha a.utf8Size_pos).2 rfl

theorem Ahead.not_opensAt {bs : List UInt8} {i : Nat} {c : Char} {cs : List Char} (h : Ahead bs i (c :: cs))
    (hc : c ≠ '$') : ¬ opensAt bs i = true := by
  rw [h.opensAt_iff, List.cons_prefix_cons]
  rintro ⟨rfl, -⟩
  exact hc rfl

/-- A cursor passes a character at which nothing opens, if it passes every byte at which nothing opens and that is
the byte of no other ASCII character. -/
theorem Ahead.pass {bs : List UInt8} {i : Nat} {c : Char} {cs : List Char} (h : Ahead bs i (c :: cs))
    (hopens : ¬ ['$', '\x7b'] <+: c :: cs) {α : Type} {f : Nat → α}
    (hstep : ∀ j < bs.length, opensAt bs j = false →
      (∀ a : Char, a.toNat < 128 → c ≠ a → bs[j]? ≠ some a.toNat.toUInt8) → f j = f (j + 1)) :
    f i = f (i + c.utf8Size) := by
  -- byte by byte, over each number of bytes that belong to the character
  have hpass : ∀ k ≤ c.utf8Size, f i = f (i + k) := by
    intro k
    induction k with
    | zero => exact fun _ => rfl
    | succ k ih =>
      intro hk
      obtain ⟨b, -, hb⟩ := h.getElem?_eq hk
      rw [ih (Nat.le_of_lt hk)]
      apply hstep (i + k) (List.getElem?_eq_some_iff.1 hb).1 (h.opensAt_eq_false hopens hk)
      intro a ha hne
      exact mt (h.eq_some_iff ha hk).1 hne
  exact hpass _ (Nat.le_refl _)

/-! ### Placeholders -/

theorem closing?_char {bs : List UInt8} {j : Nat} {c : Char} {cs : List Char} (h : Ahead bs j (c :: cs))
    (hopens : ¬ ['$', '\x7b'] <+: c :: cs) (hclosing : c ≠ '\x7d') (depth : Nat) (nested : Bool) :
    closing? bs (depth + 1) j nested = closing? bs (depth + 1) (j + c.utf8Size) nested := by
  apply h.pass hopens (f := fun j => closing? bs (depth + 1) j nested)
  intro j hlt hopensAt hbyte
  have hnot : ¬ bs[j]? = some 0x7d := hbyte '\x7d' (by decide) hclosing
  rw [closing?, if_pos hlt, hopensAt, if_neg Bool.false_ne_true, if_neg hnot]

/-- **The second cursor stops where the region ends.** -/
theorem closing?_eq {bs : List UInt8} {depth : Nat} {cs : List Char} {j : Nat} (h : Ahead bs j cs)
    (nested : Bool) :
    closing? bs (depth + 1) j nested =
      (region? depth cs).map fun r => (j + byteLength r.inner + 1, nested || r.nested) := by
  fun_induction region? depth cs generalizing j nested with
  | case1 depth =>
    rw [closing?, if_neg (Nat.not_lt.2 h.length_le)]
    rfl
  | case2 depth cs ih =>
    have hsize : byteLength ['$', '\x7b'] = 2 := rfl
    rw [closing?, if_pos h.lt, if_pos (h.opensAt_iff.2 ⟨cs, rfl⟩), ih h.opening, Option.map_map]
    congr 1
    funext r
    have hinner : byteLength ('$' :: '\x7b' :: r.inner) = 2 + byteLength r.inner := by
      rw [← hsize, ← byteLength_append]
      rfl
    simp [hinner, Nat.add_assoc]
  | case3 cs =>
    have hbyte : bs[j]? = some 0x7d := h.getElem?_of_lt (by decide)
    rw [closing?, if_pos h.lt, if_neg (h.not_opensAt (by decide)), if_pos hbyte, closing?]
    simp
  | case4 depth cs ih =>
    have hbyte : bs[j]? = some 0x7d := h.getElem?_of_lt (by decide)
    have htail : Ahead bs (j + 1) cs := h.cons
    rw [closing?, if_pos h.lt, if_neg (h.not_opensAt (by decide)), if_pos hbyte, ih htail, Option.map_map]
    congr 1
    funext r
    have hsize : '\x7d'.utf8Size = 1 := rfl
    simp [hsize, Nat.add_assoc]
  | case5 depth c cs hopening hzero hsucc ih =>
    have hopens : ¬ ['$', '\x7b'] <+: c :: cs := by
      rintro ⟨tail, heq⟩
      obtain ⟨rfl, rfl⟩ := List.cons.inj heq
      exact hopening tail rfl rfl
    have hclosing : c ≠ '\x7d' := by
      rintro rfl
      cases depth with
      | zero => exact hzero rfl rfl
      | succ depth => exact hsucc depth rfl rfl
    rw [closing?_char h hopens hclosing, ih h.cons, Option.map_map]
    congr 1
    funext r
    simp [Nat.add_assoc]

theorem slice?_eq {text : String} {before inner after : List Char} (h : text.toList = before ++ (inner ++ after)) :
    slice? text (byteLength before) (byteLength before + byteLength inner) = some (String.ofList inner) := by
  have htext : text = String.ofList before ++ (String.ofList inner ++ String.ofList after) := by
    rw [← String.toList_inj, String.toList_append, String.toList_append]
    simpa using h
  have hsize : ∀ cs : List Char, byteLength cs = (String.ofList cs).utf8ByteSize := by
    intro cs
    rw [← byteLength_toList, String.toList_ofList]
  have hstart : String.Pos.Raw.IsValid text ⟨byteLength before⟩ :=
    String.Pos.Raw.isValid_iff_exists_append.2 ⟨_, _, htext, congrArg _ (hsize before)⟩
  have hstop : String.Pos.Raw.IsValid text ⟨byteLength before + byteLength inner⟩ := by
    refine String.Pos.Raw.isValid_iff_exists_append.2
      ⟨String.ofList before ++ String.ofList inner, String.ofList after, by rw [htext, String.append_assoc], ?_⟩
    rw [String.rawEndPos, String.utf8ByteSize_append, hsize, hsize]
  rw [slice?, dif_pos ⟨hstart, hstop, Nat.le_add_right _ _⟩, Option.some.injEq, ← String.toByteArray_inj,
    String.toByteArray_extract]
  change text.toByteArray.extract (byteLength before) (byteLength before + byteLength inner) = _
  rw [htext, hsize, hsize, ← String.size_toByteArray, ← String.size_toByteArray, String.toByteArray_append,
    String.toByteArray_append]
  have hdrop := ByteArray.extract_append_size_add (a := (String.ofList before).toByteArray)
    (b := (String.ofList inner).toByteArray ++ (String.ofList after).toByteArray) (i := 0)
    (j := (String.ofList inner).toByteArray.size)
  rwa [Nat.add_zero, ByteArray.extract_append_eq_left rfl] at hdrop

/-! ### Templates -/

theorem bytewiseFrom?_char {template : String} {i : Nat} {c : Char} {cs : List Char}
    (h : Ahead (bytes template) i (c :: cs)) (hopens : ¬ ['$', '\x7b'] <+: c :: cs) (hbrace : isBrace c = false)
    (depth : Nat) : bytewiseFrom? template depth i = bytewiseFrom? template depth (i + c.utf8Size) := by
  simp only [isBrace, Bool.or_eq_false_iff, decide_eq_false_iff_not] at hbrace
  apply h.pass hopens (f := fun j => bytewiseFrom? template depth j)
  intro j hlt hopensAt hbyte
  have hopening : ¬ (bytes template)[j]? = some 0x7b := hbyte '\x7b' (by decide) hbrace.1
  have hclosing : ¬ (bytes template)[j]? = some 0x7d := hbyte '\x7d' (by decide) hbrace.2
  rw [bytewiseFrom?, if_pos hlt, if_neg (Bool.not_eq_true _ ▸ hopensAt), if_neg hopening, if_neg hclosing]

theorem ahead_of_eq_append {text : String} {before cs : List Char} (h : text.toList = before ++ cs) :
    Ahead (bytes text) (byteLength before) cs := by
  have hbytes := ahead_bytes text
  rw [h] at hbytes
  simpa using hbytes.append

/-- Where a placeholder opens, the second cursor goes to the end of its region. -/
theorem closing?_placeholder {text : String} {before cs : List Char}
    (h : text.toList = before ++ '$' :: '\x7b' :: cs) :
    closing? (bytes text) 1 (byteLength before + 2) false =
      (region? 0 cs).map fun r => (byteLength before + 2 + byteLength r.inner + 1, r.nested) := by
  rw [closing?_eq (ahead_of_eq_append h).opening]
  simp

theorem bytewiseFrom?_unclosed {template : String} {before cs : List Char}
    (h : template.toList = before ++ '$' :: '\x7b' :: cs) (hregion : region? 0 cs = none) (depth : Nat) :
    bytewiseFrom? template depth (byteLength before) = some [.unclosed (byteLength before)] := by
  have hat := ahead_of_eq_append h
  have hclosing := closing?_placeholder h
  rw [hregion] at hclosing
  rw [bytewiseFrom?, if_pos hat.lt, if_pos (hat.opensAt_iff.2 ⟨cs, rfl⟩)]
  split
  next => rfl
  next heq => cases hclosing.symm.trans heq

/-- The content of a closed placeholder is cut out, and the first cursor goes on behind the brace. -/
theorem bytewiseFrom?_region {template : String} {before cs : List Char} {r : Region}
    (h : template.toList = before ++ '$' :: '\x7b' :: (r.inner ++ '\x7d' :: cs))
    (hregion : region? 0 (r.inner ++ '\x7d' :: cs) = some r) (depth : Nat) :
    bytewiseFrom? template depth (byteLength before) =
      (bytewiseFrom? template depth (byteLength before + 2 + byteLength r.inner + 1)).map
        ((r.issue? (byteLength before)).toList ++ ·) := by
  have hat := ahead_of_eq_append h
  have hclosing := closing?_placeholder h
  rw [hregion] at hclosing
  have hslice : slice? template (byteLength before + 2) (byteLength before + 2 + byteLength r.inner) =
      some (String.ofList r.inner) := by
    have hopening : byteLength (before ++ ['$', '\x7b']) = byteLength before + 2 := byteLength_append _ _
    rw [← hopening]
    exact slice?_eq (by simpa using h)
  rw [bytewiseFrom?, if_pos hat.lt, if_pos (hat.opensAt_iff.2 ⟨_, rfl⟩)]
  split
  next heq => cases hclosing.symm.trans heq
  next j nested heq =>
    obtain ⟨rfl, rfl⟩ := Prod.mk.inj (Option.some.inj (hclosing.symm.trans heq))
    rw [Nat.add_sub_cancel, hslice]
    dsimp only
    rw [String.toList_ofList]

/-- **The check on bytes goes the way of the check on characters.**  The account of what is met gives each step of
the first cursor. -/
theorem Scanned.bytewiseFrom?_eq {offset depth : Nat} {cs : List Char} {found : List Issue}
    (h : Scanned offset depth cs found) {template : String} (before : List Char)
    (htemplate : template.toList = before ++ cs) (hoffset : offset = byteLength before) :
    bytewiseFrom? template depth offset = some found := by
  induction h generalizing before with
  | nil =>
    have hle := (ahead_of_eq_append htemplate).length_le
    rw [bytewiseFrom?, hoffset, if_neg (Nat.not_lt.2 hle)]
  | unclosed hregion =>
    subst hoffset
    exact bytewiseFrom?_unclosed htemplate hregion _
  | @region offset depth r cs found hregion _ ih =>
    subst hoffset
    have hrest := ih (before ++ '$' :: '\x7b' :: (r.inner ++ ['\x7d'])) (by simp [htemplate]) (by simp)
    have hend : byteLength before + byteLength ('$' :: '\x7b' :: (r.inner ++ ['\x7d'])) =
        byteLength before + 2 + byteLength r.inner + 1 := by
      have hdollar : '$'.utf8Size = 1 := rfl
      have hopening : '\x7b'.utf8Size = 1 := rfl
      have hclosing : '\x7d'.utf8Size = 1 := rfl
      simp only [byteLength_cons, byteLength_append, byteLength_nil, hdollar, hopening, hclosing]
      omega
    rw [hend] at hrest
    rw [bytewiseFrom?_region htemplate hregion, hrest]
    rfl
  | @opening offset depth cs found _ ih =>
    subst hoffset
    have hat := ahead_of_eq_append htemplate
    have hbyte : (bytes template)[byteLength before]? = some 0x7b := hat.getElem?_of_lt (by decide)
    rw [bytewiseFrom?, if_pos hat.lt, if_neg (hat.not_opensAt (by decide)), if_pos hbyte]
    exact ih (before ++ ['\x7b']) (by simp [htemplate]) (by simp)
  | @closing offset depth cs found _ ih =>
    subst hoffset
    have hat := ahead_of_eq_append htemplate
    have hbyte : (bytes template)[byteLength before]? = some 0x7d := hat.getElem?_of_lt (by decide)
    rw [bytewiseFrom?, if_pos hat.lt, if_neg (hat.not_opensAt (by decide)), hbyte, if_neg (by decide), if_pos rfl,
      if_neg (Nat.succ_ne_zero depth)]
    exact ih (before ++ ['\x7d']) (by simp [htemplate]) (by simp)
  | @unmatched offset cs found _ ih =>
    subst hoffset
    have hat := ahead_of_eq_append htemplate
    have hbyte : (bytes template)[byteLength before]? = some 0x7d := hat.getElem?_of_lt (by decide)
    have hrest := ih (before ++ ['\x7d']) (by simp [htemplate]) (by simp)
    rw [bytewiseFrom?, if_pos hat.lt, if_neg (hat.not_opensAt (by decide)), hbyte, if_neg (by decide), if_pos rfl,
      if_pos rfl]
    exact Option.map_eq_some_iff.2 ⟨found, hrest, rfl⟩
  | @char offset depth c cs found hbrace hopens _ ih =>
    subst hoffset
    rw [bytewiseFrom?_char (ahead_of_eq_append htemplate) hopens hbrace]
    exact ih (before ++ [c]) (by simp [htemplate]) (by simp)

/-- **A check on bytes finds all issues**, and misses no slice. -/
theorem bytewise?_eq_some (template : String) : bytewise? template = some (issues template) :=
  (scanned_issuesFrom 0 0 template.toList).bytewiseFrom?_eq [] rfl rfl

end RecordGate.Template
