import RecordGate.Proofs.Expression.Grammar

/-!
# Reading rules

The readers of the parser against the grammar, with `n` levels left below each of them.

* `Phrase.ReadsDerived`: what a reader reads is derived from the tokens it takes, within `n` levels.  It is shown of
  chains and relations for any reader of their operands (`readsDerived_chain`, `readsDerived_relation`), and then of
  `unary` by induction on the levels that are left (`readsDerived_unary`).
* `Derivation.read`: before tokens that cannot continue it, a derived phrase is read whole and stands for
  its tree; a phrase that nests deeper is refused as too deep, and not for another reason.

A chain has a fuel, the number of tokens that are left.  It is never used up, since each operand takes a token
(`length_lt_of_readsDerived`), so that more fuel reads the same (`chainFrom_congr_fuel`).

Main statement: `treeOf_eq_ok_iff_derivation`, which says for every list of tokens what the parser makes of it.
-/

namespace RecordGate.Expression

/-! ### The reader of each phrase -/

/-- The operators that the reader of a chain goes on at. -/
def ChainLevel.join? : ChainLevel → Token → Option (Tree → Tree → Tree)
  | disjunction => disjunction?
  | conjunction => conjunction?
  | equality => equality?

theorem ChainLevel.join?_eq_some_iff {k : ChainLevel} {t : Token} {join : Tree → Tree → Tree} :
    k.join? t = some join ↔ ∃ o : Link k, o.token = t ∧ o.join = join := by
  constructor
  · intro h
    cases k <;> cases t <;> try cases h
    · exact ⟨.or, rfl, rfl⟩
    · exact ⟨.and, rfl, rfl⟩
    · exact ⟨.equal, rfl, rfl⟩
    · exact ⟨.unequal, rfl, rfl⟩
  · rintro ⟨o, rfl, rfl⟩
    cases o <;> rfl

theorem relation?_eq_some_iff {t : Token} {join : Tree → Tree → Tree} :
    relation? t = some join ↔ ∃ o : Order, o.token = t ∧ Tree.compare o.comparison = join := by
  constructor
  · intro h
    cases t <;> try cases h
    · exact ⟨.less, rfl, rfl⟩
    · exact ⟨.lessEqual, rfl, rfl⟩
    · exact ⟨.greater, rfl, rfl⟩
    · exact ⟨.greaterEqual, rfl, rfl⟩
  · rintro ⟨o, rfl, rfl⟩
    cases o <;> rfl

theorem leaf?_eq_some_iff {t : Token} {e : Tree} :
    leaf? t = some e ↔ ∃ l : Leaf, l.token = t ∧ l.tree = e := by
  constructor
  · intro h
    cases t <;> try cases h
    · exact ⟨.text _, rfl, rfl⟩
    · exact ⟨.number _, rfl, rfl⟩
    · exact ⟨.yes, rfl, rfl⟩
    · exact ⟨.no, rfl, rfl⟩
    · exact ⟨.null, rfl, rfl⟩
    · exact ⟨.path _, rfl, rfl⟩
  · rintro ⟨l, rfl, rfl⟩
    cases l <;> rfl

/-- The reader of a phrase with `n` levels left. -/
def Phrase.reader (n : Nat) : Phrase → TreeReader
  | chain .disjunction => disjunction (Expression.unary n)
  | chain .conjunction =>
    Expression.chain conjunction? (Expression.chain equality? (Expression.relation (Expression.unary n)))
  | chain .equality => Expression.chain equality? (Expression.relation (Expression.unary n))
  | relation => Expression.relation (Expression.unary n)
  | unary => Expression.unary n
  | primary => Expression.unary n

theorem Phrase.reader_chain (n : Nat) (k : ChainLevel) :
    (Phrase.chain k).reader n = Expression.chain k.join? (k.operand.reader n) := by
  cases k <;> rfl

/-! ### What is read is derived -/

/-- The reader takes the tokens of a derivation within `n` levels, and gives its tree. -/
def Phrase.ReadsDerived (p : Phrase) (n : Nat) : Prop :=
  ∀ ts e rest, p.reader n ts = .ok (e, rest) →
    ∃ d : Derivation p, ts.map Located.token = d.tokens ++ rest.map Located.token ∧
      d.depth ≤ n ∧ d.tree = e

variable {n : Nat}

theorem derives_chainFrom {k : ChainLevel} (hop : k.operand.ReadsDerived n) (fuel : Nat)
    (left : Derivation (.chain k)) (hleft : left.depth ≤ n) (ts : List Located) (e : Tree)
    (rest : List Located)
    (h : chainFrom k.join? (k.operand.reader n) fuel left.tree ts = .ok (e, rest)) :
    ∃ d : Derivation (.chain k),
      left.tokens ++ ts.map Located.token = d.tokens ++ rest.map Located.token ∧
        d.depth ≤ n ∧ d.tree = e := by
  induction fuel generalizing left ts with
  | zero =>
    simp only [chainFrom, Except.ok.injEq, Prod.mk.injEq] at h
    obtain ⟨rfl, rfl⟩ := h
    exact ⟨left, rfl, hleft, rfl⟩
  | succ fuel ih =>
    cases ts with
    | nil =>
      simp only [chainFrom, Except.ok.injEq, Prod.mk.injEq] at h
      obtain ⟨rfl, rfl⟩ := h
      exact ⟨left, rfl, hleft, rfl⟩
    | cons t ts =>
      simp only [chainFrom] at h
      cases hj : k.join? t.token with
      | none =>
        simp only [hj, Except.ok.injEq, Prod.mk.injEq] at h
        obtain ⟨rfl, rfl⟩ := h
        exact ⟨left, rfl, hleft, rfl⟩
      | some join =>
        obtain ⟨o, ho, rfl⟩ := ChainLevel.join?_eq_some_iff.1 hj
        rw [hj] at h
        cases hr : k.operand.reader n ts with
        | error err => simp [hr] at h
        | ok read =>
          obtain ⟨e', ts'⟩ := read
          simp only [hr] at h
          obtain ⟨right, hts, hdepth, rfl⟩ := hop ts e' ts' hr
          obtain ⟨d, hd, hd_depth, hd_tree⟩ :=
            ih (.link left o right) (Nat.max_le.2 ⟨hleft, hdepth⟩) ts' h
          refine ⟨d, ?_, hd_depth, hd_tree⟩
          rw [← hd]
          simp [Derivation.tokens, hts, ho]

theorem readsDerived_chain {k : ChainLevel} (hop : k.operand.ReadsDerived n) :
    (Phrase.chain k).ReadsDerived n := by
  intro ts e rest h
  rw [Phrase.reader_chain, chain] at h
  cases hr : k.operand.reader n ts with
  | error err => simp [hr] at h
  | ok read =>
    obtain ⟨left, ts'⟩ := read
    simp only [hr] at h
    obtain ⟨d, hts, hdepth, rfl⟩ := hop ts left ts' hr
    obtain ⟨d', hd', hd'_depth, hd'_tree⟩ :=
      derives_chainFrom hop ts'.length (.single d) hdepth ts' e rest h
    exact ⟨d', hts.trans hd', hd'_depth, hd'_tree⟩

theorem readsDerived_relation (hop : Phrase.unary.ReadsDerived n) :
    Phrase.relation.ReadsDerived n := by
  intro ts e rest h
  change relation (unary n) ts = .ok (e, rest) at h
  rw [relation] at h
  cases hr : unary n ts with
  | error err => simp [hr] at h
  | ok read =>
    obtain ⟨left, ts'⟩ := read
    obtain ⟨d, hts, hdepth, rfl⟩ := hop ts left ts' hr
    cases ts' with
    | nil =>
      simp only [hr, Except.ok.injEq, Prod.mk.injEq] at h
      obtain ⟨rfl, rfl⟩ := h
      exact ⟨.alone d, hts, hdepth, rfl⟩
    | cons t ts' =>
      simp only [hr] at h
      cases hj : relation? t.token with
      | none =>
        simp only [hj, Except.ok.injEq, Prod.mk.injEq] at h
        obtain ⟨rfl, rfl⟩ := h
        exact ⟨.alone d, hts, hdepth, rfl⟩
      | some join =>
        obtain ⟨o, ho, rfl⟩ := relation?_eq_some_iff.1 hj
        rw [hj] at h
        cases hr' : unary n ts' with
        | error err => simp [hr'] at h
        | ok read =>
          obtain ⟨right, ts''⟩ := read
          simp only [hr', Except.ok.injEq, Prod.mk.injEq] at h
          obtain ⟨rfl, rfl⟩ := h
          obtain ⟨d', hts', hdepth', rfl⟩ := hop ts' right ts'' hr'
          refine ⟨.ordered d o d', ?_, Nat.max_le.2 ⟨hdepth, hdepth'⟩, rfl⟩
          simp only [Derivation.tokens, hts, List.map_cons, hts', ho, List.append_assoc,
            List.cons_append]

theorem readsDerived_disjunction (hop : Phrase.unary.ReadsDerived n) :
    (Phrase.chain .disjunction).ReadsDerived n :=
  readsDerived_chain (readsDerived_chain (readsDerived_chain (readsDerived_relation hop)))

theorem derives_leaf {t : Located} {rest rest' : List Located} {e : Tree}
    (h : (match leaf? t.token with
      | some e => Except.ok (e, rest)
      | none => .error (unexpected t)) = .ok (e, rest')) :
    ∃ d : Derivation .unary,
      (t :: rest).map Located.token = d.tokens ++ rest'.map Located.token ∧ d.depth ≤ n ∧
        d.tree = e := by
  cases hl : leaf? t.token with
  | none => simp [hl] at h
  | some e' =>
    simp only [hl, Except.ok.injEq, Prod.mk.injEq] at h
    obtain ⟨rfl, rfl⟩ := h
    obtain ⟨l, ht, rfl⟩ := leaf?_eq_some_iff.1 hl
    exact ⟨.primary (.leaf l), by simp [Derivation.tokens, ht], Nat.zero_le _, rfl⟩

theorem closed_eq_ok_iff {e e' : Tree} {ts rest : List Located} :
    closed e ts = .ok (e', rest) ↔ e = e' ∧ ∃ t, ts = t :: rest ∧ t.token = .closing := by
  cases ts with
  | nil => simp [closed]
  | cons t ts =>
    by_cases ht : t.token = .closing
    · simp only [closed, ht, if_true, Except.ok.injEq, Prod.mk.injEq, List.cons.injEq]
      grind
    · simp only [closed, ht, if_false, List.cons.injEq]
      grind

theorem readsDerived_unary (n : Nat) : Phrase.unary.ReadsDerived n := by
  induction n with
  | zero =>
    intro ts e rest h
    change unary 0 ts = .ok (e, rest) at h
    cases ts with
    | nil => simp [unary] at h
    | cons t ts =>
      simp only [unary] at h
      split at h
      · cases h
      · cases h
      · exact derives_leaf h
  | succ n ih =>
    intro ts e rest h
    change unary (n + 1) ts = .ok (e, rest) at h
    cases ts with
    | nil => simp [unary] at h
    | cons t ts =>
      simp only [unary] at h
      split at h
      next ht =>
        cases hr : unary n ts with
        | error err => simp [hr] at h
        | ok read =>
          obtain ⟨e', ts'⟩ := read
          simp only [hr, Except.ok.injEq, Prod.mk.injEq] at h
          obtain ⟨rfl, rfl⟩ := h
          obtain ⟨d, hts, hdepth, rfl⟩ := ih ts e' ts' hr
          exact ⟨.not d, by simp [Derivation.tokens, ht, hts], Nat.succ_le_succ hdepth, rfl⟩
      next ht =>
        cases hr : disjunction (unary n) ts with
        | error err => simp [hr] at h
        | ok read =>
          obtain ⟨e', ts'⟩ := read
          simp only [hr] at h
          obtain ⟨rfl, t', rfl, ht'⟩ := closed_eq_ok_iff.1 h
          obtain ⟨d, hts, hdepth, rfl⟩ := readsDerived_disjunction ih ts e' _ hr
          exact ⟨.primary (.group d), by simp [Derivation.tokens, ht, hts, ht'],
            Nat.succ_le_succ hdepth, rfl⟩
      next => exact derives_leaf h

theorem readsDerived_operand (n : Nat) (k : ChainLevel) : k.operand.ReadsDerived n := by
  have hrel := readsDerived_relation (readsDerived_unary n)
  cases k with
  | disjunction => exact readsDerived_chain (readsDerived_chain hrel)
  | conjunction => exact readsDerived_chain hrel
  | equality => exact hrel

/-! ### What is derived is read -/

/-- If the list starts with an operator, then with one that binds less tightly than `level`. -/
def StartsBelow (level : Nat) (rest : List Located) : Prop :=
  ∀ t ∈ rest.head?, ∀ l, t.token.level? = some l → l < level

theorem StartsBelow.mono {l l' : Nat} {rest : List Located} (hl : l ≤ l')
    (h : StartsBelow l rest) : StartsBelow l' rest :=
  fun t ht m hm => Nat.lt_of_lt_of_le (h t ht m hm) hl

theorem startsBelow_cons {level : Nat} {t : Located} {rest : List Located}
    (h : ∀ l, t.token.level? = some l → l < level) : StartsBelow level (t :: rest) := by
  intro t' ht' l hl
  obtain rfl : t = t' := by simpa using ht'
  exact h l hl

theorem startsBelow_closing {t : Located} (ht : t.token = .closing) (level : Nat)
    (rest : List Located) : StartsBelow level (t :: rest) :=
  startsBelow_cons fun l hl => by rw [ht] at hl; cases hl

/-- What a phrase has to be followed by to be read as far as it goes. -/
def Phrase.Ends (rest : List Located) : Phrase → Prop
  | chain k => StartsBelow (k.level + 1) rest
  | relation => StartsBelow 3 rest
  | unary => True
  | primary => True

/-- How the reader of a phrase goes on once it has read one: a chain may have more links. -/
def Phrase.proceed (n : Nat) (e : Tree) (rest : List Located) :
    Phrase → Except SyntaxError (Tree × List Located)
  | chain k => chainFrom k.join? (k.operand.reader n) rest.length e rest
  | _ => .ok (e, rest)

theorem chainFrom_of_head {join? : Token → Option (Tree → Tree → Tree)} {operand : TreeReader}
    {rest : List Located} (h : ∀ t ∈ rest.head?, join? t.token = none) (fuel : Nat) (e : Tree) :
    chainFrom join? operand fuel e rest = .ok (e, rest) := by
  cases fuel with
  | zero => rfl
  | succ fuel =>
    cases rest with
    | nil => rfl
    | cons t rest => simp only [chainFrom, h t rfl]

/-- Every operator takes a token, so that the fuel only has to cover the tokens. -/
theorem chainFrom_congr_fuel {join? : Token → Option (Tree → Tree → Tree)} {operand : TreeReader}
    (hop : ∀ ts e rest, operand ts = .ok (e, rest) → rest.length < ts.length)
    (fuel fuel' : Nat) (e : Tree) (ts : List Located) (h : ts.length ≤ fuel)
    (h' : ts.length ≤ fuel') :
    chainFrom join? operand fuel e ts = chainFrom join? operand fuel' e ts := by
  induction fuel generalizing fuel' e ts with
  | zero =>
    have hnil : ts = [] := List.eq_nil_of_length_eq_zero (Nat.le_zero.1 h)
    subst hnil
    cases fuel' <;> rfl
  | succ fuel ih =>
    cases ts with
    | nil => cases fuel' <;> rfl
    | cons t ts =>
      cases fuel' with
      | zero => simp at h'
      | succ fuel' =>
        simp only [chainFrom]
        cases join? t.token with
        | none => rfl
        | some join =>
          cases hr : operand ts with
          | error err => rfl
          | ok read =>
            have hlt := hop ts read.1 read.2 hr
            simp only [List.length_cons] at h h'
            exact ih fuel' (join e read.1) read.2 (by omega) (by omega)

theorem length_lt_of_readsDerived {p : Phrase} (hp : p.ReadsDerived n) (ts : List Located)
    (e : Tree) (rest : List Located) (h : p.reader n ts = .ok (e, rest)) :
    rest.length < ts.length := by
  obtain ⟨d, hts, -, -⟩ := hp ts e rest h
  have hlen := congrArg List.length hts
  have hpos := List.length_pos_iff.2 d.tokens_ne_nil
  simp only [List.length_map, List.length_append] at hlen
  omega

theorem ChainLevel.join?_eq_none_of_startsBelow {k : ChainLevel} {rest : List Located}
    (h : StartsBelow k.level rest) : ∀ t ∈ rest.head?, k.join? t.token = none := by
  intro t ht
  cases hj : k.join? t.token with
  | none => rfl
  | some join =>
    obtain ⟨o, ho, -⟩ := ChainLevel.join?_eq_some_iff.1 hj
    exact absurd (h t ht k.level (ho ▸ o.level?_token)) (Nat.lt_irrefl _)

theorem relation?_eq_none_of_startsBelow {rest : List Located} (h : StartsBelow 3 rest) :
    ∀ t ∈ rest.head?, relation? t.token = none := by
  intro t ht
  cases hj : relation? t.token with
  | none => rfl
  | some join =>
    obtain ⟨o, ho, -⟩ := relation?_eq_some_iff.1 hj
    exact absurd (h t ht 3 (ho ▸ o.level?_token)) (Nat.lt_irrefl _)

theorem relation_of_startsBelow {ts rest : List Located} {e : Tree}
    (h : unary n ts = .ok (e, rest)) (hrest : StartsBelow 3 rest) :
    relation (unary n) ts = .ok (e, rest) := by
  rw [relation, h]
  cases rest with
  | nil => rfl
  | cons t rest => simp only [relation?_eq_none_of_startsBelow hrest t rfl]

theorem ChainLevel.ends_operand {k : ChainLevel} {rest : List Located}
    (h : StartsBelow (k.level + 1) rest) : k.operand.Ends rest := by
  cases k with
  | disjunction => exact h.mono (by decide)
  | conjunction => exact h.mono (by decide)
  | equality => exact h

theorem ChainLevel.proceed_operand {k : ChainLevel} {rest : List Located}
    (h : StartsBelow (k.level + 1) rest) (n : Nat) (e : Tree) :
    k.operand.proceed n e rest = .ok (e, rest) := by
  cases k with
  | disjunction =>
    exact chainFrom_of_head (join?_eq_none_of_startsBelow (k := .conjunction) h) _ e
  | conjunction =>
    exact chainFrom_of_head (join?_eq_none_of_startsBelow (k := .equality) h) _ e
  | equality => rfl

theorem unary_leaf (n : Nat) (l : Leaf) {t : Located} (ht : t.token = l.token)
    (rest : List Located) : unary n (t :: rest) = .ok (l.tree, rest) := by
  cases n <;> cases l <;> simp [unary, ht, Leaf.token, leaf?, Leaf.tree]

/-- **A derived phrase is read whole.**  Before tokens that end it, its reader gets to its end and goes
on from there with its tree, unless it nests deeper than the levels left; then it is too deep. -/
theorem Derivation.read {p : Phrase} (d : Derivation p) (n : Nat) (ts rest : List Located)
    (hts : ts.map Located.token = d.tokens) (hrest : p.Ends rest) :
    p.reader n (ts ++ rest) =
      if d.depth ≤ n then p.proceed n d.tree rest else .error .tooDeep := by
  induction d generalizing n ts rest with
  | @single k operand ih =>
    rw [Phrase.reader_chain, chain, ih n ts rest hts (ChainLevel.ends_operand hrest),
      ChainLevel.proceed_operand hrest]
    by_cases hd : operand.depth ≤ n <;> simp only [depth, tree, Phrase.proceed, hd, if_true, if_false]
  | @link k left o right ihl ihr =>
    obtain ⟨ts₁, ts₂, rfl, hl, hts⟩ := List.map_eq_append_iff.1 hts
    obtain ⟨t, ts₂, rfl, ht, hr⟩ := List.map_eq_cons_iff.1 hts
    have hlevel : t.token.level? = some k.level := ht ▸ o.level?_token
    have hj : k.join? t.token = some o.join := ChainLevel.join?_eq_some_iff.2 ⟨o, ht.symm, rfl⟩
    have hright := ihr n ts₂ rest hr (ChainLevel.ends_operand hrest)
    rw [ChainLevel.proceed_operand hrest] at hright
    have hends : StartsBelow (k.level + 1) (t :: (ts₂ ++ rest)) :=
      startsBelow_cons fun l hl => Option.some.inj (hlevel.symm.trans hl) ▸ Nat.lt_succ_self _
    rw [List.append_assoc, List.cons_append, ihl n ts₁ _ hl hends]
    simp only [depth, tree, Phrase.proceed, List.length_cons, chainFrom, hj, hright,
      Nat.max_le]
    by_cases hdl : left.depth ≤ n
    · by_cases hdr : right.depth ≤ n
      · simp only [hdl, hdr, and_self, if_true]
        exact chainFrom_congr_fuel (length_lt_of_readsDerived (readsDerived_operand n k)) _ _ _ _
          (by simp) (Nat.le_refl _)
      · simp [hdl, hdr]
    · simp [hdl]
  | alone operand ih =>
    have hop : unary n (ts ++ rest) = _ := ih n ts rest hts trivial
    change relation (unary n) (ts ++ rest) = _
    by_cases hd : operand.depth ≤ n
    · rw [if_pos hd] at hop
      simp only [depth, tree, Phrase.proceed, hd, if_true]
      exact relation_of_startsBelow hop hrest
    · rw [if_neg hd] at hop
      simp only [relation, hop, depth, hd, if_false]
  | ordered left o right ihl ihr =>
    obtain ⟨ts₁, ts₂, rfl, hl, hts⟩ := List.map_eq_append_iff.1 hts
    obtain ⟨t, ts₂, rfl, ht, hr⟩ := List.map_eq_cons_iff.1 hts
    have hj : relation? t.token = some (.compare o.comparison) :=
      relation?_eq_some_iff.2 ⟨o, ht.symm, rfl⟩
    have hleft : unary n (ts₁ ++ (t :: ts₂ ++ rest)) = _ := ihl n ts₁ _ hl trivial
    have hright : unary n (ts₂ ++ rest) = _ := ihr n ts₂ rest hr trivial
    change relation (unary n) _ = _
    rw [List.append_assoc, relation, hleft]
    simp only [depth, tree, Phrase.proceed, Nat.max_le]
    by_cases hdl : left.depth ≤ n
    · by_cases hdr : right.depth ≤ n
      · simp [hdl, hdr, hj, hright, Phrase.proceed]
      · simp [hdl, hdr, hj, hright]
    · simp [hdl]
  | not operand ih =>
    obtain ⟨t, ts, rfl, ht, hts⟩ := List.map_eq_cons_iff.1 hts
    change unary n (t :: (ts ++ rest)) = _
    cases n with
    | zero => simp [unary, ht, depth]
    | succ n =>
      have hop : unary n (ts ++ rest) = _ := ih n ts rest hts trivial
      by_cases hd : operand.depth ≤ n <;>
        simp only [unary, ht, hop, depth, tree, Phrase.proceed, Nat.add_le_add_iff_right, hd,
          if_true, if_false]
  | primary operand ih => exact ih n ts rest hts trivial
  | leaf l =>
    obtain ⟨t, ts, rfl, ht, hts⟩ := List.map_eq_cons_iff.1 hts
    obtain rfl : ts = [] := by simpa using hts
    exact unary_leaf n l ht rest
  | group inner ih =>
    obtain ⟨t, tail, rfl, ht, htail⟩ := List.map_eq_cons_iff.1 hts
    obtain ⟨ts, last, rfl, hinner, hlast⟩ := List.map_eq_append_iff.1 htail
    obtain ⟨t', us, rfl, ht', hus⟩ := List.map_eq_cons_iff.1 hlast
    obtain rfl : us = [] := by simpa using hus
    change unary n (t :: ((ts ++ [t']) ++ rest)) = _
    cases n with
    | zero => simp [unary, ht, depth]
    | succ n =>
      have hop : disjunction (unary n) (ts ++ t' :: rest) = _ :=
        ih n ts (t' :: rest) hinner (startsBelow_closing ht' _ rest)
      have hstop : Phrase.proceed n inner.tree (t' :: rest) (.chain .disjunction) = .ok _ :=
        chainFrom_of_head
          (ChainLevel.join?_eq_none_of_startsBelow (k := .disjunction)
            (startsBelow_closing ht' _ rest)) _ _
      rw [hstop] at hop
      by_cases hd : inner.depth ≤ n <;>
        simp [unary, ht, hop, depth, tree, Phrase.proceed, hd, closed, ht']

/-! ### Whole rules -/

theorem treeOf_of_derivation {ts : List Located} (d : Derivation (.chain .disjunction))
    (hts : ts.map Located.token = d.tokens) :
    treeOf ts = if d.depth ≤ maxDepth then .ok d.tree else .error .tooDeep := by
  have hne : ts ≠ [] := by
    rintro rfl
    exact d.tokens_ne_nil hts.symm
  have hread := d.read maxDepth ts [] hts (by intro t ht; cases ht)
  rw [List.append_nil] at hread
  change disjunction (unary maxDepth) ts = _ at hread
  have hnil : ts.isEmpty = false := by simpa using hne
  by_cases hd : d.depth ≤ maxDepth <;>
    simp [treeOf, hnil, hread, hd, Phrase.proceed, chainFrom]

theorem derivation_of_treeOf {ts : List Located} {e : Tree} (h : treeOf ts = .ok e) :
    ∃ d : Derivation (.chain .disjunction), d.tokens = ts.map Located.token ∧
      d.depth ≤ maxDepth ∧ d.tree = e := by
  unfold treeOf at h
  split at h
  · cases h
  · cases hr : disjunction (unary maxDepth) ts with
    | error err => simp [hr] at h
    | ok read =>
      obtain ⟨e', rest⟩ := read
      cases rest with
      | cons t rest => simp [hr] at h
      | nil =>
        simp only [hr, Except.ok.injEq] at h
        subst h
        obtain ⟨d, hts, hdepth, htree⟩ :=
          readsDerived_disjunction (readsDerived_unary maxDepth) ts e' [] hr
        exact ⟨d, by simpa using hts.symm, hdepth, htree⟩

/-- **The parser accepts the grammar.**  A list of tokens has a tree exactly if it has a derivation in
which no token lies under more than 64 negations and parentheses, and then the tree is the one of that
derivation, which is the only one.  A list whose derivation nests deeper is too deep; a list without a
derivation is an error. -/
theorem treeOf_eq_ok_iff_derivation (ts : List Located) :
    (∀ e, treeOf ts = .ok e ↔ ∃ d : Derivation (.chain .disjunction),
      d.tokens = ts.map Located.token ∧ d.depth ≤ 64 ∧ d.tree = e) ∧
    (∀ d d' : Derivation (.chain .disjunction),
      d.tokens = ts.map Located.token → d'.tokens = ts.map Located.token → d = d') ∧
    (∀ d : Derivation (.chain .disjunction),
      d.tokens = ts.map Located.token → 64 < d.depth → treeOf ts = .error .tooDeep) ∧
    ((¬ ∃ d : Derivation (.chain .disjunction), d.tokens = ts.map Located.token) →
      ∃ err, treeOf ts = .error err) := by
  refine ⟨fun e => ⟨derivation_of_treeOf, ?_⟩, ?_, ?_, ?_⟩
  · rintro ⟨d, hts, hdepth, rfl⟩
    rw [treeOf_of_derivation d hts.symm]
    exact if_pos hdepth
  · intro d d' hd hd'
    exact d.tokens_injective d' (hd.trans hd'.symm)
  · intro d hd hdepth
    rw [treeOf_of_derivation d hd.symm]
    exact if_neg (Nat.not_le_of_lt hdepth)
  · intro hnone
    cases h : treeOf ts with
    | error err => exact ⟨err, rfl⟩
    | ok e =>
      obtain ⟨d, hd, -, -⟩ := derivation_of_treeOf h
      exact absurd ⟨d, hd⟩ hnone

end RecordGate.Expression
