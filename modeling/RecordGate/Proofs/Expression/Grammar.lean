import RecordGate.Expression.Parser

/-!
# The grammar of rules

```text
or       := and ( "||" and )*
and      := equality ( "&&" equality )*
equality := relation ( ( "==" | "!=" ) relation )*
relation := unary ( ( "<" | "<=" | ">" | ">=" ) unary )?
unary    := "!" unary | primary
primary  := literal | path | "(" or ")"
```

A derivation is a datum: it has the tokens it derives, the tree it stands for, and the number of
negations and parentheses around its most deeply nested token.  Chains grow to the right of what they
already hold, which is what groups them to the left.  The grammar does not mention the parser.

Main statement: `Derivation.tokens_injective`, the grammar is unambiguous.  The argument is that an
operator that no parenthesis encloses is never looser than the phrase it stands in.
-/

namespace RecordGate.Expression

/-! ### Phrases, operators and leaves -/

/-- The levels at which any number of operands is chained, loosest first. -/
inductive ChainLevel where
  | disjunction
  | conjunction
  | equality
  deriving DecidableEq

/-- What the grammar derives. -/
inductive Phrase where
  | chain (k : ChainLevel)
  | relation
  | unary
  | primary
  deriving DecidableEq

/-- The phrase whose instances a chain joins. -/
def ChainLevel.operand : ChainLevel → Phrase
  | disjunction => .chain .conjunction
  | conjunction => .chain .equality
  | equality => .relation

/-- The operators that join the operands of a chain. -/
inductive Link : ChainLevel → Type where
  | or : Link .disjunction
  | and : Link .conjunction
  | equal : Link .equality
  | unequal : Link .equality
  deriving DecidableEq

namespace Link

variable {k : ChainLevel}

def token : Link k → Token
  | or => .or
  | and => .and
  | equal => .equal
  | unequal => .unequal

def join : Link k → Tree → Tree → Tree
  | or => .or
  | and => .and
  | equal => .compare .equal
  | unequal => .compare .unequal

theorem token_injective {o o' : Link k} (h : o.token = o'.token) : o = o' := by
  cases o <;> cases o' <;> first | rfl | cases h

end Link

/-- The operators that compare by order. -/
inductive Order where
  | less
  | lessEqual
  | greater
  | greaterEqual
  deriving DecidableEq

namespace Order

def token : Order → Token
  | less => .less
  | lessEqual => .lessEqual
  | greater => .greater
  | greaterEqual => .greaterEqual

def comparison : Order → Comparison
  | less => .less
  | lessEqual => .lessEqual
  | greater => .greater
  | greaterEqual => .greaterEqual

theorem token_injective {o o' : Order} (h : o.token = o'.token) : o = o' := by
  cases o <;> cases o' <;> first | rfl | cases h

end Order

/-- Literals and paths. -/
inductive Leaf where
  | text (s : String)
  | number (x : Binary64)
  | yes
  | no
  | null
  | path (p : Path)

namespace Leaf

def token : Leaf → Token
  | text s => .text s
  | number x => .number x
  | yes => .yes
  | no => .no
  | null => .null
  | path p => .path p

def tree : Leaf → Tree
  | text s => .literal (.text s)
  | number x => .literal (.number (.float x))
  | yes => .literal (.bool true)
  | no => .literal (.bool false)
  | null => .literal .null
  | path p => .path p

theorem token_injective {l l' : Leaf} (h : l.token = l'.token) : l = l' := by
  cases l <;> cases l' <;> simp_all [token]

end Leaf

/-! ### Derivations -/

/-- A derivation of a phrase. -/
inductive Derivation : Phrase → Type where
  | single {k : ChainLevel} (operand : Derivation k.operand) : Derivation (.chain k)
  | link {k : ChainLevel} (left : Derivation (.chain k)) (o : Link k)
      (right : Derivation k.operand) : Derivation (.chain k)
  | alone (operand : Derivation .unary) : Derivation .relation
  | ordered (left : Derivation .unary) (o : Order) (right : Derivation .unary) :
      Derivation .relation
  | not (operand : Derivation .unary) : Derivation .unary
  | primary (operand : Derivation .primary) : Derivation .unary
  | leaf (l : Leaf) : Derivation .primary
  | group (inner : Derivation (.chain .disjunction)) : Derivation .primary

namespace Derivation

/-- The tokens that a derivation derives. -/
def tokens : {p : Phrase} → Derivation p → List Token
  | _, single operand => operand.tokens
  | _, link left o right => left.tokens ++ o.token :: right.tokens
  | _, alone operand => operand.tokens
  | _, ordered left o right => left.tokens ++ o.token :: right.tokens
  | _, not operand => .not :: operand.tokens
  | _, primary operand => operand.tokens
  | _, leaf l => [l.token]
  | _, group inner => .opening :: (inner.tokens ++ [.closing])

/-- The tree of a derivation; parentheses leave no node. -/
def tree : {p : Phrase} → Derivation p → Tree
  | _, single operand => operand.tree
  | _, link left o right => o.join left.tree right.tree
  | _, alone operand => operand.tree
  | _, ordered left o right => .compare o.comparison left.tree right.tree
  | _, not operand => .not operand.tree
  | _, primary operand => operand.tree
  | _, leaf l => l.tree
  | _, group inner => inner.tree

/-- The greatest number of negations and parentheses, counted together, that enclose a token. -/
def depth : {p : Phrase} → Derivation p → Nat
  | _, single operand => operand.depth
  | _, link left _ right => max left.depth right.depth
  | _, alone operand => operand.depth
  | _, ordered left _ right => max left.depth right.depth
  | _, not operand => operand.depth + 1
  | _, primary operand => operand.depth
  | _, leaf _ => 0
  | _, group inner => inner.depth + 1

theorem tokens_ne_nil {p : Phrase} (d : Derivation p) : d.tokens ≠ [] := by
  induction d with
  | single operand ih => exact ih
  | link left o right _ _ => simp [tokens]
  | alone operand ih => exact ih
  | ordered left o right _ _ => simp [tokens]
  | not operand _ => simp [tokens]
  | primary operand ih => exact ih
  | leaf l => simp [tokens]
  | group inner _ => simp [tokens]

end Derivation

/-! ### Levels -/

def ChainLevel.level : ChainLevel → Nat
  | disjunction => 0
  | conjunction => 1
  | equality => 2

/-- How tightly a phrase binds. -/
def Phrase.level : Phrase → Nat
  | chain k => k.level
  | relation => 3
  | unary => 4
  | primary => 4

/-- How tightly an operator binds; other tokens do not bind. -/
def Token.level? : Token → Option Nat
  | .or => some 0
  | .and => some 1
  | .equal => some 2
  | .unequal => some 2
  | .less => some 3
  | .lessEqual => some 3
  | .greater => some 3
  | .greaterEqual => some 3
  | _ => none

@[simp] theorem ChainLevel.level_operand (k : ChainLevel) : k.operand.level = k.level + 1 := by
  cases k <;> rfl

@[simp] theorem Link.level?_token {k : ChainLevel} (o : Link k) : o.token.level? = some k.level := by
  cases o <;> rfl

@[simp] theorem Order.level?_token (o : Order) : o.token.level? = some 3 := by
  cases o <;> rfl

@[simp] theorem Leaf.level?_token (l : Leaf) : l.token.level? = none := by
  cases l <;> rfl

theorem Token.ne_opening_of_level? {t : Token} {n : Nat} (h : t.level? = some n) :
    t ≠ .opening := by
  rintro rfl; cases h

theorem Token.ne_closing_of_level? {t : Token} {n : Nat} (h : t.level? = some n) :
    t ≠ .closing := by
  rintro rfl; cases h

/-! ### Parentheses and operators outside of them -/

/-- As many parentheses close as open, and none closes before it opens. -/
structure Balanced (ts : List Token) : Prop where
  count_eq : ts.count .closing = ts.count .opening
  count_le : ∀ m r, ts = m ++ r → m.count .closing ≤ m.count .opening

namespace Balanced

theorem singleton {t : Token} (ho : t ≠ .opening) (hc : t ≠ .closing) : Balanced [t] := by
  constructor
  · simp [ho, hc]
  · intro m r h
    have hm : ∀ c, c ≠ t → m.count c = 0 := by
      intro c hct
      refine List.count_eq_zero.2 fun hmem => hct ?_
      have : c ∈ [t] := h ▸ List.mem_append_left r hmem
      exact List.mem_singleton.1 this
    rw [hm _ hc.symm]
    exact Nat.zero_le _

theorem append {ts us : List Token} (ht : Balanced ts) (hu : Balanced us) :
    Balanced (ts ++ us) := by
  constructor
  · rw [List.count_append, List.count_append, ht.count_eq, hu.count_eq]
  · intro m r h
    rcases List.append_eq_append_iff.1 h with ⟨m', rfl, hus⟩ | ⟨r', hts, -⟩
    · rw [List.count_append, List.count_append, ht.count_eq]
      exact Nat.add_le_add_left (hu.count_le m' r hus) _
    · exact ht.count_le m r' hts

theorem operator {ts us : List Token} {t : Token} {l : Nat} (ht : Balanced ts)
    (hl : t.level? = some l) (hu : Balanced us) : Balanced (ts ++ t :: us) := by
  have h : Balanced [t] := singleton (Token.ne_opening_of_level? hl) (Token.ne_closing_of_level? hl)
  exact ht.append (h.append hu)

theorem bracket {ts : List Token} (h : Balanced ts) :
    Balanced (.opening :: (ts ++ [.closing])) := by
  constructor
  · have := h.count_eq
    simp [List.count_append]
    omega
  · intro m r hm
    cases m with
    | nil => simp
    | cons t m =>
      obtain ⟨rfl, htail⟩ := List.cons.inj hm
      rcases List.append_eq_append_iff.1 htail with ⟨m', rfl, hlast⟩ | ⟨r', hts, -⟩
      · -- the whole of `ts` is read, and at most the closing parenthesis after it
        have hle : m'.count .closing ≤ 1 := by
          have hlen := congrArg List.length hlast
          simp only [List.length_singleton, List.length_append] at hlen
          exact Nat.le_trans List.count_le_length (by omega)
        have := h.count_eq
        simp [List.count_append]
        omega
      · have := h.count_le m r' hts
        simp
        omega

end Balanced

/-- Every operator that no parenthesis of the list encloses binds at least as tightly as `n`. -/
def Guarded (n : Nat) (ts : List Token) : Prop :=
  ∀ m t r l, ts = m ++ t :: r → t.level? = some l → m.count .closing = m.count .opening → n ≤ l

namespace Guarded

theorem singleton {n : Nat} {t : Token} (h : ∀ l, t.level? = some l → n ≤ l) : Guarded n [t] := by
  intro m t' r l hm hl _
  have : t' ∈ [t] := hm ▸ by simp
  rw [List.mem_singleton.1 this] at hl
  exact h l hl

theorem append {n : Nat} {ts us : List Token} (ht : Guarded n ts) (hb : Balanced ts)
    (hu : Guarded n us) : Guarded n (ts ++ us) := by
  intro m t r l hm hl hc
  rcases List.append_eq_append_iff.1 hm with ⟨m', rfl, h⟩ | ⟨r', h, h'⟩
  · refine hu m' t r l h hl ?_
    rw [List.count_append, List.count_append, hb.count_eq] at hc
    exact Nat.add_left_cancel hc
  · cases r' with
    | nil => exact hu [] t r l h'.symm hl rfl
    | cons t' r' =>
      obtain ⟨rfl, -⟩ := List.cons.inj h'
      exact ht m t r' l h hl hc

theorem operator {n : Nat} {ts us : List Token} {t : Token} (ht : Guarded n ts)
    (hb : Balanced ts) (hl : t.level? = some n) (hu : Guarded n us) : Guarded n (ts ++ t :: us) := by
  have hbt : Balanced [t] :=
    .singleton (Token.ne_opening_of_level? hl) (Token.ne_closing_of_level? hl)
  have h : Guarded n [t] :=
    singleton fun l hl' => Nat.le_of_eq (Option.some.inj (hl.symm.trans hl'))
  exact ht.append hb (h.append hbt hu)

theorem bracket {n : Nat} {ts : List Token} (hb : Balanced ts) :
    Guarded n (.opening :: (ts ++ [.closing])) := by
  intro m t r l hm hl hc
  cases m with
  | nil =>
    obtain ⟨rfl, -⟩ := List.cons.inj hm
    cases hl
  | cons t' m =>
    obtain ⟨rfl, htail⟩ := List.cons.inj hm
    -- the operator is inside, where one more parenthesis is open than closed
    rcases List.append_eq_append_iff.1 htail with ⟨m', rfl, hlast⟩ | ⟨r', hts, -⟩
    · have : t ∈ [Token.closing] := hlast ▸ by simp
      exact absurd (List.mem_singleton.1 this) (Token.ne_closing_of_level? hl)
    · have := hb.count_le m r' hts
      simp at hc
      omega

theorem mono {n n' : Nat} {ts : List Token} (hn : n' ≤ n) (h : Guarded n ts) : Guarded n' ts :=
  fun m t r l hm hl hc => Nat.le_trans hn (h m t r l hm hl hc)

end Guarded

/-- An operator of level `n` between balanced lists is the last of its level outside of parentheses. -/
theorem Guarded.ne_append_operator {n : Nat} {x m y y' : List Token} {t t' : Token}
    (hx : Balanced x) (hm : Balanced (x ++ t :: m)) (ht : t.level? = some n)
    (ht' : t'.level? = some n) (hy : Guarded (n + 1) y) : y ≠ m ++ t' :: y' := by
  intro h
  have hcount : m.count .closing = m.count .opening := by
    have h₁ := hm.count_eq
    have h₂ := hx.count_eq
    simp only [List.count_append, List.count_cons_of_ne (Token.ne_closing_of_level? ht),
      List.count_cons_of_ne (Token.ne_opening_of_level? ht)] at h₁
    omega
  exact Nat.not_succ_le_self n (hy m t' y' n h ht' hcount)

/-- Two lists around an operator that is looser than all the right one shows are found again from
the whole list. -/
theorem append_operator_inj {n : Nat} {x x' y y' : List Token} {t t' : Token}
    (hx : Balanced x) (hx' : Balanced x') (hy : Guarded (n + 1) y) (hy' : Guarded (n + 1) y')
    (ht : t.level? = some n) (ht' : t'.level? = some n) (h : x ++ t :: y = x' ++ t' :: y') :
    x = x' ∧ t = t' ∧ y = y' := by
  rcases List.append_eq_append_iff.1 h with ⟨m, rfl, hm⟩ | ⟨m, rfl, hm⟩
  · cases m with
    | nil => simpa using hm
    | cons u m =>
      obtain ⟨rfl, hy_eq⟩ := List.cons.inj hm
      exact absurd hy_eq (hy.ne_append_operator hx hx' ht ht')
  · cases m with
    | nil => simpa [eq_comm] using hm
    | cons u m =>
      obtain ⟨rfl, hy_eq⟩ := List.cons.inj hm
      exact absurd hy_eq (hy'.ne_append_operator hx' hx ht' ht)

/-! ### Unambiguity -/

namespace Derivation

theorem balanced_tokens {p : Phrase} (d : Derivation p) : Balanced d.tokens := by
  induction d with
  | single operand ih => exact ih
  | link left o right ihl ihr => exact ihl.operator o.level?_token ihr
  | alone operand ih => exact ih
  | ordered left o right ihl ihr => exact ihl.operator o.level?_token ihr
  | not operand ih => exact (Balanced.singleton (by decide) (by decide)).append ih
  | primary operand ih => exact ih
  | leaf l => exact .singleton (by cases l <;> simp [Leaf.token]) (by cases l <;> simp [Leaf.token])
  | group inner ih => exact ih.bracket

/-- Outside of parentheses a phrase has no operator that binds less tightly than the phrase. -/
theorem guarded_tokens {p : Phrase} (d : Derivation p) : Guarded p.level d.tokens := by
  induction d with
  | @single k operand ih =>
    rw [k.level_operand] at ih
    exact ih.mono (Nat.le_succ _)
  | @link k left o right ihl ihr =>
    rw [k.level_operand] at ihr
    exact ihl.operator left.balanced_tokens o.level?_token (ihr.mono (Nat.le_succ _))
  | alone operand ih => exact ih.mono (by decide)
  | ordered left o right ihl ihr =>
    exact (ihl.mono (by decide)).operator left.balanced_tokens o.level?_token
      (ihr.mono (by decide))
  | not operand ih =>
    have hn : Balanced [Token.not] := .singleton (by decide) (by decide)
    exact Guarded.append (.singleton fun l hl => by cases hl) hn ih
  | primary operand ih => exact ih
  | leaf l => exact .singleton fun n hn => by simp at hn
  | group inner ih => exact .bracket inner.balanced_tokens

theorem tokens_ne_append_operator {p : Phrase} (d : Derivation p) {x y : List Token} {t : Token}
    {n : Nat} (hx : Balanced x) (ht : t.level? = some n) (hn : n < p.level) :
    d.tokens ≠ x ++ t :: y := fun h =>
  Nat.not_le_of_lt hn (d.guarded_tokens x t y n h ht hx.count_eq)

/-- **The grammar is unambiguous**: the tokens of a phrase have one derivation. -/
theorem tokens_injective {p : Phrase} (d d' : Derivation p) (h : d.tokens = d'.tokens) : d = d' := by
  induction d with
  | @single k operand ih =>
    cases d' with
    | single operand' => rw [ih operand' h]
    | link left o right =>
      refine absurd h (operand.tokens_ne_append_operator left.balanced_tokens o.level?_token ?_)
      simp
  | @link k left o right ihl ihr =>
    cases d' with
    | single operand =>
      refine absurd h.symm
        (operand.tokens_ne_append_operator left.balanced_tokens o.level?_token ?_)
      simp
    | link left' o' right' =>
      have hr := right.guarded_tokens
      have hr' := right'.guarded_tokens
      rw [k.level_operand] at hr hr'
      obtain ⟨hleft, ho, hright⟩ := append_operator_inj left.balanced_tokens
        left'.balanced_tokens hr hr' o.level?_token o'.level?_token h
      rw [ihl left' hleft, Link.token_injective ho, ihr right' hright]
  | alone operand ih =>
    cases d' with
    | alone operand' => rw [ih operand' h]
    | ordered left o right =>
      exact absurd h (operand.tokens_ne_append_operator left.balanced_tokens o.level?_token
        (by decide))
  | ordered left o right ihl ihr =>
    cases d' with
    | alone operand =>
      exact absurd h.symm (operand.tokens_ne_append_operator left.balanced_tokens o.level?_token
        (by decide))
    | ordered left' o' right' =>
      obtain ⟨hleft, ho, hright⟩ := append_operator_inj left.balanced_tokens
        left'.balanced_tokens right.guarded_tokens right'.guarded_tokens o.level?_token
        o'.level?_token h
      rw [ihl left' hleft, Order.token_injective ho, ihr right' hright]
  | not operand ih =>
    cases d' with
    | not operand' => rw [ih operand' (List.cons.inj h).2]
    | primary operand' => cases operand' with
      | leaf l => cases l <;> cases h
      | group inner => cases h
  | primary operand ih =>
    cases d' with
    | not operand' => cases operand with
      | leaf l => cases l <;> cases h
      | group inner => cases h
    | primary operand' => rw [ih operand' h]
  | leaf l =>
    cases d' with
    | leaf l' => rw [Leaf.token_injective (List.cons.inj h).1]
    | group inner => cases l <;> cases h
  | group inner ih =>
    cases d' with
    | leaf l' => cases l' <;> cases h
    | group inner' =>
      have h_inner : inner.tokens = inner'.tokens :=
        List.append_cancel_right (List.cons.inj h).2
      rw [ih inner' h_inner]

end Derivation

end RecordGate.Expression
