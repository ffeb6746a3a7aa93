import RecordGate.Proofs.Permission.Ownership

/-!
# Shortcuts and the rules that they stand for

Three shortcuts say how the caller's user and the record belong together.  Each stands for a rule that compares
`user.id` with the field of the record that names the user.  The shortcut is bound when the context is made, from the
caller and the record; the rule is parsed, and what its two paths lead to is compared.  Both ask whether the field
is the text of the identifier, and refuse where there is no user, no record or no such field.  They part where the
field is a number: the shortcut goes by the text of the number, and for the rule no number equals a text.

Each side is brought to a condition on the field first, `passed_shortcut_iff` and `passed_rule_iff`, for every caller,
record and action.  Only then are the two conditions compared, once where the field is no number
(`namesUser_iff_of_no_number`) and once where it is (`namesUser_iff_of_number`).  The evaluators of the two sides may
remember different rules and the settings for missing rules may differ, since there is a rule on both sides.

Main statement: `shortcut_agrees_with_rule`.
-/

namespace RecordGate

open RecordGate.Expression

namespace Permission

/-- How the caller's user and the record belong together. -/
inductive Relationship where
  | owner
  | entityUser
  | assignee
  deriving DecidableEq

namespace Relationship

/-- The field of the record that names the user. -/
def field : Relationship → String
  | owner => "createdBy"
  | entityUser => "userId"
  | assignee => "assignedTo"

def shortcut : Relationship → Shortcut
  | owner => .isOwner
  | entityUser => .isEntityUser
  | assignee => .isAssignee

/-- The rule that compares the field in full. -/
def rule (r : Relationship) : String := "user.id == entity." ++ r.field

theorem parse_shortcut (r : Relationship) :
    parse r.shortcut.name = .ok ⟨r.shortcut.name, .path ⟨[.key r.shortcut.name]⟩⟩ := by
  cases r <;> rfl

theorem parse_rule (r : Relationship) :
    parse r.rule = .ok ⟨r.rule,
      .compare .equal (.path (Spelling.callerId .inFull)) (.path ⟨[.key "entity", .key r.field]⟩)⟩ := by
  cases r <;> rfl

theorem holds_shortcut_iff (r : Relationship) (user : User) (snapshot : Option Snapshot) :
    r.shortcut.Holds user snapshot ↔ NamesUser snapshot r.field user := by
  cases r <;> exact Iff.rfl

end Relationship

section

variable {caller : Caller} {snapshot : Option Snapshot} {action : String}

theorem resolve?_callerId :
    (context caller snapshot action).resolve? (Spelling.callerId .inFull) =
      caller.user.map fun user => .text user.id := by
  rw [Spelling.callerId, Context.resolve?_key, context_user]
  cases caller.user with
  | none => rfl
  | some user =>
    simp [Value.ofOption, User.toValue, Value.ofFields, Path.descend?, Path.step?, Value.field?, Entries.sorted,
      Entries.find?_insert]

theorem passed_shortcut_iff (r : Relationship) :
    (evaluate r.shortcut.name (context caller snapshot action)).passed = true ↔
      ∃ user, caller.user = some user ∧ NamesUser snapshot r.field user := by
  rw [passed_evaluate_of_parse r.parse_shortcut, (OffersAny.one r.shortcut).truthy_eval]
  constructor
  · rintro ⟨s, hs, user, huser, hholds⟩
    obtain rfl := List.mem_singleton.1 hs
    exact ⟨user, huser, (r.holds_shortcut_iff user snapshot).1 hholds⟩
  · rintro ⟨user, huser, hnames⟩
    exact ⟨r.shortcut, List.mem_singleton.2 rfl, user, huser, (r.holds_shortcut_iff user snapshot).2 hnames⟩

theorem passed_rule_iff (r : Relationship) :
    (evaluate r.rule (context caller snapshot action)).passed = true ↔
      ∃ user, caller.user = some user ∧ snapshot.bind (·.find? r.field) = some (.text user.id) := by
  rw [passed_evaluate_of_parse r.parse_rule, Tree.truthy_eval_compare, Tree.eval, Tree.eval,
    Comparison.decide_eq_true_iff, resolve?_callerId, resolve?_field]
  constructor
  · rintro ⟨v, w, hv, hw, hequal⟩
    obtain ⟨user, huser, rfl⟩ := Option.map_eq_some_iff.1 hv
    obtain rfl := (looselyEqual_text_iff user.id w).1 hequal
    exact ⟨user, huser, hw⟩
  · rintro ⟨user, huser, hfield⟩
    refine ⟨.text user.id, .text user.id, ?_, hfield, ?_⟩
    · rw [huser]
      rfl
    · exact (looselyEqual_text_iff user.id _).2 rfl

theorem namesUser_iff_of_no_number {field : String}
    (hnumber : ∀ n, snapshot.bind (·.find? field) ≠ some (.number n)) (user : User) :
    NamesUser snapshot field user ↔ snapshot.bind (·.find? field) = some (.text user.id) := by
  constructor
  · rintro ⟨record, v, rfl, hfield, rfl | ⟨n, rfl, -⟩⟩
    · exact hfield
    · exact absurd hfield (hnumber n)
  · intro hfield
    obtain ⟨record, hrecord, hfield⟩ := Option.bind_eq_some_iff.1 hfield
    exact ⟨record, _, hrecord, hfield, .inl rfl⟩

theorem namesUser_iff_of_number {field : String} {n : Number}
    (hnumber : snapshot.bind (·.find? field) = some (.number n)) (user : User) :
    NamesUser snapshot field user ↔ String.ofList n.render = user.id := by
  rw [← String.toList_inj, String.toList_ofList]
  constructor
  · rintro ⟨record, v, rfl, hfield, hv⟩
    obtain rfl : Value.number n = v := Option.some.inj (hnumber.symm.trans hfield)
    rcases hv with hv | ⟨m, hv, hrender⟩
    · cases hv
    · cases hv
      exact hrender
  · intro hrender
    obtain ⟨record, hrecord, hfield⟩ := Option.bind_eq_some_iff.1 hnumber
    exact ⟨record, _, hrecord, hfield, .inr ⟨n, rfl, hrender⟩⟩

end

/-- **A shortcut means what the rule in full means**, as far as the field is no number.  Take two entities for one
action, one with the shortcut as its rule and one with the comparison, and put the same caller and the same record, or
none, to the gate.  The gate answers the same for both, whatever its evaluator remembers, if the field is missing or
is something else than a number.  If it is a number, the comparison is denied, and the shortcut passes exactly if there
is a user and the number is written like its identifier. -/
theorem shortcut_agrees_with_rule (r : Relationship) {action : String} {short full : RuleSet}
    (hshort : short.find? action = some r.shortcut.name) (hfull : full.find? action = some r.rule)
    {e e' : Evaluator} (he : e.Sound) (he' : e'.Sound) (missing missing' : MissingRule) (caller : Caller)
    (snapshot : Option Snapshot) :
    ((∀ n, snapshot.bind (·.find? r.field) ≠ some (.number n)) →
      (check missing short caller snapshot action e).1 = (check missing' full caller snapshot action e').1) ∧
    ∀ n, snapshot.bind (·.find? r.field) = some (.number n) →
      (check missing' full caller snapshot action e').1 = false ∧
      ((check missing short caller snapshot action e).1 = true ↔
        ∃ user, caller.user = some user ∧ String.ofList n.render = user.id) := by
  rw [check_of_rule hshort he, check_of_rule hfull he']
  constructor
  · intro hnumber
    rw [Bool.eq_iff_iff, passed_shortcut_iff, passed_rule_iff]
    simp only [namesUser_iff_of_no_number hnumber]
  · intro n hnumber
    constructor
    · rw [← Bool.not_eq_true, passed_rule_iff]
      rintro ⟨user, -, htext⟩
      cases hnumber.symm.trans htext
    · rw [passed_shortcut_iff]
      simp only [namesUser_iff_of_number hnumber]

/-- The answer of a gate with one rule, to a user who asks about a record of one field. -/
def answerTo (user : User) (rule field : String) (v : Value) : Bool :=
  (check .deny (.insert .empty "open" rule) (.ofUser user) (some (.insert .empty field v)) "open" (.ofCapacity 8)).1

/-- The user that a record is about opens it by either of the two, nobody is assigned by a list by either of the two,
and the user `7` owns a record with the number 7 by the shortcut alone. -/
theorem shortcut_agrees_with_rule_seven :
    let ada : User := .ofIdentity "u1" "u1@x.io"
    let seven : User := .ofIdentity "7" "7@x.io"
    answerTo ada "isEntityUser" "userId" (.text "u1") = true ∧
      answerTo ada "user.id == entity.userId" "userId" (.text "u1") = true ∧
      answerTo ada "isAssignee" "assignedTo" (.list [.text "u1"]) =
        answerTo ada "user.id == entity.assignedTo" "assignedTo" (.list [.text "u1"]) ∧
      answerTo seven "isOwner" "createdBy" (.ofNat 7) = true ∧
      answerTo seven "user.id == entity.createdBy" "createdBy" (.ofNat 7) = false := by
  intro ada seven
  have hrule (rule : String) : Table.find? (.insert .empty "open" rule) "open" = some rule := by simp
  have hsound : (Evaluator.ofCapacity 8).Sound := Evaluator.sound_ofCapacity 8
  have hagrees (r : Relationship) (user : User) (v : Value) :=
    shortcut_agrees_with_rule r (hrule r.shortcut.name) (hrule r.rule) hsound hsound .deny .deny (.ofUser user)
      (some (.insert .empty r.field v))
  have huser : answerTo ada "isEntityUser" "userId" (.text "u1") = true := by decide +kernel
  have htext : answerTo ada "isEntityUser" "userId" (.text "u1") =
      answerTo ada "user.id == entity.userId" "userId" (.text "u1") := by
    apply (hagrees .entityUser ada (.text "u1")).1
    intro n hn
    cases hn
  have hlist : answerTo ada "isAssignee" "assignedTo" (.list [.text "u1"]) =
      answerTo ada "user.id == entity.assignedTo" "assignedTo" (.list [.text "u1"]) := by
    apply (hagrees .assignee ada (.list [.text "u1"])).1
    intro n hn
    cases hn
  obtain ⟨hdenied, hpasses⟩ := (hagrees .owner seven (.ofNat 7)).2 (.int (.ofNat 7)) rfl
  refine ⟨huser, htext ▸ huser, hlist, ?_, hdenied⟩
  exact hpasses.2 ⟨seven, rfl, by decide +kernel⟩

end Permission

end RecordGate
