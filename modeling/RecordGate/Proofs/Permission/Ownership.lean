import RecordGate.Proofs.Expression.Comparison
import RecordGate.Proofs.Permission.Absence
import RecordGate.Proofs.Permission.Shortcuts

/-!
# Callers without a user, records without an owner

A rule that asks whether the caller owns the record compares two values, and each of them can be written in full,
as a path into the user or into the record, or by the name that a context binds for it.  Where there is no user
and no owner the two ways differ.  A path into what is not there leads to nothing, and a comparison with nothing
fails.  The names are bound in any case, to `null` where there is nothing to bind, and `null` equals `null`.  So a
caller without a user is refused by `user.id` whatever stands on the other side, and is admitted by `userId` where
the other side is `null` as well: by `owner` always, and by `entity.createdBy` on a record that has a `null` there.

`AsksOwner` are the rules in question: one equation of a spelling of the caller's identifier and a spelling of the
owner, in either order.  What each of the four paths leads to is said once, in `resolve?_callerId_eq_some_iff` and
`resolve?_owner_eq_some_iff`: where there is no user and no owner, `null` is the only value that is ever found.

Main statement: `check_unowned_iff`.
-/

namespace RecordGate

open RecordGate.Expression

namespace Permission

/-- The two ways to write a value that a context binds a name for. -/
inductive Spelling where
  | inFull
  | byName
  deriving DecidableEq

namespace Spelling

/-- The identifier of the caller's user: `user.id`, or `userId`. -/
def callerId : Spelling → Path
  | inFull => ⟨[.key "user", .key "id"]⟩
  | byName => ⟨[.key "userId"]⟩

/-- The owner of the record: `entity.createdBy`, or `owner`. -/
def owner : Spelling → Path
  | inFull => ⟨[.key "entity", .key "createdBy"]⟩
  | byName => ⟨[.key "owner"]⟩

end Spelling

/-- A rule that asks whether the caller's user is the owner of the record, with either of them first. -/
inductive AsksOwner (id owner : Spelling) : Tree → Prop where
  | callerFirst : AsksOwner id owner (.compare .equal (.path id.callerId) (.path owner.owner))
  | ownerFirst : AsksOwner id owner (.compare .equal (.path owner.owner) (.path id.callerId))

/-- There is no record, or the record says of nobody that he owns it. -/
def Unowned (snapshot : Option Snapshot) : Prop :=
  ∀ v, snapshot.bind (·.find? "createdBy") = some v → v = .null

section

variable {caller : Caller} {snapshot : Option Snapshot} {action : String}

/-! ### What the two sides lead to -/

theorem context_user :
    (context caller snapshot action).find? "user" = some (.ofOption User.toValue caller.user) := by
  simp [context, Context.find?, Context.bind]

theorem context_userId :
    (context caller snapshot action).find? "userId" =
      some (.ofOption .text (caller.user.map (·.id))) := by
  simp [context, Context.find?, Context.bind]

theorem context_owner :
    (context caller snapshot action).find? "owner" =
      some ((snapshot.bind (·.find? "createdBy")).getD .null) := by
  simp [context, Context.find?, Context.bind, ownerField]

theorem resolve?_callerId_eq_some_iff (hnone : caller.user = none) (id : Spelling) (v : Value) :
    (context caller snapshot action).resolve? id.callerId = some v ↔ id = .byName ∧ v = .null := by
  cases id with
  | inFull =>
    rw [Spelling.callerId, Context.resolve?_key, context_user, hnone]
    simp [Value.ofOption, Path.descend?, Path.step?, Value.field?]
  | byName =>
    rw [Spelling.callerId, Context.resolve?_key, context_userId, hnone]
    simp [Value.ofOption, Path.descend?, eq_comm]

theorem resolve?_owner_eq_some_iff (hunowned : Unowned snapshot) (owner : Spelling) (v : Value) :
    (context caller snapshot action).resolve? owner.owner = some v ↔
      v = .null ∧ (owner = .byName ∨ snapshot.bind (·.find? "createdBy") = some .null) := by
  cases owner with
  | inFull =>
    have hpath : (context caller snapshot action).resolve? (Spelling.owner .inFull) =
        snapshot.bind (·.find? "createdBy") := resolve?_field caller snapshot action "createdBy"
    rw [hpath]
    constructor
    · intro hv
      obtain rfl := hunowned v hv
      exact ⟨rfl, .inr hv⟩
    · rintro ⟨rfl, hname | hnull⟩
      · cases hname
      · exact hnull
  | byName =>
    have hnull : (snapshot.bind (·.find? "createdBy")).getD .null = .null := by
      cases hfield : snapshot.bind (·.find? "createdBy") with
      | none => rfl
      | some w => exact hunowned w hfield
    rw [Spelling.owner, Context.resolve?_key, context_owner, hnull]
    simp [Path.descend?, eq_comm]

/-! ### The rule -/

/-- The rule is true of a caller without a user and an unowned record where both sides are `null`. -/
theorem AsksOwner.truthy_eval {id owner : Spelling} {e : Tree} (h : AsksOwner id owner e)
    (hnone : caller.user = none) (hunowned : Unowned snapshot) :
    truthy (e.eval (context caller snapshot action)) = true ↔
      id = .byName ∧ (owner = .byName ∨ snapshot.bind (·.find? "createdBy") = some .null) := by
  have hid (v : Value) : (context caller snapshot action).resolve? id.callerId = some v ↔ _ :=
    resolve?_callerId_eq_some_iff hnone id v
  have howner (w : Value) : (context caller snapshot action).resolve? owner.owner = some w ↔ _ :=
    resolve?_owner_eq_some_iff hunowned owner w
  cases h with
  | callerFirst =>
    rw [Tree.truthy_eval_compare, Comparison.decide_eq_true_iff]
    constructor
    · rintro ⟨v, w, hv, hw, -⟩
      exact ⟨((hid v).1 hv).1, ((howner w).1 hw).2⟩
    · rintro ⟨hname, hnull⟩
      exact ⟨.null, .null, (hid .null).2 ⟨hname, rfl⟩, (howner .null).2 ⟨rfl, hnull⟩, rfl⟩
  | ownerFirst =>
    rw [Tree.truthy_eval_compare, Comparison.decide_eq_true_iff]
    constructor
    · rintro ⟨w, v, hw, hv, -⟩
      exact ⟨((hid v).1 hv).1, ((howner w).1 hw).2⟩
    · rintro ⟨hname, hnull⟩
      exact ⟨.null, .null, (howner .null).2 ⟨rfl, hnull⟩, (hid .null).2 ⟨hname, rfl⟩, rfl⟩

end

/-- **When a caller without a user passes for the owner of a record that has none.**  The gate, whatever its
evaluator remembers and whatever is set for missing rules, refuses such a caller by a rule that equates the user
with the owner, unless the rule has the user as `userId` and the owner either as `owner` or as the field of a
record that holds `null` there. -/
theorem check_unowned_iff {caller : Caller} (hnone : caller.user = none) {snapshot : Option Snapshot}
    (hunowned : Unowned snapshot) {source : String} {e : Expression} (hparse : parse source = .ok e)
    {id owner : Spelling} (hasks : AsksOwner id owner e.tree) {rules : RuleSet} {action : String}
    (hrule : rules.find? action = some source) {evaluator : Evaluator} (hsound : evaluator.Sound)
    (missing : MissingRule) :
    (check missing rules caller snapshot action evaluator).1 = true ↔
      id = .byName ∧ (owner = .byName ∨ snapshot.bind (·.find? "createdBy") = some .null) := by
  rw [check_of_rule hrule hsound, passed_evaluate_of_parse hparse]
  exact hasks.truthy_eval hnone hunowned

/-- A caller without a user is refused where the rule has both in full, and passes where it has both by name. -/
theorem check_unowned_iff_anonymous :
    (check .allow (.insert .empty "update" "user.id == entity.createdBy") .anonymous (some .empty) "update"
        (.ofCapacity 8)).1 = false ∧
      (check .deny (.insert .empty "update" "owner == userId") .anonymous none "update"
        (.ofCapacity 0)).1 = true := by
  have hempty : Unowned (some .empty) := by
    intro v hv
    cases hv
  have hnone : Unowned none := by
    intro v hv
    cases hv
  have hinFull : parse "user.id == entity.createdBy" = .ok ⟨"user.id == entity.createdBy",
      .compare .equal (.path ⟨[.key "user", .key "id"]⟩) (.path ⟨[.key "entity", .key "createdBy"]⟩)⟩ := by rfl
  have hbyName : parse "owner == userId" = .ok ⟨"owner == userId",
      .compare .equal (.path ⟨[.key "owner"]⟩) (.path ⟨[.key "userId"]⟩)⟩ := by rfl
  constructor
  · rw [← Bool.not_eq_true, check_unowned_iff rfl hempty hinFull (.callerFirst : AsksOwner .inFull .inFull _) rfl
      (Evaluator.sound_ofCapacity 8)]
    rintro ⟨hname, -⟩
    cases hname
  · rw [check_unowned_iff rfl hnone hbyName (.ownerFirst : AsksOwner .byName .byName _) rfl
      (Evaluator.sound_ofCapacity 0)]
    exact ⟨rfl, .inl rfl⟩

/-- By name an anonymous caller passes for the owner of a record without one. -/
theorem check_unowned_granted :
    Unowned (some (.insert .empty "id" (.text "9"))) ∧
      (check .deny (.insert .empty "update" "userId == owner") .anonymous
        (some (.insert .empty "id" (.text "9"))) "update" (.ofCapacity 0)).1 = true := by
  constructor
  · intro v hv
    cases hv
  · decide +kernel

end Permission

end RecordGate
