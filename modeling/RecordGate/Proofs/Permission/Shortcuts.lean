import RecordGate.Proofs.Expression.Paths
import RecordGate.Proofs.Permission.Answers

/-!
# Whom the shortcuts speak of

A context says whether its caller is authenticated, for which it asks both for the flag and for a user.  Four
shortcuts say who the caller is: an administrator, the owner of the record, its user, its assignee.  They speak
of the user that the caller carries, and of nothing else.  So a caller without a user has none of them, whether
or not the flag is set, and no rule that offers some of them as alternatives lets such a caller pass.  But a
caller that carries a user has the shortcuts of this user, whether or not the flag is set: a rule that means to
admit authenticated callers alone has to ask for `authenticated` too.

The flag itself decides about one name: two callers with the same user find the same under every name but
`authenticated` (`context_congr_user`).

`NamesUser` says for a field of the record that it names the user.  A field may hold the identifier as a text or as a
number; a number names the user whose identifier is the text that the number prints as.  `OffersAny` are the rules that
offer some shortcuts as alternatives, in any order and with any parentheses, and passing such a rule is passing one of
its alternatives (`OffersAny.truthy_eval`).

Main statement: `shortcuts_of_user`.
-/

namespace RecordGate

open RecordGate.Expression

namespace Permission

/-- A record names a user in a field, by the text of the identifier or by a number that is written like it. -/
def NamesUser (snapshot : Option Snapshot) (field : String) (user : User) : Prop :=
  ∃ record v, snapshot = some record ∧ Table.find? record field = some v ∧
    (v = .text user.id ∨ ∃ n, v = .number n ∧ n.render = user.id.toList)

/-- The names under which a context says who its caller is. -/
inductive Shortcut where
  | isAdmin
  | isOwner
  | isEntityUser
  | isAssignee
  deriving DecidableEq

namespace Shortcut

def name : Shortcut → String
  | isAdmin => "isAdmin"
  | isOwner => "isOwner"
  | isEntityUser => "isEntityUser"
  | isAssignee => "isAssignee"

/-- What a shortcut says of a user and a record. -/
def Holds (user : User) (snapshot : Option Snapshot) : Shortcut → Prop
  | isAdmin => user.role = "admin"
  | isOwner => NamesUser snapshot "createdBy" user
  | isEntityUser => NamesUser snapshot "userId" user
  | isAssignee => NamesUser snapshot "assignedTo" user

end Shortcut

section

variable {caller : Caller} {snapshot : Option Snapshot} {action : String}

theorem holdsId_eq_true_iff (field : String) (user : Option User) :
    holdsId (snapshot.bind (·.find? field)) (user.map (·.id)) = true ↔
      ∃ u, user = some u ∧ NamesUser snapshot field u := by
  constructor
  · intro h
    cases snapshot with
    | none => cases h
    | some record =>
      cases user with
      | none => simp [holdsId] at h
      | some u =>
        cases hfield : Table.find? record field with
        | none => simp [holdsId, hfield] at h
        | some v =>
          refine ⟨u, rfl, record, v, rfl, hfield, ?_⟩
          cases v with
          | text s => exact .inl (by simpa [holdsId, hfield] using h)
          | number n => exact .inr ⟨n, rfl, by simpa [holdsId, hfield] using h⟩
          | _ => simp [holdsId, hfield] at h
  · rintro ⟨u, rfl, record, v, rfl, hfield, rfl | ⟨n, rfl, hn⟩⟩
    · simp [holdsId, hfield]
    · simp [holdsId, hfield, hn]

/-- The flag alone does not authenticate, and neither does the user alone. -/
theorem context_authenticated :
    (context caller snapshot action).find? "authenticated" =
      some (.bool (caller.authenticated && caller.user.isSome)) := by
  simp [context, Context.find?, Context.bind]

theorem context_shortcut (caller : Caller) (snapshot : Option Snapshot) (action : String) (s : Shortcut) :
    ∃ b, (context caller snapshot action).find? s.name = some (.bool b) ∧
      (b = true ↔ ∃ user, caller.user = some user ∧ s.Holds user snapshot) := by
  cases s with
  | isAdmin =>
    refine ⟨caller.user.map (·.role) == some User.adminRole, ?_, ?_⟩
    · simp [context, Context.find?, Context.bind, Shortcut.name]
    · simp [Shortcut.Holds, User.adminRole]
  | isOwner =>
    refine ⟨_, ?_, holdsId_eq_true_iff "createdBy" caller.user⟩
    simp [context, Context.find?, Context.bind, Shortcut.name, ownerField]
  | isEntityUser =>
    refine ⟨_, ?_, holdsId_eq_true_iff "userId" caller.user⟩
    simp [context, Context.find?, Context.bind, Shortcut.name, userField]
  | isAssignee =>
    refine ⟨_, ?_, holdsId_eq_true_iff "assignedTo" caller.user⟩
    simp [context, Context.find?, Context.bind, Shortcut.name, assigneeField]

theorem context_congr_user {other : Caller} (huser : other.user = caller.user) {name : String}
    (hname : name ≠ "authenticated") :
    (context other snapshot action).find? name = (context caller snapshot action).find? name := by
  simp [context, Context.find?, Context.bind, huser, hname.symm]

/-! ### Rules made of shortcuts -/

/-- A tree that offers shortcuts as alternatives, grouped in whatever way. -/
inductive OffersAny : List Shortcut → Tree → Prop where
  | one (s : Shortcut) : OffersAny [s] (.path ⟨[.key s.name]⟩)
  | or {ss ss' : List Shortcut} {left right : Tree} (hleft : OffersAny ss left)
      (hright : OffersAny ss' right) : OffersAny (ss ++ ss') (.or left right)

theorem OffersAny.truthy_eval {ss : List Shortcut} {e : Tree} (h : OffersAny ss e) :
    truthy (e.eval (context caller snapshot action)) = true ↔
      ∃ s ∈ ss, ∃ user, caller.user = some user ∧ s.Holds user snapshot := by
  induction h with
  | one s =>
    obtain ⟨b, hfind, hb⟩ := context_shortcut caller snapshot action s
    have hvalue : (Tree.path ⟨[.key s.name]⟩).eval (context caller snapshot action) = some (.bool b) := by
      rw [Tree.eval, Context.resolve?_key, hfind]
      rfl
    rw [hvalue]
    simpa [truthy, Value.truthy] using hb
  | or hleft hright ihleft ihright =>
    rw [Tree.truthy_eval_or, Bool.or_eq_true, ihleft, ihright]
    constructor
    · rintro (⟨s, hs, hholds⟩ | ⟨s, hs, hholds⟩)
      · exact ⟨s, List.mem_append_left _ hs, hholds⟩
      · exact ⟨s, List.mem_append_right _ hs, hholds⟩
    · rintro ⟨s, hs, hholds⟩
      rcases List.mem_append.1 hs with hs | hs
      · exact .inl ⟨s, hs, hholds⟩
      · exact .inr ⟨s, hs, hholds⟩

end

/-- **The shortcuts speak of the caller's user alone.**  A context is authenticated where the flag is set and there
is a user.  Without a user, whatever the flag says, no shortcut holds, and a rule that offers shortcuts does not
pass, nor does the gate let such a rule pass, whatever its evaluator remembers.  With a user, whatever the flag
says, each shortcut says what holds of this user and the record, and a rule that offers some passes exactly if
one of them holds.  The flag decides about `authenticated` alone: every other name is bound alike for callers with one
user. -/
theorem shortcuts_of_user (caller : Caller) (snapshot : Option Snapshot) (action : String) :
    (context caller snapshot action).find? "authenticated" =
        some (.bool (caller.authenticated && caller.user.isSome)) ∧
      (caller.user = none →
        (∀ s : Shortcut, (context caller snapshot action).find? s.name = some (.bool false)) ∧
        ∀ source e ss, parse source = .ok e → OffersAny ss e.tree →
          (evaluate source (context caller snapshot action)).passed = false ∧
          ∀ missing rules evaluator, Table.find? rules action = some source → evaluator.Sound →
            (check missing rules caller snapshot action evaluator).1 = false) ∧
      (∀ user, caller.user = some user →
        (∀ s : Shortcut, ∃ b, (context caller snapshot action).find? s.name = some (.bool b) ∧
          (b = true ↔ s.Holds user snapshot)) ∧
        (∀ source e ss, parse source = .ok e → OffersAny ss e.tree →
          ((evaluate source (context caller snapshot action)).passed = true ↔
            ∃ s ∈ ss, s.Holds user snapshot))) ∧
      ∀ other : Caller, other.user = caller.user → ∀ name, name ≠ "authenticated" →
        (context other snapshot action).find? name = (context caller snapshot action).find? name := by
  refine ⟨context_authenticated, ?_, ?_, ?_⟩
  · intro hnone
    constructor
    · intro s
      obtain ⟨b, hfind, hb⟩ := context_shortcut caller snapshot action s
      have hfalse : b = false := by
        rw [← Bool.not_eq_true, hb, hnone]
        rintro ⟨user, huser, -⟩
        cases huser
      rw [hfind, hfalse]
    · intro source e ss hparse hoffers
      have hdenied : (evaluate source (context caller snapshot action)).passed = false := by
        rw [passed_evaluate_of_parse hparse, ← Bool.not_eq_true, hoffers.truthy_eval, hnone]
        rintro ⟨s, -, user, huser, -⟩
        cases huser
      refine ⟨hdenied, ?_⟩
      intro missing rules evaluator hrule hsound
      rw [check_of_rule hrule hsound, hdenied]
  · intro user huser
    constructor
    · intro s
      obtain ⟨b, hfind, hb⟩ := context_shortcut caller snapshot action s
      refine ⟨b, hfind, ?_⟩
      simpa [huser] using hb
    · intro source e ss hparse hoffers
      rw [passed_evaluate_of_parse hparse, hoffers.truthy_eval]
      simp [huser]
  · intro other huser name hname
    exact context_congr_user huser hname

/-- An administrator who owns the record, as whom nobody has authenticated. -/
def unproven : Caller := ⟨false, some ((User.ofIdentity "u1" "u1@x.io").withRole "admin")⟩

/-- The record of `unproven`. -/
def owned : Snapshot := .insert .empty "createdBy" (.text "u1")

/-- With the flag and no user a rule of three shortcuts is denied; with the user and no flag the same rule passes,
as the user is an administrator; and the user has one role with the flag and without it. -/
theorem shortcuts_of_user_flag :
    (check .allow (.insert .empty "delete" "isAdmin || (isOwner || isAssignee)") ⟨true, none⟩ (some owned)
        "delete" (.ofCapacity 0)).1 = false ∧
      (evaluate "isAdmin || (isOwner || isAssignee)" (context unproven (some owned) "delete")).passed = true ∧
      (context ⟨true, unproven.user⟩ (some owned) "delete").find? "role" =
        (context unproven (some owned) "delete").find? "role" := by
  have hparse : parse "isAdmin || (isOwner || isAssignee)" =
      .ok ⟨"isAdmin || (isOwner || isAssignee)",
        .or (.path ⟨[.key "isAdmin"]⟩) (.or (.path ⟨[.key "isOwner"]⟩) (.path ⟨[.key "isAssignee"]⟩))⟩ := by rfl
  have hoffers : OffersAny ([.isAdmin] ++ ([.isOwner] ++ [.isAssignee]))
      (.or (.path ⟨[.key "isAdmin"]⟩) (.or (.path ⟨[.key "isOwner"]⟩) (.path ⟨[.key "isAssignee"]⟩))) :=
    .or (.one .isAdmin) (.or (.one .isOwner) (.one .isAssignee))
  refine ⟨?_, ?_, ?_⟩
  · obtain ⟨-, hnone, -⟩ := shortcuts_of_user ⟨true, none⟩ (some owned) "delete"
    have hdenied := (hnone rfl).2 _ _ _ hparse hoffers
    exact hdenied.2 _ _ _ rfl (Evaluator.sound_ofCapacity 0)
  · obtain ⟨-, -, hsome, -⟩ := shortcuts_of_user unproven (some owned) "delete"
    apply ((hsome _ rfl).2 _ _ _ hparse hoffers).2
    exact ⟨.isAdmin, List.mem_cons_self, rfl⟩
  · obtain ⟨-, -, -, hother⟩ := shortcuts_of_user unproven (some owned) "delete"
    exact hother ⟨true, unproven.user⟩ rfl "role" (by decide)

/-- A caller who is not authenticated has two of the shortcuts, and the rule that offers them passes. -/
theorem shortcuts_without_authentication :
    (context unproven (some owned) "delete").find? "authenticated" = some (.bool false) ∧
      (context unproven (some owned) "delete").find? "isAdmin" = some (.bool true) ∧
      (context unproven (some owned) "delete").find? "isOwner" = some (.bool true) ∧
      (evaluate "isAdmin || isOwner" (context unproven (some owned) "delete")).passed = true := by
  refine ⟨context_authenticated, ?_, ?_, ?_⟩
  · simp [context, Context.find?, Context.bind, unproven, User.withRole, User.adminRole]
  · simp [context, Context.find?, Context.bind, unproven, owned, holdsId, ownerField, User.withRole,
      User.ofIdentity]
  · decide +kernel

end Permission

end RecordGate
