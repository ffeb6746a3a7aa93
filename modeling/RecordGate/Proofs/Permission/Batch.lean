import RecordGate.Proofs.Expression.Mentions
import RecordGate.Proofs.Permission.Questions

/-!
# All rules in one context

The gate answers one action in the context of that action, or all rules of an entity in one context.  The
contexts of two actions bind every name alike but `action`, and a rule depends on the paths in its text alone.
So the two ways give one answer to the action that the one context is made for, and to every action whose rule
does not look at `action`.  The table of all answers has the names of the rules, because answering them one by
one keeps their order.

Main statement: `evaluateAll_agrees_with_check`.
-/

namespace RecordGate.Permission

open RecordGate.Expression

variable {caller : Caller} {snapshot : Option Snapshot}

/-! ### One rule in two contexts -/

theorem context_find?_of_ne {name : String} (hname : name ≠ "action") (a b : String) :
    (context caller snapshot a).find? name = (context caller snapshot b).find? name := by
  simp [context, Context.find?, Context.bind, hname.symm]

/-- A rule without a path into `action` has the same verdict for every action. -/
theorem evaluate_context_congr {rule : String} (h : ∀ p ∈ mentioned rule, p.head? ≠ some "action")
    (a b : String) :
    evaluate rule (context caller snapshot a) = evaluate rule (context caller snapshot b) := by
  apply evaluate_congr
  intro p hp
  apply Context.resolve?_congr
  intro name hname
  apply context_find?_of_ne
  rintro rfl
  exact h p hp hname

/-! ### All rules in one context -/

theorem answers_evaluateAll_map (rules : RuleSet) (context : Context) :
    Evaluator.Answers (evaluateAll rules context)
      (rules.map fun _ rule => (evaluate rule context).passed) := by
  have hanswer := answers_evaluateAll rules context
  have hentries : rules.entries.map (fun rule => (rule.1, (evaluate rule.2 context).passed)) =
      (rules.map fun _ rule => (evaluate rule context).passed).entries := rfl
  rw [hentries, Table.ofList_entries] at hanswer
  exact hanswer

/-- **All rules at once, or one action at a time.**  In the context of the action `a`, and whatever the evaluators
remember of what they were asked before, the table of all answers gives an action that has a rule the answer of
the gate, if the action is `a` or no path in the rule starts with `action`.  The table has an answer for exactly
the actions that have a rule. -/
theorem evaluateAll_agrees_with_check (missing : MissingRule) (rules : RuleSet) (caller : Caller)
    (snapshot : Option Snapshot) (a : String) (capacity capacity' : Nat) (earlier earlier' : List Question) :
    (∀ b rule, rules.find? b = some rule →
      (b = a ∨ ∀ p ∈ mentioned rule, p.head? ≠ some "action") →
      (evaluateAll rules (context caller snapshot a) (.asked capacity earlier)).1.find? b =
        some (check missing rules caller snapshot b (.asked capacity' earlier')).1) ∧
    (evaluateAll rules (context caller snapshot a) (.asked capacity earlier)).1.names = rules.names := by
  have htable := (answers_evaluateAll_map rules (context caller snapshot a)).fst_asked capacity earlier
  constructor
  · intro b rule hrule hrelated
    have hcheck := check_of_rule hrule (Evaluator.sound_asked capacity' earlier') missing caller snapshot
    have hverdict : evaluate rule (context caller snapshot a) = evaluate rule (context caller snapshot b) := by
      rcases hrelated with rfl | hpaths
      · rfl
      · exact evaluate_context_congr hpaths a b
    rw [htable, Table.find?_map, hrule, hcheck, ← hverdict]
    rfl
  · rw [htable]
    simp [Table.names, Table.map]

/-- A rule about the action, and one about the owner. -/
def staged : RuleSet := .insert (.insert .empty "archive" "action == 'archive' && isOwner") "update" "isOwner"

/-- The author of a record, who owns it. -/
def author : Caller := .ofUser (.ofIdentity "u1" "u1@example.com")

/-- A record of the author. -/
def authored : Snapshot := .insert .empty "createdBy" (.text "u1")

/-- In the context of archiving, both rules are answered as the gate answers them to the owner. -/
theorem evaluateAll_agrees_with_check_staged :
    (evaluateAll staged (context author (some authored) "archive") (.asked 0 [])).1.find? "archive" =
        some (check .allow staged author (some authored) "archive" (.asked 8 [.evaluate "isOwner" .empty])).1 ∧
      (evaluateAll staged (context author (some authored) "archive") (.asked 0 [])).1.find? "update" =
        some (check .allow staged author (some authored) "update" (.asked 8 [.evaluate "isOwner" .empty])).1 := by
  have hpaths : ∀ p ∈ mentioned "isOwner", p.head? ≠ some "action" := by decide +kernel
  obtain ⟨hagrees, -⟩ := evaluateAll_agrees_with_check .allow staged author (some authored) "archive" 0 8 []
    [.evaluate "isOwner" .empty]
  exact ⟨hagrees "archive" _ rfl (.inl rfl), hagrees "update" _ rfl (.inr hpaths)⟩

end RecordGate.Permission
