import RecordGate.Proofs.Expression.Mentions
import RecordGate.Proofs.Permission.Questions

/-!
# What a verdict depends on

The lexer finds the paths of a rule, the parser puts them into a tree, and evaluation looks at a context through
the paths in the tree.  None of these steps adds a path of its own, so that two contexts in which the paths among
the tokens lead to the same cannot be told apart by the rule, whatever else they bind.  An evaluator remembers
trees and errors but no contexts, so it cannot tell them apart either.  A name that no path of a rule starts with
is therefore safe to bind: the rule does not notice.

Main statement: `verdict_depends_on_paths`.
-/

namespace RecordGate.Expression

theorem mem_mentioned_iff {source : String} {p : Path} :
    p ∈ mentioned source ↔ ∃ ts, tokens source.toList = .ok ts ∧ ∃ t ∈ ts, t.token = .path p := by
  unfold mentioned
  cases htokens : tokens source.toList with
  | error e => simp
  | ok ts =>
    simp only [List.filterMap_map, List.mem_filterMap, Function.comp_apply, Except.ok.injEq, exists_eq_left']
    constructor
    · rintro ⟨t, ht, hpath⟩
      refine ⟨t, ht, ?_⟩
      cases htoken : t.token <;> simp_all [Token.path?]
    · rintro ⟨t, ht, htoken⟩
      exact ⟨t, ht, by simp [htoken, Token.path?]⟩

theorem resolve?_bind_of_head? {p : Path} {name : String} (hhead : p.head? ≠ some name) (c : Context) (v : Value) :
    (c.bind name v).resolve? p = c.resolve? p := by
  apply Context.resolve?_congr
  intro other hother
  have hne : name ≠ other := by
    rintro rfl
    exact hhead hother
  simp [Context.bind, Context.find?, hne]

/-- **A verdict depends on the paths of the rule and on nothing else.**  Where each path token of a text leads to
the same in two contexts, or to nothing in both, the text has the same verdict in them, value and error included,
and evaluators of any capacity give it in both, whatever they were asked before.  In particular a name that none
of the paths starts with can be bound to anything without a change of the verdict. -/
theorem verdict_depends_on_paths (source : String) :
    (∀ c c' : Context,
      (∀ ts, tokens source.toList = .ok ts → ∀ t ∈ ts, ∀ p, t.token = .path p →
        c.resolve? p = c'.resolve? p) →
      evaluate source c = evaluate source c' ∧
      ∀ capacity earlier capacity' earlier',
        ((Evaluator.asked capacity earlier).evaluate source c).1 =
          ((Evaluator.asked capacity' earlier').evaluate source c').1) ∧
    ∀ (c : Context) (name : String) (v : Value), (∀ p ∈ mentioned source, p.head? ≠ some name) →
      evaluate source (c.bind name v) = evaluate source c := by
  constructor
  · intro c c' hpaths
    have hverdict : evaluate source c = evaluate source c' := by
      apply evaluate_congr
      intro p hp
      obtain ⟨ts, htokens, t, ht, htoken⟩ := mem_mentioned_iff.1 hp
      exact hpaths ts htokens t ht p htoken
    refine ⟨hverdict, ?_⟩
    intro capacity earlier capacity' earlier'
    have hasked := (Evaluator.answers_evaluate source c).fst_asked capacity earlier
    have hasked' := (Evaluator.answers_evaluate source c').fst_asked capacity' earlier'
    rw [hasked, hasked', hverdict]
  · intro c name v hname
    apply evaluate_congr
    intro p hp
    exact resolve?_bind_of_head? (hname p hp) c v

/-- Two contexts with the same owner and the same user: in one of them the record has a title and an attacker has
bound names of his own. -/
def plain : Context :=
  (Context.empty.bind "owner" (.text "u1")).bind "entity" (.ofFields [("by", .text "u1")])

def crowded : Context :=
  ((plain.bind "entity" (.ofFields [("by", .text "u1"), ("title", .text "owner")])).bind "true" (.bool false)).bind
    "by" (.text "u2")

/-- The rule has the same verdict in both contexts, remembered or not, and does not notice a role. -/
theorem verdict_depends_on_paths_crowded :
    evaluate "owner == entity.by || !entity.draft" plain = evaluate "owner == entity.by || !entity.draft" crowded ∧
      ((Evaluator.asked 0 []).evaluate "owner == entity.by || !entity.draft" plain).1 =
        ((Evaluator.asked 8 [.evaluate "by == 'u2'" crowded]).evaluate "owner == entity.by || !entity.draft"
          crowded).1 ∧
      evaluate "owner == entity.by || !entity.draft" (crowded.bind "role" (.text "admin")) =
        evaluate "owner == entity.by || !entity.draft" crowded := by
  obtain ⟨hagree, hbind⟩ := verdict_depends_on_paths "owner == entity.by || !entity.draft"
  have hmentioned : mentioned "owner == entity.by || !entity.draft" =
      [⟨[.key "owner"]⟩, ⟨[.key "entity", .key "by"]⟩, ⟨[.key "entity", .key "draft"]⟩] := by
    decide +kernel
  have hsame : ∀ p ∈ mentioned "owner == entity.by || !entity.draft",
      plain.resolve? p = crowded.resolve? p := by
    rw [hmentioned]
    simp only [List.forall_mem_cons, List.not_mem_nil, false_implies, implies_true, and_true]
    exact ⟨rfl, rfl, rfl⟩
  have hroles : ∀ p ∈ mentioned "owner == entity.by || !entity.draft", p.head? ≠ some "role" := by
    rw [hmentioned]
    decide
  obtain ⟨hverdict, hasked⟩ := hagree plain crowded fun ts htokens t ht p htoken =>
    hsame p (mem_mentioned_iff.2 ⟨ts, htokens, t, ht, htoken⟩)
  exact ⟨hverdict, hasked 0 [] 8 _, hbind crowded "role" (.text "admin") hroles⟩

end RecordGate.Expression
