import Mathlib.Algebra.GroupWithZero.Nat
import RecordGate.Proofs.Manifest.Problems
import RecordGate.Proofs.Path.Characters
import RecordGate.Proofs.Workflow.Checked

/-!
# Well-formed manifests

A manifest is well formed when all its rules parse and all its workflows are well formed: each has a name and
a trigger that are more than blanks, a condition that parses if it has one, and no template with an issue
anywhere in the parameters of its actions.  `WellFormed` says so of the declarations themselves, without the
lists in which the check collects what it finds.

The check accepts the well-formed manifests and no others.  What it reports of any other one is complete: entering
a problem under a place raises the number of problems by one, whatever is held under that place already
(`count_add`), so that no problem is lost where several concern one place.

The declarations are described by relations of their own: `Value.HasText` for the texts anywhere in a value, and
`Action.Declares` for the actions that have parameters.  Each is tied to the function that computes it, and the check of
one workflow to `WorkflowDefinition.WellFormed`.  The count goes through the table of problems: inserting under a name
replaces what is there by a list that is longer by one.

Main statement: `check_eq_ok_iff_wellFormed`.
-/

namespace RecordGate

/-! ### Tables -/

namespace Entries

variable {α : Type}

theorem find?_eq_none_of_forall_lt {name : String} {es : Entries α} (h : ∀ e ∈ es, name < e.1) :
    find? name es = none := by
  induction es with
  | nil => rfl
  | cons e rest ih =>
    obtain ⟨hfirst, hrest⟩ := List.forall_mem_cons.1 h
    have hne : e.1 ≠ name := by
      intro heq
      rw [heq] at hfirst
      exact String.lt_irrefl _ hfirst
    rw [find?, if_neg hne, ih hrest]

theorem length_flatMap_insert {name : String} {as : List α} {es : Entries (List α)} (hes : Ordered es) :
    ((insert name as es).flatMap Prod.snd).length + ((find? name es).getD []).length =
      (es.flatMap Prod.snd).length + as.length := by
  induction es with
  | nil => simp [insert, find?]
  | cons e rest ih =>
    obtain ⟨key, bs⟩ := e
    obtain ⟨hfirst, hrest⟩ := List.pairwise_cons.1 hes
    by_cases hlt : name < key
    · -- the name comes before all others, so that it was not there
      have hnone : find? name ((key, bs) :: rest) = none := by
        apply find?_eq_none_of_forall_lt
        intro e he
        rcases List.mem_cons.1 he with rfl | he
        · exact hlt
        · exact String.lt_trans hlt (hfirst e he)
      rw [insert, if_pos hlt, hnone]
      simp
      omega
    · by_cases heq : key = name
      · rw [insert, if_neg hlt, if_pos heq, find?, if_pos heq]
        simp
        omega
      · have hothers := ih hrest
        rw [insert, if_neg hlt, if_neg heq, find?, if_neg heq, List.flatMap_cons, List.flatMap_cons,
          List.length_append, List.length_append]
        omega

end Entries

namespace Problems

/-- **Every problem that is entered counts**, whatever is found at its place already. -/
theorem count_add (problems : Problems) (place problem : String) :
    (problems.add place problem).count = problems.count + 1 := by
  have hlength : (problems.add place problem).count + ((problems.find? place).getD []).length =
      problems.count + ((problems.find? place).getD [] ++ [problem]).length :=
    Entries.length_flatMap_insert problems.ordered
  rw [List.length_append, List.length_singleton] at hlength
  omega

theorem count_foldl_add (found : List (String × String)) (problems : Problems) :
    (found.foldl (fun problems p => problems.add p.1 p.2) problems).count = problems.count + found.length := by
  induction found generalizing problems with
  | nil => rfl
  | cons p rest ih =>
    rw [List.foldl_cons, ih, count_add, List.length_cons]
    omega

theorem count_ofList (found : List (String × String)) : (ofList found).count = found.length := by
  have hcount := count_foldl_add found .empty
  rwa [show count .empty = 0 from rfl, Nat.zero_add] at hcount

end Problems

/-! ### Declarations -/

theorem Text.trim_eq_nil_iff {cs : List Char} : trim cs = [] ↔ cs.all isBlank = true := by
  rw [List.all_eq_true]
  constructor
  · intro htrim c hc
    rcases mem_trim_or_isBlank hc with hmem | hblank
    · rw [htrim] at hmem
      cases hmem
    · exact hblank
  · intro hall
    have hstart : trimStart cs = [] := List.dropWhile_eq_nil_iff.2 hall
    rw [trim, hstart]
    rfl

/-- A text stands somewhere inside a value. -/
inductive Value.HasText : Value → String → Prop where
  | text (s : String) : HasText (.text s) s
  | item {items : List Value} {v : Value} {s : String} (hv : v ∈ items) (hs : HasText v s) :
      HasText (.list items) s
  | field {fields : Entries Value} {name : String} {v : Value} {s : String} (hv : (name, v) ∈ fields)
      (hs : HasText v s) : HasText (.object fields) s

namespace Value

mutual

theorem hasText_of_mem_texts {s : String} (v : Value) (h : s ∈ v.texts) : v.HasText s := by
  cases v with
  | text t =>
    obtain rfl := List.mem_singleton.1 h
    exact .text s
  | list items =>
    obtain ⟨v, hv, hs⟩ := hasText_of_mem_textsOfItems items h
    exact .item hv hs
  | object fields =>
    obtain ⟨name, v, hv, hs⟩ := hasText_of_mem_textsOfFields fields h
    exact .field hv hs
  | null => cases h
  | bool b => cases h
  | number n => cases h

theorem hasText_of_mem_textsOfItems {s : String} (items : List Value) (h : s ∈ textsOfItems items) :
    ∃ v ∈ items, v.HasText s := by
  cases items with
  | nil => cases h
  | cons v rest =>
    rcases List.mem_append.1 h with h | h
    · exact ⟨v, List.mem_cons_self, hasText_of_mem_texts v h⟩
    · obtain ⟨u, hu, hs⟩ := hasText_of_mem_textsOfItems rest h
      exact ⟨u, List.mem_cons_of_mem _ hu, hs⟩

theorem hasText_of_mem_textsOfFields {s : String} (fields : Entries Value) (h : s ∈ textsOfFields fields) :
    ∃ name v, (name, v) ∈ fields ∧ v.HasText s := by
  cases fields with
  | nil => cases h
  | cons field rest =>
    obtain ⟨name, v⟩ := field
    rcases List.mem_append.1 h with h | h
    · exact ⟨name, v, List.mem_cons_self, hasText_of_mem_texts v h⟩
    · obtain ⟨other, u, hu, hs⟩ := hasText_of_mem_textsOfFields rest h
      exact ⟨other, u, List.mem_cons_of_mem _ hu, hs⟩

end

theorem mem_textsOfItems {s : String} {v : Value} {items : List Value} (hv : v ∈ items) (hs : s ∈ v.texts) :
    s ∈ textsOfItems items := by
  induction items with
  | nil => cases hv
  | cons u rest ih =>
    rcases List.mem_cons.1 hv with rfl | hv
    · exact List.mem_append_left _ hs
    · exact List.mem_append_right _ (ih hv)

theorem mem_textsOfFields {s name : String} {v : Value} {fields : Entries Value} (hv : (name, v) ∈ fields)
    (hs : s ∈ v.texts) : s ∈ textsOfFields fields := by
  induction fields with
  | nil => cases hv
  | cons field rest ih =>
    rcases List.mem_cons.1 hv with rfl | hv
    · exact List.mem_append_left _ hs
    · exact List.mem_append_right _ (ih hv)

theorem hasText_iff_mem_texts {v : Value} {s : String} : v.HasText s ↔ s ∈ v.texts := by
  constructor
  · intro h
    induction h with
    | text s => exact List.mem_singleton_self s
    | item hv _ ih => exact mem_textsOfItems hv ih
    | field hv _ ih => exact mem_textsOfFields hv ih
  · exact hasText_of_mem_texts v

end Value

/-- An action takes parameters, and was declared with these. -/
inductive Action.Declares : Action → Value → Prop where
  | webhook (params : Value) : Declares (.webhook params) params
  | database (params : Value) : Declares (.database params) params
  | mail (params : Value) : Declares (.mail params) params
  | log {params : Value} (hparams : params ≠ .null) : Declares (.log params) params

theorem Value.isNull_eq_false_iff {v : Value} : v.isNull = false ↔ v ≠ .null := by
  cases v <;> simp [isNull]

theorem Action.declares_iff {a : Action} {params : Value} : a.Declares params ↔ a.params? = some params := by
  constructor
  · rintro (_ | _ | _ | hparams)
    · rfl
    · rfl
    · rfl
    · simp [params?, Value.isNull_eq_false_iff.2 hparams]
  · intro h
    cases a with
    | webhook p =>
      obtain rfl := Option.some.inj h
      exact .webhook p
    | database p =>
      obtain rfl := Option.some.inj h
      exact .database p
    | mail p =>
      obtain rfl := Option.some.inj h
      exact .mail p
    | log p =>
      cases hnull : p.isNull with
      | true => simp [params?, hnull] at h
      | false =>
        obtain rfl : p = params := by simpa [params?, hnull] using h
        exact .log (Value.isNull_eq_false_iff.1 hnull)
    | notifyMail => cases h
    | notifyChat => cases h
    | count => cases h
    | unrecognized raw => cases h

/-! ### Well-formedness -/

/-- What is expected of the declaration of a workflow. -/
structure WorkflowDefinition.WellFormed (w : WorkflowDefinition) : Prop where
  name : Text.trim w.name.toList ≠ []
  trigger : Text.trim w.trigger.toList ≠ []
  condition : ∀ rule, w.condition = some rule → ∃ e, Expression.parse rule = .ok e
  templates : ∀ spec ∈ w.actions, ∀ params, (Action.ofSpec spec).Declares params →
    ∀ template, params.HasText template → Template.issues template = []

theorem WorkflowDefinition.wellFormed_iff_checked {w : WorkflowDefinition} : w.WellFormed ↔ w.Checked := by
  have htrim (s : String) : Text.trim s.toList ≠ [] ↔ Text.allBlank s = false := by
    rw [ne_eq, Text.trim_eq_nil_iff, Bool.not_eq_true, Text.allBlank]
  have htexts (spec : ActionSpec) :
      (∀ params, (Action.ofSpec spec).Declares params →
        ∀ template, params.HasText template → Template.issues template = []) ↔
      ∀ template ∈ (Action.ofSpec spec).texts, Template.issues template = [] := by
    simp only [Action.declares_iff, Value.hasText_iff_mem_texts, Action.texts]
    cases (Action.ofSpec spec).params? with
    | none => simp
    | some params => simp
  constructor
  · rintro ⟨hname, htrigger, hcondition, htemplates⟩
    exact ⟨(htrim _).1 hname, (htrim _).1 htrigger, hcondition,
      fun spec hspec => (htexts spec).1 (htemplates spec hspec)⟩
  · rintro ⟨hname, htrigger, hcondition, htemplates⟩
    exact ⟨(htrim _).2 hname, (htrim _).2 htrigger, hcondition,
      fun spec hspec => (htexts spec).2 (htemplates spec hspec)⟩

namespace Manifest

/-- What is expected of a manifest. -/
structure WellFormed (m : Manifest) : Prop where
  rules : ∀ entity policy, m.entities.find? entity = some policy →
    ∀ action rule, policy.permissions.find? action = some rule → ∃ e, Expression.parse rule = .ok e
  workflows : ∀ w ∈ m.workflows, w.WellFormed

/-- How many rules of a manifest do not parse, over all entities and actions. -/
def unparsableRules (m : Manifest) : Nat :=
  (m.entities.entries.map fun e =>
    e.2.permissions.entries.countP fun rule => !(Expression.parse rule.2).isOk).sum

theorem wellFormed_iff {m : Manifest} :
    m.WellFormed ↔
      (∀ entry ∈ m.entities.entries, ∀ rule ∈ entry.2.permissions.entries,
        ∃ e, Expression.parse rule.2 = .ok e) ∧ WorkflowDefinition.issues m.workflows = [] := by
  rw [WorkflowDefinition.issues_eq_nil_iff]
  constructor
  · rintro ⟨hrules, hworkflows⟩
    refine ⟨?_, fun w hw => WorkflowDefinition.wellFormed_iff_checked.1 (hworkflows w hw)⟩
    intro entry hentry rule hrule
    exact hrules entry.1 entry.2 (Entries.find?_of_mem m.entities.ordered hentry) rule.1 rule.2
      (Entries.find?_of_mem entry.2.permissions.ordered hrule)
  · rintro ⟨hrules, hworkflows⟩
    refine ⟨?_, fun w hw => WorkflowDefinition.wellFormed_iff_checked.2 (hworkflows w hw)⟩
    intro entity policy hpolicy action rule hrule
    exact hrules (entity, policy) (Entries.mem_of_find? hpolicy) (action, rule) (Entries.mem_of_find? hrule)

theorem length_ruleProblems (entity : String) (policy : EntityPolicy) :
    (ruleProblems entity policy).length =
      policy.permissions.entries.countP fun rule => !(Expression.parse rule.2).isOk := by
  rw [ruleProblems, List.length_map, RuleSet.issues, List.length_filterMap_eq_countP]
  apply List.countP_congr
  rintro ⟨action, rule⟩ -
  cases hparse : Expression.parse rule with
  | ok e => simp [RuleSet.error?, hparse, Except.isOk, Except.toBool]
  | error e => simp [RuleSet.error?, hparse, Except.isOk, Except.toBool]

theorem length_found (m : Manifest) :
    m.found.length = m.unparsableRules + (WorkflowDefinition.issues m.workflows).length := by
  rw [found_eq, List.length_append, List.length_map, List.length_flatMap, unparsableRules]
  simp only [length_ruleProblems]

/-- **A manifest is accepted exactly when it is well formed, and no problem of any other is lost**: all messages
of the report together are as many as there are rules that do not parse and issues of workflows, under however
few places they stand. -/
theorem check_eq_ok_iff_wellFormed (m : Manifest) :
    (m.check = .ok () ↔ m.WellFormed) ∧
      (¬m.WellFormed → ∃ problems : Problems, m.check = .error (.invalid problems) ∧
        problems.count = m.unparsableRules + (WorkflowDefinition.issues m.workflows).length) := by
  have haccepted : m.check = .ok () ↔ m.WellFormed := by
    rw [check_eq_ok_iff, wellFormed_iff]
  refine ⟨haccepted, ?_⟩
  intro hill
  have hfound : m.found ≠ [] := by
    intro hnone
    exact hill (haccepted.1 (check_eq_ok_iff_found.2 hnone))
  refine ⟨m.problems, check_of_found_ne_nil hfound, ?_⟩
  rw [problems, Problems.count_ofList, length_found]

/-- Two workflows of one name, the first without a trigger and with a condition that ends too early, the second
with a template that is not closed, beside a rule that does not parse. -/
def flawed : Manifest :=
  ⟨.insert .empty "task" ⟨.insert .empty "read" "("⟩,
    [(WorkflowDefinition.ofTrigger "notify" " ").withCondition "a ==",
      (WorkflowDefinition.ofTrigger "notify" "closed").withAction
        (.typed "log" (.object [("text", .text "$\x7bentity")]))]⟩

/-- The three issues of the workflows stand under one place, and with that of the rule four are counted. -/
theorem check_eq_ok_iff_wellFormed_flawed :
    ∃ problems : Problems, flawed.check = .error (.invalid problems) ∧ problems.count = 4 ∧
      problems.size = 2 := by
  have hill : ¬flawed.WellFormed := by
    intro hwell
    obtain ⟨e, he⟩ := hwell.rules "task" ⟨.insert .empty "read" "("⟩ rfl "read" "(" rfl
    have hfails : (Expression.parse "(").isOk = false := by decide +kernel
    rw [he] at hfails
    cases hfails
  obtain ⟨problems, hcheck, hcount⟩ := (check_eq_ok_iff_wellFormed flawed).2 hill
  refine ⟨problems, hcheck, ?_, ?_⟩
  · rw [hcount]
    decide +kernel
  · obtain rfl : flawed.problems = problems := by
      have hfound : flawed.found ≠ [] := by decide +kernel
      exact LoadError.invalid.inj (Except.error.inj ((check_of_found_ne_nil hfound).symm.trans hcheck))
    decide +kernel

end Manifest

end RecordGate
