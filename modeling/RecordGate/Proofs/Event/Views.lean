import RecordGate.Event
import RecordGate.Proofs.Expression.SinglePath
import RecordGate.Proofs.Permission.Ownership
import RecordGate.Proofs.Permission.Questions
import RecordGate.Proofs.Template.Agreement

/-!
# Two views of an event

The condition of a workflow and the templates of its actions look at the same event, each in a view of its own.
Under the names of the event both have the same values, whatever names its data uses: what the data holds is
bound only where a name is free.  So a path that starts with one of these names leads to one value in both views.
As a condition it has this value, and as a placeholder it is filled with the text of it, or left where there is
none.  A user looks the same to rules as to conditions and templates.

The names of the event are spelled out in `Event.own` with the values they are bound to, apart from the code that
binds them.  The view of conditions has the data at the top as well, behind these names; the view of templates has it
under `data` alone.  A path is followed from its first name on, so that it suffices that both views agree there
(`Event.resolve?_conditionContext`).

Main statement: `views_agree`.
-/

namespace RecordGate

open RecordGate.Expression RecordGate.Template RecordGate.Text

/-! ### Names in a view -/

theorem Context.find?_bindMissing (c : Context) (fields : Table Value) (name : String) :
    (c.bindMissing fields).find? name = (c.find? name).or (fields.find? name) := by
  have hfold : ∀ (es : Entries Value) (t : Table Value),
      (es.foldl (fun t e => if t.contains e.1 then t else t.insert e.1 e.2) t).find? name =
        (t.find? name).or (Entries.find? name es) := by
    intro es
    induction es with
    | nil =>
      intro t
      simp [Entries.find?]
    | cons e rest ih =>
      intro t
      obtain ⟨key, v⟩ := e
      rw [List.foldl_cons, ih]
      by_cases hkey : key = name
      · subst hkey
        cases hfound : t.find? key with
        | none => simp [Table.contains, hfound, Entries.find?]
        | some w => simp [Table.contains, hfound]
      · by_cases hbound : t.contains key = true
        · simp [hbound, Entries.find?, hkey]
        · simp [hbound, Entries.find?, hkey]
  exact hfold fields.entries c.values

namespace Event

/-- What tells an event from others, under its names. -/
def identity (e : Event) : Entries Value :=
  [("entity", .text e.entity), ("entityId", .text e.entityId),
    ("user", .ofOption User.toValue e.user), ("timestamp", .text e.timestamp.offsetStamp),
    ("behavior", .ofOption .text e.behavior)]

/-- The names of an event, with what they stand for. -/
def own (e : Event) : Entries Value := e.identity ++ [("data", .ofTable e.data)]

/-- The names of what tells events from each other. -/
def identityNames : List String := ["entity", "entityId", "user", "timestamp", "behavior"]

/-- The names of every event. -/
def ownNames : List String := identityNames ++ ["data"]

theorem map_fst_identity (e : Event) : e.identity.map Prod.fst = identityNames := rfl

theorem map_fst_own (e : Event) : e.own.map Prod.fst = ownNames := rfl

variable {e : Event} {name : String} {v : Value}

theorem mem_own_iff :
    (name, v) ∈ e.own ↔
      name = "entity" ∧ v = .text e.entity ∨ name = "entityId" ∧ v = .text e.entityId ∨
      name = "user" ∧ v = .ofOption User.toValue e.user ∨
      name = "timestamp" ∧ v = .text e.timestamp.offsetStamp ∨
      name = "behavior" ∧ v = .ofOption .text e.behavior ∨ name = "data" ∧ v = .ofTable e.data := by
  simp [own, identity]

theorem find?_conditionContext_of_mem (h : (name, v) ∈ e.own) : e.conditionContext.find? name = some v := by
  rw [conditionContext, Context.find?_bindMissing]
  rcases mem_own_iff.1 h with ⟨rfl, rfl⟩ | ⟨rfl, rfl⟩ | ⟨rfl, rfl⟩ | ⟨rfl, rfl⟩ | ⟨rfl, rfl⟩ | ⟨rfl, rfl⟩ <;>
    simp [Context.find?, Context.bind]

theorem find?_conditionContext_of_not_mem (h : name ∉ ownNames) :
    e.conditionContext.find? name = e.data.find? name := by
  simp only [ownNames, identityNames, List.cons_append, List.nil_append, List.mem_cons, List.not_mem_nil,
    or_false, not_or, ← ne_eq] at h
  obtain ⟨hentity, hentityId, huser, htimestamp, hbehavior, hdata⟩ := h
  rw [conditionContext, Context.find?_bindMissing]
  simp [Context.find?, Context.bind, Context.empty, hentity.symm, hentityId.symm, huser.symm,
    htimestamp.symm, hbehavior.symm, hdata.symm]

theorem field?_templateRoot_of_mem (h : (name, v) ∈ e.own) (now : Instant) :
    (e.templateRoot now).field? name = some v := by
  rcases mem_own_iff.1 h with ⟨rfl, rfl⟩ | ⟨rfl, rfl⟩ | ⟨rfl, rfl⟩ | ⟨rfl, rfl⟩ | ⟨rfl, rfl⟩ | ⟨rfl, rfl⟩ <;>
    simp [templateRoot, Value.ofFields, Value.field?, Entries.sorted, Entries.find?_insert]

end Event

/-! ### Paths in a view -/

theorem Path.exists_of_head?_eq_some {p : Path} {name : String} (h : p.head? = some name) :
    ∃ rest, p = ⟨.key name :: rest⟩ := by
  obtain ⟨segments⟩ := p
  unfold head? at h
  split at h
  next key rest hsegments =>
    obtain rfl := Option.some.inj h
    exact ⟨rest, congrArg Path.mk hsegments⟩
  next => cases h

theorem Path.resolve?_key (name : String) (rest : List Segment) (root : Value) :
    resolve? ⟨.key name :: rest⟩ root = (root.field? name).bind (descend? rest) := rfl

namespace Event

variable {e : Event}

/-- A path that starts with a name of the event leads to the same in both views. -/
theorem resolve?_conditionContext {p : Path} {name : String} (hhead : p.head? = some name)
    (hname : name ∈ ownNames) (now : Instant) :
    e.conditionContext.resolve? p = p.resolve? (e.templateRoot now) := by
  rw [← e.map_fst_own] at hname
  obtain ⟨⟨name, v⟩, hmem, rfl⟩ := List.mem_map.1 hname
  obtain ⟨rest, rfl⟩ := Path.exists_of_head?_eq_some hhead
  rw [Context.resolve?_key, Path.resolve?_key, find?_conditionContext_of_mem hmem,
    field?_templateRoot_of_mem hmem]

/-- A rule sees the caller's user as a condition sees the user of an event. -/
theorem resolve?_user {caller : Caller} (huser : caller.user = e.user) (snapshot : Option Snapshot)
    (action : String) {q : Path} (hhead : q.head? = some "user") :
    (Permission.context caller snapshot action).resolve? q = e.conditionContext.resolve? q := by
  apply Context.resolve?_eq_of_head? hhead
  have hown : ("user", Value.ofOption User.toValue e.user) ∈ e.own := by
    simp [own, identity]
  rw [Permission.context_user, find?_conditionContext_of_mem hown, huser]

end Event

/-! ### One placeholder -/

/-- The template of a single placeholder. -/
def Template.placeholderText (content : String) : String := "$\x7b" ++ content ++ "\x7d"

theorem Template.fill_placeholderText {content : String} {p : Path}
    (h : Path.ofChars? content.toList = some p) (root : Value) :
    fill root (placeholderText content) =
      match p.resolve? root with
      | some v => String.ofList (rendering v)
      | none => placeholderText content := by
  have hchars : (placeholderText content).toList = '$' :: '\x7b' :: (content.toList ++ '\x7d' :: []) := by
    simp [placeholderText]
  have hend : fillChars root [] = [] := rfl
  rw [fill, hchars, fillChars_placeholder root (braceFree_of_ofChars? h), hend, List.append_nil,
    fill_placeholder_of_path root h]
  cases p.resolve? root with
  | some v => rfl
  | none =>
    apply String.toList_injective
    simp [placeholderText]

/-- **Conditions and templates see the same event.**  A text of one path that starts with a name of the event, used
as a condition, has the value that the path leads to among the fields for templates, whatever names the data uses,
at whatever time, and whatever the evaluator was asked before.  In a placeholder of its own it is filled with the
text of this value, and the placeholder stays if there is none.  To a rule the user of a caller looks as the same
user of an event does. -/
theorem views_agree (e : Event) (now : Instant) :
    (∀ text p offset name, byteLength text.toList ≤ 4096 → tokens text.toList = .ok [⟨.path p, offset⟩] →
      p.head? = some name → name ∈ Event.ownNames →
      (∀ capacity earlier, ((Evaluator.asked capacity earlier).evaluate text e.conditionContext).1 =
        .succeeded (p.resolve? (e.templateRoot now))) ∧
      fill (e.templateRoot now) (placeholderText text) =
        match p.resolve? (e.templateRoot now) with
        | some v => String.ofList (rendering v)
        | none => placeholderText text) ∧
    ∀ caller snapshot action, caller.user = e.user → ∀ q : Path, q.head? = some "user" →
      (Permission.context caller snapshot action).resolve? q = q.resolve? (e.templateRoot now) := by
  constructor
  · intro text p offset name hlength htokens hhead hname
    constructor
    · intro capacity earlier
      have hverdict := (Evaluator.answers_evaluate text e.conditionContext).fst_asked capacity earlier
      have hvalue := Event.resolve?_conditionContext (e := e) hhead hname now
      rw [hverdict, evaluate, parse_of_tokens_path hlength htokens, ← hvalue]
      rfl
    · exact fill_placeholderText (ofChars?_of_tokens htokens) (e.templateRoot now)
  · intro caller snapshot action huser q hhead
    rw [Event.resolve?_user huser snapshot action hhead]
    exact Event.resolve?_conditionContext hhead (by decide) now

/-- An event of a user, with data that claims another entity and another user. -/
def Event.spoofing : Event where
  entity := "Task"
  entityId := "7"
  behavior := none
  data := .insert (.insert (.insert .empty "entity" (.text "Invoice")) "status" (.text "paid")) "user"
    (.ofFields [("id", .text "u2")])
  timestamp := default
  user := some (.ofIdentity "u1" "u1@example.com")

/-- The claims of the data are found under `data` and nowhere else. -/
theorem views_agree_spoofing :
    ((Evaluator.asked 1 [.evaluate "entity" .empty]).evaluate " entity"
        Event.spoofing.conditionContext).1 = .succeeded (some (.text "Task")) ∧
      fill (Event.spoofing.templateRoot default) "$\x7bdata.entity\x7d" = "Invoice" ∧
      fill (Event.spoofing.templateRoot default) "$\x7bbehavior.name\x7d" = "$\x7bbehavior.name\x7d" ∧
      (Permission.context (.ofUser (.ofIdentity "u1" "u1@example.com")) none "read").resolve?
        ⟨[.key "user", .key "id"]⟩ = some (.text "u1") := by
  obtain ⟨hviews, huser⟩ := views_agree Event.spoofing default
  have hentity := hviews " entity" ⟨[.key "entity"]⟩ 1 "entity" (by decide) rfl rfl (by decide)
  have hdata := hviews "data.entity" ⟨[.key "data", .key "entity"]⟩ 0 "data" (by decide) rfl rfl
    (by decide)
  have hbehavior := hviews "behavior.name" ⟨[.key "behavior", .key "name"]⟩ 0 "behavior" (by decide) rfl
    rfl (by decide)
  have hcaller := huser (.ofUser (.ofIdentity "u1" "u1@example.com")) none "read" rfl
    ⟨[.key "user", .key "id"]⟩ rfl
  exact ⟨hentity.1 1 [.evaluate "entity" .empty], hdata.2, hbehavior.2, hcaller⟩

end RecordGate
