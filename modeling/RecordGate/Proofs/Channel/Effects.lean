import RecordGate.Channel.Builtin
import RecordGate.Proofs.Workflow.Calls

/-!
# The effects of built-in actions

A built-in action is one call of the handler, and it may do one thing: count, or use one channel once.  To speak of
what goes out, the channels are made to keep a record of it; the record does not change what is done.  Parameters are
checked before anything happens, so that an action whose parameters are rejected leaves everything as it was, and a
mail goes to those, in their order, that its parameters list.

* `Unfit` says which parameters are rejected, without the checks.
* `counters_handle`: of all actions only those that count change the counters.
* `planned_plan`: what an action can be planned to do, and what has to be set up for it.

Every action is planned first, from its parameters and from what is set up, and the plan is carried out afterwards
(`Effect`).  So there is one inversion of planning, `Planned`, with a case for each kind of action, and one of carrying
out, `sent_perform`; a rejection stands in the plan and reaches no channel.  Failures of a channel name no parameter
(`param?_of_perform`), which is what tells the two kinds of failures apart.

Main statement: `careful_handle`.
-/

namespace RecordGate

/-- The parameter that an error rejects. -/
def ActionError.param? : ActionError → Option String
  | missingParam name => some name
  | invalidParam name _ => some name
  | _ => none

def Action.isCount : Action → Bool
  | count => true
  | _ => false

namespace Builtin

variable {τ : Type}

/-! ### What goes out -/

/-- Something that is given to a channel. -/
inductive Outgoing where
  | request (request : Request)
  | mail (mail : OutgoingMail)
  | record (params : Value) (event : Event)

/-- What lies behind the channels beside what was given to them, oldest first. -/
structure Watched (τ : Type) where
  state : τ
  sent : List Outgoing

/-- The channels that do the same and record what is given to them. -/
def Channels.watched (c : Channels τ) : Channels (Watched τ) where
  send request t :=
    let (result, state) := c.send request t.state
    (result, ⟨state, t.sent ++ [.request request]⟩)
  deliver m t :=
    let (result, state) := c.deliver m t.state
    (result, ⟨state, t.sent ++ [.mail m]⟩)
  write params event t :=
    let (result, state) := c.write params event t.state
    (result, ⟨state, t.sent ++ [.record params event]⟩)

/-- The desk without the record. -/
def Desk.forget (d : Desk (Watched τ)) : Desk τ := ⟨d.counters, d.outside.state⟩

/-- What an effect gives to the channels. -/
def Effect.outgoing : Effect → List Outgoing
  | nothing => []
  | count _ => []
  | web request => [.request request]
  | mail m => [.mail m]
  | record params event => [.record params event]

/-- A desk after at most one effect: it is as before, or one counter has gone up, or one channel has been used once. -/
inductive AtMostOne (c : Channels τ) (trigger : String) (d : Desk (Watched τ)) : Desk (Watched τ) → Prop where
  | nothing : AtMostOne c trigger d d
  | counted : AtMostOne c trigger d ⟨d.counters.increment trigger, d.outside⟩
  | requested (request : Request) :
      AtMostOne c trigger d
        ⟨d.counters, ⟨(c.send request d.outside.state).2, d.outside.sent ++ [.request request]⟩⟩
  | mailed (m : OutgoingMail) :
      AtMostOne c trigger d
        ⟨d.counters, ⟨(c.deliver m d.outside.state).2, d.outside.sent ++ [.mail m]⟩⟩
  | recorded (params : Value) (event : Event) :
      AtMostOne c trigger d
        ⟨d.counters, ⟨(c.write params event d.outside.state).2, d.outside.sent ++ [.record params event]⟩⟩

/-! ### Recipients -/

/-- The recipients that parameters list under `to`, in their order: one text, or some texts in a list. -/
inductive Lists (params : Value) : List String → Prop where
  | one {name : String} (hto : params.field? "to" = some (.text name)) : Lists params [name]
  | many {names : List String} (hto : params.field? "to" = some (.list (names.map .text)))
      (hnames : names ≠ []) : Lists params names

variable {params : Value} {names : List String} {e : ActionError}

theorem texts?_eq_some_iff {items : List Value} : texts? items = some names ↔ items = names.map .text := by
  induction items generalizing names with
  | nil => simp [texts?, eq_comm]
  | cons item rest ih =>
    cases item with
    | text s =>
      cases names with
      | nil => simp [texts?, Value.text?, Option.bind_eq_some_iff]
      | cons name names =>
        simp only [texts?, Value.text?, Option.bind_eq_bind, Option.bind_eq_some_iff, ih, List.map_cons]
        grind
    | _ => cases names <;> simp [texts?, Value.text?]

theorem lists_of_recipients (h : recipients params = .ok names) : Lists params names := by
  unfold recipients at h
  split at h
  next => cases h
  next s hto =>
    cases h
    exact .one hto
  next => cases h
  next items hsome hto =>
    split at h
    next others htexts =>
      cases h
      rw [texts?_eq_some_iff.1 htexts] at hto hsome
      refine .many hto ?_
      rintro rfl
      exact hsome rfl
    next => cases h
  next => cases h

theorem Lists.recipients (h : Lists params names) : recipients params = .ok names := by
  unfold Builtin.recipients
  cases h with
  | one hto => rw [hto]
  | many hto hnames =>
    cases names with
    | nil => exact absurd rfl hnames
    | cons name rest =>
      rw [hto]
      simp only [List.map_cons]
      rw [← List.map_cons, texts?_eq_some_iff.2 rfl]

theorem param?_of_recipients (h : recipients params = .error e) : e.param? = some "to" := by
  unfold recipients at h
  split at h
  next => cases h; rfl
  next => cases h
  next => cases h; rfl
  next =>
    split at h
    next => cases h
    next => cases h; rfl
  next => cases h; rfl

/-! ### Parameters -/

/-- A parameter that an action cannot be performed with.  A web request needs a text for its address; its method, if a
text is given, is a word of method characters, and its headers, if any are given, are an object.  A mail needs
recipients. -/
inductive Unfit (params : Value) : Action → String → Prop where
  | url {declared : Value} (h : ∀ url, params.field? "url" ≠ some (.text url)) :
      Unfit params (.webhook declared) "url"
  | method {declared : Value} {word : String} (hword : params.field? "method" = some (.text word))
      (h : Request.method? word = none) : Unfit params (.webhook declared) "method"
  | headers {declared v : Value} (hv : params.field? "headers" = some v) (hnull : v ≠ .null)
      (h : ∀ fields, v ≠ .object fields) : Unfit params (.webhook declared) "headers"
  | recipients {declared : Value} (h : ∀ names, ¬Lists params names) : Unfit params (.mail declared) "to"

/-- A list with anything in it that is no text, or with nothing in it, is unfit for recipients. -/
theorem Unfit.of_list {declared : Value} {items : List Value} (hto : params.field? "to" = some (.list items))
    (h : items = [] ∨ ∃ item ∈ items, ∀ s, item ≠ .text s) : Unfit params (.mail declared) "to" := by
  refine .recipients ?_
  intro names hlists
  cases hlists with
  | one hto' =>
    rw [hto] at hto'
    cases hto'
  | many hto' hnames =>
    rw [hto] at hto'
    obtain rfl := Value.list.inj (Option.some.inj hto')
    rcases h with h | ⟨item, hitem, hother⟩
    · exact hnames (List.map_eq_nil_iff.1 h)
    · obtain ⟨name, -, rfl⟩ := List.mem_map.1 hitem
      exact hother name rfl

theorem unfit_of_requestMethod (declared : Value) (h : requestMethod params = .error e) :
    e.param? = some "method" ∧ Unfit params (.webhook declared) "method" := by
  unfold requestMethod at h
  split at h
  next => cases h
  next word hword =>
    split at h
    next => cases h
    next hmethod =>
      cases h
      obtain ⟨v, hv, htext⟩ := Option.bind_eq_some_iff.1 hword
      cases v with
      | text s =>
        obtain rfl := Option.some.inj htext
        exact ⟨rfl, .method hv hmethod⟩
      | _ => cases htext

theorem unfit_of_requestHeaders (declared : Value) (h : requestHeaders params = .error e) :
    e.param? = some "headers" ∧ Unfit params (.webhook declared) "headers" := by
  unfold requestHeaders at h
  split at h
  next => cases h
  next => cases h
  next => cases h
  next v hnull hobject hv =>
    cases h
    refine ⟨rfl, .headers hv ?_ ?_⟩
    · rintro rfl
      exact hnull rfl
    · rintro fields rfl
      exact hobject fields rfl

theorem not_unfit_webhook {url method : String} {headers : Entries Value} {declared : Value}
    (hurl : params.field? "url" = some (.text url)) (hmethod : requestMethod params = .ok method)
    (hheaders : requestHeaders params = .ok headers) (name : String) : ¬Unfit params (.webhook declared) name := by
  intro hunfit
  cases hunfit with
  | url hnone => exact hnone url hurl
  | method hword hnone => simp [requestMethod, hword, Value.text?, hnone] at hmethod
  | @headers _ v hv hnull hobject =>
    rw [requestHeaders, hv] at hheaders
    cases v with
    | null => exact hnull rfl
    | object fields => exact hobject fields rfl
    | _ => cases hheaders

/-! ### What is planned -/

/-- An action uses a channel that is not set up. -/
inductive Setup.Lacks (s : Setup) : Action → Prop where
  | mailer {declared : Value} (h : s.hasMailer = false) : Lacks s (.mail declared)
  | noticeMailer (h : s.hasMailer = false) : Lacks s .notifyMail
  | noticeRecipient (h : s.notifyTo = none) : Lacks s .notifyMail
  | chat (h : s.chatUrl = none) : Lacks s .notifyChat
  | sink {declared : Value} (h : s.hasSink = false) : Lacks s (.database declared)

/-- The mail of an action: to the recipients that its parameters list, or, for a notice, to the one of the setup. -/
inductive Mails (s : Setup) (i : Invocation) : Action → OutgoingMail → Prop where
  | listed {declared : Value} {names : List String} (hnames : Lists i.params names) :
      Mails s i (.mail declared) ⟨names, textParam i.params "subject", textParam i.params "body"⟩
  | notice {recipient : String} (hrecipient : s.notifyTo = some recipient) :
      Mails s i .notifyMail ⟨[recipient], headline i, (Value.ofTable i.event.data).pretty⟩

/-- The effects that an action can be planned to have. -/
inductive Plans (s : Setup) (i : Invocation) : Action → Effect → Prop where
  | logged {params : Value} : Plans s i (.log params) .nothing
  | passedOver {raw : Value} : Plans s i (.unrecognized raw) .nothing
  | lacking {action : Action} (hlacks : s.Lacks action) : Plans s i action .nothing
  | counted : Plans s i .count (.count i.trigger)
  | requested {declared : Value} (request : Request) : Plans s i (.webhook declared) (.web request)
  | chatted {url : String} (hurl : s.chatUrl = some url) (request : Request) : Plans s i .notifyChat (.web request)
  | mailed {action : Action} {m : OutgoingMail} (hmailer : s.hasMailer = true) (hmails : Mails s i action m) :
      Plans s i action (.mail m)
  | recorded {declared : Value} (hsink : s.hasSink = true) :
      Plans s i (.database declared) (.record i.params i.event)

section

variable {s : Setup} {action : Action} {i : Invocation}

theorem Plans.eq_nothing {effect : Effect} (h : Plans s i action effect) (hlacks : s.Lacks action) :
    effect = .nothing := by
  cases h with
  | logged => rfl
  | passedOver => rfl
  | lacking => rfl
  | counted => cases hlacks
  | requested => cases hlacks
  | chatted hurl =>
    cases hlacks with
    | chat hnone => simp [hnone] at hurl
  | mailed hmailer hmails =>
    cases hlacks with
    | mailer hnone => simp [hnone] at hmailer
    | noticeMailer hnone => simp [hnone] at hmailer
    | noticeRecipient hnone =>
      cases hmails with
      | notice hrecipient => simp [hnone] at hrecipient
    | _ => cases hmails
  | recorded hsink =>
    cases hlacks with
    | sink hnone => simp [hnone] at hsink

theorem plans_mailEffect {m : OutgoingMail} (hlacks : s.hasMailer = false → s.Lacks action)
    (hmails : Mails s i action m) : Plans s i action (mailEffect s m) := by
  unfold mailEffect
  cases h : s.hasMailer with
  | true => exact .mailed h hmails
  | false => exact .lacking (hlacks h)

/-- What comes of planning: an error that names a parameter that is unfit, or, if all are fit, an effect. -/
inductive Planned (s : Setup) (i : Invocation) (action : Action) : Except ActionError Effect → Prop where
  | rejected {e : ActionError} {name : String} (hname : e.param? = some name)
      (hunfit : Unfit i.params action name) : Planned s i action (.error e)
  | accepted {effect : Effect} (hfit : ∀ name, ¬Unfit i.params action name) (hplans : Plans s i action effect) :
      Planned s i action (.ok effect)

theorem planned_webhook (s : Setup) (i : Invocation) (declared : Value) :
    Planned s i (.webhook declared) (planWebhook s i) := by
  unfold planWebhook
  split
  next hnone =>
    have hname : (ActionError.missingParam "url").param? = some "url" := rfl
    refine .rejected hname (.url ?_)
    intro url hurl
    simp [hurl, Value.text?] at hnone
  next url hsome =>
    obtain ⟨v, hv, htext⟩ := Option.bind_eq_some_iff.1 hsome
    cases v with
    | text address =>
      cases hmethod : requestMethod i.params with
      | error e =>
        obtain ⟨hname, hunfit⟩ := unfit_of_requestMethod declared hmethod
        exact .rejected hname hunfit
      | ok method =>
        cases hheaders : requestHeaders i.params with
        | error e =>
          obtain ⟨hname, hunfit⟩ := unfit_of_requestHeaders declared hheaders
          exact .rejected hname hunfit
        | ok headers => exact .accepted (not_unfit_webhook hv hmethod hheaders) (.requested _)
    | _ => cases htext

theorem planned_mail (s : Setup) (i : Invocation) (declared : Value) :
    Planned s i (.mail declared) (planMail s i) := by
  unfold planMail
  cases hnames : recipients i.params with
  | error e =>
    refine .rejected (param?_of_recipients hnames) (.recipients ?_)
    intro names hlists
    rw [hlists.recipients] at hnames
    cases hnames
  | ok names =>
    have hlists := lists_of_recipients hnames
    refine .accepted ?_ (plans_mailEffect .mailer (.listed hlists))
    intro name hunfit
    cases hunfit with
    | recipients hnone => exact hnone names hlists

/-- **What an action is planned to do.** -/
theorem planned_plan (s : Setup) (i : Invocation) (action : Action) : Planned s i action (plan s action i) := by
  cases action with
  | webhook declared => exact planned_webhook s i declared
  | mail declared => exact planned_mail s i declared
  | notifyMail =>
    refine .accepted (fun _ h => by cases h) ?_
    unfold planNotifyMail
    split
    next hnone => exact .lacking (.noticeRecipient hnone)
    next recipient hrecipient => exact plans_mailEffect .noticeMailer (.notice hrecipient)
  | notifyChat =>
    refine .accepted (fun _ h => by cases h) ?_
    unfold planNotifyChat
    split
    next hnone => exact .lacking (.chat hnone)
    next url hurl => exact .chatted hurl _
  | log params => exact .accepted (fun _ h => by cases h) .logged
  | count => exact .accepted (fun _ h => by cases h) .counted
  | database declared =>
    refine .accepted (fun _ h => by cases h) ?_
    split
    next hsink => exact .recorded hsink
    next hsink => exact .lacking (.sink (by simpa using hsink))
  | unrecognized raw => exact .accepted (fun _ h => by cases h) .passedOver

theorem unfit_of_plan {e : ActionError} (h : plan s action i = .error e) :
    ∃ name, e.param? = some name ∧ Unfit i.params action name := by
  have hplanned := planned_plan s i action
  rw [h] at hplanned
  cases hplanned with
  | rejected hname hunfit => exact ⟨_, hname, hunfit⟩

theorem plans_of_plan {effect : Effect} (h : plan s action i = .ok effect) :
    (∀ name, ¬Unfit i.params action name) ∧ Plans s i action effect := by
  have hplanned := planned_plan s i action
  rw [h] at hplanned
  cases hplanned with
  | accepted hfit hplans => exact ⟨hfit, hplans⟩

theorem plan_eq_mail_iff {m : OutgoingMail} :
    plan s action i = .ok (.mail m) ↔ s.hasMailer = true ∧ Mails s i action m := by
  constructor
  · intro h
    cases (plans_of_plan h).2 with
    | mailed hmailer hmails => exact ⟨hmailer, hmails⟩
  · rintro ⟨hmailer, hmails⟩
    cases hmails with
    | listed hnames =>
      rw [plan, planMail, hnames.recipients]
      simp [mailEffect, hmailer, bind, Except.bind]
    | notice hrecipient => simp [plan, planNotifyMail, hrecipient, mailEffect, hmailer]

end

/-! ### Performing -/

theorem sent_perform (c : Channels τ) (effect : Effect) (d : Desk (Watched τ)) :
    (perform c.watched effect d).2.outside.sent = d.outside.sent ++ effect.outgoing := by
  cases effect with
  | nothing => exact (List.append_nil _).symm
  | count name => exact (List.append_nil _).symm
  | _ => rfl

theorem outgoing_eq_mail_iff {effect : Effect} {m : OutgoingMail} :
    effect.outgoing = [.mail m] ↔ effect = .mail m := by
  cases effect <;> simp [Effect.outgoing]

theorem perform_watched (c : Channels τ) (effect : Effect) (d : Desk (Watched τ)) :
    (perform c.watched effect d).1 = (perform c effect d.forget).1 ∧
      (perform c.watched effect d).2.forget = (perform c effect d.forget).2 := by
  cases effect <;> exact ⟨rfl, rfl⟩

theorem param?_of_perform {c : Channels τ} {effect : Effect} {d : Desk τ} {e : ActionError}
    (h : (perform c effect d).1 = .failed e) : e.param? = none := by
  cases effect with
  | nothing => cases h
  | count name => cases h
  | web request =>
    change webReply request.url (c.send request d.outside).1 = .failed e at h
    unfold webReply at h
    split at h
    next =>
      split at h
      next => cases h
      next => cases h; rfl
    next => cases h; rfl
  | mail m =>
    change plainReply .mail (c.deliver m d.outside).1 = .failed e at h
    unfold plainReply at h
    split at h
    next => cases h
    next => cases h; rfl
  | record params event =>
    change plainReply .sink (c.write params event d.outside).1 = .failed e at h
    unfold plainReply at h
    split at h
    next => cases h
    next => cases h; rfl

/-! ### Calls -/

theorem handle_of_error {s : Setup} {action : Action} {i : Invocation} (h : plan s action i = .error e)
    (c : Channels τ) (d : Desk τ) : handle s c action i d = (.failed e, d) := by
  rw [handle, h]

theorem handle_of_ok {s : Setup} {action : Action} {i : Invocation} {effect : Effect}
    (h : plan s action i = .ok effect) (c : Channels τ) (d : Desk τ) :
    handle s c action i d = perform c effect d := by
  rw [handle, h]

section

variable (s : Setup) (c : Channels τ) (action : Action) (i : Invocation)

/-- **Of all actions only those that count change the counters**, each the counter of the trigger by one. -/
theorem counters_handle (d : Desk τ) :
    (handle s c action i d).2.counters =
      if action.isCount then d.counters.increment i.trigger else d.counters := by
  cases hplan : plan s action i with
  | error e =>
    rw [handle_of_error hplan]
    cases action with
    | count => cases hplan
    | _ => rfl
  | ok effect =>
    rw [handle_of_ok hplan]
    cases (plans_of_plan hplan).2 with
    | lacking hlacks => cases hlacks <;> rfl
    | mailed hmailer hmails => cases hmails <;> rfl
    | _ => rfl

theorem handle_count (d : Desk τ) :
    handle s c .count i d = (.done, ⟨d.counters.increment i.trigger, d.outside⟩) := rfl

theorem handle_watched (d : Desk (Watched τ)) :
    (handle s c.watched action i d).1 = (handle s c action i d.forget).1 ∧
      (handle s c.watched action i d).2.forget = (handle s c action i d.forget).2 := by
  cases hplan : plan s action i with
  | error e => simp [handle_of_error hplan]
  | ok effect =>
    rw [handle_of_ok hplan, handle_of_ok hplan]
    exact perform_watched c effect d

theorem atMostOne_handle (d : Desk (Watched τ)) : AtMostOne c i.trigger d (handle s c.watched action i d).2 := by
  cases hplan : plan s action i with
  | error e =>
    rw [handle_of_error hplan]
    exact .nothing
  | ok effect =>
    rw [handle_of_ok hplan]
    cases (plans_of_plan hplan).2 with
    | logged => exact .nothing
    | passedOver => exact .nothing
    | lacking => exact .nothing
    | counted => exact .counted
    | requested request => exact .requested request
    | chatted _ request => exact .requested request
    | @mailed _ m => exact .mailed m
    | recorded => exact .recorded i.params i.event

/-- A mail goes out in a call exactly when it was planned. -/
theorem sent_handle_eq_mail_iff (d : Desk (Watched τ)) (m : OutgoingMail) :
    (handle s c.watched action i d).2.outside.sent = d.outside.sent ++ [.mail m] ↔
      plan s action i = .ok (.mail m) := by
  cases hplan : plan s action i with
  | error e => simp [handle_of_error hplan]
  | ok effect =>
    rw [handle_of_ok hplan, sent_perform, List.append_right_inj, outgoing_eq_mail_iff, Except.ok.injEq]

end

section

variable {s : Setup} {action : Action} {i : Invocation} {name : String}

theorem handle_of_unfit (h : Unfit i.params action name) (c : Channels τ) (d : Desk τ) :
    ∃ e other, handle s c action i d = (.failed e, d) ∧ e.param? = some other := by
  cases hplan : plan s action i with
  | error e =>
    obtain ⟨other, hother, -⟩ := unfit_of_plan hplan
    exact ⟨e, other, handle_of_error hplan c d, hother⟩
  | ok effect => exact absurd h ((plans_of_plan hplan).1 name)

/-- An error about a parameter comes from planning: what was planned may fail, but not for a parameter. -/
theorem unfit_of_handle {c : Channels τ} {d : Desk τ} {e : ActionError}
    (hreply : (handle s c action i d).1 = .failed e) (hname : e.param? = some name) :
    Unfit i.params action name ∧ (handle s c action i d).2 = d := by
  cases hplan : plan s action i with
  | error e' =>
    rw [handle_of_error hplan] at hreply ⊢
    obtain rfl := Reply.failed.inj hreply
    obtain ⟨other, hother, hunfit⟩ := unfit_of_plan hplan
    rw [hother] at hname
    obtain rfl := Option.some.inj hname
    exact ⟨hunfit, rfl⟩
  | ok effect =>
    rw [handle_of_ok hplan] at hreply
    rw [param?_of_perform hreply] at hname
    cases hname

theorem handle_of_lacks (hlacks : s.Lacks action) (hfit : ∀ name, ¬Unfit i.params action name) (c : Channels τ)
    (d : Desk τ) : handle s c action i d = (.done, d) := by
  cases hplan : plan s action i with
  | error e =>
    obtain ⟨name, -, hunfit⟩ := unfit_of_plan hplan
    exact absurd hunfit (hfit name)
  | ok effect =>
    rw [handle_of_ok hplan, (plans_of_plan hplan).2.eq_nothing hlacks]
    rfl

end

/-- What a call does to a desk: one thing at most, and nothing when parameters are rejected or a channel is not set
up. -/
structure Careful (s : Setup) (c : Channels τ) (action : Action) (i : Invocation) (d : Desk (Watched τ)) : Prop where
  watched : (handle s c.watched action i d).1 = (handle s c action i d.forget).1 ∧
    (handle s c.watched action i d).2.forget = (handle s c action i d.forget).2
  atMostOne : AtMostOne c i.trigger d (handle s c.watched action i d).2
  rejected : ∀ e name, (handle s c.watched action i d).1 = .failed e → e.param? = some name →
    Unfit i.params action name ∧ (handle s c.watched action i d).2 = d
  rejects : ∀ name, Unfit i.params action name →
    ∃ e other, handle s c.watched action i d = (.failed e, d) ∧ e.param? = some other
  mails_iff : ∀ m, (handle s c.watched action i d).2.outside.sent = d.outside.sent ++ [.mail m] ↔
    s.hasMailer = true ∧ Mails s i action m
  unlisted : ∀ declared items, action = .mail declared → i.params.field? "to" = some (.list items) →
    (items = [] ∨ ∃ item ∈ items, ∀ text, item ≠ .text text) → (handle s c.watched action i d).2 = d
  unset : s.Lacks action → (∀ name, ¬Unfit i.params action name) →
    handle s c.watched action i d = (.done, d)

/-- **A built-in action has at most one effect.**  Whatever is set up, whatever the channels reply and whatever the
parameters are, a call counts once, or uses one channel once, or does nothing.  It fails with an error about a
parameter exactly when one is unfit, and then it has done nothing.  A mail goes out exactly when there is a mailer and
somebody to write to, and it goes to all that are listed, in their order; with a list that has anything in it that is
no text, or nothing at all, nothing is sent.  With fit parameters, an action whose channel is not set up is done, and
has done nothing. -/
theorem careful_handle (s : Setup) (c : Channels τ) (action : Action) (i : Invocation) (d : Desk (Watched τ)) :
    Careful s c action i d where
  watched := handle_watched s c action i d
  atMostOne := atMostOne_handle s c action i d
  rejected _ _ := unfit_of_handle
  rejects _ hunfit := handle_of_unfit hunfit c.watched d
  mails_iff m := (sent_handle_eq_mail_iff s c action i d m).trans plan_eq_mail_iff
  unlisted := by
    rintro declared items rfl hto hitems
    obtain ⟨e, other, hhandle, -⟩ := handle_of_unfit (Unfit.of_list hto hitems) c.watched d
    rw [hhandle]
  unset hlacks hfit := handle_of_lacks hlacks hfit c.watched d

/-- A recipient that is no text keeps a mail from everybody. -/
example : recipients (.object [("to", .list [.text "ada@x.io", .null])]) =
    .error (.invalidParam "to" "recipients must be strings") := by
  rfl

end Builtin

end RecordGate
