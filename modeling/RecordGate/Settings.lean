import RecordGate.Permission.Rules
import RecordGate.Manifest.Check
import RecordGate.Channel.Builtin
import RecordGate.Channel.Mailbox

/-!
# Settings

Settings come from environment variables.  A number or a truth value that cannot be read gives way to its
default, and a name or address that is blank counts as not set; only the setting for missing rules can be
an error.
-/

namespace RecordGate

open RecordGate.Text

/-- How to reach the mail server, and who sends. -/
structure MailSettings where
  host : String
  port : Nat
  username : String
  password : String
  fromAddress : String
  fromName : String
  useTls : Bool
  deriving DecidableEq, Inhabited

namespace MailSettings

def toValue (m : MailSettings) : Value :=
  .ofFields [("host", .text m.host), ("port", .ofNat m.port), ("username", .text m.username),
    ("password", .text m.password), ("from_email", .text m.fromAddress),
    ("from_name", .text m.fromName), ("use_tls", .bool m.useTls)]

def read? (d : Document) : Option MailSettings := do
  let r ← Record.read?
    ["host", "port", "username", "password", "from_email", "from_name", "use_tls"] d
  let host ← r.required "host" Document.text?
  let port ← r.required "port" (Document.natBelow? 65536)
  let username ← r.required "username" Document.text?
  let password ← r.required "password" Document.text?
  let fromAddress ← r.required "from_email" Document.text?
  let fromName ← r.required "from_name" Document.text?
  let useTls ← r.required "use_tls" Document.bool?
  some ⟨host, port, username, password, fromAddress, fromName, useTls⟩

/-- Mail can be sent when there is a host and someone to log in as. -/
def isComplete (m : MailSettings) : Bool :=
  !m.host.isEmpty && !m.username.isEmpty && !m.password.isEmpty

/-- The address that mail is sent from, if the name and the address make a mailbox. -/
def sender? (m : MailSettings) : Option String :=
  Mailbox.address? (m.fromName ++ " <" ++ m.fromAddress ++ ">")

end MailSettings

structure Settings where
  missing : MissingRule
  capacity : Nat
  timeoutSecs : Nat
  chatUrl : Option String
  notifyTo : Option String
  mail : Option MailSettings
  deriving DecidableEq, Inhabited

namespace Settings

def default : Settings := ⟨.allow, 1024, 10, none, none, none⟩

/-- A number below a limit: digits, with a plus sign before them or not. -/
def number? (limit : Nat) (s : String) : Option Nat :=
  let ds := match s.toList with
    | '+' :: ds => ds
    | ds => ds
  if !ds.isEmpty && ds.all isDigit && number ds < limit then some (number ds) else none

def bool? : String → Option Bool
  | "true" => some true
  | "false" => some false
  | _ => none

/-- A variable that is set and not blank. -/
def nonblank? (environment : Table String) (name : String) : Option String :=
  (environment.find? name).filter fun s => !allBlank s

def orDefault {α : Type} (environment : Table String) (name : String) (read : String → Option α)
    (default : α) : α :=
  ((environment.find? name).bind read).getD default

def mailOf (environment : Table String) (host : String) : MailSettings where
  host := host
  port := orDefault environment "SMTP_PORT" (number? 65536) 587
  username := orDefault environment "SMTP_USERNAME" some ""
  password := orDefault environment "SMTP_PASSWORD" some ""
  fromAddress := orDefault environment "SMTP_FROM_EMAIL" some "noreply@localhost"
  fromName := orDefault environment "SMTP_FROM_NAME" some "Gatehouse"
  useTls := orDefault environment "SMTP_USE_TLS" bool? true

/-- A variable that cannot be made sense of, and why. -/
structure Invalid where
  variableName : String
  reason : MissingRule.Unknown
  deriving DecidableEq

def Invalid.message (e : Invalid) : String := e.variableName ++ ": " ++ e.reason.message

/-- The settings that environment variables make. -/
def ofEnvironment (environment : Table String) : Except Invalid Settings :=
  match MissingRule.ofSetting (orDefault environment "PERMISSION_DEFAULT" some "allow") with
  | .error unknown => .error ⟨"PERMISSION_DEFAULT", unknown⟩
  | .ok missing => .ok {
      missing := missing
      capacity := orDefault environment "EXPRESSION_CACHE_SIZE" (number? 0x10000000000000000) 1024
      timeoutSecs := orDefault environment "WEBHOOK_TIMEOUT_SECS" (number? 0x10000000000000000) 10
      chatUrl := nonblank? environment "SLACK_WEBHOOK_URL"
      notifyTo := nonblank? environment "NOTIFY_EMAIL_TO"
      mail := (nonblank? environment "SMTP_HOST").map (mailOf environment) }

/-- The channels that settings set up, without a record sink.  Mail settings that are complete need a
sender. -/
def setup (s : Settings) : Except LoadError Builtin.Setup :=
  let complete := s.mail.filter MailSettings.isComplete
  if (complete.map MailSettings.sender?) = some none then .error .mailer
  else .ok ⟨complete.isSome, false, s.chatUrl, s.notifyTo, s.timeoutSecs * 1000⟩

end Settings

end RecordGate
