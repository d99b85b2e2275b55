import ReconcileFlow.Model.Notifications
import ReconcileFlow.ToMathlib.JsonLines

/-! # The SMTP notifier

`SmtpNotifier.send` composes a message and hands it to a mail server. Composing happens before the
`try`; the conversation with the server happens inside it, and its failures are raised as notifier
errors. The server is a collaborator that may succeed or fail at every command, and so is the parser
with which the `email` package reads an address.
-/

namespace ReconcileFlow

open EffectRun

variable {ω : Type}

/-- The headers and the content of an `EmailMessage`. -/
structure EmailMessage where
  fromAddr : String
  toAddr : String
  subject : String
  content : String
deriving DecidableEq, Repr

/-- `value.splitlines()` has at most one line: no line ends in the text, or only the last one. -/
def singleLine (value : String) : Bool := (JsonLines.splitLines value.toList).length ≤ 1

example : singleLine "O1\n" = true ∧ singleLine "O1\u2028O2" = false := by decide

/-- `header_store_parse`: assigning a header value. -/
def headerStoreParse (value : String) : Except Raised String :=
  if singleLine value then .ok value
  else .error (.value "Header values may not contain linefeed or carriage return characters")

/-- What the address parser raises: a `ValueError`, or an exception of another class. -/
inductive AddressFault where
  | value (text : String)
  | other (text : String)
deriving DecidableEq, Repr

def AddressFault.raised : AddressFault → Raised
  | value text => .value text
  | other text => .other text

/-- The parser of address headers: the value as it is stored. -/
abbrev AddressParser := String → Except AddressFault String

/-- Assigning the value of an address header. -/
def addressHeader (addresses : AddressParser) (value : String) : Except Raised String := do
  let line ← headerStoreParse value
  (addresses line).mapError AddressFault.raised

/-- The exceptions of `smtplib` and of the socket under it. -/
inductive SmtpFailure where
  | authentication (text : String)
  | smtp (text : String)
  | os (text : String)
deriving DecidableEq, Repr

/-- The commands of an SMTP session; each may fail. -/
structure SmtpServer (ω : Type) where
  connect : String → ℤ → EStateM SmtpFailure ω Unit
  starttls : EStateM SmtpFailure ω Unit
  login : String → String → EStateM SmtpFailure ω Unit
  sendMessage : EmailMessage → EStateM SmtpFailure ω Unit
  quit : EStateM SmtpFailure ω Unit

/-- The body of a `with` block; the connection is closed however it ends. -/
def SmtpServer.withConnection (server : SmtpServer ω) (body : EStateM SmtpFailure ω Unit) :
    EStateM SmtpFailure ω Unit := do
  match ← attempt body with
  | .ok () => server.quit
  | .error failure =>
    -- A failure while closing replaces the one of the body.
    server.quit
    throw failure

structure SmtpNotifier where
  host : String
  port : ℤ
  user : String
  password : String
  sender : String
deriving DecidableEq, Repr

namespace SmtpNotifier

/-- `__init__`: without a sender, mail is sent in the user's name. -/
def make (host : String) (port : ℤ) (user password sender : String) : SmtpNotifier where
  host := host
  port := port
  user := user
  password := password
  sender := if sender ≠ "" then sender else user

variable (notifier : SmtpNotifier) (addresses : AddressParser)

/-- The message of a request; a header that is rejected raises. -/
def compose (request : SendRequest) : Except Raised EmailMessage := do
  let fromAddr ← addressHeader addresses notifier.sender
  let toAddr ← addressHeader addresses request.toEmail
  let subject ← headerStoreParse request.subject
  pure { fromAddr, toAddr, subject, content := request.body }

/-- Connect, authenticate and send. -/
def converse (server : SmtpServer ω) (message : EmailMessage) : EStateM SmtpFailure ω Unit := do
  server.connect notifier.host notifier.port
  server.withConnection do
    server.starttls
    if notifier.user ≠ "" then server.login notifier.user notifier.password
    server.sendMessage message

/-- The notifier error that a failure of the conversation is raised as. -/
def translate : SmtpFailure → Raised
  | .authentication text => .notify .permanent ("SMTP authentication failed: " ++ text)
  | .smtp text | .os text => .notify .transient ("SMTP send failed: " ++ text)

def send (server : SmtpServer ω) (request : SendRequest) (world : ω) : Except Raised SendResult × ω :=
  match notifier.compose addresses request with
  | .error raised => (.error raised, world)
  | .ok message =>
    match (notifier.converse server message).run world with
    | .ok () after => (.ok { status := .sent }, after)
    | .error failure after => (.error (translate failure), after)

/-- The notifier as the notification service uses it. -/
def toNotifier (server : SmtpServer ω) : Notifier ω := ⟨notifier.send addresses server⟩

end SmtpNotifier

/-- A parser that stores what it is given, as the real one does with a plain address. -/
def plainAddresses : AddressParser := .ok

/-- A server that accepts every command. -/
def acceptingServer : SmtpServer ω where
  connect _ _ := pure ()
  starttls := pure ()
  login _ _ := pure ()
  sendMessage _ := pure ()
  quit := pure ()

end ReconcileFlow
