import ReconcileFlow.Model.Offline
import ReconcileFlow.Model.Smtp
import ReconcileFlow.Soundness.DispatchLoop

/-! # What the SMTP notifier lets through

Every failure of the conversation with the server is raised as a notifier error, which the service
turns into a result. A header that is rejected is not: it is assigned before the `try`, so the
exception passes through the retries, the breaker and the service (`smtp_contained_iff`).
-/

namespace ReconcileFlow

open EffectRun

variable {ω : Type}

/-- The reply is `SENT`, a transient failure or a permanent failure. -/
def Contained (reply : Except Raised SendResult) : Prop :=
  (∃ result, reply = .ok result ∧ result.status = .sent) ∨
    (∃ text, reply = .error (.notify .transient text)) ∨ ∃ text, reply = .error (.notify .permanent text)

/-- The text can be assigned to an address header: it is a single line, which the parser accepts. -/
def AddressParser.Accepts (addresses : AddressParser) (value : String) : Prop :=
  singleLine value = true ∧ (addresses value).isOk = true

namespace SmtpNotifier

variable (notifier : SmtpNotifier) (addresses : AddressParser)

/-- Every header of the message can be assigned. -/
def HeadersAccepted (request : SendRequest) : Prop :=
  addresses.Accepts notifier.sender ∧ addresses.Accepts request.toEmail ∧
    singleLine request.subject = true

theorem headerStoreParse_isOk {value : String} : (headerStoreParse value).isOk = singleLine value := by
  unfold headerStoreParse
  cases singleLine value <;> rfl

theorem addressHeader_isOk {value : String} :
    (addressHeader addresses value).isOk = true ↔ addresses.Accepts value := by
  unfold addressHeader headerStoreParse AddressParser.Accepts
  cases singleLine value with
  | false => exact iff_of_false Bool.false_ne_true fun accepted => Bool.false_ne_true accepted.1
  | true =>
    have parsed : ((addresses value).mapError AddressFault.raised).isOk = (addresses value).isOk := by
      cases addresses value <;> rfl
    change ((addresses value).mapError AddressFault.raised).isOk = true ↔ _
    rw [parsed]
    exact (and_iff_right rfl).symm

/-- No assignment of a header raises what the service expects of a notifier. -/
theorem headerStoreParse_unexpected {value : String} {raised : Raised}
    (rejected : headerStoreParse value = .error raised) : ¬ Contained (.error raised) := by
  unfold headerStoreParse at rejected
  split at rejected
  · cases rejected
  · cases rejected
    rintro (⟨result, reply, -⟩ | ⟨text, reply⟩ | ⟨text, reply⟩) <;> cases reply

theorem addressHeader_unexpected {value : String} {raised : Raised}
    (rejected : addressHeader addresses value = .error raised) : ¬ Contained (.error raised) := by
  unfold addressHeader at rejected
  simp only [bind, Except.bind] at rejected
  split at rejected
  · next parsed =>
    cases rejected
    exact headerStoreParse_unexpected parsed
  · next line parsed =>
    cases fault : addresses line with
    | ok stored =>
      rw [fault] at rejected
      cases rejected
    | error found =>
      rw [fault] at rejected
      cases rejected
      cases found <;> rintro (⟨result, reply, -⟩ | ⟨text, reply⟩ | ⟨text, reply⟩) <;> cases reply

/-- A message is composed exactly when its headers are accepted. -/
theorem compose_isOk (request : SendRequest) :
    (notifier.compose addresses request).isOk = true ↔ notifier.HeadersAccepted addresses request := by
  unfold HeadersAccepted
  rw [← addressHeader_isOk, ← addressHeader_isOk, ← headerStoreParse_isOk]
  unfold compose
  simp only [bind, Except.bind]
  cases addressHeader addresses notifier.sender with
  | error raised => simp [Except.isOk, Except.toBool]
  | ok fromAddr =>
    cases addressHeader addresses request.toEmail with
    | error raised => simp [Except.isOk, Except.toBool]
    | ok toAddr =>
      cases headerStoreParse request.subject with
      | error raised => simp [Except.isOk, Except.toBool]
      | ok subject => simp [Except.isOk, Except.toBool, pure, Except.pure]

/-- What composing raises, the service does not expect. -/
theorem compose_unexpected {request : SendRequest} {raised : Raised}
    (rejected : notifier.compose addresses request = .error raised) : ¬ Contained (.error raised) := by
  unfold compose at rejected
  simp only [bind, Except.bind] at rejected
  split at rejected
  · next fromRejected =>
    cases rejected
    exact addressHeader_unexpected addresses fromRejected
  · split at rejected
    · next toRejected =>
      cases rejected
      exact addressHeader_unexpected addresses toRejected
    · split at rejected
      · next subjectRejected =>
        cases rejected
        exact headerStoreParse_unexpected subjectRejected
      · cases rejected

/-- However the conversation fails, its failure is a notifier error. -/
theorem translate_contained (failure : SmtpFailure) : Contained (.error (translate failure)) := by
  cases failure with
  | authentication text => exact .inr (.inr ⟨_, rfl⟩)
  | smtp text => exact .inr (.inl ⟨_, rfl⟩)
  | os text => exact .inr (.inl ⟨_, rfl⟩)

/-- With any server, a send stays inside the taxonomy exactly when the headers are accepted. -/
theorem send_contained_iff (server : SmtpServer ω) (request : SendRequest) (world : ω) :
    Contained (notifier.send addresses server request world).1 ↔ notifier.HeadersAccepted addresses request := by
  rw [← compose_isOk]
  unfold send
  cases composed : notifier.compose addresses request with
  | error raised => exact iff_of_false (notifier.compose_unexpected addresses composed) Bool.false_ne_true
  | ok message =>
    refine iff_of_true ?_ rfl
    dsimp only
    cases (notifier.converse server message).run world with
    | ok _ after => exact .inl ⟨_, rfl, rfl⟩
    | error failure after => exact translate_contained failure

end SmtpNotifier

/-- A contained reply raises at most what the service expects. -/
theorem Contained.expected {reply : Except Raised SendResult} (contained : Contained reply)
    {raised : Raised} (failed : reply = .error raised) : (expectedFailure raised).isSome = true := by
  subst failed
  rcases contained with ⟨result, impossible, -⟩ | ⟨text, same⟩ | ⟨text, same⟩
  · cases impossible
  · cases same
    rfl
  · cases same
    rfl

/-- The service around the SMTP notifier. -/
def smtpService (notifier : SmtpNotifier) (addresses : AddressParser) (server : SmtpServer ω)
    (breaker : Breaker ω) (resilience : ResilienceConfig) : NotificationService ω :=
  { notifier := notifier.toNotifier addresses server, breaker, resilience }

/-- An unpaid order whose uploaded id has two lines. -/
def brokenIdException : ExceptionRecord :=
  { reason := .cashMissing, status := .unmatched, orderId := some "O1\nO2" }

def demoSmtp : SmtpNotifier := SmtpNotifier.make "smtp.demo.local" 587 "agent@demo.local" "secret" ""

/-- The demo notifier and a server that accepts everything. -/
def demoSmtpService : NotificationService Unit :=
  smtpService demoSmtp plainAddresses acceptingServer closedBreaker shippedConfig.resilience

/-- The dispatch of a drafted mail. -/
def draftCall (draft : EmailDraft) : DispatchCall :=
  { makeCall with subject := draft.subject, body := draft.body }

end ReconcileFlow
