import BbAuth.Daemon

open Library
namespace BbAuth.PinentryManager

def isDigit (c : QChar) : Bool := decide (0x30 ≤ c ∧ c ≤ 0x39)

def isSpace (c : QChar) : Bool := decide (c = 0x20 ∨ (0x09 ≤ c ∧ c ≤ 0x0D))

-- QString::toInt of a string of digits: 0 when the number does not fit an int.
def digitsToInt (digits : QString) : Int :=
  let value : Nat := digits.foldl (fun value c => value * 10 + (c.toNat - 0x30)) 0
  if value ≤ 2147483647 then value else 0

-- `X+` of a regular expression: the longest run of at least one.
def takeRun (accepts : QChar → Bool) (s : QString) : Option (QString × QString) :=
  let run := s.takeWhile accepts
  if run.isEmpty then none else some (run,s.dropWhile accepts)

def takeText (literal s : QString) : Option QString :=
  if literal.isPrefixOf s then some (s.drop literal.length) else none

-- \((\d+)\s+of\s+(\d+)\s+attempts\) at the start of a string. No run borders on
-- a character it could also take, so the longest runs are the only match.
def matchAttemptsHere (s : QString) : Option (Int × Int) := do
  let s ← takeText (text "(") s
  let (current,s) ← takeRun isDigit s
  let (_,s) ← takeRun isSpace s
  let s ← takeText (text "of") s
  let (_,s) ← takeRun isSpace s
  let (maximum,s) ← takeRun isDigit s
  let (_,s) ← takeRun isSpace s
  let _ ← takeText (text "attempts)") s
  pure (digitsToInt current,digitsToInt maximum)

def matchAttempts : QString → Option (Int × Int)
  | [] => none
  | c :: rest => (matchAttemptsHere (c :: rest)).or (matchAttempts rest)

def parsePinentryRequest (msg : QJsonObject) (socket : Socket) (peerPid : Pid) : PinentryRequest :=
  let prompt := (msg.value (text "prompt")).toString
  { cookie := (msg.value (text "cookie")).toString
    socket
    peerPid
    prompt := if prompt.isEmpty then text "Enter passphrase:" else prompt
    description := (msg.value (text "description")).toString
    error := (msg.value (text "error")).toString
    keyinfo := (msg.value (text "keyinfo")).toString
    repeated := (msg.value (text "repeat")).toBool
    confirmOnly := (msg.value (text "confirm_only")).toBool }

def hasPendingInput (manager : PinentryManager) (cookie : QString) : Bool :=
  manager.pendingRequests.contains cookie

def isAwaitingOutcome (manager : PinentryManager) (cookie : QString) : Bool :=
  manager.awaitingOutcome.contains cookie

def getSocketForPendingInput (manager : PinentryManager) (cookie : QString) : Option Socket :=
  (manager.pendingRequests.find cookie).map PinentryRequest.socket

def hasPinentrySession (d : Daemon) (cookie : QString) : Bool :=
  match d.getSession cookie with
  | none => false
  | some session => decide (session.source = .pinentry)

def hasRequest (d : Daemon) (cookie : QString) : Bool :=
  hasPendingInput d.pinentryManager cookie || isAwaitingOutcome d.pinentryManager cookie ||
    hasPinentrySession d cookie

def validateResultOwner (manager : PinentryManager) (cookie : QString) (peerPid : Pid) : Bool :=
  match manager.flowOwners.find cookie with
  | none => true
  | some owner => decide (owner = peerPid)

def resolveRetryInfo (manager : PinentryManager) (request : PinentryRequest) :
    (Int × Int) × PinentryManager :=
  let parsed := matchAttempts request.description
  let (curRetry,maxRetries) := parsed.getD (0,3)
  let ((curRetry,maxRetries),manager) :=
    if request.keyinfo.isEmpty then ((curRetry,maxRetries),manager)
    else
      let info := {(manager.retryInfo.find request.keyinfo).getD {} with keyinfo:=request.keyinfo}
      if parsed.isSome then
        ((curRetry,maxRetries),
          {manager with retryInfo:=manager.retryInfo.insert request.keyinfo {info with curRetry,maxRetries}})
      else
        ((info.curRetry,if info.maxRetries > 0 then info.maxRetries else 3),
          {manager with retryInfo:=manager.retryInfo.insert request.keyinfo info})
  ((if curRetry < 0 then 0 else curRetry,if maxRetries ≤ 0 then 3 else maxRetries),manager)

def cleanupAwaiting (manager : PinentryManager) (cookie : QString) : PinentryManager :=
  match manager.awaitingOutcome.find cookie with
  | none => manager
  | some awaiting =>
    {manager with timers:=manager.timers.remove awaiting.timer,awaitingOutcome:=manager.awaitingOutcome.remove cookie}

-- The bookkeeping half of closeFlow, after the session was closed.
def forgetFlow (manager : PinentryManager) (cookie : QString) : PinentryManager :=
  let manager := {manager with pendingRequests:=manager.pendingRequests.remove cookie}
  let manager := cleanupAwaiting manager cookie
  let keyinfo := (manager.flowKeyinfos.find cookie).getD []
  { manager with
    flowOwners := manager.flowOwners.remove cookie
    retryReported := manager.retryReported.remove cookie
    flowKeyinfos := manager.flowKeyinfos.remove cookie
    retryInfo := if keyinfo.isEmpty then manager.retryInfo else manager.retryInfo.remove keyinfo }

def closeFlow (d : Daemon) (cookie : QString) (result : Result) (error : QString) : Daemon :=
  let d :=
    if hasPinentrySession d cookie then
      let d := if error.isEmpty then d else d.updateSessionError cookie error
      d.closeSession cookie result
    else d
  d.withPinentryManager (forgetFlow d.pinentryManager cookie)

def ownedByOther (manager : PinentryManager) (cookie : QString) (peerPid : Pid) : Bool :=
  match manager.flowOwners.find cookie with
  | none => false
  | some owner => decide (owner ≠ peerPid)

-- The owner, the keyinfo and the retry counters of the flow a request is for.
def enterFlow (manager : PinentryManager) (request : PinentryRequest) : (Int × Int) × PinentryManager :=
  let manager := {manager with flowOwners:=manager.flowOwners.insert request.cookie request.peerPid}
  let manager :=
    if request.keyinfo.isEmpty then manager
    else {manager with flowKeyinfos:=manager.flowKeyinfos.insert request.cookie request.keyinfo}
  resolveRetryInfo manager request

-- A request that comes while the flow awaits its outcome reports the retry.
def reportRetry (d : Daemon) (request : PinentryRequest) : Daemon :=
  if isAwaitingOutcome d.pinentryManager request.cookie then
    let d := d.withPinentryManager (cleanupAwaiting d.pinentryManager request.cookie)
    let retryError := if request.error.isEmpty then text "Authentication failed" else request.error
    d.updateSessionError request.cookie retryError
  else d

def recordPending (manager : PinentryManager) (request : PinentryRequest) : PinentryManager :=
  {manager with pendingRequests:=manager.pendingRequests.insert request.cookie request}

def contextOf (request : PinentryRequest) (actor : ActorInfo) (retry : Int × Int) : Context :=
  { message := request.prompt
    description := request.description
    keyinfo := request.keyinfo
    curRetry := retry.1
    maxRetries := retry.2
    confirmOnly := request.confirmOnly
    repeated := request.repeated
    requestor := Daemon.requestorOf actor request.peerPid }

def present (d : Daemon) (request : PinentryRequest) (actor : ActorInfo) (retry : Int × Int)
    (sessionExists : Bool) : Daemon :=
  let d :=
    if !sessionExists then d.createSession request.cookie .pinentry (contextOf request actor retry)
    else d.updateSessionPinentryRetry request.cookie retry.1 retry.2
  d.updateSessionPrompt request.cookie request.prompt false false

-- An error that a retry result already reported is not shown again.
def reportRequestError (d : Daemon) (request : PinentryRequest) : Daemon :=
  let reported := d.pinentryManager.retryReported.contains request.cookie
  let retryReported :=
    if reported then d.pinentryManager.retryReported.remove request.cookie else d.pinentryManager.retryReported
  let d := d.withPinentryManager {d.pinentryManager with retryReported}
  if !request.error.isEmpty && !reported then d.updateSessionError request.cookie request.error else d

def handleRequest (d : Daemon) (msg : QJsonObject) (socket : Socket) (peerPid : Pid) : Daemon :=
  let request := {parsePinentryRequest msg socket peerPid with cookie:=d.env.effectiveCookie msg}
  let actor := d.env.resolveActorForPid peerPid
  let d := d.log (.requested .pinentry socket peerPid request.cookie)
  if ownedByOther d.pinentryManager request.cookie peerPid then d
  else
    let (retry,manager) := enterFlow d.pinentryManager request
    let d := d.withPinentryManager manager
    let sessionExists := (d.getSession request.cookie).isSome
    let d := reportRetry d request
    let d := d.withPinentryManager (recordPending d.pinentryManager request)
    reportRequestError (present d request actor retry sessionExists) request

-- The flow leaves pending_input for awaiting_terminal, with a new timer running.
def awaitOutcome (manager : PinentryManager) (request : PinentryRequest) (cookie : QString) : PinentryManager :=
  let manager := {manager with pendingRequests:=manager.pendingRequests.remove cookie}
  let manager := cleanupAwaiting manager cookie
  let timer := manager.nextTimer
  { manager with
    awaitingOutcome := manager.awaitingOutcome.insert cookie ⟨request,timer⟩
    timers := manager.timers.insert timer cookie
    nextTimer := timer + 1 }

def handleResponse (d : Daemon) (cookie response : QString) : Message × Daemon :=
  match d.pinentryManager.pendingRequests.find cookie with
  | none =>
    if isAwaitingOutcome d.pinentryManager cookie then
      (.error (text "Session is already awaiting terminal result"),d)
    else (.error (text "Unknown session"),d)
  | some request =>
    let answer : Answer := if request.confirmOnly then .confirmed else .ok response
    (.response .pinentry cookie answer,d.withPinentryManager (awaitOutcome d.pinentryManager request cookie))

def timeout (d : Daemon) (timer : Timer) : Daemon :=
  match d.pinentryManager.timers.find timer with
  | none => d
  | some cookie =>
    let d := d.withPinentryManager {d.pinentryManager with timers:=d.pinentryManager.timers.remove timer}
    closeFlow d cookie .error (text "Pinentry did not report terminal result")

inductive Outcome where
  | success
  | retry
  | cancelled
  | error
  deriving DecidableEq, Repr

def parseOutcome (result : QString) : Option Outcome :=
  if result = text "success" then some .success
  else if result = text "retry" then some .retry
  else if result = text "cancelled" ∨ result = text "canceled" then some .cancelled
  else if result = text "error" then some .error
  else none

def applyOutcome (d : Daemon) (cookie : QString) (outcome : Outcome) (error : QString) : Daemon :=
  let reason := if error.isEmpty then text "Authentication failed" else error
  match outcome with
  | .success => closeFlow d cookie .success []
  | .retry =>
    let manager := cleanupAwaiting d.pinentryManager cookie
    let manager := {manager with retryReported:=manager.retryReported.insert cookie ()}
    (d.withPinentryManager manager).updateSessionError cookie reason
  | .cancelled => closeFlow d cookie .cancelled []
  | .error => closeFlow d cookie .error reason

def handleResult (d : Daemon) (msg : QJsonObject) (peerPid : Pid) : Message × Daemon :=
  let cookie := (msg.value (text "id")).toString
  if cookie.isEmpty then (.error (text "Missing id"),d)
  else if !validateResultOwner d.pinentryManager cookie peerPid then
    (.error (text "Result sender does not own session"),d)
  else if !hasPinentrySession d cookie then (.error (text "Unknown pinentry session"),d)
  else
    match parseOutcome (toLower (msg.value (text "result")).toString) with
    | none => (.error (text "Invalid result type"),d)
    | some outcome => (.ok none,applyOutcome d cookie outcome (msg.value (text "error")).toString)

-- The three reasons to close the flow, which make up hasRequest, end alike.
def handleCancel (d : Daemon) (cookie : QString) : Message × Daemon :=
  if hasRequest d cookie then (.response .pinentry cookie .cancelled,closeFlow d cookie .cancelled [])
  else (.error (text "Unknown session"),d)

def cleanupForSocket (d : Daemon) (socket : Socket) : Daemon :=
  let entries := d.pinentryManager.pendingRequests.toList.filter (fun entry => entry.2.socket = socket)
  (entries.map Prod.fst).foldl (fun d cookie => closeFlow d cookie .cancelled (text "Pinentry disconnected")) d

end BbAuth.PinentryManager
