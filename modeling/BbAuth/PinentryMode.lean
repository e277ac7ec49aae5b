import BbAuth.AssuanCodec
import BbAuth.Library.Runs

open Library BbAuth.AssuanCodec
namespace BbAuth

structure PinentryState where
  description : QString := []
  prompt : QString := []
  title : QString := []
  error : QString := []
  okText : QString := []
  cancelText : QString := []
  notOkText : QString := []
  keyinfo : QString := []
  repeat_ : QString := []
  deriving DecidableEq

-- What the pinentry program takes in, prints, and sends to the daemon.
inductive PinentryEffect where
  | received (cmd arg : QString)
  | printed (line : QString)
  | requested (cookie : QString) (request : QJsonObject)
  | reported (cookie result : QString) (request : QJsonObject)

-- What surrounds the handling of one line: the identifier that QUuid would
-- create, the answer of the daemon to a request, and the pid.
structure PinentryEnv where
  uuid : QString
  uuid_nonempty : uuid ≠ []
  reply : Option QJsonObject
  pid : Nat

structure PinentrySession where
  state : PinentryState := {}
  flowCookie : QString := []
  awaitingTerminalResult : Bool := false
  closed : Bool := false
  trace : List PinentryEffect := []

namespace PinentrySession

def log (s : PinentrySession) (effect : PinentryEffect) : PinentrySession := {s with trace:=effect :: s.trace}

def sendOk (s : PinentrySession) (comment : QString) : PinentrySession :=
  s.log (.printed (if comment.isEmpty then text "OK\n" else text "OK " ++ comment ++ text "\n"))

def sendError (s : PinentrySession) (code : Nat) (message : QString) : PinentrySession :=
  s.log (.printed (text "ERR " ++ text (toString code) ++ text " " ++ message ++ text "\n"))

def sendData (s : PinentrySession) (data : QString) : PinentrySession :=
  s.log (.printed (text "D " ++ assuanEncode data ++ text "\n"))

-- A flow gets its cookie when it first asks the daemon for something.
def ensureFlowCookie (s : PinentrySession) (env : PinentryEnv) : PinentrySession :=
  if s.flowCookie.isEmpty then {s with flowCookie:=env.uuid} else s

def clearSubmitState (s : PinentrySession) : PinentrySession := {s with awaitingTerminalResult:=false}

def resetFlow (s : PinentrySession) : PinentrySession := {s.clearSubmitState with flowCookie:=[]}

def resultRequest (cookie result error : QString) : QJsonObject :=
  .ofList ([(text "type",.string (text "pinentry_result")),(text "id",.string cookie),(text "result",.string result)] ++
    if error.isEmpty then [] else [(text "error",.string error)])

-- The answer to a report is only looked at for a message on stderr.
def reportTerminalResult (s : PinentrySession) (result error : QString) : PinentrySession :=
  if s.flowCookie.isEmpty then s
  else
    let s := s.log (.reported s.flowCookie result (resultRequest s.flowCookie result error))
    if result = text "retry" then s.clearSubmitState else s.resetFlow

-- BYE does the same as the end of the stream.
def finalizeOnStreamClose (s : PinentrySession) : PinentrySession :=
  if s.awaitingTerminalResult then
    if s.state.error.isEmpty then s.reportTerminalResult (text "success") []
    else s.reportTerminalResult (text "error") s.state.error
  else if s.flowCookie.isEmpty then s
  else if s.state.error.isEmpty then s.reportTerminalResult (text "cancelled") []
  else s.reportTerminalResult (text "error") s.state.error

def orElse (s default : QString) : QString := if s.isEmpty then default else s

def passwordRequest (state : PinentryState) (cookie : QString) : QJsonObject :=
  .ofList ([(text "type",.string (text "pinentry_request")),(text "cookie",.string cookie),
    (text "title",.string (orElse state.title (text "GPG Key"))),
    (text "prompt",.string (orElse state.prompt (text "Enter passphrase:"))),
    (text "description",.string state.description),(text "repeat",.bool !state.repeat_.isEmpty)] ++
    (if state.error.isEmpty then [] else [(text "error",.string state.error)]) ++
    if state.keyinfo.isEmpty then [] else [(text "keyinfo",.string state.keyinfo)])

def confirmRequest (state : PinentryState) (cookie : QString) : QJsonObject :=
  .ofList [(text "type",.string (text "pinentry_request")),(text "cookie",.string cookie),
    (text "title",.string (orElse state.title (text "Confirm"))),
    (text "prompt",.string (orElse state.description (text "Please confirm"))),(text "confirm_only",.bool true)]

-- The result that a reply of the daemon carries, if it is a pinentry_response.
def responseResult (reply : Option QJsonObject) : Option QString :=
  match reply with
  | none => none
  | some response =>
    if (response.value (text "type")).toString = text "pinentry_response" then
      some (response.value (text "result")).toString
    else none

def responsePassword (reply : Option QJsonObject) : QString :=
  match reply with
  | none => []
  | some response => (response.value (text "password")).toString

-- The daemon is asked in the name of the flow, which ends here unless the reply
-- is the wanted one.
def ask (s : PinentrySession) (env : PinentryEnv) (request : PinentryState → QString → QJsonObject) (wanted : QString) :
    PinentrySession × Bool :=
  let s := s.ensureFlowCookie env
  let s := s.log (.requested s.flowCookie (request s.state s.flowCookie))
  if responseResult env.reply = some wanted then ({s with awaitingTerminalResult:=true},true) else (s.resetFlow,false)

def requestPasswordFromDaemon (s : PinentrySession) (env : PinentryEnv) : PinentrySession × Option QString :=
  let (s,success) := s.ask env passwordRequest (text "ok")
  (s,if success then some (responsePassword env.reply) else none)

def requestConfirmFromDaemon (s : PinentrySession) (env : PinentryEnv) : PinentrySession × Bool :=
  s.ask env confirmRequest (text "confirmed")

def clearError (s : PinentrySession) : PinentrySession := {s with state:={s.state with error:=[]}}

def operationCancelled (s : PinentrySession) : PinentrySession := s.sendError 83886179 (text "Operation cancelled")

def handleGetPin (s : PinentrySession) (env : PinentryEnv) : PinentrySession :=
  let s :=
    if s.awaitingTerminalResult then
      s.reportTerminalResult (text "retry") (orElse s.state.error (text "Authentication failed"))
    else s
  let (s,password) := s.requestPasswordFromDaemon env
  let s :=
    match password with
    | some password => if password.isEmpty then s.operationCancelled else (s.sendData password).sendOk []
    | none => s.operationCancelled
  s.clearError

def handleConfirm (s : PinentrySession) (env : PinentryEnv) : PinentrySession :=
  let (s,confirmed) := s.requestConfirmFromDaemon env
  let s := if confirmed then s.sendOk [] else s.operationCancelled
  s.clearError

def handleGetInfo (s : PinentrySession) (env : PinentryEnv) (arg : QString) : PinentrySession :=
  let s :=
    if arg = text "pid" then s.sendData (text (toString env.pid))
    else if arg = text "version" then s.sendData (text "1.0.0")
    else if arg = text "flavor" then s.sendData (text "bb")
    else if arg = text "ttyinfo" then s.sendData []
    else s
  s.sendOk []

def assign (state : PinentryState) (cmd arg : QString) : PinentryState :=
  if cmd = text "SETDESC" then {state with description:=arg}
  else if cmd = text "SETPROMPT" then {state with prompt:=arg}
  else if cmd = text "SETTITLE" then {state with title:=arg}
  else if cmd = text "SETERROR" then {state with error:=arg}
  else if cmd = text "SETOK" then {state with okText:=arg}
  else if cmd = text "SETCANCEL" then {state with cancelText:=arg}
  else if cmd = text "SETNOTOK" then {state with notOkText:=arg}
  else if cmd = text "SETKEYINFO" then {state with keyinfo:=arg}
  else if cmd = text "SETREPEAT" then {state with repeat_:=arg}
  else if cmd = text "RESET" then {}
  else state

-- OPTION, MESSAGE, NOP and commands that are not known are acknowledged, too.
def dispatch (s : PinentrySession) (env : PinentryEnv) (cmd arg : QString) : PinentrySession × Bool :=
  if cmd = text "BYE" then (s.finalizeOnStreamClose.sendOk (text "closing connection"),false)
  else if cmd = text "GETINFO" then (s.handleGetInfo env arg,true)
  else if cmd = text "GETPIN" then (s.handleGetPin env,true)
  else if cmd = text "CONFIRM" then (s.handleConfirm env,true)
  else ({s with state:=assign s.state cmd arg}.sendOk [],true)

end PinentrySession

section

-- QString::toUpper, which maps some letters outside ASCII to ASCII ones.
variable (toUpper : QString → QString)

def splitCommand (line : QString) : QString × QString :=
  match line.idxOf? 0x20 with
  | some (spaceIdx + 1) => (toUpper (line.take (spaceIdx + 1)),assuanDecode (line.drop (spaceIdx + 2)))
  | _ => (toUpper line,[])

def dropReturn (line : QString) : QString := if line.getLast? = some carriageReturn then line.dropLast else line

inductive PinentryInput where
  | line (env : PinentryEnv) (line : QString)
  | endOfInput

def PinentryInput.command : PinentryInput → Option (PinentryEnv × QString × QString)
  | .line env read => if read.isEmpty then none else some (env,splitCommand toUpper (dropReturn read))
  | .endOfInput => none

namespace PinentrySession

def handleCommand (s : PinentrySession) (env : PinentryEnv) (cmd arg : QString) : PinentrySession × Bool :=
  (s.log (.received cmd arg)).dispatch env cmd arg

def close (s : PinentrySession) : PinentrySession := {s.finalizeOnStreamClose with closed:=true}

-- One turn of the loop that reads lines. After BYE the stream is closed, too.
def step (s : PinentrySession) (input : PinentryInput) : PinentrySession :=
  match input with
  | .endOfInput => s.close
  | .line .. =>
    match input.command toUpper with
    | none => s
    | some (env,cmd,arg) =>
      let (s,more) := s.handleCommand env cmd arg
      if more then s else s.close

def initial : PinentrySession := sendOk {} (text "BB Auth Pinentry")

end PinentrySession

def pinentry : Machine PinentrySession PinentryInput where
  initial := .initial
  enabled s _ := s.closed = false
  step := PinentrySession.step toUpper

end

end BbAuth
