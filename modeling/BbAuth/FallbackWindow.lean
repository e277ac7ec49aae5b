import BbAuth.AssuanCodec
import BbAuth.Library.Runs

open Library
namespace BbAuth

-- What buildDisplayModel makes of a session.created event, without the intent
-- that the sizes of the window depend on.
structure PromptDisplayModel where
  title : QString := []
  summary : QString := []
  requestor : QString := []
  details : QString := []
  prompt : QString := []
  passphrasePrompt : Bool := false
  allowEmptyResponse : Bool := false
  deriving DecidableEq, Repr

-- The window with its two kinds of timers: whether m_idleExitTimer runs, and
-- how many delayed clears are armed. Details are kept as setDetailsText was
-- given them.
structure FallbackWindow where
  currentSessionId : QString := []
  confirmOnly : Bool := false
  allowEmptyResponse : Bool := false
  busy : Bool := false
  visible : Bool := false
  title : QString := text "Authentication Required"
  summary : QString := []
  requestor : QString := []
  details : QString := []
  prompt : QString := text "Password:"
  error : QString := []
  status : QString := []
  input : QString := []
  idleExit : Bool := false
  clears : Nat := 0
  deriving DecidableEq, Repr

inductive WindowCall where
  | sendResponse (id response : QString)
  | sendCancel (id : QString)
  deriving DecidableEq, Repr

namespace FallbackWindow

-- What a text is compared with is ASCII, and these two characters beyond ASCII
-- have ASCII letters in their lower case.
def toLowerText (s : QString) : QString :=
  s.flatMap (fun c => if c = 0x130 then [0x69,0x307] else if c = 0x212A then [0x6B] else toLower [c])

def contains (term : QString) : QString → Bool
  | [] => term.isEmpty
  | c :: rest => term.isPrefixOf (c :: rest) || contains term rest

def containsAnyTerm (s : QString) (terms : List String) : Bool :=
  terms.any (fun term => contains (text term) (toLowerText s))

def looksLikeFingerprintPrompt (s : QString) : Bool :=
  containsAnyTerm s ["fingerprint","finger print","fprint","swipe","scan your finger"]

def looksLikeFidoPrompt (s : QString) : Bool :=
  containsAnyTerm s ["fido","fido2","webauthn","security key","yubikey","hardware token","user presence"]

def looksLikeTouchPrompt (s : QString) : Bool :=
  containsAnyTerm s ["touch","tap","insert","use your security key","verify your identity"]

-- QString::contains without regard to case folds the long s as well.
def mentionsPassphrase (s : QString) : Bool :=
  contains (text "passphrase") (toLower (s.map (fun c => if c = 0x17F then 0x73 else c)))

def startIdleExitTimer (w : FallbackWindow) : FallbackWindow :=
  if w.currentSessionId.isEmpty && !w.visible then {w with idleExit:=true} else w

def stopIdleExitTimer (w : FallbackWindow) : FallbackWindow := {w with idleExit:=false}

def clearSession (w : FallbackWindow) : FallbackWindow :=
  {w with
    currentSessionId:=[],confirmOnly:=false,allowEmptyResponse:=false,title:=text "Authentication Required",
    summary:=[],requestor:=[],details:=[],error:=[],status:=[],input:=[],busy:=false}

def hide (w : FallbackWindow) : FallbackWindow := {w with visible:=false}

def onConnectionStateChanged (w : FallbackWindow) (connected : Bool) : FallbackWindow :=
  if connected then if w.currentSessionId.isEmpty then w else {w with status:=text "Connected"}
  else {w with status:=text "Disconnected from daemon, reconnecting...",busy:=true}

def onProviderStateChanged (w : FallbackWindow) (active : Bool) : FallbackWindow :=
  if active then {w with status:=[],busy:=if w.currentSessionId.isEmpty then w.busy else false}
  else (hide (if w.currentSessionId.isEmpty then w else w.clearSession)).startIdleExitTimer

def onStatusMessage (w : FallbackWindow) (status : QString) : FallbackWindow := {w with status}

def onSessionCreated (w : FallbackWindow) (id : QString) (confirmOnly : Bool) (model : PromptDisplayModel) :
    FallbackWindow :=
  if id.isEmpty then w
  else
    let w := {w with
      currentSessionId:=id,confirmOnly,title:=model.title,summary:=model.summary,requestor:=model.requestor,
      details:=model.details,prompt:=model.prompt,input:=[],
      allowEmptyResponse:=model.allowEmptyResponse,error:=[],status:=[],busy:=false}
    {w.stopIdleExitTimer with visible:=true}

def onSessionUpdated (w : FallbackWindow) (id prompt info error : QString) : FallbackWindow :=
  if id.isEmpty || decide (id ≠ w.currentSessionId) then w
  else
    let w := if prompt.isEmpty then w else {w with prompt}
    let info := AssuanCodec.trimmed info
    let hint := prompt ++ AssuanCodec.lineFeed :: info
    let fingerprintPrompt := looksLikeFingerprintPrompt hint
    let fidoPrompt := looksLikeFidoPrompt hint
    let touchPrompt := fingerprintPrompt || fidoPrompt || looksLikeTouchPrompt hint
    let w :=
      if fingerprintPrompt then {w with title:=text "Verify Fingerprint"}
      else if fidoPrompt then {w with title:=text "Use Security Key"}
      else w
    let w :=
      if w.confirmOnly then w
      else if touchPrompt then {w with allowEmptyResponse:=true,prompt:=text "Press Enter to continue (or wait)"}
      else {w with allowEmptyResponse:=false}
    {w with status:=info,error,busy:=false}

-- After an error the id stays, so that the error can be read.
def onSessionClosed (w : FallbackWindow) (id result error : QString) : FallbackWindow :=
  if id.isEmpty || decide (id ≠ w.currentSessionId) then w
  else if result = text "success" then
    {w with error:=[],status:=text "Authentication successful.",clears:=w.clears + 1}
  else if result = text "cancelled" ∨ result = text "canceled" then w.clearSession.hide.startIdleExitTimer
  else {w with error:=if error.isEmpty then text "Authentication failed." else error,status:=[],busy:=false}

-- The 300 ms timer of a session that was closed with success.
def onCleared (w : FallbackWindow) : FallbackWindow :=
  ({w with clears:=w.clears - 1} : FallbackWindow).clearSession.hide.startIdleExitTimer

def onSubmit (w : FallbackWindow) : FallbackWindow × List WindowCall :=
  if w.currentSessionId.isEmpty then (w,[])
  else if !w.confirmOnly && !w.allowEmptyResponse && w.input.isEmpty then
    ({w with error:=if mentionsPassphrase w.prompt then text "Please enter your passphrase."
      else text "Please enter your password."},[])
  else
    ({w with error:=[],status:=text "Verifying...",input:=if w.confirmOnly then w.input else [],busy:=true},
      [.sendResponse w.currentSessionId (if w.confirmOnly then text "confirm" else w.input)])

def onCancel (w : FallbackWindow) : FallbackWindow × List WindowCall :=
  if w.currentSessionId.isEmpty then (w.hide,[])
  else ({w with status:=text "Cancelling...",busy:=true},[.sendCancel w.currentSessionId])

-- The accepted close event hides the window.
def closeEvent (w : FallbackWindow) : FallbackWindow × List WindowCall :=
  if w.currentSessionId.isEmpty then (w.hide,[]) else (w.clearSession.hide,[.sendCancel w.currentSessionId])

end FallbackWindow

-- What reaches the window: the signals of its client, the user, its timers. A
-- session event is given by what its handler reads of it.
inductive WindowInput where
  | connectionStateChanged (connected : Bool)
  | providerStateChanged (active : Bool)
  | statusMessage (status : QString)
  | sessionCreated (id : QString) (confirmOnly : Bool) (model : PromptDisplayModel)
  | sessionUpdated (id prompt info error : QString)
  | sessionClosed (id result error : QString)
  | typed (input : QString)
  | submit
  | cancel
  | close
  | cleared
  | idled
  deriving DecidableEq, Repr

-- The process: its window, whether the client is the active provider, and which
-- sessions were announced since it is, and neither closed nor cancelled.
structure Desk where
  window : FallbackWindow := {}
  active : Bool := false
  prompts : List QString := []
  exited : Bool := false
  deriving DecidableEq, Repr

namespace Desk

-- Buttons and the text field take no input while the window is hidden or busy.
def enabled (s : Desk) (input : WindowInput) : Prop :=
  s.exited = false ∧
    match input with
    | .typed _ | .submit | .cancel => s.window.visible = true ∧ s.window.busy = false
    | .close => s.window.visible = true
    | .cleared => 0 < s.window.clears
    | .idled => s.window.idleExit = true
    | _ => True

def dropped (prompts : List QString) (id : QString) : List QString := prompts.filter (fun other => decide (other ≠ id))

-- Closing its only window ends the process if the application keeps
-- quitOnLastWindowClosed, which main does not change. An event without an id
-- announces no session.
def step (quitOnLastWindowClosed : Bool) (s : Desk) (input : WindowInput) : Desk :=
  match input with
  | .connectionStateChanged connected => {s with window:=s.window.onConnectionStateChanged connected}
  | .providerStateChanged active =>
    {s with window:=s.window.onProviderStateChanged active,active,prompts:=if active = s.active then s.prompts else []}
  | .statusMessage status => {s with window:=s.window.onStatusMessage status}
  | .sessionCreated id confirmOnly model =>
    {s with
      window:=s.window.onSessionCreated id confirmOnly model,
      prompts:=if id.isEmpty then s.prompts else id :: dropped s.prompts id}
  | .sessionUpdated id prompt info error => {s with window:=s.window.onSessionUpdated id prompt info error}
  | .sessionClosed id result error =>
    {s with window:=s.window.onSessionClosed id result error,prompts:=dropped s.prompts id}
  | .typed input => {s with window:={s.window with input}}
  | .submit => {s with window:=s.window.onSubmit.1}
  | .cancel => {s with window:=s.window.onCancel.1,prompts:=dropped s.prompts s.window.currentSessionId}
  | .close =>
    {s with
      window:=s.window.closeEvent.1,prompts:=dropped s.prompts s.window.currentSessionId,
      exited:=quitOnLastWindowClosed}
  | .cleared => {s with window:=s.window.onCleared}
  | .idled => {s with exited:=true}

end Desk

end BbAuth
