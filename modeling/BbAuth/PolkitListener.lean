import BbAuth.Daemon

open Library
namespace BbAuth.PolkitListener

def logPolkit (d : Daemon) (effect : PolkitEffect) : Daemon := d.log (.polkit effect)

def setState (d : Daemon) (ref : StateRef) (state : SessionState) : Daemon :=
  d.withListener {d.listener with states:=d.listener.states.insert ref state}

-- `new PolkitQt1::Agent::Session(...)`, entered into the reverse map. Its
-- signals are connected and it is initiated by reattempt.
def newSession (d : Daemon) (ref : StateRef) (state : SessionState) : Daemon :=
  let session : PolkitSession := ⟨d.listener.nextSession,state.selectedUser,state.cookie,state.result⟩
  let d := logPolkit d (.created session)
  let listener :=
    { d.listener with
      nextSession := d.listener.nextSession + 1
      sessionToState := d.listener.sessionToState.insert session.ref ref
      states := d.listener.states.insert ref {state with session:=some session} }
  d.withListener listener

def reattempt (d : Daemon) (ref : StateRef) : Daemon :=
  match d.listener.states.find ref with
  | none => logPolkit d (.useAfterFree ref)
  | some state =>
    let d := setState d ref {state with cancelled:=false}
    match state.session with
    | none => d
    | some session => logPolkit d (.initiated session)

-- `m_sessionToState.remove(state->session); state->session->deleteLater();`
def dropSession (d : Daemon) (session : Option PolkitSession) : Daemon :=
  match session with
  | none => d
  | some session =>
    d.withListener {d.listener with sessionToState:=d.listener.sessionToState.remove session.ref}

-- The last part of finishAuth: complete the request, close its session, forget
-- the cookie and delete the state.
def cleanUp (d : Daemon) (ref : StateRef) (state : SessionState) : Daemon :=
  let d := setState d ref {state with inProgress:=false}
  let result := match state.session with
    | some session => session.result
    | none => state.result
  let d := dropSession (logPolkit d (.resultCompleted result)) state.session
  let d := d.onSessionComplete state.cookie state.gainedAuth
  let d := logPolkit d (.completed state.gainedAuth)
  let listener :=
    { d.listener with
      cookieToState := d.listener.cookieToState.remove state.cookie
      states := d.listener.states.remove ref }
  d.withListener listener

def finishAuth (d : Daemon) (ref : StateRef) : Daemon :=
  match d.listener.states.find ref with
  | none => logPolkit d (.useAfterFree ref)
  | some state =>
    if !state.inProgress then d
    else if !state.gainedAuth && !state.cancelled then
      let state := {state with retryCount:=state.retryCount + 1}
      if state.retryCount < maxAuthRetries then
        reattempt (newSession (dropSession d state.session) ref state) ref
      else
        let state := {state with errorText:=text "Too many failed attempts"}
        cleanUp (d.onSessionRetry state.cookie state.errorText) ref state
    else cleanUp d ref state

def initiateAuthentication (d : Daemon) (actionId message iconName : QString) (details : List (QString × QString))
    (cookie : QString) (identities : List QString) : Daemon :=
  let result := d.listener.nextResult
  let d := d.withListener {d.listener with nextResult:=result + 1}
  if d.listener.cookieToState.contains cookie then
    logPolkit (logPolkit d (.resultError result (text "Duplicate session"))) (.resultCompleted result)
  else
    match identities with
    | [] =>
      let error := text "No identities, this is a problem with your system configuration."
      logPolkit (logPolkit d (.resultError result error)) (.resultCompleted result)
    | selectedUser :: _ =>
      let ref := d.listener.nextState
      let state : SessionState :=
        {inProgress:=true,cookie,message,iconName,actionId,details,result,selectedUser}
      let d := d.withListener {d.listener with nextState:=ref + 1}
      let d := newSession d ref state
      let d := d.withListener {d.listener with cookieToState:=d.listener.cookieToState.insert cookie ref}
      reattempt (d.onPolkitRequest cookie message actionId selectedUser details) ref

def findStateForSession (listener : PolkitListener) (session : Nat) : Option StateRef :=
  listener.sessionToState.find session

-- The common head of the four slots: a sender that is nobody's current session
-- is ignored.
def withState (d : Daemon) (session : Nat) (slot : StateRef → SessionState → Daemon) : Daemon :=
  match findStateForSession d.listener session with
  | none => d
  | some ref =>
    match d.listener.states.find ref with
    | none => logPolkit d (.useAfterFree ref)
    | some state => slot ref state

def onSessionRequest (d : Daemon) (session : Nat) (request : QString) (echo : Bool) : Daemon :=
  withState d session fun ref state =>
    let d := setState d ref {state with prompt:=request,echoOn:=echo,requestSent:=true}
    d.onSessionRequest state.cookie request echo

def onSessionCompleted (d : Daemon) (session : Nat) (gainedAuthorization : Bool) : Daemon :=
  withState d session fun ref state =>
    let state := {state with gainedAuth:=gainedAuthorization}
    let d :=
      if !gainedAuthorization then
        let state := {state with errorText:=text "Authentication failed"}
        (setState d ref state).onSessionRetry state.cookie state.errorText
      else setState d ref state
    finishAuth d ref

def onSessionError (d : Daemon) (session : Nat) (error : QString) : Daemon :=
  withState d session fun ref state =>
    (setState d ref {state with errorText:=error}).onSessionRetry state.cookie error

def onSessionInfo (d : Daemon) (session : Nat) (info : QString) : Daemon :=
  withState d session fun _ state => d.onSessionInfo state.cookie info

def signal (d : Daemon) (session : Nat) (signal : PolkitSignal) : Daemon :=
  let d := logPolkit d (.signalled session signal)
  match signal with
  | .request request echo => onSessionRequest d session request echo
  | .completed gained => onSessionCompleted d session gained
  | .showError error => onSessionError d session error
  | .showInfo info => onSessionInfo d session info

-- `state->cancelled = true; finishAuth(state);`. Writing to a deleted state is
-- undefined behaviour, at which the model records the access and stops.
def finishCancelled (d : Daemon) (ref : StateRef) : Daemon :=
  match d.listener.states.find ref with
  | none => logPolkit d (.useAfterFree ref)
  | some state => finishAuth (setState d ref {state with cancelled:=true}) ref

def cancelAuthentication (d : Daemon) : Daemon :=
  (d.listener.cookieToState.toList.map Prod.snd).foldl finishCancelled d

def submitPassword (d : Daemon) (cookie pass : QString) : Daemon :=
  let d := d.log (.submitted cookie pass)
  match d.listener.cookieToState.find cookie with
  | none => d
  | some ref =>
    match d.listener.states.find ref with
    | none => logPolkit d (.useAfterFree ref)
    | some state =>
      match state.session with
      | none => d
      | some session => logPolkit d (.responded session pass)

-- Session::cancel() may emit completed(false) before it returns.
def cancelSession (d : Daemon) (session : PolkitSession) : Daemon :=
  let d := logPolkit d (.cancelled session)
  if d.env.cancelCompletes then signal d session.ref (.completed false) else d

def cancelPending (d : Daemon) (cookie : QString) : Daemon :=
  match d.listener.cookieToState.find cookie with
  | none => d
  | some ref =>
    match d.listener.states.find ref with
    | none => logPolkit d (.useAfterFree ref)
    | some state =>
      match state.session with
      | none => d
      | some session => finishCancelled (cancelSession d session) ref

end BbAuth.PolkitListener
