import BbAuth.Agent
import BbAuth.Library.Symmetry

open Library
namespace BbAuth

def Answer.blank : Answer → Answer
  | .ok _ => .ok []
  | .confirmed => .confirmed
  | .cancelled => .cancelled

def Message.blank : Message → Message
  | .response kind id answer => .response kind id answer.blank
  | message => message

def PolkitEffect.blank : PolkitEffect → PolkitEffect
  | .responded session _ => .responded session []
  | effect => effect

def Effect.blank : Effect → Effect
  | .sent socket message => .sent socket message.blank
  | .submitted cookie _ => .submitted cookie []
  | .polkit effect => .polkit effect.blank
  | effect => effect

def QJsonObject.blank (msg : QJsonObject) : QJsonObject := ⟨msg.fields.insert (text "response") (.string [])⟩

def Event.blank (event : Event) : Event :=
  match event with
  | .message socket type msg =>
    .message socket type (if Agent.handlers.lookup type = some .respond then msg.blank else msg)
  | other => other

def Input.blank (input : Input) : Input := {input with event:=input.event.blank}

namespace Daemon

def blank (d : Daemon) : Daemon := {d with trace:=d.trace.map Effect.blank}

section parts

variable (d : Daemon)

@[simp] theorem blank_keyringManager : d.blank.keyringManager = d.keyringManager := rfl
@[simp] theorem blank_pinentryManager : d.blank.pinentryManager = d.pinentryManager := rfl
@[simp] theorem blank_listener : d.blank.listener = d.listener := rfl
@[simp] theorem blank_providerRegistry : d.blank.providerRegistry = d.providerRegistry := rfl
@[simp] theorem blank_eventQueue : d.blank.eventQueue = d.eventQueue := rfl
@[simp] theorem blank_sessionStore : d.blank.sessionStore = d.sessionStore := rfl
@[simp] theorem blank_subscribers : d.blank.subscribers = d.subscribers := rfl
@[simp] theorem blank_env : d.blank.env = d.env := rfl
@[simp] theorem blank_lastFallbackLaunchMs : d.blank.lastFallbackLaunchMs = d.lastFallbackLaunchMs := rfl

@[simp] theorem blank_isConnected (socket : Socket) : d.blank.isConnected socket = d.isConnected socket := rfl
@[simp] theorem blank_hasActiveProvider : d.blank.hasActiveProvider = d.hasActiveProvider := rfl
@[simp] theorem blank_getSession (id : QString) : d.blank.getSession id = d.getSession id := rfl
@[simp] theorem blank_getPeerPid (socket : Socket) : d.blank.getPeerPid socket = d.getPeerPid socket := rfl
@[simp] theorem blank_isAuthorized (socket : Socket) :
    d.blank.isAuthorizedProviderSocket socket = d.isAuthorizedProviderSocket socket := rfl

@[simp] theorem blank_withKeyringManager (m : KeyringManager) :
    (d.withKeyringManager m).blank = d.blank.withKeyringManager m := rfl
@[simp] theorem blank_withPinentryManager (m : PinentryManager) :
    (d.withPinentryManager m).blank = d.blank.withPinentryManager m := rfl
@[simp] theorem blank_withListener (listener : PolkitListener) :
    (d.withListener listener).blank = d.blank.withListener listener := rfl
@[simp] theorem blank_withSessionStore (store : SessionStore) :
    (d.withSessionStore store).blank = d.blank.withSessionStore store := rfl
@[simp] theorem blank_withProviderRegistry (registry : ProviderRegistry) :
    (d.withProviderRegistry registry).blank = d.blank.withProviderRegistry registry := rfl
@[simp] theorem blank_withEventQueue (queue : EventQueue SessionEvent) :
    (d.withEventQueue queue).blank = d.blank.withEventQueue queue := rfl

@[simp] theorem blank_log (effect : Effect) : (d.log effect).blank = d.blank.log effect.blank := rfl

end parts

theorem view_ite (view : α → β) {p : Prop} [Decidable p] {a b : α} {e m : β} (yes : view a = e) (no : view b = m) :
    view (if p then a else b) = if p then e else m := by
  split
  · exact yes
  · exact no

theorem blank_ite {p : Prop} [Decidable p] {a b e m : Daemon} (yes : a.blank = e) (no : b.blank = m) :
    (if p then a else b).blank = if p then e else m := view_ite blank yes no

theorem blank_then (step : Daemon → Daemon) (respects : ∀ d, (step d).blank = step d.blank) {a e : Daemon}
    (same : a.blank = e) : (step a).blank = step e := by
  rw [respects,same]

@[simp] theorem blank_sendJson (d : Daemon) (socket : Socket) (message : Message) :
    (d.sendJson socket message).blank = d.blank.sendJson socket message.blank := by
  unfold sendJson
  rw [blank_isConnected]
  split <;> rfl

theorem blank_sendAll (d : Daemon) (messages : List (Socket × Message))
    (plain : ∀ message ∈ messages, message.2.blank = message.2) :
    (d.sendAll messages).blank = d.blank.sendAll messages := by
  induction messages generalizing d with
  | nil => rfl
  | cons message rest ih =>
    have first := blank_sendJson d message.1 message.2
    rw [plain message List.mem_cons_self] at first
    have later := ih (d.sendJson message.1 message.2) (fun other present => plain other (List.mem_cons_of_mem _ present))
    rw [first] at later
    exact later

@[simp] theorem blank_emitProviderStatus (d : Daemon) : d.emitProviderStatus.blank = d.blank.emitProviderStatus := by
  apply blank_sendAll
  intro message present
  obtain ⟨_,_,rfl⟩ := List.mem_map.mp present
  rfl

@[simp] theorem blank_recompute (d : Daemon) :
    d.blank.recomputeActiveProvider = (d.recomputeActiveProvider.1,d.recomputeActiveProvider.2.blank) := rfl

@[simp] theorem blank_refreshActiveProvider (d : Daemon) :
    d.refreshActiveProvider.blank = d.blank.refreshActiveProvider := by
  unfold refreshActiveProvider
  rw [blank_recompute]
  simp only
  split
  · exact blank_emitProviderStatus _
  · rfl

@[simp] theorem blank_emitSessionEvent (d : Daemon) (event : SessionEvent) :
    (d.emitSessionEvent event).blank = d.blank.emitSessionEvent event := by
  apply blank_sendAll
  intro message present
  obtain ⟨_,_,rfl⟩ := List.mem_map.mp present
  rfl

@[simp] theorem blank_ensureFallbackUiRunning (d : Daemon) (reason : QString) :
    (d.ensureFallbackUiRunning reason).blank = d.blank.ensureFallbackUiRunning reason := by
  unfold ensureFallbackUiRunning
  simp only
  apply blank_ite rfl
  apply blank_ite rfl
  apply blank_ite rfl
  apply blank_ite rfl
  apply blank_ite rfl
  rfl

@[simp] theorem blank_createSession (d : Daemon) (id : QString) (source : Source) (ctx : Context) :
    (d.createSession id source ctx).blank = d.blank.createSession id source ctx := by
  unfold createSession
  exact blank_then (fun e => if !e.hasActiveProvider then e.ensureFallbackUiRunning (text "session-created") else e)
    (fun e => blank_ite (blank_ensureFallbackUiRunning e _) rfl) (blank_emitSessionEvent _ _)

@[simp] theorem blank_emitUpdated (d : Daemon) (updated : Option (SessionEvent × SessionStore)) :
    (d.emitUpdated updated).blank = d.blank.emitUpdated updated := by
  cases updated with
  | none => rfl
  | some pair => exact blank_emitSessionEvent _ _

@[simp] theorem blank_updateSessionPrompt (d : Daemon) (id prompt : QString) (echo clearError : Bool) :
    (d.updateSessionPrompt id prompt echo clearError).blank = d.blank.updateSessionPrompt id prompt echo clearError :=
  blank_emitUpdated d _

@[simp] theorem blank_updateSessionError (d : Daemon) (id error : QString) :
    (d.updateSessionError id error).blank = d.blank.updateSessionError id error := blank_emitUpdated d _

@[simp] theorem blank_updateSessionPinentryRetry (d : Daemon) (id : QString) (curRetry maxRetries : Int) :
    (d.updateSessionPinentryRetry id curRetry maxRetries).blank =
      d.blank.updateSessionPinentryRetry id curRetry maxRetries := by
  unfold updateSessionPinentryRetry
  rw [blank_sessionStore]
  cases d.sessionStore.updatePinentryRetry id curRetry maxRetries <;> rfl

@[simp] theorem blank_closeSession (d : Daemon) (id : QString) (result : Result) :
    (d.closeSession id result).blank = d.blank.closeSession id result := by
  unfold closeSession
  rw [blank_sessionStore]
  cases d.sessionStore.closeSession id result with
  | none => rfl
  | some pair =>
    simp only [blank_emitSessionEvent]
    congr 1
    exact blank_ite (blank_refreshActiveProvider _) rfl

@[simp] theorem blank_onSessionComplete (d : Daemon) (cookie : QString) (success : Bool) :
    (d.onSessionComplete cookie success).blank = d.blank.onSessionComplete cookie success := by
  unfold onSessionComplete
  rw [blank_sessionStore]
  cases d.sessionStore.closeSession cookie (if success then .success else .cancelled) with
  | none => rfl
  | some pair =>
    exact blank_then (fun e => if e.sessionStore.isEmpty then e.refreshActiveProvider else e)
      (fun e => blank_ite (blank_refreshActiveProvider e) rfl) (blank_emitSessionEvent _ _)

@[simp] theorem blank_onSessionRequest (d : Daemon) (cookie prompt : QString) (echo : Bool) :
    (d.onSessionRequest cookie prompt echo).blank = d.blank.onSessionRequest cookie prompt echo := blank_emitUpdated d _

@[simp] theorem blank_onSessionRetry (d : Daemon) (cookie error : QString) :
    (d.onSessionRetry cookie error).blank = d.blank.onSessionRetry cookie error := blank_emitUpdated d _

@[simp] theorem blank_onSessionInfo (d : Daemon) (cookie info : QString) :
    (d.onSessionInfo cookie info).blank = d.blank.onSessionInfo cookie info := blank_emitUpdated d _

@[simp] theorem blank_onPolkitRequest (d : Daemon) (cookie message actionId user : QString)
    (details : List (QString × QString)) :
    (d.onPolkitRequest cookie message actionId user details).blank =
      d.blank.onPolkitRequest cookie message actionId user details := blank_createSession d _ _ _

end Daemon

open Daemon

namespace KeyringManager

theorem blank_handleRequest (d : Daemon) (msg : QJsonObject) (socket : Socket) (peerPid : Pid) :
    (handleRequest d msg socket peerPid).blank = handleRequest d.blank msg socket peerPid := by
  simp only [handleRequest,setPending,blank_updateSessionPrompt,blank_createSession,blank_withKeyringManager,blank_log]
  rfl

theorem blank_conclude (d : Daemon) (cookie : QString) (result : Result) (answer : Answer) :
    conclude d.blank cookie result answer.blank =
      ((conclude d cookie result answer).1.blank,(conclude d cookie result answer).2.blank) := by
  unfold conclude
  rw [blank_keyringManager]
  cases d.keyringManager.pendingRequests.find cookie with
  | none => rfl
  | some request => simp [setPending,Message.blank]

theorem blank_cleanupForSocket (d : Daemon) (socket : Socket) :
    (cleanupForSocket d socket).blank = cleanupForSocket d.blank socket := by
  unfold cleanupForSocket
  simp only [blank_keyringManager]
  generalize d.keyringManager.pendingRequests.toList.filter (fun entry => entry.2.socket = socket) = entries
  induction entries generalizing d with
  | nil => rfl
  | cons entry rest ih =>
    simp only [List.foldl_cons]
    rw [ih]
    simp [setPending]

end KeyringManager

namespace PinentryManager

theorem blank_closeFlow (d : Daemon) (cookie : QString) (result : Result) (error : QString) :
    (closeFlow d cookie result error).blank = closeFlow d.blank cookie result error := by
  unfold closeFlow
  apply blank_then (fun e => e.withPinentryManager (forgetFlow e.pinentryManager cookie)) (fun _ => rfl)
  apply blank_ite _ rfl
  apply blank_then (fun e => e.closeSession cookie result) (fun e => blank_closeSession e cookie result)
  exact blank_ite rfl (blank_updateSessionError d cookie error)

theorem blank_reportRetry (d : Daemon) (request : PinentryRequest) :
    (reportRetry d request).blank = reportRetry d.blank request := by
  unfold reportRetry
  exact blank_ite (blank_updateSessionError _ _ _) rfl

theorem blank_present (d : Daemon) (request : PinentryRequest) (actor : ActorInfo) (retry : Int × Int)
    (sessionExists : Bool) :
    (present d request actor retry sessionExists).blank = present d.blank request actor retry sessionExists := by
  unfold present
  apply blank_then (fun e => e.updateSessionPrompt request.cookie request.prompt false false)
    (fun e => blank_updateSessionPrompt e _ _ _ _)
  exact blank_ite (blank_createSession d _ _ _) (blank_updateSessionPinentryRetry d _ _ _)

theorem blank_reportRequestError (d : Daemon) (request : PinentryRequest) :
    (reportRequestError d request).blank = reportRequestError d.blank request := by
  unfold reportRequestError
  exact blank_ite (blank_updateSessionError _ _ _) rfl

theorem blank_handleRequest (d : Daemon) (msg : QJsonObject) (socket : Socket) (peerPid : Pid) :
    (handleRequest d msg socket peerPid).blank = handleRequest d.blank msg socket peerPid := by
  unfold handleRequest
  apply blank_ite rfl
  apply blank_then (fun e => reportRequestError e _) (fun e => blank_reportRequestError e _)
  apply blank_then (fun e => present e _ _ _ _) (fun e => blank_present e _ _ _ _)
  apply blank_then (fun e => e.withPinentryManager (recordPending e.pinentryManager _)) (fun _ => rfl)
  exact blank_reportRetry _ _

theorem blank_timeout (d : Daemon) (timer : Timer) : (timeout d timer).blank = timeout d.blank timer := by
  unfold timeout
  rw [blank_pinentryManager]
  cases d.pinentryManager.timers.find timer with
  | none => rfl
  | some cookie => exact blank_closeFlow _ _ _ _

theorem blank_applyOutcome (d : Daemon) (cookie : QString) (outcome : Outcome) (error : QString) :
    (applyOutcome d cookie outcome error).blank = applyOutcome d.blank cookie outcome error := by
  cases outcome with
  | retry => exact blank_updateSessionError _ _ _
  | success | cancelled | error => exact blank_closeFlow _ _ _ _

theorem blank_cleanupForSocket (d : Daemon) (socket : Socket) :
    (cleanupForSocket d socket).blank = cleanupForSocket d.blank socket := by
  unfold cleanupForSocket
  simp only [blank_pinentryManager]
  generalize (d.pinentryManager.pendingRequests.toList.filter (fun entry => entry.2.socket = socket)).map Prod.fst = cookies
  induction cookies generalizing d with
  | nil => rfl
  | cons cookie rest ih =>
    simp only [List.foldl_cons]
    rw [ih,blank_closeFlow]

end PinentryManager

namespace PolkitListener

theorem blank_reattempt (d : Daemon) (ref : StateRef) : (reattempt d ref).blank = reattempt d.blank ref := by
  unfold reattempt
  rw [blank_listener]
  cases d.listener.states.find ref with
  | none => rfl
  | some state =>
    simp only
    cases state.session <;> rfl

theorem blank_dropSession (d : Daemon) (session : Option PolkitSession) :
    (dropSession d session).blank = dropSession d.blank session := by
  cases session <;> rfl

theorem blank_cleanUp (d : Daemon) (ref : StateRef) (state : SessionState) :
    (cleanUp d ref state).blank = cleanUp d.blank ref state := by
  unfold cleanUp
  apply blank_then (fun e => e.withListener {e.listener with
    cookieToState := e.listener.cookieToState.remove state.cookie
    states := e.listener.states.remove ref}) (fun _ => rfl)
  apply blank_then (fun e => logPolkit e (.completed state.gainedAuth)) (fun _ => rfl)
  apply blank_then (fun e => e.onSessionComplete state.cookie state.gainedAuth) (fun e => blank_onSessionComplete e _ _)
  exact blank_dropSession _ _

theorem blank_finishAuth (d : Daemon) (ref : StateRef) : (finishAuth d ref).blank = finishAuth d.blank ref := by
  unfold finishAuth
  rw [blank_listener]
  cases d.listener.states.find ref with
  | none => rfl
  | some state =>
    apply blank_ite rfl
    apply blank_ite
    · apply blank_ite
      · apply blank_then (fun e => reattempt e ref) (fun e => blank_reattempt e ref)
        apply blank_then (fun e => newSession e ref {state with retryCount:=state.retryCount + 1}) (fun _ => rfl)
        exact blank_dropSession _ _
      · apply blank_then (fun e => cleanUp e ref _) (fun e => blank_cleanUp e ref _)
        exact blank_onSessionRetry _ _ _
    · exact blank_cleanUp _ _ _

theorem blank_initiateAuthentication (d : Daemon) (actionId message iconName : QString)
    (details : List (QString × QString)) (cookie : QString) (identities : List QString) :
    (initiateAuthentication d actionId message iconName details cookie identities).blank =
      initiateAuthentication d.blank actionId message iconName details cookie identities := by
  unfold initiateAuthentication
  apply blank_ite rfl
  cases identities with
  | nil => rfl
  | cons selectedUser others =>
    apply blank_then (fun e => reattempt e _) (fun e => blank_reattempt e _)
    exact blank_onPolkitRequest _ _ _ _ _ _

theorem blank_withState (d : Daemon) (session : Nat) (slot other : StateRef → SessionState → Daemon)
    (same : ∀ ref state, (slot ref state).blank = other ref state) :
    (withState d session slot).blank = withState d.blank session other := by
  unfold withState
  rw [blank_listener]
  cases findStateForSession d.listener session with
  | none => rfl
  | some ref =>
    simp only
    cases d.listener.states.find ref with
    | none => rfl
    | some state => exact same ref state

theorem blank_onSessionCompleted (d : Daemon) (session : Nat) (gained : Bool) :
    (onSessionCompleted d session gained).blank = onSessionCompleted d.blank session gained := by
  apply blank_withState
  intro ref state
  apply blank_then (fun e => finishAuth e ref) (fun e => blank_finishAuth e ref)
  exact blank_ite (blank_onSessionRetry _ _ _) rfl

theorem blank_signal (d : Daemon) (session : Nat) (polkitSignal : PolkitSignal) :
    (signal d session polkitSignal).blank = signal d.blank session polkitSignal := by
  cases polkitSignal with
  | request prompt echo => exact blank_withState _ session _ _ (fun _ _ => blank_onSessionRequest _ _ _ _)
  | completed gained => exact blank_onSessionCompleted _ session gained
  | showError error => exact blank_withState _ session _ _ (fun _ _ => blank_onSessionRetry _ _ _)
  | showInfo info => exact blank_withState _ session _ _ (fun _ _ => blank_onSessionInfo _ _ _)

theorem blank_finishCancelled (d : Daemon) (ref : StateRef) :
    (finishCancelled d ref).blank = finishCancelled d.blank ref := by
  unfold finishCancelled
  rw [blank_listener]
  cases d.listener.states.find ref with
  | none => rfl
  | some state => exact blank_finishAuth _ ref

theorem blank_cancelAuthentication (d : Daemon) : (cancelAuthentication d).blank = cancelAuthentication d.blank := by
  unfold cancelAuthentication
  simp only [blank_listener]
  generalize d.listener.cookieToState.toList.map Prod.snd = refs
  induction refs generalizing d with
  | nil => rfl
  | cons ref rest ih =>
    simp only [List.foldl_cons]
    rw [ih,blank_finishCancelled]

theorem blank_submitPassword (d : Daemon) (cookie pass : QString) :
    (submitPassword d cookie pass).blank = submitPassword d.blank cookie [] := by
  have logged : (d.log (.submitted cookie pass)).listener = d.listener := rfl
  have same : (d.blank.log (.submitted cookie [])).listener = d.listener := rfl
  unfold submitPassword
  simp only [logged,same]
  cases d.listener.cookieToState.find cookie with
  | none => rfl
  | some ref =>
    simp only
    cases d.listener.states.find ref with
    | none => rfl
    | some state =>
      simp only
      cases state.session <;> rfl

theorem blank_cancelSession (d : Daemon) (session : PolkitSession) :
    (cancelSession d session).blank = cancelSession d.blank session := by
  unfold cancelSession
  exact blank_ite (blank_signal _ _ _) rfl

theorem blank_cancelPending (d : Daemon) (cookie : QString) :
    (cancelPending d cookie).blank = cancelPending d.blank cookie := by
  unfold cancelPending
  rw [blank_listener]
  cases d.listener.cookieToState.find cookie with
  | none => rfl
  | some ref =>
    simp only
    cases d.listener.states.find ref with
    | none => rfl
    | some state =>
      simp only
      cases state.session with
      | none => rfl
      | some session =>
        apply blank_then (fun e => finishCancelled e ref) (fun e => blank_finishCancelled e ref)
        exact blank_cancelSession d session

end PolkitListener

theorem QJsonObject.blank_value (msg : QJsonObject) (key : QString) (other : key ≠ text "response") :
    msg.blank.value key = msg.value key := by
  unfold QJsonObject.value QJsonObject.blank
  rw [Table.find_insert,if_neg other]

theorem QJsonObject.blank_response (msg : QJsonObject) : (msg.blank.value (text "response")).toString = [] := by
  unfold QJsonObject.value QJsonObject.blank
  rw [Table.find_insert_self]
  rfl

namespace Agent

theorem blank_sendError (d : Daemon) (socket : Socket) (message : String) :
    (sendError d socket message).blank = sendError d.blank socket message := blank_sendJson d socket _

theorem blank_unless (d : Daemon) (reason : QString) :
    (if !d.hasActiveProvider && !d.sessionStore.isEmpty then d.ensureFallbackUiRunning reason else d).blank =
      if !d.blank.hasActiveProvider && !d.blank.sessionStore.isEmpty then d.blank.ensureFallbackUiRunning reason
      else d.blank := blank_ite (blank_ensureFallbackUiRunning d reason) rfl

theorem blank_handleNext (d : Daemon) (socket : Socket) : (handleNext d socket).blank = handleNext d.blank socket := by
  unfold handleNext
  rw [blank_eventQueue]
  cases taken : d.eventQueue.takeNext with
  | mk event queue =>
    cases event with
    | none => rfl
    | some event => exact blank_sendJson _ _ _

theorem blank_handleSubscribe (d : Daemon) (socket : Socket) :
    (handleSubscribe d socket).blank = handleSubscribe d.blank socket := by
  let replay := d.sessionStore.toList.flatMap (fun entry =>
    [(socket,Message.event entry.2.toCreatedEvent),(socket,Message.event entry.2.toUpdatedEvent)])
  have plain : ∀ message ∈ replay, message.2.blank = message.2 := by
    intro message present
    obtain ⟨entry,_,listed⟩ := List.mem_flatMap.mp present
    rcases List.mem_pair.mp listed with rfl | rfl
    · rfl
    · rfl
  let active := d.providerRegistry.contains socket && decide (some socket = d.providerRegistry.activeProvider)
  let told := fun e : Daemon => e.sendJson socket (.subscribed
    (if !d.providerRegistry.contains socket || active then e.sessionStore.size else 0)
    (if d.providerRegistry.contains socket then some active else none))
  have respects (e : Daemon) : (told e).blank = told e.blank := blank_sendJson e socket _
  unfold handleSubscribe
  cases subscribed : d.subscribers.contains socket with
  | true =>
    rw [show d.blank.subscribers.contains socket = true from subscribed]
    exact blank_then told respects (blank_ite (blank_sendAll d replay plain) rfl)
  | false =>
    rw [show d.blank.subscribers.contains socket = false from subscribed]
    exact blank_then told respects
      (blank_ite (blank_sendAll {d with subscribers:=d.subscribers ++ [socket]} replay plain) rfl)

theorem blank_handleUIRegister (d : Daemon) (socket : Socket) (msg : QJsonObject) :
    (handleUIRegister d socket msg).blank = handleUIRegister d.blank socket msg := by
  unfold handleUIRegister
  apply (blank_ite (blank_emitProviderStatus _) rfl).trans
  rw [blank_sendJson]
  rfl

theorem blank_handleUIHeartbeat (d : Daemon) (socket : Socket) :
    (handleUIHeartbeat d socket).blank = handleUIHeartbeat d.blank socket := by
  unfold handleUIHeartbeat
  apply blank_ite (blank_sendError d socket _)
  apply blank_then (fun e => e.sendJson socket (.ok (some (decide (some socket = e.providerRegistry.activeProvider)))))
    (fun e => blank_sendJson e socket _)
  exact blank_refreshActiveProvider _

theorem blank_handleUIUnregister (d : Daemon) (socket : Socket) :
    (handleUIUnregister d socket).blank = handleUIUnregister d.blank socket := by
  unfold handleUIUnregister
  rw [blank_providerRegistry]
  cases d.providerRegistry.unregisterProvider socket with
  | mk known registry =>
    cases known with
    | false => exact blank_sendError d socket _
    | true =>
      apply blank_then (fun e => if !e.hasActiveProvider && !e.sessionStore.isEmpty then
        e.ensureFallbackUiRunning (text "provider-unregistered") else e) (fun e => blank_unless e _)
      apply blank_then (fun e => e.sendJson socket (.ok none)) (fun e => blank_sendJson e socket _)
      exact blank_refreshActiveProvider _

theorem blank_replyTo (d : Daemon) (origSocket : Option Socket) (reply : Message) :
    (replyTo d origSocket reply).blank = replyTo d.blank origSocket reply.blank := by
  cases origSocket with
  | none => rfl
  | some socket => exact blank_sendJson d socket reply

theorem blank_isError (message : Message) : isError message.blank = isError message := by cases message <;> rfl

theorem blank_errorText (message : Message) : errorText message.blank = errorText message := by cases message <;> rfl

-- What the managers answer, together with the daemon they leave.
def blankReply (reply : Message × Daemon) : Message × Daemon := (reply.1.blank,reply.2.blank)

theorem blank_handleResult (d : Daemon) (msg : QJsonObject) (peerPid : Pid) :
    blankReply (PinentryManager.handleResult d msg peerPid) = PinentryManager.handleResult d.blank msg peerPid := by
  unfold PinentryManager.handleResult
  simp only
  apply view_ite blankReply rfl
  apply view_ite blankReply rfl
  apply view_ite blankReply rfl
  cases PinentryManager.parseOutcome (toLower (msg.value (text "result")).toString) with
  | none => rfl
  | some outcome => exact congrArg (Prod.mk _) (PinentryManager.blank_applyOutcome d _ outcome _)

theorem blank_handlePinentryResult (d : Daemon) (socket : Socket) (msg : QJsonObject) :
    (handlePinentryResult d socket msg).blank = handlePinentryResult d.blank socket msg := by
  have result := blank_handleResult d msg (d.getPeerPid socket)
  unfold handlePinentryResult
  rw [blank_getPeerPid,← result]
  exact blank_sendJson _ _ _

theorem blank_respondKeyring (d : Daemon) (socket : Socket) (cookie response : QString) :
    (respondKeyring d socket cookie response).blank = respondKeyring d.blank socket cookie [] := by
  have concluded := KeyringManager.blank_conclude d cookie .success (.ok response)
  unfold respondKeyring KeyringManager.handleResponse
  rw [show KeyringManager.conclude d.blank cookie .success (.ok []) = _ from concluded]
  apply blank_then (fun e => e.sendJson socket (.ok none)) (fun e => blank_sendJson e socket _)
  exact blank_replyTo _ _ _

theorem blank_cancelKeyring (d : Daemon) (socket : Socket) (cookie : QString) :
    (cancelKeyring d socket cookie).blank = cancelKeyring d.blank socket cookie := by
  have concluded := KeyringManager.blank_conclude d cookie .cancelled .cancelled
  unfold cancelKeyring KeyringManager.handleCancel
  rw [show KeyringManager.conclude d.blank cookie .cancelled .cancelled = _ from concluded]
  apply blank_then (fun e => e.sendJson socket (.ok none)) (fun e => blank_sendJson e socket _)
  exact blank_replyTo _ _ _

theorem blank_handleResponse (d : Daemon) (cookie response : QString) :
    blankReply (PinentryManager.handleResponse d cookie response) = PinentryManager.handleResponse d.blank cookie [] := by
  unfold PinentryManager.handleResponse
  rw [blank_pinentryManager]
  cases d.pinentryManager.pendingRequests.find cookie with
  | none => exact view_ite blankReply rfl rfl
  | some request =>
    have answer : (if request.confirmOnly then Answer.confirmed else .ok response).blank =
        if request.confirmOnly then Answer.confirmed else .ok [] := view_ite Answer.blank rfl rfl
    simp only
    rw [← answer]
    rfl

theorem blank_respondPinentry (d : Daemon) (socket : Socket) (cookie response : QString) :
    (respondPinentry d socket cookie response).blank = respondPinentry d.blank socket cookie [] := by
  have replied := blank_handleResponse d cookie response
  unfold respondPinentry
  rw [blank_pinentryManager,← replied]
  cases PinentryManager.getSocketForPendingInput d.pinentryManager cookie with
  | none =>
    simp only [blankReply,blank_errorText]
    exact blank_sendJson _ _ _
  | some origSocket =>
    simp only [blankReply,blank_errorText,blank_isError]
    apply blank_ite
    · exact blank_sendJson _ _ _
    · apply blank_then (fun e => e.sendJson socket (.ok none)) (fun e => blank_sendJson e socket _)
      exact blank_sendJson _ _ _

theorem blank_cancelPinentry (d : Daemon) (socket : Socket) (cookie : QString) :
    (cancelPinentry d socket cookie).blank = cancelPinentry d.blank socket cookie := by
  have replied : blankReply (PinentryManager.handleCancel d cookie) = PinentryManager.handleCancel d.blank cookie := by
    unfold PinentryManager.handleCancel
    exact view_ite blankReply (congrArg (Prod.mk _) (PinentryManager.blank_closeFlow d cookie _ _)) rfl
  unfold cancelPinentry
  rw [blank_pinentryManager,← replied]
  simp only [blankReply,blank_isError]
  apply blank_ite
  · exact blank_sendJson _ _ _
  · apply blank_then (fun e => e.sendJson socket (.ok none)) (fun e => blank_sendJson e socket _)
    exact blank_replyTo _ _ _

theorem blank_handleRespond (d : Daemon) (socket : Socket) (msg : QJsonObject) :
    (handleRespond d socket msg).blank = handleRespond d.blank socket msg.blank := by
  have id := msg.blank_value (text "id") (by decide)
  unfold handleRespond
  rw [id,msg.blank_response]
  apply blank_ite (blank_sendError d socket _)
  apply blank_ite (blank_respondKeyring d socket _ _)
  apply blank_ite (blank_respondPinentry d socket _ _)
  apply blank_ite (blank_sendError d socket _)
  rw [blank_getSession]
  cases d.getSession (msg.value (text "id")).toString with
  | none => exact blank_sendError d socket _
  | some session =>
    apply blank_ite (blank_sendError d socket _)
    apply blank_then (fun e => e.sendJson socket (.ok none)) (fun e => blank_sendJson e socket _)
    exact PolkitListener.blank_submitPassword d _ _

theorem blank_handleCancel (d : Daemon) (socket : Socket) (msg : QJsonObject) :
    (handleCancel d socket msg).blank = handleCancel d.blank socket msg := by
  unfold handleCancel
  apply blank_ite (blank_sendError d socket _)
  apply blank_ite (blank_cancelKeyring d socket _)
  apply blank_ite (blank_cancelPinentry d socket _)
  rw [blank_getSession]
  cases d.getSession (msg.value (text "id")).toString with
  | none => exact blank_sendError d socket _
  | some session =>
    apply blank_ite (blank_sendError d socket _)
    apply blank_then (fun e => e.sendJson socket (.ok none)) (fun e => blank_sendJson e socket _)
    exact PolkitListener.blank_cancelPending d _

theorem blank_dispatch (d : Daemon) (socket : Socket) (handler : Handler) (msg : QJsonObject) :
    (dispatch d socket handler msg).blank =
      dispatch d.blank socket handler (if some handler = some .respond then msg.blank else msg) := by
  cases handler with
  | ping => exact blank_sendJson d socket _
  | subscribe => exact blank_handleSubscribe d socket
  | next => exact blank_handleNext d socket
  | keyringRequest => exact KeyringManager.blank_handleRequest d msg socket _
  | pinentryRequest => exact PinentryManager.blank_handleRequest d msg socket _
  | pinentryResult => exact blank_handlePinentryResult d socket msg
  | uiRegister => exact blank_handleUIRegister d socket msg
  | uiHeartbeat => exact blank_handleUIHeartbeat d socket
  | uiUnregister => exact blank_handleUIUnregister d socket
  | respond => exact blank_handleRespond d socket msg
  | cancel => exact blank_handleCancel d socket msg

theorem blank_onClientDisconnected (d : Daemon) (socket : Socket) :
    (onClientDisconnected d socket).blank = onClientDisconnected d.blank socket := by
  unfold onClientDisconnected
  apply blank_then (fun e => if !e.hasActiveProvider && !e.sessionStore.isEmpty then
    e.ensureFallbackUiRunning (text "provider-disconnected") else e) (fun e => blank_unless e _)
  apply blank_then (fun e => PinentryManager.cleanupForSocket e socket)
    (fun e => PinentryManager.blank_cleanupForSocket e socket)
  apply blank_then (fun e => KeyringManager.cleanupForSocket e socket)
    (fun e => KeyringManager.blank_cleanupForSocket e socket)
  apply blank_then (fun e => e.withEventQueue (e.eventQueue.removeWaiter socket)) (fun _ => rfl)
  exact blank_ite (blank_refreshActiveProvider _) rfl

theorem blank_pruneStaleProviders (d : Daemon) : (pruneStaleProviders d).blank = pruneStaleProviders d.blank := by
  unfold pruneStaleProviders
  apply blank_then (fun e => if !e.hasActiveProvider && !e.sessionStore.isEmpty then
    e.ensureFallbackUiRunning (text "provider-prune") else e) (fun e => blank_unless e _)
  exact blank_refreshActiveProvider d

end Agent

namespace Daemon

theorem blank_setSocketState (d : Daemon) (socket : Socket) (state : LocalSocketState) :
    (d.setSocketState socket state).blank = d.blank.setSocketState socket state := by
  have same : d.blank.sockets = d.sockets := rfl
  unfold setSocketState
  rw [same]
  cases d.sockets.find socket <;> rfl

theorem blank_handle (d : Daemon) (event : Event) : (d.handle event).blank = d.blank.handle event.blank := by
  cases event with
  | connected peerPid => rfl
  | socketState socket state => exact blank_setSocketState d socket state
  | message socket type msg =>
    change (Agent.handleMessage d socket type msg).blank = Agent.handleMessage d.blank socket type _
    unfold Agent.handleMessage
    cases found : Agent.handlers.lookup type with
    | none => exact Agent.blank_sendError d socket _
    | some handler => exact Agent.blank_dispatch d socket handler msg
  | disconnected socket =>
    change (d.disconnect socket).blank = d.blank.disconnect socket
    unfold disconnect
    apply blank_then (fun e => e.deleteSocket socket) (fun _ => rfl)
    rw [Agent.blank_onClientDisconnected,blank_setSocketState]
  | initiateAuthentication actionId message iconName details cookie identities =>
    exact PolkitListener.blank_initiateAuthentication d actionId message iconName details cookie identities
  | polkitSignal session signal => exact PolkitListener.blank_signal d session signal
  | cancelAuthentication => exact PolkitListener.blank_cancelAuthentication d
  | timeout timer => exact PinentryManager.blank_timeout d timer
  | maintenance => exact Agent.blank_pruneStaleProviders d

end Daemon

def blanking : Symmetry daemon where
  state := Daemon.blank
  input := Input.blank
  initial := rfl
  enabled d input := by
    obtain ⟨env,event⟩ := input
    cases event <;> exact Iff.rfl
  step d input := Daemon.blank_handle {d with env:=input.env} input.event

namespace Daemon

-- Runs that differ only in the passwords of the responses go the same way. The
-- agent keeps no password, and takes each only to where the response is for.
theorem passwords_unread {inputs others : List Input} (alike : inputs.map Input.blank = others.map Input.blank) :
    (daemon.run inputs).toCAgent = (daemon.run others).toCAgent ∧
    (daemon.run inputs).trace.map Effect.blank = (daemon.run others).trace.map Effect.blank ∧
    (daemon.Admits inputs ↔ daemon.Admits others) := by
  obtain ⟨same,admitted⟩ := blanking.alike alike
  have blanked (d : Daemon) : (blanking.state d).toCAgent = d.toCAgent ∧
      (blanking.state d).trace = d.trace.map Effect.blank := ⟨rfl,rfl⟩
  refine ⟨?_,?_,admitted⟩
  · rw [← (blanked _).1,same,(blanked _).1]
  · rw [← (blanked _).2,same,(blanked _).2]

def respondsWith (password : String) : List Input :=
  [.quiet (.connected 7),
   .quiet (.connected 8),
   .say 0 "ui.register" [("kind","quickshell")],
   .say 1 "keyring_request" [("cookie","k")],
   .say 0 "session.respond" [("id","k"),("response",password)]]

theorem respondsWith_unread :
    (daemon.run (respondsWith "hunter2")).toCAgent = (daemon.run (respondsWith "letmein")).toCAgent ∧
    (daemon.run (respondsWith "hunter2")).trace.map Effect.blank =
      (daemon.run (respondsWith "letmein")).trace.map Effect.blank ∧
    (daemon.Admits (respondsWith "hunter2") ↔ daemon.Admits (respondsWith "letmein")) :=
  passwords_unread rfl

end Daemon

end BbAuth
