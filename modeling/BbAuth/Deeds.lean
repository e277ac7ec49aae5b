import BbAuth.Core
import BbAuth.Library.History
import BbAuth.PinentryFlows
import BbAuth.PolkitStrides

open Library
namespace BbAuth

def Effect.delivery : Effect → Option (Socket × Message)
  | .sent socket message => some (socket,message)
  | _ => none

def Effect.emission : Effect → Option SessionEvent
  | .emitted event => some event
  | _ => none

def Effect.aside (effect : Effect) : Prop := effect.delivery = none ∧ effect.emission = none

def Effect.told (effect : Effect) : Prop := effect.delivery.isSome = true

-- What of the daemon concerns the user interfaces: the providers, the sessions,
-- who hears of them, and what was delivered so far, the latest first.
structure Front where
  providerRegistry : ProviderRegistry
  eventQueue : EventQueue SessionEvent
  sessionStore : SessionStore
  subscribers : List Socket
  sockets : Table Socket LocalSocket
  deliveries : List (Socket × Message)

def Daemon.front (d : Daemon) : Front :=
  ⟨d.providerRegistry,d.eventQueue,d.sessionStore,d.subscribers,d.sockets,d.trace.filterMap Effect.delivery⟩

def notActive : QString := text "Not active UI provider"

namespace Daemon

-- What the requests and their outcomes do to the front, whatever they do to the
-- managers and the listener behind it.
inductive Deed : Daemon → Daemon → Prop where
  | quiet (same : e.front = d.front) (aside : Grown Effect.aside d.trace e.trace) : Deed d e
  | created (id : QString) (source : Source) (ctx : Context) : Deed d (d.createSession id source ctx)
  | updated (id : QString) (change : Session → Session)
      (alike : ∀ s, (change s).id = s.id ∧ (change s).source = s.source ∧ (change s).context = s.context) :
      Deed d (d.emitUpdated (d.sessionStore.updateWith change id))
  | counted (id : QString) (curRetry maxRetries : Int) : Deed d (d.updateSessionPinentryRetry id curRetry maxRetries)
  | closed (id : QString) (result : Result) : Deed d (d.closeSession id result)
  | completed (id : QString) (success : Bool) : Deed d (d.onSessionComplete id success)

def Deeds : Daemon → Daemon → Prop := Relation.ReflTransGen Deed

theorem Deeds.trans (first : Deeds d m) (second : Deeds m e) : Deeds d e := Relation.ReflTransGen.trans first second

theorem Deeds.one (deed : Deed d e) : Deeds d e := Relation.ReflTransGen.single deed

theorem Deeds.invariant {P : Daemon → Prop} (kept : ∀ d e, Deed d e → P d → P e)
    (deeds : Deeds d e) (start : P d) : P e := by
  induction deeds with
  | refl => exact start
  | tail _ deed ih => exact kept _ _ deed ih

-- A message of a user interface or an outcome is served and acknowledged to its
-- sender. A requester is answered when its request was pending, and is not any more.
inductive Served (d : Daemon) (socket : Socket) : Daemon → Prop where
  | quietly (deeds : Deeds d m) : Served d socket (m.sendJson socket (.ok none))
  | keyring (deeds : Deeds d m) (asked : d.keyringManager.pendingRequests.find cookie = some request)
      (gone : m.keyringManager.pendingRequests.find cookie = none) (answer : Answer) :
      Served d socket ((m.sendJson request.socket (.response .keyring cookie answer)).sendJson socket (.ok none))
  | pinentry (deeds : Deeds d m) (asked : d.pinentryManager.pendingRequests.find cookie = some request)
      (gone : m.pinentryManager.pendingRequests.find cookie = none) (answer : Answer) :
      Served d socket ((m.sendJson request.socket (.response .pinentry cookie answer)).sendJson socket (.ok none))

theorem front_log (d : Daemon) (unsent : effect.delivery = none) : (d.log effect).front = d.front := by
  simp [front,log,unsent]

theorem front_ensureFallbackUiRunning (d : Daemon) (reason : QString) :
    (d.ensureFallbackUiRunning reason).front = d.front := by
  have logged : (d.log (.fallbackRequested reason)).front = d.front := front_log d rfl
  unfold ensureFallbackUiRunning
  simp only
  repeat' split
  all_goals exact logged

theorem sendJson_front (d : Daemon) (socket : Socket) (message : Message) :
    (d.sendJson socket message).front =
      {d.front with deliveries:=(if d.isConnected socket then [(socket,message)] else []) ++ d.front.deliveries} := by
  unfold sendJson
  split <;> rfl

theorem sendAll_front (d : Daemon) (messages : List (Socket × Message)) :
    (d.sendAll messages).front =
      { d.front with
        deliveries := (messages.filter (fun message => d.isConnected message.1)).reverse ++ d.front.deliveries } := by
  induction messages generalizing d with
  | nil => rfl
  | cons message rest ih =>
    have later : (d.sendAll (message :: rest)).front = _ := ih (d.sendJson message.1 message.2)
    have reachable : ∀ socket, (d.sendJson message.1 message.2).isConnected socket = d.isConnected socket := by
      intro socket
      unfold isConnected
      rw [show (d.sendJson message.1 message.2).sockets = d.sockets from
        congrArg Front.sockets (sendJson_front d message.1 message.2)]
    rw [later,sendJson_front]
    simp only [reachable,List.filter_cons]
    split <;> simp

theorem store_sendAll (d : Daemon) (messages : List (Socket × Message)) :
    (d.sendAll messages).sessionStore = d.sessionStore := congrArg Front.sessionStore (sendAll_front d messages)

theorem store_sendJson (d : Daemon) (socket : Socket) (message : Message) :
    (d.sendJson socket message).sessionStore = d.sessionStore := congrArg Front.sessionStore (sendJson_front d socket message)

theorem told_sendJson (d : Daemon) (socket : Socket) (message : Message) :
    Grown Effect.told d.trace (d.sendJson socket message).trace := by
  unfold sendJson
  split
  · exact .one d.trace rfl
  · exact .same rfl

theorem told_sendAll (d : Daemon) (messages : List (Socket × Message)) :
    Grown Effect.told d.trace (d.sendAll messages).trace := by
  induction messages generalizing d with
  | nil => exact .same rfl
  | cons message rest ih => exact (told_sendJson d _ _).trans (ih _)

-- The event goes into the trace before anybody is told of it.
theorem told_emitSessionEvent (d : Daemon) (event : SessionEvent) :
    Grown Effect.told (.emitted event :: d.trace) (d.emitSessionEvent event).trace := by
  unfold emitSessionEvent
  exact told_sendAll (withEventQueue (d.log (.emitted event)) _) _

theorem told_refreshActiveProvider (d : Daemon) : Grown Effect.told d.trace d.refreshActiveProvider.trace := by
  unfold refreshActiveProvider
  simp only
  split
  · exact told_sendAll d.recomputeActiveProvider.2 _
  · exact .same rfl

theorem keyringManager_closeSession (d : Daemon) (id : QString) (result : Result) :
    (d.closeSession id result).keyringManager = d.keyringManager := by
  have core : (d.closeSession id result).core.keyringManager = (d.core.closeSession id result).keyringManager :=
    congrArg Core.keyringManager (core_closeSession d id result)
  have same : (d.core.closeSession id result).keyringManager = d.core.keyringManager := by
    unfold Core.closeSession
    split <;> rfl
  exact core.trans same

theorem deeds_quiet {d e : Daemon} (same : e.front = d.front) (trace : e.trace = d.trace) : Deeds d e :=
  .one (.quiet same (.same trace))

theorem deeds_log (d : Daemon) (aside : effect.aside) : Deeds d (d.log effect) :=
  .one (.quiet (front_log d aside.1) (.one d.trace aside))

theorem aside_ensureFallbackUiRunning (d : Daemon) (reason : QString) :
    Grown Effect.aside d.trace (d.ensureFallbackUiRunning reason).trace := by
  have asked : Grown Effect.aside d.trace (d.log (.fallbackRequested reason)).trace := .one d.trace ⟨rfl,rfl⟩
  unfold ensureFallbackUiRunning
  simp only
  split
  · exact asked
  split
  · exact asked
  split
  · exact asked
  split
  · exact asked
  split
  · exact asked.trans (.one _ ⟨rfl,rfl⟩)
  · exact asked

theorem deeds_ensureFallbackUiRunning (d : Daemon) (reason : QString) : Deeds d (d.ensureFallbackUiRunning reason) :=
  .one (.quiet (front_ensureFallbackUiRunning d reason) (aside_ensureFallbackUiRunning d reason))

theorem deeds_updateSessionPrompt (d : Daemon) (id prompt : QString) (echo clearError : Bool) :
    Deeds d (d.updateSessionPrompt id prompt echo clearError) := .one (.updated id _ (fun _ => ⟨rfl,rfl,rfl⟩))

theorem deeds_updateSessionError (d : Daemon) (id error : QString) : Deeds d (d.updateSessionError id error) :=
  .one (.updated id _ (fun _ => ⟨rfl,rfl,rfl⟩))

theorem deeds_createSession (d : Daemon) (id : QString) (source : Source) (ctx : Context) :
    Deeds d (d.createSession id source ctx) := .one (.created id source ctx)

theorem deeds_closeSession (d : Daemon) (id : QString) (result : Result) : Deeds d (d.closeSession id result) :=
  .one (.closed id result)

theorem deeds_withPinentryManager (d : Daemon) (m : PinentryManager) : Deeds d (d.withPinentryManager m) :=
  deeds_quiet rfl rfl

theorem deeds_withKeyringManager (d : Daemon) (m : KeyringManager) : Deeds d (d.withKeyringManager m) :=
  deeds_quiet rfl rfl

end Daemon

open Daemon (Deeds Served deeds_quiet deeds_log deeds_updateSessionPrompt deeds_updateSessionError deeds_createSession
  deeds_closeSession deeds_withPinentryManager deeds_withKeyringManager)

namespace PolkitListener

theorem strides_deeds (strides : Strides d e) : Deeds d e := by
  apply strides.invariant (P := fun e => Deeds d e)
  · intro m e stride deeds
    apply deeds.trans
    cases stride with
    | listener listener => exact deeds_quiet rfl rfl
    | logged effect => exact deeds_log m ⟨rfl,rfl⟩
    | updated id change alike => exact .one (.updated id change alike)
    | completed cookie success => exact .one (.completed cookie success)
  · exact .refl

theorem deeds_initiateAuthentication (d : Daemon) (actionId message iconName : QString)
    (details : List (QString × QString)) (cookie : QString) (identities : List QString) :
    Deeds d (initiateAuthentication d actionId message iconName details cookie identities) := by
  rcases strides_initiateAuthentication d actionId message iconName details cookie identities with
    ⟨_,strides⟩ | ⟨_,prepared,user,before,_,after⟩
  · exact strides_deeds strides
  · exact (strides_deeds before).trans <| (deeds_createSession prepared cookie .polkit _).trans (strides_deeds after)

end PolkitListener

namespace KeyringManager

theorem deeds_handleRequest (d : Daemon) (msg : QJsonObject) (socket : Socket) (peerPid : Pid) :
    Deeds d (handleRequest d msg socket peerPid) := by
  have logged (cookie : QString) : Deeds d (d.log (.requested .keyring socket peerPid cookie)) := deeds_log d ⟨rfl,rfl⟩
  unfold handleRequest
  exact (logged _).trans <| (deeds_withKeyringManager _ _).trans <| (deeds_createSession _ _ _ _).trans
    (deeds_updateSessionPrompt _ _ _ _ _)

theorem deeds_conclude (d : Daemon) (cookie : QString) (result : Result) (answer : Answer) :
    Deeds d (conclude d cookie result answer).2 := by
  unfold conclude
  split
  · exact .refl
  · exact (deeds_withKeyringManager d _).trans (deeds_closeSession _ cookie result)

theorem deeds_cleanupForSocket (d : Daemon) (socket : Socket) : Deeds d (cleanupForSocket d socket) := by
  unfold cleanupForSocket
  simp only
  generalize d.keyringManager.pendingRequests.toList.filter (fun entry => entry.2.socket = socket) = entries
  induction entries generalizing d with
  | nil => exact .refl
  | cons entry rest ih =>
    have closed : Deeds d ((setPending d (d.keyringManager.pendingRequests.remove entry.1)).closeSession
        entry.2.cookie .cancelled) := (deeds_withKeyringManager d _).trans (deeds_closeSession _ _ _)
    exact closed.trans (ih _)

end KeyringManager

namespace PinentryManager

theorem deeds_closeFlow (d : Daemon) (cookie : QString) (result : Result) (error : QString) :
    Deeds d (closeFlow d cookie result error) := by
  have told : Deeds d (if error.isEmpty then d else d.updateSessionError cookie error) := by
    split
    · exact .refl
    · exact deeds_updateSessionError d cookie error
  unfold closeFlow
  simp only
  apply Deeds.trans _ (deeds_withPinentryManager _ _)
  split
  · exact told.trans (.one (.closed cookie result))
  · exact .refl

theorem deeds_reportRetry (d : Daemon) (request : PinentryRequest) : Deeds d (reportRetry d request) := by
  unfold reportRetry
  split
  · exact (deeds_withPinentryManager d _).trans (deeds_updateSessionError _ _ _)
  · exact .refl

theorem deeds_present (d : Daemon) (request : PinentryRequest) (actor : ActorInfo) (retry : Int × Int)
    (sessionExists : Bool) : Deeds d (present d request actor retry sessionExists) := by
  unfold present
  simp only
  apply Deeds.trans _ (deeds_updateSessionPrompt _ _ _ _ _)
  split
  · exact .one (.created _ _ _)
  · exact .one (.counted _ _ _)

theorem deeds_reportRequestError (d : Daemon) (request : PinentryRequest) :
    Deeds d (reportRequestError d request) := by
  unfold reportRequestError
  simp only
  split
  · exact (deeds_withPinentryManager d _).trans (deeds_updateSessionError _ _ _)
  · exact deeds_withPinentryManager d _

theorem deeds_handleRequest (d : Daemon) (msg : QJsonObject) (socket : Socket) (peerPid : Pid) :
    Deeds d (handleRequest d msg socket peerPid) := by
  have logged (cookie : QString) : Deeds d (d.log (.requested .pinentry socket peerPid cookie)) := deeds_log d ⟨rfl,rfl⟩
  unfold handleRequest
  simp only
  apply (logged _).trans
  split
  · exact .refl
  · exact (deeds_withPinentryManager _ _).trans <| (deeds_reportRetry _ _).trans <|
      (deeds_withPinentryManager _ _).trans <| (deeds_present _ _ _ _ _).trans (deeds_reportRequestError _ _)

theorem deeds_timeout (d : Daemon) (timer : Timer) : Deeds d (timeout d timer) := by
  unfold timeout
  split
  · exact .refl
  · exact (deeds_withPinentryManager d _).trans (deeds_closeFlow _ _ _ _)

theorem deeds_applyOutcome (d : Daemon) (cookie : QString) (outcome : Outcome) (error : QString) :
    Deeds d (applyOutcome d cookie outcome error) := by
  cases outcome with
  | retry => exact (deeds_withPinentryManager d _).trans (deeds_updateSessionError _ _ _)
  | success | cancelled | error => exact deeds_closeFlow d _ _ _

theorem deeds_cleanupForSocket (d : Daemon) (socket : Socket) : Deeds d (cleanupForSocket d socket) := by
  unfold cleanupForSocket
  simp only
  generalize (d.pinentryManager.pendingRequests.toList.filter (fun entry => entry.2.socket = socket)).map Prod.fst = cookies
  induction cookies generalizing d with
  | nil => exact .refl
  | cons cookie rest ih => exact (deeds_closeFlow d cookie _ _).trans (ih _)

end PinentryManager

namespace Agent

-- A keyring request is forgotten before its session is closed.
theorem conclude_forgets (d : Daemon) (cookie : QString) (result : Result) (answer : Answer)
    (found : d.keyringManager.pendingRequests.find cookie = some request) :
    (KeyringManager.conclude d cookie result answer).1 = .response .keyring cookie answer ∧
    (KeyringManager.conclude d cookie result answer).2.keyringManager.pendingRequests.find cookie = none := by
  have closed : ((KeyringManager.setPending d (d.keyringManager.pendingRequests.remove cookie)).closeSession cookie
      result).keyringManager = ⟨d.keyringManager.pendingRequests.remove cookie⟩ := Daemon.keyringManager_closeSession _ cookie result
  unfold KeyringManager.conclude
  simp only [found]
  refine ⟨trivial,?_⟩
  rw [closed]
  exact Table.find_remove_self _ _

theorem respondKeyring_answers (d : Daemon) (socket : Socket) (cookie response : QString)
    (found : d.keyringManager.pendingRequests.find cookie = some request) :
    respondKeyring d socket cookie response =
      ((KeyringManager.conclude d cookie .success (.ok response)).2.sendJson request.socket
        (.response .keyring cookie (.ok response))).sendJson socket (.ok none) := by
  unfold respondKeyring KeyringManager.handleResponse KeyringManager.getSocketForRequest
  simp only [found,Option.map_some,replyTo,(conclude_forgets d cookie .success (.ok response) found).1]

theorem cancelKeyring_answers (d : Daemon) (socket : Socket) (cookie : QString)
    (found : d.keyringManager.pendingRequests.find cookie = some request) :
    cancelKeyring d socket cookie =
      ((KeyringManager.conclude d cookie .cancelled .cancelled).2.sendJson request.socket
        (.response .keyring cookie .cancelled)).sendJson socket (.ok none) := by
  unfold cancelKeyring KeyringManager.handleCancel KeyringManager.getSocketForRequest
  simp only [found,Option.map_some,replyTo,(conclude_forgets d cookie .cancelled .cancelled found).1]

theorem served_conclude (d : Daemon) (socket : Socket) (cookie : QString) (result : Result) (answer : Answer)
    (found : d.keyringManager.pendingRequests.find cookie = some request) :
    Served d socket (((KeyringManager.conclude d cookie result answer).2.sendJson request.socket
      (.response .keyring cookie answer)).sendJson socket (.ok none)) :=
  .keyring (KeyringManager.deeds_conclude d cookie result answer) found (conclude_forgets d cookie result answer found).2 _

theorem served_respondKeyring (d : Daemon) (socket : Socket) (cookie response : QString)
    (found : d.keyringManager.pendingRequests.find cookie = some request) :
    Served d socket (respondKeyring d socket cookie response) := by
  rw [respondKeyring_answers d socket cookie response found]
  exact served_conclude d socket cookie _ _ found

theorem served_cancelKeyring (d : Daemon) (socket : Socket) (cookie : QString)
    (found : d.keyringManager.pendingRequests.find cookie = some request) :
    Served d socket (cancelKeyring d socket cookie) := by
  rw [cancelKeyring_answers d socket cookie found]
  exact served_conclude d socket cookie _ _ found

theorem served_respondPinentry (d : Daemon) (socket : Socket) (cookie response : QString)
    (found : d.pinentryManager.pendingRequests.find cookie = some request) :
    Served d socket (respondPinentry d socket cookie response) := by
  have gone : (PinentryManager.awaitOutcome d.pinentryManager request cookie).pendingRequests.find cookie = none := by
    rw [PinentryManager.awaitOutcome_pending,if_pos rfl]
  simp only [respondPinentry,PinentryManager.getSocketForPendingInput,PinentryManager.handleResponse,found,
    Option.map_some,isError,Bool.false_eq_true,if_false]
  exact .pinentry (deeds_withPinentryManager d _) found gone _

theorem served_cancelPinentry (d : Daemon) (socket : Socket) (cookie : QString)
    (known : PinentryManager.hasRequest d cookie = true) : Served d socket (cancelPinentry d socket cookie) := by
  have deeds := PinentryManager.deeds_closeFlow d cookie .cancelled []
  have gone : (PinentryManager.closeFlow d cookie .cancelled []).pinentryManager.pendingRequests.find cookie = none := by
    unfold PinentryManager.closeFlow
    simp only [Daemon.withPinentryManager]
    rw [PinentryManager.forgetFlow_pending,if_pos rfl]
  simp only [cancelPinentry,PinentryManager.handleCancel,known,if_true,isError,Bool.false_eq_true,if_false,
    PinentryManager.getSocketForPendingInput]
  cases found : d.pinentryManager.pendingRequests.find cookie with
  | none => exact .quietly deeds
  | some request => exact .pinentry deeds found gone _

theorem handleRespond_cases (d : Daemon) (socket : Socket) (msg : QJsonObject) :
    (d.isAuthorizedProviderSocket socket = false ∧ handleRespond d socket msg = d.sendJson socket (.error notActive)) ∨
    (d.isAuthorizedProviderSocket socket = true ∧
      ((∃ message, message ≠ notActive ∧ handleRespond d socket msg = d.sendJson socket (.error message)) ∨
        Served d socket (handleRespond d socket msg))) := by
  unfold handleRespond
  simp only
  generalize (msg.value (text "id")).toString = cookie
  generalize (msg.value (text "response")).toString = response
  cases d.isAuthorizedProviderSocket socket with
  | false => exact .inl ⟨rfl,rfl⟩
  | true =>
    refine .inr ⟨rfl,?_⟩
    simp only [Bool.not_true,Bool.false_eq_true,if_false]
    split
    · next pending =>
      obtain ⟨request,found⟩ := (Table.contains_iff _ _).mp pending
      exact .inr (served_respondKeyring d socket cookie response found)
    split
    · next pending =>
      obtain ⟨request,found⟩ := (Table.contains_iff _ _).mp pending
      exact .inr (served_respondPinentry d socket cookie response found)
    split
    · exact .inl ⟨_,by decide +kernel,rfl⟩
    split
    · exact .inl ⟨_,by decide +kernel,rfl⟩
    split
    · exact .inl ⟨_,by decide +kernel,rfl⟩
    · have submitted : Deeds d (d.log (.submitted cookie response)) := deeds_log d ⟨rfl,rfl⟩
      exact .inr (.quietly (submitted.trans
        (PolkitListener.strides_deeds (PolkitListener.strides_submitPassword d cookie response))))

theorem handleCancel_cases (d : Daemon) (socket : Socket) (msg : QJsonObject) :
    (d.isAuthorizedProviderSocket socket = false ∧ handleCancel d socket msg = d.sendJson socket (.error notActive)) ∨
    (d.isAuthorizedProviderSocket socket = true ∧
      ((∃ message, message ≠ notActive ∧ handleCancel d socket msg = d.sendJson socket (.error message)) ∨
        Served d socket (handleCancel d socket msg))) := by
  unfold handleCancel
  simp only
  generalize (msg.value (text "id")).toString = cookie
  cases d.isAuthorizedProviderSocket socket with
  | false => exact .inl ⟨rfl,rfl⟩
  | true =>
    refine .inr ⟨rfl,?_⟩
    simp only [Bool.not_true,Bool.false_eq_true,if_false]
    split
    · next pending =>
      obtain ⟨request,found⟩ := (Table.contains_iff _ _).mp pending
      exact .inr (served_cancelKeyring d socket cookie found)
    split
    · next known => exact .inr (served_cancelPinentry d socket cookie known)
    split
    · exact .inl ⟨_,by decide +kernel,rfl⟩
    split
    · exact .inl ⟨_,by decide +kernel,rfl⟩
    · exact .inr (.quietly (PolkitListener.strides_deeds (PolkitListener.strides_cancelPending d cookie)))

theorem handlePinentryResult_cases (d : Daemon) (socket : Socket) (msg : QJsonObject) :
    (∃ message, message ≠ notActive ∧ handlePinentryResult d socket msg = d.sendJson socket (.error message)) ∨
    Served d socket (handlePinentryResult d socket msg) := by
  unfold handlePinentryResult PinentryManager.handleResult
  simp only
  split
  · exact .inl ⟨_,by decide +kernel,rfl⟩
  split
  · exact .inl ⟨_,by decide +kernel,rfl⟩
  split
  · exact .inl ⟨_,by decide +kernel,rfl⟩
  split
  · exact .inl ⟨_,by decide +kernel,rfl⟩
  · exact .inr (.quietly (PinentryManager.deeds_applyOutcome d _ _ _))

-- What the daemon makes of one message of `socket`.
inductive Talk (d : Daemon) (socket : Socket) : Daemon → Prop where
  | refused (message : QString) (foreign : message = notActive → d.isAuthorizedProviderSocket socket = false) :
      Talk d socket (d.sendJson socket (.error message))
  | served (served : Served d socket e) : Talk d socket e
  | asked (deeds : Deeds d e) : Talk d socket e
  | pinged : Talk d socket (handlePing d socket)
  | subscribed : Talk d socket (handleSubscribe d socket)
  | waited : Talk d socket (handleNext d socket)
  | registered (msg : QJsonObject) : Talk d socket (handleUIRegister d socket msg)
  | beat (known : d.providerRegistry.contains socket = true) : Talk d socket (handleUIHeartbeat d socket)
  | unregistered (known : d.providerRegistry.contains socket = true) : Talk d socket (handleUIUnregister d socket)

theorem talk_handleUIHeartbeat (d : Daemon) (socket : Socket) : Talk d socket (handleUIHeartbeat d socket) := by
  cases known : d.providerRegistry.contains socket with
  | true => exact .beat known
  | false =>
    have refused : handleUIHeartbeat d socket = sendError d socket "Provider not registered" := by
      simp [handleUIHeartbeat,known]
    rw [refused]
    exact .refused _ (by intro same; exact absurd same (by decide +kernel))

theorem talk_handleUIUnregister (d : Daemon) (socket : Socket) : Talk d socket (handleUIUnregister d socket) := by
  cases known : d.providerRegistry.contains socket with
  | true => exact .unregistered known
  | false =>
    have refused : handleUIUnregister d socket = sendError d socket "Provider not registered" := by
      simp [handleUIUnregister,ProviderRegistry.unregisterProvider,known]
    rw [refused]
    exact .refused _ (by intro same; exact absurd same (by decide +kernel))

theorem talk_handleMessage (d : Daemon) (socket : Socket) (type : QString) (msg : QJsonObject) :
    Talk d socket (handleMessage d socket type msg) := by
  unfold handleMessage
  split
  · exact .refused _ (by intro same; exact absurd same (by decide +kernel))
  · next handler found =>
    cases handler with
    | ping => exact .pinged
    | subscribe => exact .subscribed
    | next => exact .waited
    | keyringRequest => exact .asked (KeyringManager.deeds_handleRequest d msg socket _)
    | pinentryRequest => exact .asked (PinentryManager.deeds_handleRequest d msg socket _)
    | pinentryResult =>
      rcases handlePinentryResult_cases d socket msg with ⟨message,other,refused⟩ | served
      · rw [dispatch,refused]
        exact .refused message (fun same => absurd same other)
      · exact .served served
    | uiRegister => exact .registered msg
    | uiHeartbeat => exact talk_handleUIHeartbeat d socket
    | uiUnregister => exact talk_handleUIUnregister d socket
    | respond =>
      rcases handleRespond_cases d socket msg with ⟨foreign,refused⟩ | ⟨_,⟨message,other,refused⟩ | served⟩
      · rw [dispatch,refused]
        exact .refused notActive (fun _ => foreign)
      · rw [dispatch,refused]
        exact .refused message (fun same => absurd same other)
      · exact .served served
    | cancel =>
      rcases handleCancel_cases d socket msg with ⟨foreign,refused⟩ | ⟨_,⟨message,other,refused⟩ | served⟩
      · rw [dispatch,refused]
        exact .refused notActive (fun _ => foreign)
      · rw [dispatch,refused]
        exact .refused message (fun same => absurd same other)
      · exact .served served

-- What has no handler of its own in the registry or the queue is done with, and
-- then answered.
def Obliged (d e : Daemon) : Prop := ∃ m messages, Deeds d m ∧ e = m.sendAll messages

theorem refused_obliged (d : Daemon) (socket : Socket) (message : Message) : Obliged d (d.sendJson socket message) :=
  ⟨d,[(socket,message)],.refl,rfl⟩

theorem served_obliged (served : Served d socket e) : Obliged d e := by
  cases served with
  | quietly deeds => exact ⟨_,[(socket,.ok none)],deeds,rfl⟩
  | keyring deeds asked gone answer => exact ⟨_,[(_,.response .keyring _ answer),(socket,.ok none)],deeds,rfl⟩
  | pinentry deeds asked gone answer => exact ⟨_,[(_,.response .pinentry _ answer),(socket,.ok none)],deeds,rfl⟩

def Handler.serving : Handler → Bool
  | .subscribe | .next | .uiRegister | .uiHeartbeat | .uiUnregister => false
  | _ => true

theorem dispatch_obliged (d : Daemon) (socket : Socket) (handler : Handler) (msg : QJsonObject)
    (serving : handler.serving = true) : Obliged d (dispatch d socket handler msg) := by
  cases handler with
  | ping => exact refused_obliged d socket _
  | subscribe | next | uiRegister | uiHeartbeat | uiUnregister => cases serving
  | keyringRequest => exact ⟨_,[],KeyringManager.deeds_handleRequest d msg socket _,rfl⟩
  | pinentryRequest => exact ⟨_,[],PinentryManager.deeds_handleRequest d msg socket _,rfl⟩
  | pinentryResult =>
    rcases handlePinentryResult_cases d socket msg with ⟨message,_,refused⟩ | served
    · rw [dispatch,refused]
      exact refused_obliged d socket _
    · exact served_obliged served
  | respond =>
    rcases handleRespond_cases d socket msg with ⟨_,refused⟩ | ⟨_,⟨message,_,refused⟩ | served⟩
    · rw [dispatch,refused]
      exact refused_obliged d socket _
    · rw [dispatch,refused]
      exact refused_obliged d socket _
    · exact served_obliged served
  | cancel =>
    rcases handleCancel_cases d socket msg with ⟨_,refused⟩ | ⟨_,⟨message,_,refused⟩ | served⟩
    · rw [dispatch,refused]
      exact refused_obliged d socket _
    · rw [dispatch,refused]
      exact refused_obliged d socket _
    · exact served_obliged served

-- The first half of onClientDisconnected: the socket hears nothing more and
-- provides nothing more.
def forgetProvider (d : Daemon) (socket : Socket) : Daemon :=
  let d := {d with subscribers:=d.subscribers.erase socket}
  let (removed,registry) := d.providerRegistry.removeSocket socket
  let d := d.withProviderRegistry registry
  let d := if removed then d.refreshActiveProvider else d
  d.withEventQueue (d.eventQueue.removeWaiter socket)

theorem deeds_fallback (d : Daemon) (reason : QString) :
    Deeds d (if !d.hasActiveProvider && !d.sessionStore.isEmpty then d.ensureFallbackUiRunning reason else d) := by
  split
  · exact Daemon.deeds_ensureFallbackUiRunning d reason
  · exact .refl

theorem deeds_onClientDisconnected (d : Daemon) (socket : Socket) :
    Deeds (forgetProvider d socket) (onClientDisconnected d socket) :=
  (KeyringManager.deeds_cleanupForSocket (forgetProvider d socket) socket).trans <|
    (PinentryManager.deeds_cleanupForSocket _ socket).trans (deeds_fallback _ _)

end Agent

end BbAuth
