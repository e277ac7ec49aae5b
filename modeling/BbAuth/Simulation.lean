import BbAuth.Core

open Library
namespace BbAuth

namespace KeyringManager

theorem core_handleRequest (d : Daemon) (msg : QJsonObject) (socket : Socket) (peerPid : Pid) :
    (handleRequest d msg socket peerPid).core =
      d.core.keyringRequest (parseKeyringRequest msg (d.env.effectiveCookie msg) socket peerPid)
        (d.env.resolveActorForPid peerPid) := by
  simp only [handleRequest,setPending,Daemon.core_updateSessionPrompt,Daemon.core_createSession,
    Daemon.core_withKeyringManager,Daemon.core_log]
  rfl

theorem core_conclude (d : Daemon) (cookie : QString) (result : Result) (answer : Answer) :
    (Agent.replyTo (conclude d cookie result answer).2 (getSocketForRequest d.keyringManager cookie)
      (conclude d cookie result answer).1).core = d.core.keyringConclude cookie result answer := by
  unfold conclude getSocketForRequest Core.keyringConclude
  rw [Daemon.core_keyringManager]
  cases d.keyringManager.pendingRequests.find cookie with
  | none => rfl
  | some request =>
    simp only [Option.map_some,Agent.replyTo,setPending,Daemon.core_answer,Daemon.core_closeSession,
      Daemon.core_withKeyringManager]

theorem core_cleanupForSocket (d : Daemon) (socket : Socket) :
    (cleanupForSocket d socket).core = d.core.keyringDisconnect socket := by
  unfold cleanupForSocket Core.keyringDisconnect
  generalize entries : d.keyringManager.pendingRequests.toList.filter (fun entry => entry.2.socket = socket) = list
  have same : d.core.keyringManager.pendingRequests.toList.filter (fun entry => entry.2.socket = socket) = list :=
    entries
  rw [same]
  clear entries same
  induction list generalizing d with
  | nil => rfl
  | cons entry rest ih =>
    simp only [List.foldl_cons]
    rw [ih]
    congr 1
    simp only [setPending,Daemon.core_closeSession,Daemon.core_withKeyringManager]
    rfl

end KeyringManager

namespace PinentryManager

theorem core_hasPinentrySession (d : Daemon) (cookie : QString) :
    hasPinentrySession d cookie = d.core.hasPinentrySession cookie := rfl

theorem core_closeFlow (d : Daemon) (cookie : QString) (result : Result) (error : QString) :
    (closeFlow d cookie result error).core = d.core.closeFlow cookie result error := by
  unfold closeFlow Core.closeFlow Core.endPinentrySession
  rw [core_hasPinentrySession]
  have manager : ∀ e : Daemon, e.pinentryManager = e.core.pinentryManager := fun _ => rfl
  simp only [Daemon.core_withPinentryManager,manager]
  cases d.core.hasPinentrySession cookie with
  | false => rfl
  | true => cases error.isEmpty <;> simp

theorem core_reportRetry (d : Daemon) (request : PinentryRequest) :
    (reportRetry d request).core = d.core.reportRetry request := by
  unfold reportRetry Core.reportRetry
  change _ = if isAwaitingOutcome d.pinentryManager request.cookie = true then _ else _
  split
  · simp only [Daemon.core_updateSessionError,Daemon.core_withPinentryManager]; rfl
  · rfl

theorem core_present (d : Daemon) (request : PinentryRequest) (actor : ActorInfo) (retry : Int × Int)
    (sessionExists : Bool) :
    (present d request actor retry sessionExists).core = d.core.present request actor retry sessionExists := by
  unfold present Core.present
  cases sessionExists <;> simp

theorem core_reportRequestError (d : Daemon) (request : PinentryRequest) :
    (reportRequestError d request).core = d.core.reportRequestError request := by
  unfold reportRequestError Core.reportRequestError
  have manager : d.core.pinentryManager = d.pinentryManager := rfl
  simp only [manager]
  split
  · simp only [Daemon.core_updateSessionError,Daemon.core_withPinentryManager]
  · rfl

theorem core_handleRequest (d : Daemon) (msg : QJsonObject) (socket : Socket) (peerPid : Pid) :
    (handleRequest d msg socket peerPid).core =
      d.core.pinentryRequest
        {parsePinentryRequest msg socket peerPid with cookie:=d.env.effectiveCookie msg}
        (d.env.resolveActorForPid peerPid) := by
  unfold handleRequest Core.pinentryRequest
  have manager : ∀ e : Daemon, e.pinentryManager = e.core.pinentryManager := fun _ => rfl
  have sessions : ∀ e : Daemon, ∀ id, e.getSession id = e.core.sessionStore.find id := fun _ _ => rfl
  simp only [apply_ite Daemon.core,manager,sessions,core_reportRequestError,core_present,core_reportRetry,
    Daemon.core_withPinentryManager,Daemon.core_log,Effect.routine,Bool.false_eq_true,if_false]
  rfl

theorem core_timeout (d : Daemon) (timer : Timer) : (timeout d timer).core = d.core.timeout timer := by
  unfold timeout Core.timeout
  rw [Daemon.core_pinentryManager]
  cases d.pinentryManager.timers.find timer with
  | none => rfl
  | some cookie => exact core_closeFlow _ _ _ _

theorem core_applyOutcome (d : Daemon) (cookie : QString) (outcome : Outcome) (error : QString) :
    (applyOutcome d cookie outcome error).core = d.core.applyOutcome cookie outcome error := by
  cases outcome with
  | retry => exact Daemon.core_updateSessionError _ _ _
  | success | cancelled | error => exact core_closeFlow _ _ _ _

theorem core_cleanupForSocket (d : Daemon) (socket : Socket) :
    (cleanupForSocket d socket).core = d.core.pinentryDisconnect socket := by
  have each (cookies : List QString) (e : Daemon) :
      (cookies.foldl (fun d cookie => closeFlow d cookie .cancelled (text "Pinentry disconnected")) e).core =
        cookies.foldl Core.pinentryForget e.core := by
    induction cookies generalizing e with
    | nil => rfl
    | cons cookie rest ih => simp only [List.foldl_cons,ih,core_closeFlow]; rfl
  exact each _ _

end PinentryManager

namespace Agent

theorem core_sendError (d : Daemon) (socket : Socket) (message : String) :
    (sendError d socket message).core = d.core := Daemon.core_sendJson d socket _ rfl

theorem core_acknowledged (d : Daemon) (socket : Socket) (active : Option Bool) :
    (d.sendJson socket (.ok active)).core = d.core := Daemon.core_sendJson d socket _ rfl

theorem core_respondKeyring (d : Daemon) (socket : Socket) (cookie response : QString) :
    (respondKeyring d socket cookie response).core = d.core.keyringConclude cookie .success (.ok response) :=
  (core_acknowledged _ _ _).trans (KeyringManager.core_conclude d cookie .success (.ok response))

theorem core_cancelKeyring (d : Daemon) (socket : Socket) (cookie : QString) :
    (cancelKeyring d socket cookie).core = d.core.keyringConclude cookie .cancelled .cancelled :=
  (core_acknowledged _ _ _).trans (KeyringManager.core_conclude d cookie .cancelled .cancelled)

theorem core_respondPinentry (d : Daemon) (socket : Socket) (cookie response : QString)
    (pending : PinentryManager.hasPendingInput d.pinentryManager cookie = true) :
    (respondPinentry d socket cookie response).core = d.core.pinentryRespond cookie response := by
  obtain ⟨request,found⟩ := (Table.contains_iff _ _).mp pending
  unfold Core.pinentryRespond
  rw [Daemon.core_pinentryManager]
  simp only [respondPinentry,PinentryManager.getSocketForPendingInput,PinentryManager.handleResponse,found,
    Option.map_some,isError,Bool.false_eq_true,if_false,core_acknowledged,Daemon.core_answer,
    Daemon.core_withPinentryManager]

theorem core_cancelPinentry (d : Daemon) (socket : Socket) (cookie : QString)
    (known : PinentryManager.hasRequest d cookie = true) :
    (cancelPinentry d socket cookie).core = d.core.pinentryCancel cookie := by
  unfold Core.pinentryCancel
  rw [Daemon.core_pinentryManager]
  simp only [cancelPinentry,PinentryManager.getSocketForPendingInput,PinentryManager.handleCancel,known,if_true,
    isError,Bool.false_eq_true,if_false,core_acknowledged]
  cases d.pinentryManager.pendingRequests.find cookie with
  | none => exact PinentryManager.core_closeFlow _ _ _ _
  | some request =>
    simp only [Option.map_some,replyTo,Daemon.core_answer,PinentryManager.core_closeFlow]

theorem core_handlePing (d : Daemon) (socket : Socket) : (handlePing d socket).core = d.core :=
  Daemon.core_sendJson d socket _ rfl

theorem core_handleNext (d : Daemon) (socket : Socket) : (handleNext d socket).core = d.core := by
  unfold handleNext
  split
  · rfl
  · exact (Daemon.core_sendJson _ socket _ rfl).trans rfl

theorem core_handleSubscribe (d : Daemon) (socket : Socket) : (handleSubscribe d socket).core = d.core := by
  unfold handleSubscribe
  apply (Daemon.core_sendJson _ socket _ rfl).trans
  have subscribed : ∀ subscribers, ({d with subscribers} : Daemon).core = d.core := fun _ => rfl
  have replayed : ∀ e : Daemon, (e.sendAll (d.sessionStore.toList.flatMap (fun entry =>
      [(socket,Message.event entry.2.toCreatedEvent),(socket,Message.event entry.2.toUpdatedEvent)]))).core = e.core := by
    intro e
    apply Daemon.core_sendAll
    intro message present
    obtain ⟨entry,_,listed⟩ := List.mem_flatMap.mp present
    rcases List.mem_pair.mp listed with rfl | rfl <;> rfl
  split <;> split
  · exact (replayed _).trans rfl
  · rfl
  · exact (replayed _).trans rfl
  · rfl

theorem core_handleUIRegister (d : Daemon) (socket : Socket) (msg : QJsonObject) :
    (handleUIRegister d socket msg).core = d.core := by
  unfold handleUIRegister
  simp only
  split
  · exact (Daemon.core_emitProviderStatus _).trans ((Daemon.core_sendJson _ socket _ rfl).trans rfl)
  · exact (Daemon.core_sendJson _ socket _ rfl).trans rfl

theorem core_handleUIHeartbeat (d : Daemon) (socket : Socket) : (handleUIHeartbeat d socket).core = d.core := by
  unfold handleUIHeartbeat
  split
  · exact core_sendError d socket _
  · exact (Daemon.core_sendJson _ socket _ rfl).trans ((Daemon.core_refreshActiveProvider _).trans rfl)

theorem core_handleUIUnregister (d : Daemon) (socket : Socket) : (handleUIUnregister d socket).core = d.core := by
  unfold handleUIUnregister
  split
  · exact core_sendError d socket _
  · next registry _ =>
    have acknowledged : (((d.withProviderRegistry registry).refreshActiveProvider).sendJson socket (.ok none)).core =
        d.core := (core_acknowledged _ _ _).trans ((Daemon.core_refreshActiveProvider _).trans rfl)
    simp only
    split
    · exact (Daemon.core_ensureFallbackUiRunning _ _).trans acknowledged
    · exact acknowledged

theorem core_pruneStaleProviders (d : Daemon) : (pruneStaleProviders d).core = d.core := by
  unfold pruneStaleProviders
  simp only [apply_ite Daemon.core,Daemon.core_ensureFallbackUiRunning,ite_self,Daemon.core_refreshActiveProvider]

theorem core_onClientDisconnected (d : Daemon) (socket : Socket) :
    (onClientDisconnected d socket).core = (d.core.keyringDisconnect socket).pinentryDisconnect socket := by
  have unsubscribed : ({d with subscribers:=d.subscribers.erase socket} : Daemon).core = d.core := rfl
  unfold onClientDisconnected
  simp only [apply_ite Daemon.core,Daemon.core_ensureFallbackUiRunning,ite_self,
    PinentryManager.core_cleanupForSocket,KeyringManager.core_cleanupForSocket,Daemon.core_withEventQueue,
    Daemon.core_refreshActiveProvider,Daemon.core_withProviderRegistry,unsubscribed]

end Agent

namespace Daemon

theorem core_setSocketState (d : Daemon) (socket : Socket) (state : LocalSocketState) :
    (d.setSocketState socket state).core = d.core.setSocketState socket state := by
  unfold setSocketState Core.setSocketState
  rw [core_sockets]
  cases d.sockets.find socket <;> rfl

theorem core_deleteSocket (d : Daemon) (socket : Socket) :
    (d.deleteSocket socket).core = d.core.deleteSocket socket := rfl

theorem core_disconnect (d : Daemon) (socket : Socket) : (d.disconnect socket).core = d.core.disconnect socket := by
  unfold disconnect Core.disconnect
  rw [core_deleteSocket,Agent.core_onClientDisconnected,core_setSocketState]

end Daemon

end BbAuth
