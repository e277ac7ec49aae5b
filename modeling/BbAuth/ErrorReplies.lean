import BbAuth.Deeds

open Library
namespace BbAuth

namespace Daemon

-- The daemon goes on without saying error to anyone.
def Serves (d e : Daemon) : Prop :=
  ∃ new, e.front.deliveries = new ++ d.front.deliveries ∧ ∀ delivery ∈ new, Agent.isError delivery.2 = false

theorem Serves.trans (first : Serves d m) (second : Serves m e) : Serves d e := by
  obtain ⟨one,before,served⟩ := first
  obtain ⟨two,after,later⟩ := second
  refine ⟨two ++ one,by rw [after,before,List.append_assoc],?_⟩
  intro delivery present
  rcases List.mem_append.mp present with new | old
  · exact later delivery new
  · exact served delivery old

theorem serves_same {d e : Daemon} (same : e.front.deliveries = d.front.deliveries) : Serves d e :=
  ⟨[],same,by simp⟩

theorem serves_sendAll (d : Daemon) (messages : List (Socket × Message))
    (kind : ∀ message ∈ messages, Agent.isError message.2 = false) : Serves d (d.sendAll messages) := by
  refine ⟨_,congrArg Front.deliveries (sendAll_front d messages),?_⟩
  intro delivery present
  exact kind delivery (List.mem_filter.mp (List.mem_reverse.mp present)).1

theorem serves_sendJson (d : Daemon) (socket : Socket) (kind : Agent.isError message = false) :
    Serves d (d.sendJson socket message) := by
  apply serves_sendAll d [(socket,message)]
  intro sent present
  cases List.mem_singleton.mp present
  exact kind

theorem serves_emitSessionEvent (d : Daemon) (event : SessionEvent) : Serves d (d.emitSessionEvent event) := by
  have logged : Serves d (d.log (.emitted event)) := serves_same rfl
  have queued (queue : EventQueue SessionEvent) :
      Serves (d.log (.emitted event)) ((d.log (.emitted event)).withEventQueue queue) := serves_same rfl
  unfold emitSessionEvent
  apply logged.trans ((queued _).trans (serves_sendAll _ _ _))
  intro message present
  obtain ⟨delivery,_,rfl⟩ := List.mem_map.mp present
  rfl

theorem serves_emitProviderStatus (d : Daemon) : Serves d d.emitProviderStatus := by
  unfold emitProviderStatus
  apply serves_sendAll
  intro message present
  obtain ⟨socket,_,rfl⟩ := List.mem_map.mp present
  rfl

theorem serves_recomputeActiveProvider (d : Daemon) : Serves d d.recomputeActiveProvider.2 := serves_same rfl

theorem serves_refreshActiveProvider (d : Daemon) : Serves d d.refreshActiveProvider := by
  unfold refreshActiveProvider
  simp only
  split
  · exact (serves_recomputeActiveProvider d).trans (serves_emitProviderStatus _)
  · exact serves_recomputeActiveProvider d

theorem serves_ensureFallbackUiRunning (d : Daemon) (reason : QString) : Serves d (d.ensureFallbackUiRunning reason) :=
  serves_same (congrArg Front.deliveries (front_ensureFallbackUiRunning d reason))

theorem serves_withSessionStore (d : Daemon) (store : SessionStore) : Serves d (d.withSessionStore store) :=
  serves_same rfl

theorem serves_deed (deed : Deed d e) : Serves d e := by
  cases deed with
  | quiet same => exact serves_same (congrArg Front.deliveries same)
  | created id source ctx =>
    have emitted (event : SessionEvent) (store : SessionStore) :=
      (serves_withSessionStore d store).trans (serves_emitSessionEvent _ event)
    unfold createSession
    simp only
    split
    · exact (emitted _ _).trans (serves_ensureFallbackUiRunning _ _)
    · exact emitted _ _
  | updated id change alike =>
    unfold emitUpdated
    split
    · exact serves_same rfl
    · exact (serves_withSessionStore d _).trans (serves_emitSessionEvent _ _)
  | counted id curRetry maxRetries =>
    unfold updateSessionPinentryRetry
    split <;> exact serves_same rfl
  | closed id result =>
    unfold closeSession
    split
    · exact serves_same rfl
    · next event store closed =>
      apply Serves.trans _ (serves_emitSessionEvent _ _)
      split
      · exact (serves_withSessionStore d store).trans (serves_refreshActiveProvider _)
      · exact serves_withSessionStore d store
  | completed id success =>
    unfold onSessionComplete
    split
    · exact serves_same rfl
    · next event store closed =>
      have emitted := (serves_withSessionStore d store).trans (serves_emitSessionEvent _ event)
      simp only
      split
      · exact emitted.trans (serves_refreshActiveProvider _)
      · exact emitted

theorem serves_deeds (deeds : Deeds d e) : Serves d e :=
  deeds.invariant (P := fun e => Serves d e) (fun _ _ deed served => served.trans (serves_deed deed)) (serves_same rfl)

theorem served_serves (served : Served d socket e) : Serves d e := by
  cases served with
  | quietly deeds => exact (serves_deeds deeds).trans (serves_sendJson _ socket rfl)
  | keyring deeds asked gone answer | pinentry deeds asked gone answer =>
    exact (serves_deeds deeds).trans ((serves_sendJson _ _ rfl).trans (serves_sendJson _ socket rfl))

end Daemon

namespace Agent

open Daemon (Serves served_serves serves_sendJson serves_sendAll serves_same serves_deeds serves_refreshActiveProvider
  serves_emitProviderStatus serves_ensureFallbackUiRunning)

theorem serves_handleSubscribe (d : Daemon) (socket : Socket) : Serves d (handleSubscribe d socket) := by
  have replayed (e : Daemon) : Serves e (e.sendAll (d.sessionStore.toList.flatMap (fun entry =>
      [(socket,Message.event entry.2.toCreatedEvent),(socket,Message.event entry.2.toUpdatedEvent)]))) := by
    apply serves_sendAll
    intro message present
    obtain ⟨entry,_,listed⟩ := List.mem_flatMap.mp present
    rcases List.mem_pair.mp listed with rfl | rfl <;> rfl
  have enlisted : Serves d {d with subscribers:=d.subscribers ++ [socket]} := serves_same rfl
  unfold handleSubscribe
  apply Serves.trans _ (serves_sendJson _ _ rfl)
  split <;> split
  · exact replayed d
  · exact serves_same rfl
  · exact enlisted.trans (replayed _)
  · exact enlisted

theorem serves_handleNext (d : Daemon) (socket : Socket) : Serves d (handleNext d socket) := by
  unfold handleNext
  split
  · exact serves_same rfl
  · exact Serves.trans (serves_same rfl) (serves_sendJson _ socket rfl)

theorem serves_handleUIRegister (d : Daemon) (socket : Socket) (msg : QJsonObject) :
    Serves d (handleUIRegister d socket msg) := by
  have elected (nowMs : Daemon) (registry : ProviderRegistry) (same : nowMs.trace = d.trace) :
      Serves d (nowMs.withProviderRegistry registry).recomputeActiveProvider.2 :=
    serves_same (congrArg (List.filterMap Effect.delivery) same)
  unfold handleUIRegister
  simp only
  have replied (message : Message) (kind : isError message = false) := Serves.trans (elected d.nowMs.2
    (d.providerRegistry.registerProvider socket msg d.nowMs.2.env.uuid d.nowMs.1).2 rfl)
    (serves_sendJson _ socket kind)
  split
  · exact (replied _ rfl).trans (serves_emitProviderStatus _)
  · exact replied _ rfl

theorem serves_handleUIHeartbeat (d : Daemon) (socket : Socket) (known : d.providerRegistry.contains socket = true) :
    Serves d (handleUIHeartbeat d socket) := by
  have ticked (registry : ProviderRegistry) : Serves d (d.nowMs.2.withProviderRegistry registry) := serves_same rfl
  unfold handleUIHeartbeat
  simp only [known,Bool.not_true,Bool.false_eq_true,if_false]
  exact (ticked _).trans <| (serves_refreshActiveProvider _).trans (serves_sendJson _ _ rfl)

theorem serves_handleUIUnregister (d : Daemon) (socket : Socket) (known : d.providerRegistry.contains socket = true) :
    Serves d (handleUIUnregister d socket) := by
  have forgotten (registry : ProviderRegistry) : Serves d (d.withProviderRegistry registry) := serves_same rfl
  have replied (registry : ProviderRegistry) := (forgotten registry).trans <| (serves_refreshActiveProvider _).trans
    (serves_sendJson _ socket (rfl : isError (.ok none) = false))
  unfold handleUIUnregister
  simp only [ProviderRegistry.unregisterProvider,known]
  split
  · exact (replied _).trans (serves_ensureFallbackUiRunning _ _)
  · exact replied _

theorem talk_cases (talk : Talk d socket e) :
    (∃ message, e = d.sendJson socket (.error message)) ∨ Serves d e := by
  cases talk with
  | refused message foreign => exact .inl ⟨message,rfl⟩
  | served served => exact .inr (served_serves served)
  | asked deeds => exact .inr (serves_deeds deeds)
  | pinged => exact .inr (serves_sendJson d socket rfl)
  | subscribed => exact .inr (serves_handleSubscribe d socket)
  | waited => exact .inr (serves_handleNext d socket)
  | registered msg => exact .inr (serves_handleUIRegister d socket msg)
  | beat known => exact .inr (serves_handleUIHeartbeat d socket known)
  | unregistered known => exact .inr (serves_handleUIUnregister d socket known)

end Agent

namespace Daemon

theorem keeps_sendJson (d : Daemon) (socket : Socket) (message : Message) :
    (d.sendJson socket message).toCAgent = d.toCAgent ∧ (d.sendJson socket message).sockets = d.sockets := by
  unfold sendJson
  split <;> exact ⟨rfl,rfl⟩

-- If a message is answered with an error, then the answer is all that is sent,
-- and every member of the agent is as it was.
theorem error_reply_changes_nothing (d : Daemon) (env : Env) (socket : Socket) (type : QString) (msg : QJsonObject) :
    let after := daemon.step d ⟨env,.message socket type msg⟩
    ∃ new, after.front.deliveries = new ++ d.front.deliveries ∧
      ((∃ message, (socket,Message.error message) ∈ new) →
        after.toCAgent = d.toCAgent ∧ after.sockets = d.sockets ∧ ∃ message, new = [(socket,.error message)]) := by
  have stepped : daemon.step d ⟨env,.message socket type msg⟩ = Agent.handleMessage {d with env} socket type msg := rfl
  simp only [stepped]
  rcases Agent.talk_cases (Agent.talk_handleMessage {d with env} socket type msg) with ⟨message,refused⟩ | served
  · rw [refused]
    obtain ⟨members,sockets⟩ := keeps_sendJson {d with env} socket (.error message)
    refine ⟨_,congrArg Front.deliveries (sendJson_front {d with env} socket (.error message)),?_⟩
    rintro ⟨other,present⟩
    refine ⟨members,sockets,message,?_⟩
    split
    · rfl
    · next unreachable =>
      rw [if_neg unreachable] at present
      cases present
  · obtain ⟨new,grown,kind⟩ := served
    refine ⟨new,grown,?_⟩
    rintro ⟨message,present⟩
    cases kind _ present

def oneProvider : List Input :=
  [.quiet (.connected 7),
   .quiet (.connected 8),
   .say 1 "ui.register" [("kind","quickshell")],
   .say 0 "keyring_request" [("cookie","k"),("title","Unlock")]]

-- The response of a socket that is not the active provider.
theorem outsider_changes_nothing :
    let d := daemon.run oneProvider
    (daemon.step d (.say 0 "session.respond" [("id","k"),("response","x")])).toCAgent = d.toCAgent := by
  obtain ⟨new,grown,nothing⟩ := error_reply_changes_nothing (daemon.run oneProvider) .quiet 0 (text "session.respond")
    (.ofList [(text "id",.string (text "k")),(text "response",.string (text "x"))])
  have said : (daemon.step (daemon.run oneProvider) (.say 0 "session.respond" [("id","k"),("response","x")])).front.deliveries =
      [(0,.error notActive)] ++ (daemon.run oneProvider).front.deliveries := by decide +kernel
  have same : new = [(0,.error notActive)] := List.append_cancel_right (grown.symm.trans said)
  exact (nothing ⟨notActive,same ▸ List.mem_cons_self⟩).1

end Daemon

end BbAuth
