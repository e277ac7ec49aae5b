import BbAuth.ClientCalls

open Library
namespace BbAuth

variable {socket speaker : Socket} {f : Form} {d e m : Daemon}

open Daemon (Pays pays_front pays_reply pays_sendAll pays_registry pays_recompute pays_refresh pays_emitProviderStatus
  pays_fallback deeds_pay served_pays)

namespace Agent

theorem pays_unless (d : Daemon) (reason : QString) :
    Pays socket f 0 d (if !d.hasActiveProvider && !d.sessionStore.isEmpty then d.ensureFallbackUiRunning reason else d) := by
  split
  · exact pays_fallback d reason
  · exact .refl d

theorem pays_other (d : Daemon) (message : Message) (other : speaker ≠ socket) :
    Pays socket f 0 d (d.sendJson speaker message) := by
  apply (pays_reply d speaker message).le
  rw [if_neg (fun both => other both.1)]

theorem pays_handleSubscribe (d : Daemon) (other : speaker ≠ socket) : Pays socket f 0 d (handleSubscribe d speaker) := by
  have joined : Pays socket f 0 d
      (if d.subscribers.contains speaker then d else {d with subscribers:=d.subscribers ++ [speaker]}) := by
    intro apart
    split
    · exact ⟨apart,Nat.le_refl _⟩
    · refine ⟨⟨apart.absent,apart.inactive,?_⟩,Nat.le_refl _⟩
      intro listed
      rcases List.mem_append.mp listed with before | now
      · exact apart.silent before
      · exact other (List.mem_singleton.mp now).symm
  unfold handleSubscribe
  simp only
  generalize (if d.subscribers.contains speaker then d else {d with subscribers:=d.subscribers ++ [speaker]}) = m at *
  apply joined.after
  apply Pays.after _ (pays_other _ _ other)
  split
  · apply (pays_sendAll m _).le
    apply Nat.le_of_eq
    apply List.countP_eq_zero.mpr
    intro message present both
    obtain ⟨entry,_,listed⟩ := List.mem_flatMap.mp present
    have same := (of_decide_eq_true both).1
    rcases List.mem_pair.mp listed with rfl | rfl
    · exact other same
    · exact other same
  · exact .refl m

theorem pays_handleNext (d : Daemon) (speaker : Socket) :
    Pays socket f (if speaker = socket ∧ f = .event then 1 else 0) d (handleNext d speaker) := by
  unfold handleNext EventQueue.takeNext
  cases d.eventQueue.eventQueue with
  | nil =>
    intro apart
    refine ⟨⟨apart.absent,apart.inactive,apart.silent⟩,?_⟩
    have waiting : ((d.withEventQueue (d.eventQueue.subscribeNext speaker)).eventQueue.nextWaiters).countP (· = socket) =
        d.eventQueue.nextWaiters.countP (· = socket) + if speaker = socket then 1 else 0 := by
      unfold Daemon.withEventQueue EventQueue.subscribeNext
      rw [List.countP_append,List.countP_singleton]
      simp only [decide_eq_true_eq]
    unfold Daemon.due
    rw [show (d.withEventQueue (d.eventQueue.subscribeNext speaker)).front.deliveries = d.front.deliveries from rfl]
    by_cases event : f = .event
    · rw [if_pos event,if_pos event,waiting]
      simp only [event,and_true]
      omega
    · rw [if_neg event,if_neg event]
      omega
  | cons event rest =>
    have taken : Pays socket f 0 d (d.withEventQueue {d.eventQueue with eventQueue:=rest}) := fun apart =>
      ⟨⟨apart.absent,apart.inactive,apart.silent⟩,Nat.le_refl _⟩
    apply taken.after
    apply (pays_reply _ speaker (.event event)).le
    simp only [Message.form,eq_comm (a := Form.event)]
    exact Nat.le_refl _

theorem insert_absent {registry : ProviderRegistry} (provider : UIProvider) (other : speaker ≠ socket)
    (absent : registry.contains socket = false) :
    ProviderRegistry.contains {registry with uiProviders:=registry.uiProviders.insert speaker provider} socket = false := by
  unfold ProviderRegistry.contains Table.contains at *
  rw [Table.find_insert,if_neg (Ne.symm other)]
  exact absent

theorem pays_handleUIRegister (d : Daemon) (msg : QJsonObject) (other : speaker ≠ socket) :
    Pays socket f 0 d (handleUIRegister d speaker msg) := by
  have enrolled : Pays socket f 0 d ((d.nowMs.2.withProviderRegistry
      (d.nowMs.2.providerRegistry.registerProvider speaker msg d.nowMs.2.env.uuid d.nowMs.1).2).recomputeActiveProvider.2) := by
    apply Pays.after _ (pays_recompute _)
    apply (pays_front (d := d) (e := d.nowMs.2) rfl).after
    exact pays_registry d.nowMs.2 _ (insert_absent _ other) rfl
  unfold handleUIRegister
  simp only
  split
  · exact enrolled.after ((pays_other _ _ other).after (pays_emitProviderStatus _))
  · exact enrolled.after (pays_other _ _ other)

theorem pays_verdict (d : Daemon) (speaker : Socket) (message : Message) (verdict : message.form = .verdict) :
    Pays socket f (if speaker = socket ∧ f = .verdict then 1 else 0) d (d.sendJson speaker message) := by
  apply (pays_reply d speaker message).le
  rw [verdict]
  simp only [eq_comm (a := Form.verdict)]
  exact Nat.le_refl _

theorem pays_handleUIHeartbeat (d : Daemon) (speaker : Socket) :
    Pays socket f (if speaker = socket ∧ f = .verdict then 1 else 0) d (handleUIHeartbeat d speaker) := by
  unfold handleUIHeartbeat
  cases known : d.providerRegistry.contains speaker with
  | false => exact pays_verdict d speaker _ rfl
  | true =>
    intro apart
    have other : speaker ≠ socket := by
      intro same
      rw [same,apart.absent] at known
      cases known
    obtain ⟨old,found⟩ := (Table.contains_iff _ _).mp known
    have beaten : Pays socket f 0 d
        (d.nowMs.2.withProviderRegistry ((d.nowMs.2.providerRegistry.heartbeat speaker d.nowMs.1).getD
          d.nowMs.2.providerRegistry)).refreshActiveProvider := by
      apply Pays.after _ (pays_refresh _)
      apply (pays_front (d := d) (e := d.nowMs.2) rfl).after
      have beat : d.nowMs.2.providerRegistry.heartbeat speaker d.nowMs.1 =
          some {d.providerRegistry with
            uiProviders:=d.providerRegistry.uiProviders.insert speaker {old with lastHeartbeatMs:=d.nowMs.1}} := by
        have kept : d.nowMs.2.providerRegistry.uiProviders.find speaker = some old := found
        simp only [ProviderRegistry.heartbeat,kept]
        rfl
      rw [beat]
      exact pays_registry d.nowMs.2 _ (insert_absent _ other) rfl
    exact beaten.after (pays_verdict _ speaker (.ok _) rfl) apart

theorem remove_absent {registry : ProviderRegistry} (speaker : Socket) (absent : registry.contains socket = false) :
    (registry.unregisterProvider speaker).2.contains socket = false := by
  unfold ProviderRegistry.unregisterProvider ProviderRegistry.contains Table.contains at *
  rw [Table.find_remove]
  split
  · rfl
  · exact absent

theorem pays_handleUIUnregister (d : Daemon) (speaker : Socket) :
    Pays socket f (if speaker = socket ∧ f = .verdict then 1 else 0) d (handleUIUnregister d speaker) := by
  unfold handleUIUnregister
  cases unregistered : d.providerRegistry.unregisterProvider speaker with
  | mk known registry =>
    cases known with
    | false => exact pays_verdict d speaker _ rfl
    | true =>
      have left : Pays socket f 0 d (d.withProviderRegistry registry) := by
        apply pays_registry d registry
        · intro absent
          have removed : (d.providerRegistry.unregisterProvider speaker).2.contains socket = false := remove_absent speaker absent
          rw [unregistered] at removed
          exact removed
        · have leader : (d.providerRegistry.unregisterProvider speaker).2.activeProvider =
              d.providerRegistry.activeProvider := rfl
          rw [unregistered] at leader
          exact leader
      have told := (left.after (pays_refresh _)).after (pays_verdict (f := f) _ speaker (.ok none) rfl)
      exact told.trans (pays_unless _ _)

theorem pays_handlePinentryResult (d : Daemon) (speaker : Socket) (msg : QJsonObject)
    (other : ∀ kind cookie, f ≠ .response kind cookie) :
    Pays socket f (if speaker = socket ∧ f = .verdict then 1 else 0) d (handlePinentryResult d speaker msg) := by
  rcases handlePinentryResult_cases d speaker msg with ⟨message,_,refused⟩ | served
  · rw [refused]
    exact pays_verdict d speaker _ rfl
  · exact served_pays served other

theorem pays_handleRespond (d : Daemon) (speaker : Socket) (msg : QJsonObject)
    (other : ∀ kind cookie, f ≠ .response kind cookie) :
    Pays socket f (if speaker = socket ∧ f = .verdict then 1 else 0) d (handleRespond d speaker msg) := by
  rcases handleRespond_cases d speaker msg with ⟨_,refused⟩ | ⟨_,⟨message,_,refused⟩ | served⟩
  · rw [refused]
    exact pays_verdict d speaker _ rfl
  · rw [refused]
    exact pays_verdict d speaker _ rfl
  · exact served_pays served other

theorem pays_handleCancel (d : Daemon) (speaker : Socket) (msg : QJsonObject)
    (other : ∀ kind cookie, f ≠ .response kind cookie) :
    Pays socket f (if speaker = socket ∧ f = .verdict then 1 else 0) d (handleCancel d speaker msg) := by
  rcases handleCancel_cases d speaker msg with ⟨_,refused⟩ | ⟨_,⟨message,_,refused⟩ | served⟩
  · rw [refused]
    exact pays_verdict d speaker _ rfl
  · rw [refused]
    exact pays_verdict d speaker _ rfl
  · exact served_pays served other

-- A message is answered once, in the form it calls for. A request may be
-- answered later.
theorem pays_dispatch (d : Daemon) (speaker : Socket) (handler : Handler) (env : Env) (msg : QJsonObject)
    (other : ∀ kind cookie, f ≠ .response kind cookie) (plain : speaker = socket → handler.call env msg ≠ .news) :
    Pays socket f (if speaker = socket ∧ handler.call env msg = f then 1 else 0) d (dispatch d speaker handler msg) := by
  have foreign (news : handler.call env msg = .news) : speaker ≠ socket := fun same => plain same news
  have verdict {e : Daemon} (pays : Pays socket f (if speaker = socket ∧ f = .verdict then 1 else 0) d e) :
      Pays socket f (if speaker = socket ∧ Form.verdict = f then 1 else 0) d e := by
    simp only [eq_comm (a := Form.verdict)]
    exact pays
  cases handler with
  | ping => exact pays_reply d speaker (.pong _)
  | subscribe => exact (pays_handleSubscribe d (foreign rfl)).le (Nat.zero_le _)
  | next =>
    apply (pays_handleNext d speaker).le
    simp only [Handler.call,eq_comm (a := Form.event)]
    exact Nat.le_refl _
  | keyringRequest => exact (deeds_pay (KeyringManager.deeds_handleRequest d msg speaker _)).le (Nat.zero_le _)
  | pinentryRequest => exact (deeds_pay (PinentryManager.deeds_handleRequest d msg speaker _)).le (Nat.zero_le _)
  | pinentryResult => exact verdict (pays_handlePinentryResult d speaker msg other)
  | uiRegister => exact (pays_handleUIRegister d msg (foreign rfl)).le (Nat.zero_le _)
  | uiHeartbeat => exact verdict (pays_handleUIHeartbeat d speaker)
  | uiUnregister => exact verdict (pays_handleUIUnregister d speaker)
  | respond => exact verdict (pays_handleRespond d speaker msg other)
  | cancel => exact verdict (pays_handleCancel d speaker msg other)

theorem pays_forgetProvider (d : Daemon) (speaker : Socket) : Pays socket f 0 d (forgetProvider d speaker) := by
  have gone : Pays socket f 0 d ({d with subscribers:=d.subscribers.erase speaker} : Daemon) := fun apart =>
    ⟨⟨apart.absent,apart.inactive,fun listed => apart.silent (List.mem_of_mem_erase listed)⟩,Nat.le_refl _⟩
  have removed (m : Daemon) :
      Pays socket f 0 m (m.withProviderRegistry (m.providerRegistry.removeSocket speaker).2) :=
    pays_registry m _ (remove_absent speaker) rfl
  have left (m : Daemon) : Pays socket f 0 m (m.withEventQueue (m.eventQueue.removeWaiter speaker)) := by
    intro apart
    refine ⟨⟨apart.absent,apart.inactive,apart.silent⟩,?_⟩
    have fewer : (m.eventQueue.removeWaiter speaker).nextWaiters.countP (· = socket) ≤
        m.eventQueue.nextWaiters.countP (· = socket) := List.filter_sublist.countP_le
    unfold Daemon.due
    rw [show (m.withEventQueue (m.eventQueue.removeWaiter speaker)).front.deliveries = m.front.deliveries from rfl,
      show (m.withEventQueue (m.eventQueue.removeWaiter speaker)).eventQueue = m.eventQueue.removeWaiter speaker from rfl]
    split
    · omega
    · omega
  unfold forgetProvider
  simp only
  apply Pays.after _ (left _)
  split
  · exact gone.after ((removed _).after (pays_refresh _))
  · exact gone.after (removed _)

end Agent

namespace Daemon

theorem pays_setSocketState (d : Daemon) (speaker : Socket) (state : LocalSocketState) :
    Pays socket f 0 d (d.setSocketState speaker state) := by
  unfold setSocketState
  split
  · exact .refl d
  · exact fun apart => ⟨⟨apart.absent,apart.inactive,apart.silent⟩,Nat.le_refl _⟩

theorem pays_disconnect (d : Daemon) (speaker : Socket) : Pays socket f 0 d (d.disconnect speaker) := by
  have deleted (m : Daemon) : Pays socket f 0 m (m.deleteSocket speaker) := by
    intro apart
    refine ⟨⟨apart.absent,?_,apart.silent⟩,Nat.le_refl _⟩
    unfold deleteSocket
    simp only
    split
    · exact nofun
    · exact apart.inactive
  exact (pays_setSocketState d speaker .unconnected).after <| (Agent.pays_forgetProvider _ speaker).after <|
    (deeds_pay (Agent.deeds_onClientDisconnected _ speaker)).after (deleted _)

theorem step_pays (d : Daemon) (input : Input) (other : ∀ kind cookie, f ≠ .response kind cookie)
    (plain : ¬input.enlists socket) :
    Pays socket f (if input.call socket = some f then 1 else 0) d (daemon.step d input) := by
  obtain ⟨env,event⟩ := input
  have arranged : Pays socket f 0 d {d with env} := fun apart => ⟨⟨apart.absent,apart.inactive,apart.silent⟩,Nat.le_refl _⟩
  apply arranged.after
  change Pays socket f _ _ (({d with env} : Daemon).handle event)
  generalize ({d with env} : Daemon) = d
  have nothing {e : Daemon} (deeds : Deeds d e) {n : Nat} : Pays socket f n d e := (deeds_pay deeds).le (Nat.zero_le _)
  cases event with
  | connected peerPid => exact fun apart => ⟨⟨apart.absent,apart.inactive,apart.silent⟩,Nat.le_add_right _ _⟩
  | socketState speaker state => exact (pays_setSocketState d speaker state).le (Nat.zero_le _)
  | message speaker type msg =>
    have called (form : Form) (calls : Agent.call env type msg = form) :
        Input.call socket ⟨env,.message speaker type msg⟩ = if speaker = socket then some form else none := by
      subst calls
      rfl
    change Pays socket f _ d (Agent.handleMessage d speaker type msg)
    unfold Agent.handleMessage
    cases found : Agent.handlers.lookup type with
    | none =>
      have calls : Agent.call env type msg = .verdict := by simp only [Agent.call,found]
      apply (Agent.pays_verdict d speaker _ rfl).le
      rw [called _ calls]
      by_cases same : speaker = socket
      · simp only [same,if_true,true_and,Option.some.injEq,eq_comm (a := Form.verdict)]
        exact Nat.le_refl _
      · simp [same]
    | some handler =>
      have calls : Agent.call env type msg = handler.call env msg := by simp only [Agent.call,found]
      apply (Agent.pays_dispatch d speaker handler env msg other ?_).le
      · rw [called _ calls]
        by_cases same : speaker = socket
        · simp [same]
        · simp [same]
      · intro same news
        apply plain
        unfold Input.enlists
        rw [called _ calls,if_pos same,news]
  | disconnected speaker => exact (pays_disconnect d speaker).le (Nat.zero_le _)
  | initiateAuthentication actionId message iconName details cookie identities =>
    exact nothing (PolkitListener.deeds_initiateAuthentication d _ _ _ _ _ _)
  | polkitSignal session signal => exact nothing (PolkitListener.strides_deeds (PolkitListener.strides_signal d _ _))
  | cancelAuthentication => exact nothing (PolkitListener.strides_deeds (PolkitListener.strides_cancelAuthentication d))
  | timeout timer => exact nothing (PinentryManager.deeds_timeout d timer)
  | maintenance => exact ((pays_refresh d).after (Agent.pays_unless _ _)).le (Nat.zero_le _)

theorem request_calls (d : Daemon) (input : Input) (asks : (d.action input).request = some key) :
    input.call key.socket = some (.response key.kind key.cookie) := by
  obtain ⟨env,event⟩ := input
  unfold action Input.kind at asks
  cases event with
  | message speaker type msg =>
    simp only at asks
    have called {form : Form} (calls : Agent.call env type msg = form) :
        Input.call speaker ⟨env,.message speaker type msg⟩ = some form := by
      subst calls
      exact if_pos rfl
    cases found : Agent.handlers.lookup type with
    | none => rw [found] at asks; cases asks
    | some handler =>
      rw [found] at asks
      cases handler with
      | keyringRequest | pinentryRequest =>
        cases asks
        apply called
        unfold Agent.call
        rw [found]
        rfl
      | pinentryResult =>
        simp only [resultAction] at asks
        repeat' split at asks
        all_goals cases asks
      | respond =>
        simp only [respondAction] at asks
        repeat' split at asks
        all_goals cases asks
      | cancel =>
        simp only [cancelAction] at asks
        repeat' split at asks
        all_goals cases asks
      | ping | subscribe | next | uiRegister | uiHeartbeat | uiUnregister => cases asks
  | initiateAuthentication actionId message iconName details cookie identities =>
    simp only at asks
    split at asks <;> cases asks
  | connected | socketState | disconnected | polkitSignal | cancelAuthentication | timeout | maintenance => cases asks

theorem step_asked (d : Daemon) (input : Input) (allowed : daemon.enabled d input) (key : RequestKey) :
    asked key (daemon.step d input).trace ≤ asked key d.trace +
      if input.call key.socket = some (.response key.kind key.cookie) then 1 else 0 := by
  have acts := acts_step d input allowed
  rw [← asked_core,← asked_core]
  generalize (daemon.step d input).core = e at *
  cases asks : (d.action input).request with
  | some other =>
    obtain ⟨pid,notes⟩ := Core.acts_asks acts asks
    rw [Core.asked_besides notes,Core.asked_log]
    by_cases same : other = key
    · rw [if_pos same,if_pos (request_calls d input (same ▸ asks))]
    · rw [if_neg same]
      omega
  | none =>
    cases Core.acts_settles acts asks with
    | silent notes =>
      rw [Core.asked_besides notes]
      exact Nat.le_add_right _ _
    | answered socket kind cookie reply pending answers notes =>
      rw [Core.asked_answer,Core.asked_besides notes]
      exact Nat.le_add_right _ _

theorem responses_replied (socket : Socket) (kind : RequestKind) (cookie : QString) (trace : List Effect) :
    (formsTo socket (trace.filterMap Effect.delivery)).count (.response kind cookie) =
      replied ⟨kind,socket,cookie⟩ trace := by
  rw [count_formsTo]
  unfold payments replied
  induction trace with
  | nil => rfl
  | cons effect rest ih =>
    cases effect with
    | sent other message =>
      simp only [List.filterMap_cons,Effect.delivery,List.countP_cons,ih]
      cases message with
      | response otherKind otherCookie answer =>
        simp only [Effect.replies,List.count_cons,Message.form,Form.response.injEq,beq_iff_eq,RequestKey.mk.injEq,
          decide_eq_true_eq]
        congr 1
        simp only [and_left_comm]
      | error | ok | pong | subscribed | uiRegistered | uiActive | event => simp [Effect.replies,Message.form]
    | requested | emitted | submitted | fallbackRequested | fallbackLaunched | polkit => exact ih

theorem runFrom_pays (inputs : List Input) (other : ∀ kind cookie, f ≠ .response kind cookie)
    (plain : ∀ input ∈ inputs, ¬input.enlists socket) :
    Pays socket f ((inputs.filterMap (Input.call socket)).count f) d (daemon.runFrom d inputs) := by
  induction inputs generalizing d with
  | nil => exact .refl d
  | cons input rest ih =>
    have now := step_pays d input other (plain input List.mem_cons_self)
    have later := ih (d := daemon.step d input) (fun more present => plain more (List.mem_cons_of_mem _ present))
    apply (now.trans later).le
    apply Nat.le_of_eq
    rw [List.filterMap_cons]
    cases called : input.call socket with
    | none => simp
    | some form => simp [List.count_cons,Nat.add_comm]

theorem runFrom_asked (admitted : daemon.EveryFrom daemon.enabled d inputs) (key : RequestKey) :
    asked key (daemon.runFrom d inputs).trace ≤ asked key d.trace +
      (inputs.filterMap (Input.call key.socket)).count (.response key.kind key.cookie) := by
  induction inputs generalizing d with
  | nil => exact Nat.le_refl _
  | cons input rest ih =>
    have now := step_asked d input admitted.1 key
    have later : asked key (daemon.runFrom d (input :: rest)).trace ≤ _ := ih admitted.2
    have split : ((input :: rest).filterMap (Input.call key.socket)).count (.response key.kind key.cookie) =
        (if input.call key.socket = some (.response key.kind key.cookie) then 1 else 0) +
          (rest.filterMap (Input.call key.socket)).count (.response key.kind key.cookie) := by
      rw [List.filterMap_cons]
      cases called : input.call key.socket with
      | none => simp
      | some form => simp [List.count_cons,Nat.add_comm]
    rw [split]
    omega

theorem told_le_called (inputs : List Input) (admitted : daemon.Admits inputs) (socket : Socket)
    (plain : ∀ input ∈ inputs, ¬input.enlists socket) (form : Form) :
    (formsTo socket (daemon.run inputs).front.deliveries).count form ≤ (inputs.filterMap (Input.call socket)).count form := by
  have counted (other : ∀ kind cookie, form ≠ .response kind cookie) :
      (formsTo socket (daemon.run inputs).front.deliveries).count form ≤
        (inputs.filterMap (Input.call socket)).count form := by
    have apart : Daemon.initial.Apart socket := ⟨rfl,nofun,nofun⟩
    have paid := (runFrom_pays (d := .initial) inputs other plain apart).2
    have none : Daemon.initial.due socket form = 0 := by
      unfold due
      split <;> rfl
    rw [none,Nat.zero_add] at paid
    exact Nat.le_trans (Nat.le_add_right _ _) paid
  cases form with
  | response kind cookie =>
    have replies := replied_le_asked admitted.reached ⟨kind,socket,cookie⟩
    have requests : asked ⟨kind,socket,cookie⟩ (daemon.run inputs).trace ≤ _ :=
      runFrom_asked admitted ⟨kind,socket,cookie⟩
    have answered : (formsTo socket (daemon.run inputs).front.deliveries).count (.response kind cookie) =
        replied ⟨kind,socket,cookie⟩ (daemon.run inputs).trace := responses_replied socket kind cookie _
    have none : asked ⟨kind,socket,cookie⟩ Daemon.initial.trace = 0 := rfl
    change asked _ _ ≤ asked _ Daemon.initial.trace + _ at requests
    rw [none,Nat.zero_add] at requests
    rw [answered]
    exact Nat.le_trans replies requests
  | pong | verdict | event | news => exact counted (fun _ _ => nofun)

-- A client that neither subscribes nor registers is only ever sent replies to its
-- own messages, at most one for each, and each in the form that its message calls for.
theorem replies_called_for (inputs : List Input) (admitted : daemon.Admits inputs) (socket : Socket)
    (plain : ∀ input ∈ inputs, ¬input.enlists socket) :
    (formsTo socket (daemon.run inputs).front.deliveries).Subperm (inputs.filterMap (Input.call socket)) := by
  apply List.subperm_ext_iff.mpr
  intro form _
  exact told_le_called inputs admitted socket plain form

-- A keyring prompter, and a tool that waits for an event, beside a provider.
def toolsBesideProvider : List Input :=
  [.quiet (.connected 7),
   .quiet (.connected 8),
   .quiet (.connected 9),
   .say 1 "next" [],
   .say 0 "ui.register" [("kind","quickshell")],
   .say 2 "keyring_request" [("cookie","k")],
   .say 0 "session.respond" [("id","k"),("response","hunter2")]]

theorem toolsBesideProvider_called :
    (formsTo 2 (daemon.run toolsBesideProvider).front.deliveries).Subperm
        (toolsBesideProvider.filterMap (Input.call 2)) ∧
      formsTo 2 (daemon.run toolsBesideProvider).front.deliveries = [.response .keyring (text "k")] :=
  ⟨replies_called_for toolsBesideProvider (by decide +kernel) 2 (by decide +kernel),by decide +kernel⟩

end Daemon

end BbAuth
