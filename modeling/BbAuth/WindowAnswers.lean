import BbAuth.Station

open Library
namespace BbAuth

variable {qt : QtText} {quitOnLastWindowClosed : Bool} {d : Daemon} {env : Env} {peerPid : Pid} {decision : Decision}
  {id : QString}

-- What a client writes on its own.
inductive Chatter : QJsonObject → Prop where
  | registers : Chatter FallbackClient.registerJson
  | subscribes : Chatter FallbackClient.subscribeJson
  | beats (id : QString) : Chatter (FallbackClient.heartbeatJson id)

namespace FallbackWindow

def response (w : FallbackWindow) : QString := if w.confirmOnly then text "confirm" else w.input

-- The decision is the user's about the prompt on the window.
def Decides (w : FallbackWindow) (input : WindowInput) : Decision → Prop
  | .answer key answer => key.cookie = w.currentSessionId ∧
    (input = .submit ∧ (answer = .ok w.response ∨ answer = .confirmed) ∨
      (input = .cancel ∨ input = .close) ∧ answer = .cancelled)
  | .submit cookie pass => cookie = w.currentSessionId ∧ input = .submit ∧ pass = w.response

end FallbackWindow

theorem Desk.calls_cases (s : Desk) (input : WindowInput) (call : WindowCall) (called : call ∈ s.calls input) :
    s.window.currentSessionId ≠ [] ∧
    (input = .submit ∧ call = .sendResponse s.window.currentSessionId s.window.response ∨
      (input = .cancel ∨ input = .close) ∧ call = .sendCancel s.window.currentSessionId) := by
  have named (current : ¬s.window.currentSessionId.isEmpty = true) : s.window.currentSessionId ≠ [] :=
    fun none => current (List.isEmpty_iff.mpr none)
  cases input with
  | submit =>
    change call ∈ s.window.onSubmit.2 at called
    unfold FallbackWindow.onSubmit at called
    split at called
    · cases called
    · next current =>
      split at called
      · cases called
      · exact ⟨named current,.inl ⟨rfl,List.mem_singleton.mp called⟩⟩
  | cancel =>
    change call ∈ s.window.onCancel.2 at called
    unfold FallbackWindow.onCancel at called
    split at called
    · cases called
    · next current => exact ⟨named current,.inr ⟨.inl rfl,List.mem_singleton.mp called⟩⟩
  | close =>
    change call ∈ s.window.closeEvent.2 at called
    unfold FallbackWindow.closeEvent at called
    split at called
    · cases called
    · next current => exact ⟨named current,.inr ⟨.inr rfl,List.mem_singleton.mp called⟩⟩
  | _ => cases called

theorem Daemon.connected_known {d : Daemon} (connected : d.isConnected socket = true) : d.sockets.contains socket = true := by
  unfold isConnected at connected
  cases found : d.sockets.find socket with
  | none =>
    rw [found] at connected
    cases connected
  | some info => exact (Table.contains_iff _ _).mpr ⟨info,found⟩

namespace Station

variable {moves : List StationMove}

theorem reached_daemon {s : Hookup} (path : daemon.Reached d) (reached : (liaison d env peerPid c).Reached s) :
    daemon.Reached s.daemon := by
  have begun : daemon.enabled d ⟨env,.connected peerPid⟩ := trivial
  refine reached.invariant (P := fun s => daemon.Reached s.daemon) (path.step begun) ?_
  intro s move before ih allowed
  have listens := (FallbackClient.attached_reached path before).listens
  cases move with
  | others input => exact ih.step allowed.1
  | accept env =>
    change daemon.Reached (s.accept d.nextSocket env).daemon
    unfold Hookup.accept
    split
    · exact ih
    · exact ih.step (Daemon.connected_known listens.connected)
  | deliver =>
    change daemon.Reached (s.deliver d.nextSocket).daemon
    unfold Hookup.deliver
    split <;> exact ih
  | watchdog | heartbeat | respond | cancel => exact ih

theorem calls_admitted (s : Hookup) (calls : List WindowCall) :
    (liaison d env peerPid c).EveryFrom (liaison d env peerPid c).enabled s (calls.map WindowCall.move) := by
  induction calls generalizing s with
  | nil => trivial
  | cons call rest ih =>
    refine ⟨?_,ih _⟩
    cases call <;> trivial

theorem reached_liaison (reached : (station qt quitOnLastWindowClosed d env peerPid).Reached s) :
    (liaison d env peerPid {}).Reached s.hookup := by
  induction reached with
  | initial => exact .initial
  | @step s move before allowed ih =>
    apply Machine.Reached.runFrom ih
    cases move with
    | others input => exact ⟨allowed,trivial⟩
    | accept env => exact ⟨allowed,trivial⟩
    | deliver => exact ⟨allowed.1,trivial⟩
    | watchdog | heartbeat => exact ⟨trivial,trivial⟩
    | user input => exact calls_admitted s.hookup (s.desk.calls input)

theorem calls_daemon (s : Hookup) (calls : List WindowCall) :
    ((calls.map WindowCall.move).foldl (Hookup.step socket) s).daemon = s.daemon := by
  induction calls generalizing s with
  | nil => rfl
  | cons call rest ih =>
    refine (ih _).trans ?_
    cases call <;> rfl

theorem step_daemon (s : Station) (move : StationMove) :
    (∃ input, move = .others input ∧
      (step qt quitOnLastWindowClosed socket s move).hookup.daemon = daemon.step s.hookup.daemon input) ∨
    (∃ env json rest, move = .accept env ∧ s.hookup.watch.outbox = json :: rest ∧
      (step qt quitOnLastWindowClosed socket s move).hookup.daemon =
        daemon.step s.hookup.daemon ⟨env,.message socket (typeOf json) json⟩) ∨
    (step qt quitOnLastWindowClosed socket s move).hookup.daemon = s.hookup.daemon := by
  cases move with
  | others input => exact .inl ⟨input,rfl,rfl⟩
  | accept env =>
    have accepted : (step qt quitOnLastWindowClosed socket s (.accept env)).hookup = s.hookup.accept socket env := rfl
    rw [accepted]
    unfold Hookup.accept
    cases outbox : s.hookup.watch.outbox with
    | nil => exact .inr (.inr rfl)
    | cons json rest => exact .inr (.inl ⟨env,json,rest,rfl,rfl,rfl⟩)
  | deliver =>
    have delivered : (step qt quitOnLastWindowClosed socket s .deliver).hookup = s.hookup.deliver socket := rfl
    rw [delivered]
    unfold Hookup.deliver
    split <;> exact .inr (.inr rfl)
  | watchdog | heartbeat => exact .inr (.inr rfl)
  | user input => exact .inr (.inr (calls_daemon s.hookup (s.desk.calls input)))

theorem step_trace (path : daemon.Reached d) (before : (station qt quitOnLastWindowClosed d env peerPid).Reached s)
    (move : StationMove) : ∀ effect ∈ s.hookup.daemon.trace,
      effect ∈ ((station qt quitOnLastWindowClosed d env peerPid).step s move).hookup.daemon.trace := by
  have reached := reached_daemon path (reached_liaison before)
  have stepped (input : Input) : ∀ effect ∈ s.hookup.daemon.trace, effect ∈ (daemon.step s.hookup.daemon input).trace := by
    obtain ⟨new,same,_⟩ := Daemon.step_grown reached input
    rw [same]
    exact fun effect present => List.mem_append_right _ present
  change ∀ effect ∈ s.hookup.daemon.trace, effect ∈ (step qt quitOnLastWindowClosed d.nextSocket s move).hookup.daemon.trace
  rcases step_daemon s move with ⟨input,_,same⟩ | ⟨env,json,rest,_,_,same⟩ | same
  · rw [same]
    exact stepped _
  · rw [same]
    exact stepped _
  · rw [same]
    exact fun _ present => present

theorem slot_created {signal : ClientSignal} {event : Option SessionEvent}
    (slot : signal.slot qt event = some (.sessionCreated id confirmOnly model)) : ∃ source context,
      event = some (.created id source context) ∧ confirmOnly = context.confirmOnly.getD false ∧
      model = PromptModel.buildDisplayModel qt (.ofEvent id source context) := by
  unfold ClientSignal.slot at slot
  split at slot <;> cases slot
  exact ⟨_,_,rfl,rfl,rfl⟩

theorem slots_bring (s : Station) (message : Message) (sent : .sent socket message ∈ s.hookup.daemon.trace)
    (input : WindowInput) (present : input ∈ s.slots qt message) : Desk.Brings qt socket s.hookup.daemon.trace input := by
  intro id confirmOnly model same
  subst same
  obtain ⟨signal,_,slot⟩ := List.mem_filterMap.mp present
  obtain ⟨source,context,event,confirm,built⟩ := slot_created slot
  refine ⟨source,context,?_,confirm,built⟩
  cases message with
  | event told =>
    cases event
    exact sent
  | error | ok | pong | subscribed | uiRegistered | uiActive | response => cases event

theorem inputs_bring (s : Station) (move : StationMove) (allowed : s.enabled socket move) :
    ∀ input ∈ s.inputs qt socket move, Desk.Brings qt socket s.hookup.daemon.trace input := by
  intro input present
  cases move with
  | deliver =>
    obtain ⟨message,first,slot⟩ := List.mem_flatMap.mp present
    have incoming := List.mem_of_mem_head? (Option.mem_toList.mp first)
    exact slots_bring s message (Daemon.sent_of_heard (List.mem_of_mem_drop incoming)) input slot
  | user own =>
    intro id confirmOnly model same
    cases List.mem_singleton.mp present
    subst same
    cases allowed.1
  | others | accept | watchdog | heartbeat => cases present

theorem reached_genuine (path : daemon.Reached d) (reached : (station qt quitOnLastWindowClosed d env peerPid).Reached s) :
    s.desk.Genuine qt d.nextSocket s.hookup.daemon.trace := by
  induction reached with
  | initial =>
    apply Desk.inputs_genuine
    · exact .inl rfl
    · intro input present id confirmOnly model same
      subst same
      obtain ⟨signal,_,slot⟩ := List.mem_filterMap.mp present
      obtain ⟨_,_,event,_⟩ := slot_created slot
      cases event
  | @step s move before allowed ih =>
    have genuine := Desk.inputs_genuine quitOnLastWindowClosed (s.inputs qt d.nextSocket move) ih (inputs_bring s move allowed)
    exact genuine.mono (step_trace path before move)

theorem wrote_sendJson {c : FallbackClient} {json other : QJsonObject} (wrote : .wrote json ∈ c.sendJson other) : json = other := by
  unfold FallbackClient.sendJson at wrote
  split at wrote
  · cases wrote
  · cases List.mem_singleton.mp wrote
    rfl

theorem wrote_subscribeWatchdog {c : FallbackClient} (wrote : .wrote json ∈ c.subscribeWatchdog) : Chatter json := by
  unfold FallbackClient.subscribeWatchdog at wrote
  split at wrote
  · cases wrote
  · rcases List.mem_append.mp wrote with first | second
    · split at first
      · rw [wrote_sendJson first]
        exact .registers
      · cases first
    · split at second
      · rw [wrote_sendJson second]
        exact .subscribes
      · cases second

theorem wrote_heartbeatTimer {c : FallbackClient} (wrote : .wrote json ∈ c.heartbeatTimer) : Chatter json := by
  unfold FallbackClient.heartbeatTimer at wrote
  split at wrote
  · cases wrote
  · rw [wrote_sendJson wrote]
    exact .beats _

theorem say_writes (s : Hookup) (signals : List ClientSignal) (written : json ∈ (s.say signals).watch.outbox) :
    json ∈ s.watch.outbox ∨ .wrote json ∈ signals := Watch.emit_outbox s.watch signals written

theorem calls_write (s : Hookup) (calls : List WindowCall)
    (written : json ∈ ((calls.map WindowCall.move).foldl (Hookup.step socket) s).watch.outbox) :
    json ∈ s.watch.outbox ∨ ∃ call ∈ calls, json = call.json := by
  induction calls generalizing s with
  | nil => exact .inl written
  | cons call rest ih =>
    rcases ih _ written with now | ⟨other,present,same⟩
    · cases call with
      | sendResponse id response =>
        rcases say_writes s _ now with before | wrote
        · exact .inl before
        · exact .inr ⟨_,List.mem_cons_self,wrote_sendJson wrote⟩
      | sendCancel id =>
        rcases say_writes s _ now with before | wrote
        · exact .inl before
        · exact .inr ⟨_,List.mem_cons_self,wrote_sendJson wrote⟩
    · exact .inr ⟨other,List.mem_cons_of_mem _ present,same⟩

theorem step_writes (s : Station) (move : StationMove)
    (written : json ∈ (step qt quitOnLastWindowClosed socket s move).hookup.watch.outbox) :
    json ∈ s.hookup.watch.outbox ∨ Chatter json ∨
      ∃ input call, move = .user input ∧ call ∈ s.desk.calls input ∧ json = call.json := by
  cases move with
  | others input => exact .inl written
  | accept env =>
    change json ∈ (s.hookup.accept socket env).watch.outbox at written
    unfold Hookup.accept at written
    split at written
    · exact .inl written
    · next first rest outbox =>
      rw [outbox]
      exact .inl (List.mem_cons_of_mem _ written)
  | deliver =>
    change json ∈ (s.hookup.deliver socket).watch.outbox at written
    unfold Hookup.deliver at written
    split at written
    · exact .inl written
    · next message rest _ =>
      rcases Watch.emit_outbox _ _ written with before | wrote
      · exact .inl before
      · rw [FallbackClient.handleMessage_writes _ _ wrote]
        exact .inr (.inl .subscribes)
  | watchdog => exact (say_writes s.hookup _ written).imp_right (fun wrote => .inl (wrote_subscribeWatchdog wrote))
  | heartbeat => exact (say_writes s.hookup _ written).imp_right (fun wrote => .inl (wrote_heartbeatTimer wrote))
  | user input =>
    rcases calls_write s.hookup _ written with before | ⟨call,called,same⟩
    · exact .inl before
    · exact .inr (.inr ⟨input,call,rfl,called,same⟩)

theorem outbox_called (admitted : (station qt quitOnLastWindowClosed d env peerPid).Admits moves)
    (waiting : json ∈ ((station qt quitOnLastWindowClosed d env peerPid).run moves).hookup.watch.outbox) :
    Chatter json ∨ ∃ early input call late, moves = early ++ .user input :: late ∧
      ((station qt quitOnLastWindowClosed d env peerPid).run early).enabled d.nextSocket (.user input) ∧
      call ∈ ((station qt quitOnLastWindowClosed d env peerPid).run early).desk.calls input ∧ json = call.json := by
  by_cases begun : json ∈ (station qt quitOnLastWindowClosed d env peerPid).initial.hookup.watch.outbox
  · left
    have joined : (station qt quitOnLastWindowClosed d env peerPid).initial.hookup.watch.outbox =
        [FallbackClient.registerJson,FallbackClient.subscribeJson] := rfl
    rw [joined] at begun
    rcases List.mem_cons.mp begun with first | second
    · rw [first]
      exact .registers
    · rw [List.mem_singleton.mp second]
      exact .subscribes
  · obtain ⟨early,move,late,split,allowed,before,after⟩ :=
      Machine.brought_about (fun s : Station => json ∈ s.hookup.watch.outbox) admitted begun waiting
    rcases step_writes _ move after with old | chatter | ⟨input,call,same,called,made⟩
    · exact absurd old before
    · exact .inl chatter
    · subst same
      exact .inr ⟨early,input,call,late,split,allowed,called,made⟩

theorem chatter_kind (socket : Socket) (env : Env) (chatter : Chatter json) :
    (⟨env,.message socket (typeOf json) json⟩ : Input).kind = .routing := by
  cases chatter with
  | registers => rfl
  | subscribes => rfl
  | beats id => rfl

theorem respond_kind (socket : Socket) (env : Env) (id response : QString) :
    (⟨env,.message socket (typeOf (FallbackClient.respondJson id response)) (FallbackClient.respondJson id response)⟩ :
      Input).kind = .respond socket (FallbackClient.respondJson id response) := rfl

theorem cancel_kind (socket : Socket) (env : Env) (id : QString) :
    (⟨env,.message socket (typeOf (FallbackClient.cancelJson id)) (FallbackClient.cancelJson id)⟩ : Input).kind =
      .cancel socket (FallbackClient.cancelJson id) := rfl

theorem call_decides {before : Daemon} (s : Desk) (input : WindowInput) (call : WindowCall) (called : call ∈ s.calls input)
    (decided : before.Decided ⟨env,.message socket (typeOf call.json) call.json⟩ decision) :
    s.window.Decides input decision := by
  obtain ⟨_,⟨submits,rfl⟩ | ⟨cancels,rfl⟩⟩ := s.calls_cases input call called
  · have kind := respond_kind socket env s.window.currentSessionId s.window.response
    cases decision with
    | answer key answer =>
      obtain ⟨_,ui,msg,orders,⟨responded,typed⟩ | ⟨cancelled,_⟩⟩ := decided
      · cases kind.symm.trans responded
        exact ⟨orders.named.symm,.inl ⟨submits,typed.imp_right And.left⟩⟩
      · cases kind.symm.trans cancelled
    | submit cookie pass =>
      obtain ⟨ui,msg,orders,responded,typed,_⟩ := decided
      cases kind.symm.trans responded
      exact ⟨orders.named.symm,submits,typed⟩
  · have kind := cancel_kind socket env s.window.currentSessionId
    cases decision with
    | answer key answer =>
      obtain ⟨_,ui,msg,orders,⟨responded,_⟩ | ⟨cancelled,none⟩⟩ := decided
      · cases kind.symm.trans responded
      · cases kind.symm.trans cancelled
        exact ⟨orders.named.symm,.inr ⟨cancels,none⟩⟩
    | submit cookie pass =>
      obtain ⟨ui,msg,orders,responded,_⟩ := decided
      cases kind.symm.trans responded

theorem chatter_undecided {before : Daemon} (chatter : Chatter json)
    (decided : before.Decided ⟨env,.message socket (typeOf json) json⟩ decision) : False := by
  have kind := chatter_kind socket env chatter
  cases decision with
  | answer key answer =>
    obtain ⟨_,ui,msg,_,⟨responded,_⟩ | ⟨cancelled,_⟩⟩ := decided
    · cases kind.symm.trans responded
    · cases kind.symm.trans cancelled
  | submit cookie pass =>
    obtain ⟨ui,msg,_,responded,_⟩ := decided
    cases kind.symm.trans responded

-- The user decides with a prompt of this id before his eyes, and it is one that the
-- daemon sent. Another session may have had the id.
def Sees (qt : QtText) (socket : Socket) (s : Station) (input : WindowInput) (decision : Decision) : Prop :=
  s.desk.window.visible = true ∧ s.desk.window.Decides input decision ∧ ∃ source context,
    .sent socket (.event (.created s.desk.window.currentSessionId source context)) ∈ s.hookup.daemon.trace ∧
    s.desk.window.Presents (context.confirmOnly.getD false)
      (PromptModel.buildDisplayModel qt (.ofEvent s.desk.window.currentSessionId source context))

theorem called_seen (path : daemon.Reached d) (reached : (station qt quitOnLastWindowClosed d env peerPid).Reached s)
    (allowed : s.enabled d.nextSocket (.user input)) (called : call ∈ s.desk.calls input)
    (decides : s.desk.window.Decides input decision) : s.Sees qt d.nextSocket input decision := by
  obtain ⟨named,acts⟩ := s.desk.calls_cases input call called
  refine ⟨?_,decides,(reached_genuine path reached).resolve_left named⟩
  obtain ⟨_,_,ready⟩ := allowed
  rcases acts with ⟨submits,_⟩ | ⟨cancels | closes,_⟩
  · subst submits
    exact ready.1
  · subst cancels
    exact ready.1
  · subst closes
    exact ready

def keyringClient : Daemon := daemon.run [.quiet (.connected 30)]

def unlockedAtWindow : List StationMove :=
  [.accept .quiet,.accept .quiet,.deliver,.deliver,.deliver,
   .others (.say 0 "keyring_request" [("cookie","k"),("message","Unlock")]),
   .deliver,.deliver,.user (.typed (text "secret")),.user .submit,.accept .quiet,.accept .quiet]

end Station

end BbAuth
