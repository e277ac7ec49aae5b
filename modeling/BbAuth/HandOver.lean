import BbAuth.Handshake

open Library
namespace BbAuth

open FallbackClient (registerJson subscribeJson)

variable {socket : Socket} {strict : Prop} {v : View} {w : Watch} {s : Hookup}

namespace Watch

theorem deliver_spoken (message : Message) (spoken : ∀ json ∈ w.outbox, Spoken json) :
    ∀ json ∈ (w.deliver message).outbox, Spoken json := by
  intro json present
  rcases emit_outbox {w with client:=_} _ present with old | wrote
  · exact spoken json old
  · rw [FallbackClient.handleMessage_writes w.client message.json wrote]
    exact .subscribes

end Watch

-- How far the client got: nothing of it was handled, its registration was, or
-- its subscription was too.
inductive Stage (strict : Prop) (socket : Socket) (v : View) (w : Watch) (outbox : List QJsonObject) : Nat → Prop where
  | stranger (stranger : Stranger socket v w) (opening : outbox = registerJson :: subscribeJson :: rest) :
      Stage strict socket v w outbox 0
  | registered (informed : Informed strict socket v w) (opening : outbox = subscribeJson :: rest) :
      Stage strict socket v w outbox 1
  | subscribed (informed : Informed strict socket v w) (subscribed : v.subscribed = true) :
      Stage strict socket v w outbox (n + 2)

namespace Hookup

-- The client as it will be when all that was sent to it is delivered.
def future (s : Hookup) (socket : Socket) : Watch := s.watch.deliverAll (s.incoming socket)

structure Linked (strict : Prop) (socket : Socket) (s : Hookup) : Prop where
  settled : s.daemon.Settled
  listens : s.daemon.Listens socket
  delivered : s.delivered ≤ (s.daemon.view socket).heard.length
  spoken : ∀ json ∈ s.watch.outbox, Spoken json
  stage : Stage strict socket (s.daemon.view socket) (s.future socket) s.watch.outbox s.handled

theorem incoming_more {e : Daemon} (heard : (e.view socket).heard = (s.daemon.view socket).heard ++ more)
    (delivered : s.delivered ≤ (s.daemon.view socket).heard.length) :
    (e.view socket).heard.drop s.delivered = s.incoming socket ++ more := by
  rw [heard,List.drop_append_of_le_length delivered]
  rfl

theorem stage_written {outbox more pending : List QJsonObject} {handled : Nat} (kept : ∀ json ∈ w.outbox, json ∈ pending)
    (stage : Stage strict socket v w outbox handled) :
    Stage strict socket v {w with outbox:=pending} (outbox ++ more) handled := by
  have written (informed : Informed strict socket v w) : Informed strict socket v {w with outbox:=pending} := by
    obtain ⟨known,handed,sound,honest⟩ := informed
    exact ⟨known_client known rfl,⟨handed.within,fun active => (handed.complete active).imp_right (kept _)⟩,sound,honest⟩
  cases stage with
  | @stranger rest stranger opening =>
    have opened : outbox ++ more = registerJson :: subscribeJson :: (rest ++ more) := by rw [opening]; rfl
    exact .stranger ⟨stranger.elected,stranger.unregistered,stranger.unsubscribed,stranger.client⟩ opened
  | @registered rest informed opening =>
    have opened : outbox ++ more = subscribeJson :: (rest ++ more) := by rw [opening]; rfl
    exact .registered (written informed) opened
  | subscribed informed subscribed => exact .subscribed (written informed) subscribed

theorem stage_sequel {outbox : List QJsonObject} {n : Nat} {v' : View} (sequel : View.Sequel socket uuid v v')
    (fresh : ∀ message ∈ v.heard, message.givenId ≠ some uuid) (between : n ≠ 1)
    (stage : Stage strict socket v w outbox n) :
    ∃ more, v'.heard = v.heard ++ more ∧ Stage strict socket v' (w.deliverAll more) outbox n := by
  cases stage with
  | stranger stranger opening =>
    obtain ⟨more,heard,unheeded,after⟩ := stranger_sequel sequel stranger
    refine ⟨more,heard,?_⟩
    rw [unheeded]
    exact .stranger after opening
  | registered informed opening => exact absurd rfl between
  | subscribed informed subscribed =>
    obtain ⟨more,heard,after,still⟩ := attends_sequel sequel ⟨informed,subscribed,fresh⟩
    exact ⟨more,heard,.subscribed after still⟩

-- What only changes at the daemon: the client hears it after all that is on its
-- way already.
theorem linked_sequel {e : Daemon} (linked : Linked strict socket s) (settled : e.Settled) (listens : e.Listens socket)
    (unissued : s.daemon.Unissued uuid) (between : s.handled ≠ 1)
    (sequel : View.Sequel socket uuid (s.daemon.view socket) (e.view socket)) : Linked strict socket {s with daemon:=e} := by
  obtain ⟨more,heard,stage⟩ := stage_sequel sequel (Daemon.unissued_heard unissued socket) between linked.stage
  have future : s.watch.deliverAll ((e.view socket).heard.drop s.delivered) = (s.future socket).deliverAll more := by
    rw [incoming_more heard linked.delivered,Watch.deliverAll_append]
    rfl
  refine ⟨settled,listens,?_,linked.spoken,?_⟩
  · change s.delivered ≤ (e.view socket).heard.length
    rw [heard,List.length_append]
    exact Nat.le_add_right_of_le linked.delivered
  · change Stage strict socket (e.view socket) (s.watch.deliverAll ((e.view socket).heard.drop s.delivered))
      s.watch.outbox s.handled
    rw [future]
    exact stage

theorem linked_deliver (linked : Linked strict socket s) : Linked strict socket (s.deliver socket) := by
  unfold deliver
  split
  · exact linked
  · next message rest incoming =>
    obtain ⟨more,frame⟩ := Watch.deliver_frame s.watch message
    have left : (s.daemon.view socket).heard.drop (s.delivered + 1) = rest := by
      rw [← List.tail_drop]
      exact congrArg List.tail incoming
    have future : (s.watch.deliver message).deliverAll ((s.daemon.view socket).heard.drop (s.delivered + 1)) =
        s.future socket := by
      unfold Hookup.future
      rw [left,incoming]
      rfl
    have count : s.delivered + 1 ≤ (s.daemon.view socket).heard.length := by
      have some : ((s.daemon.view socket).heard.drop s.delivered).length = rest.length + 1 := by
        rw [show (s.daemon.view socket).heard.drop s.delivered = message :: rest from incoming]
        rfl
      rw [List.length_drop] at some
      omega
    have outbox : (s.watch.deliver message).outbox = s.watch.outbox ++ more :=
      congrArg Watch.outbox (frame s.watch.outbox)
    refine ⟨linked.settled,linked.listens,count,Watch.deliver_spoken message linked.spoken,?_⟩
    change Stage strict socket _ ((s.watch.deliver message).deliverAll ((s.daemon.view socket).heard.drop
      (s.delivered + 1))) (s.watch.deliver message).outbox s.handled
    rw [future,outbox]
    exact stage_written (fun _ present => present) linked.stage

def Utters (signals : List ClientSignal) : Prop :=
  ∃ jsons : List QJsonObject, signals = jsons.map .wrote ∧ ∀ json ∈ jsons, Spoken json

theorem utters_sendJson (c : FallbackClient) (spoken : Spoken json) : Utters (c.sendJson json) := by
  unfold FallbackClient.sendJson
  split
  · exact ⟨[],rfl,List.forall_mem_nil _⟩
  · refine ⟨[json],rfl,?_⟩
    intro other present
    cases List.mem_singleton.mp present
    exact spoken

theorem utters_subscribeWatchdog (c : FallbackClient) : Utters c.subscribeWatchdog := by
  have nothing : Utters [] := ⟨[],rfl,List.forall_mem_nil _⟩
  unfold FallbackClient.subscribeWatchdog
  split
  · exact nothing
  · have first : Utters (if !c.registered then c.registerProvider else []) := by
      split
      · exact utters_sendJson c .registers
      · exact nothing
    have second : Utters (if !c.subscribed then c.subscribe else []) := by
      split
      · exact utters_sendJson c .subscribes
      · exact nothing
    obtain ⟨registers,same,registered⟩ := first
    obtain ⟨subscribes,equal,subscribed⟩ := second
    refine ⟨registers ++ subscribes,by rw [same,equal,List.map_append],?_⟩
    intro json present
    rcases List.mem_append.mp present with one | other
    · exact registered json one
    · exact subscribed json other

theorem utters_heartbeatTimer (c : FallbackClient) : Utters c.heartbeatTimer := by
  unfold FallbackClient.heartbeatTimer
  split
  · exact ⟨[],rfl,List.forall_mem_nil _⟩
  · exact utters_sendJson c (.beats _)

theorem emit_uttered (w : Watch) (jsons : List QJsonObject) :
    w.emit (jsons.map .wrote) = {w with outbox:=w.outbox ++ jsons} := by
  induction jsons generalizing w with
  | nil =>
    rw [List.append_nil]
    rfl
  | cons json rest ih =>
    refine (ih (w.emitted (.wrote json))).trans ?_
    exact congrArg (fun outbox => ({w with outbox} : Watch)) (List.append_assoc _ _ _)

theorem linked_say (utters : Utters signals) (linked : Linked strict socket s) : Linked strict socket (s.say signals) := by
  obtain ⟨jsons,rfl,spoken⟩ := utters
  obtain ⟨more,frame⟩ := Watch.deliverAll_frame s.watch (s.incoming socket)
  have before : (s.future socket).outbox = s.watch.outbox ++ more := congrArg Watch.outbox (frame s.watch.outbox)
  have future : (s.watch.emit (jsons.map .wrote)).deliverAll (s.incoming socket) =
      {s.future socket with outbox:=(s.watch.outbox ++ jsons) ++ more} := by
    rw [emit_uttered]
    exact frame _
  have outbox : (s.watch.emit (jsons.map .wrote)).outbox = s.watch.outbox ++ jsons := by rw [emit_uttered]
  refine ⟨linked.settled,linked.listens,linked.delivered,?_,?_⟩
  · intro json present
    change json ∈ (s.watch.emit (jsons.map .wrote)).outbox at present
    rw [outbox] at present
    rcases List.mem_append.mp present with old | new
    · exact linked.spoken json old
    · exact spoken json new
  · change Stage strict socket _ ((s.watch.emit _).deliverAll (s.incoming socket)) (s.watch.emit _).outbox s.handled
    rw [future,outbox]
    refine stage_written ?_ linked.stage
    rw [before]
    intro json present
    rcases List.mem_append.mp present with old | new
    · exact List.mem_append_left _ (List.mem_append_left _ old)
    · exact List.mem_append_right _ new

theorem stage_spoken (d : Daemon) {json : QJsonObject} {rest pending : List QJsonObject} {n : Nat} (spoken : Spoken json)
    (asked : w.outbox = json :: pending) (listens : d.Listens socket) (unissued : d.Unissued d.env.uuid)
    (met : strict → registers json → ¬d.Strands socket) (stage : Stage strict socket (d.view socket) w (json :: rest) n) :
    let e := Agent.handleMessage d socket (typeOf json) json
    ∃ more, (e.view socket).heard = (d.view socket).heard ++ more ∧
      Stage strict socket (e.view socket) (({w with outbox:=pending} : Watch).deliverAll more) rest (n + 1) ∧
      e.Listens socket := by
  intro e
  cases stage with
  | stranger stranger opening =>
    cases opening
    have handled : e = Agent.handleUIRegister d socket registerJson :=
      Agent.dispatched d registerJson (by decide +kernel : Agent.handlers.lookup _ = some .uiRegister)
    have inactive : w.client.providerActive = false := by rw [stranger.client]
    have handed : Handed (d.view socket) {w with outbox:=pending} :=
      ⟨fun active => absurd (inactive.symm.trans active) Bool.false_ne_true,
        fun active => absurd (inactive.symm.trans active) Bool.false_ne_true⟩
    have unknown (old : UIProvider) (found : d.providerRegistry.uiProviders.find socket = some old) :
        Known socket (d.view socket) {w with outbox:=pending} := by
      have present : d.providerRegistry.contains socket = true := Option.isSome_of_eq_some found
      cases stranger.unregistered.symm.trans present
    obtain ⟨more,heard,informed,_,after⟩ := Agent.informed_handleUIRegister (w := {w with outbox:=pending}) d registerJson
      listens unissued (congrArg FallbackClient.connected stranger.client) handed unknown (fun strictly => met strictly rfl)
    rw [handled]
    exact ⟨more,heard,.registered informed rfl,after⟩
  | registered informed opening =>
    cases opening
    have handled : e = Agent.handleSubscribe d socket :=
      Agent.dispatched d subscribeJson (by decide +kernel : Agent.handlers.lookup _ = some .subscribe)
    obtain ⟨more,heard,after,subscribed,listening⟩ := Agent.informed_handleSubscribe d pending listens informed
    rw [handled]
    exact ⟨more,heard,.subscribed after subscribed,listening⟩
  | subscribed informed subscribed =>
    obtain ⟨more,heard,after,still,listening⟩ := Agent.informed_spoken d spoken asked listens unissued subscribed informed met
    exact ⟨more,heard,.subscribed after still,listening⟩

theorem linked_accept (env : Env) (unissued : s.daemon.Unissued env.uuid)
    (met : strict → ¬s.strands socket (.accept env)) (linked : Linked strict socket s) :
    Linked strict socket (s.accept socket env) := by
  unfold accept
  split
  · exact linked
  · next json rest asked =>
    obtain ⟨more,frame⟩ := Watch.deliverAll_frame s.watch (s.incoming socket)
    have pending : (s.future socket).outbox = json :: (rest ++ more) := by
      have outbox : (s.future socket).outbox = s.watch.outbox ++ more := congrArg Watch.outbox (frame s.watch.outbox)
      rw [outbox,asked]
      rfl
    have listening : ({s.daemon with env} : Daemon).Listens socket :=
      ⟨linked.listens.connected,linked.listens.patient,linked.listens.once,linked.listens.ids⟩
    have kept : strict → registers json → ¬({s.daemon with env} : Daemon).Strands socket := by
      intro strictly registered stranded
      refine met strictly ⟨⟨json,?_,registered⟩,stranded⟩
      rw [asked]
      rfl
    have stage := linked.stage
    rw [asked] at stage
    obtain ⟨later,heard,after,listens⟩ := stage_spoken {s.daemon with env}
      (linked.spoken json (asked ▸ List.mem_cons_self)) pending listening unissued kept stage
    have future : ({s.watch with outbox:=rest} : Watch).deliverAll (s.incoming socket ++ later) =
        ({s.future socket with outbox:=rest ++ more} : Watch).deliverAll later := by
      rw [Watch.deliverAll_append,frame rest]
      rfl
    have step : s.daemon.step ⟨env,.message socket (json.value (text "type")).toString json⟩ =
        Agent.handleMessage {s.daemon with env} socket (typeOf json) json := rfl
    have settled := Daemon.step_settled s.daemon ⟨env,.message socket (json.value (text "type")).toString json⟩
      linked.settled
    rw [← step] at heard after listens
    refine ⟨settled,listens,?_,?_,?_⟩
    · change s.delivered ≤ ((s.daemon.step _).view socket).heard.length
      rw [heard,List.length_append]
      exact Nat.le_add_right_of_le linked.delivered
    · exact fun other present => linked.spoken other (asked ▸ List.mem_cons_of_mem _ present)
    · change Stage strict socket _ (({s.watch with outbox:=rest} : Watch).deliverAll
        (((s.daemon.step _).view socket).heard.drop s.delivered)) rest (s.handled + 1)
      rw [incoming_more heard linked.delivered,future]
      exact after

theorem future_connected (linked : Linked strict socket s) : (s.future socket).client.connected = true := by
  have stage := linked.stage
  generalize s.handled = n at stage
  cases stage with
  | stranger stranger opening => exact congrArg FallbackClient.connected stranger.client
  | registered informed opening => exact informed.known.settled.connected
  | subscribed informed subscribed => exact informed.known.settled.connected

-- A registration that strands the client does so: with all delivered that it is
-- sent, the client is registered and authorized, and takes itself to be inactive.
theorem stranded_unaware {move : Move} (linked : Linked strict socket s) (strands : s.strands socket move) :
    let t := step socket s move
    (t.future socket).client.registered = true ∧ (t.future socket).client.providerActive = false ∧
      t.daemon.providerRegistry.isAuthorized socket = true := by
  intro t
  cases move with
  | accept env =>
    obtain ⟨⟨json,first,registers⟩,stranded⟩ := strands
    have asked : ∃ rest, s.watch.outbox = json :: rest := List.head?_eq_some_iff.mp first
    obtain ⟨rest,asked⟩ := asked
    obtain ⟨added,frame⟩ := Watch.deliverAll_frame s.watch (s.incoming socket)
    have listening : ({s.daemon with env} : Daemon).Listens socket :=
      ⟨linked.listens.connected,linked.listens.patient,linked.listens.once,linked.listens.ids⟩
    have named : Agent.handlers.lookup (typeOf json) = some .uiRegister := by
      rw [show typeOf json = text "ui.register" from registers]
      decide +kernel
    have handled : s.daemon.step ⟨env,.message socket (typeOf json) json⟩ =
        Agent.handleUIRegister {s.daemon with env} socket json := Agent.dispatched {s.daemon with env} json named
    obtain ⟨more,heard,registered,inactive,authorized⟩ := Agent.stranded_handleUIRegister
      (w := {s.future socket with outbox:=rest ++ added}) {s.daemon with env} json listening (future_connected linked) stranded
    rw [← handled] at heard authorized
    have accepted : t = { s with
        daemon := s.daemon.step ⟨env,.message socket (typeOf json) json⟩,watch := {s.watch with outbox:=rest},
        handled := s.handled + 1 } := by
      change s.accept socket env = _
      unfold accept
      rw [asked]
      rfl
    have future : t.future socket = ({s.future socket with outbox:=rest ++ added} : Watch).deliverAll more := by
      rw [accepted]
      change ({s.watch with outbox:=rest} : Watch).deliverAll
        (((s.daemon.step ⟨env,.message socket (typeOf json) json⟩).view socket).heard.drop s.delivered) = _
      rw [incoming_more heard linked.delivered,Watch.deliverAll_append,frame rest]
      rfl
    refine ⟨future ▸ registered,future ▸ inactive,?_⟩
    rw [accepted]
    exact authorized
  | others input => exact strands.elim
  | deliver => exact strands.elim
  | watchdog => exact strands.elim
  | heartbeat => exact strands.elim
  | respond id response => exact strands.elim
  | cancel id => exact strands.elim

theorem linked_step (move : Move) (linked : Linked strict socket s) (allowed : s.enabled socket move)
    (met : strict → ¬s.strands socket move) : Linked strict socket (step socket s move) := by
  cases move with
  | others input =>
    obtain ⟨_,others,between,unissued⟩ := allowed
    have listening : ({s.daemon with env:=input.env} : Daemon).Listens socket :=
      ⟨linked.listens.connected,linked.listens.patient,linked.listens.once,linked.listens.ids⟩
    obtain ⟨sequel,listens⟩ := Daemon.others_sequel {s.daemon with env:=input.env} input.event linked.settled listening others
    exact linked_sequel linked (Daemon.step_settled s.daemon input linked.settled) listens unissued between sequel
  | accept env => exact linked_accept env allowed.2 met linked
  | deliver => exact linked_deliver linked
  | watchdog => exact linked_say (utters_subscribeWatchdog _) linked
  | heartbeat => exact linked_say (utters_heartbeatTimer _) linked
  | respond id response => exact linked_say (utters_sendJson _ (.responds id response)) linked
  | cancel id => exact linked_say (utters_sendJson _ (.cancels id)) linked

theorem joined_eq (c : FallbackClient) :
    Watch.joined c = ⟨{connected := true},∅,[registerJson,subscribeJson]⟩ := by
  obtain ⟨connected,subscribed,registered,providerActive,providerId,known,pending,pendingId⟩ := c
  cases providerActive <;> rfl

end Hookup

namespace FallbackClient

open Hookup (Linked linked_step joined_eq)

theorem linked_joined (strict : Prop) {d : Daemon} (path : daemon.Reached d) (env : Env) (peerPid : Pid)
    (c : FallbackClient) : Linked strict d.nextSocket (hookup d env peerPid c).initial := by
  obtain ⟨listens,unregistered,unsubscribed,nothing⟩ := Daemon.newcomer_view path env peerPid
  have settled := Daemon.step_settled d ⟨env,.connected peerPid⟩ (Daemon.reached_settled path)
  refine ⟨settled,listens,Nat.zero_le _,?_,?_⟩
  · change ∀ json ∈ (Watch.joined c).outbox, Spoken json
    rw [joined_eq]
    intro json present
    rcases List.mem_cons.mp present with rfl | second
    · exact .registers
    · cases List.mem_singleton.mp second
      exact .subscribes
  · have future : Hookup.future (hookup d env peerPid c).initial d.nextSocket = Watch.joined c := by
      change (Watch.joined c).deliverAll (((daemon.step d ⟨env,.connected peerPid⟩).view d.nextSocket).heard.drop 0) = _
      rw [nothing]
      rfl
    rw [future]
    change Stage strict d.nextSocket _ (Watch.joined c) (Watch.joined c).outbox 0
    rw [joined_eq]
    exact .stranger ⟨settled,unregistered,unsubscribed,rfl⟩ rfl

theorem linked_registered (linked : Linked strict socket s) (registered : s.watch.client.registered = true)
    (quiet : s.incoming socket = []) : Informed strict socket (s.daemon.view socket) s.watch := by
  have here : s.future socket = s.watch := by
    unfold Hookup.future
    rw [quiet]
    rfl
  have stage := linked.stage
  rw [here] at stage
  generalize s.handled = n at stage
  cases stage with
  | stranger stranger opening =>
    rw [stranger.client] at registered
    cases registered
  | registered informed opening => exact informed
  | subscribed informed subscribed => exact informed

-- In every run in which no registration strands the client: when it is
-- registered and all that was sent to it is delivered, it takes itself to be
-- active exactly when it is authorized.
theorem belief_matches {d : Daemon} (path : daemon.Reached d) (env : Env) (peerPid : Pid) (c : FallbackClient)
    {moves : List Move} (admitted : (hookup d env peerPid c).Admits moves)
    (every : (hookup d env peerPid c).Every (fun s move => ¬s.strands d.nextSocket move) moves) :
    (hookup d env peerPid c).Always
      (fun s => s.watch.client.registered = true → s.incoming d.nextSocket = [] →
        s.watch.client.providerActive = s.daemon.providerRegistry.isAuthorized d.nextSocket) moves := by
  refine Machine.AlwaysFrom.of_kept (P := Linked True d.nextSocket) ?_ ?_ admitted every (linked_joined True path env peerPid c)
  · intro s move linked allowed met
    exact linked_step move linked allowed (fun _ => met)
  · intro s linked registered quiet
    obtain ⟨known,handed,sound,honest⟩ := linked_registered linked registered quiet
    rw [Bool.eq_iff_iff]
    exact ⟨sound,honest trivial⟩

-- Surroundings in which a UUID is made, if one is.
def making (uuid : String) (filled : text uuid ≠ []) : Env := {Env.quiet with uuid:=text uuid,uuid_nonempty:=filled}

-- Another provider takes over, and leaves again while a session is open.
def handOver : List Move :=
  [.accept (making "client" (by decide)),
   .accept (making "unused" (by decide)),
   .deliver,.deliver,.deliver,
   .others ⟨making "unused" (by decide),.connected 8⟩,
   .others ⟨making "other" (by decide),.message 1 (text "ui.register")
     (.ofList [(text "kind",.string (text "quickshell"))])⟩,
   .deliver,.accept (making "unused" (by decide)),
   .others ⟨making "unused" (by decide),.message 1 (text "keyring_request")
     (.ofList [(text "cookie",.string (text "prompt"))])⟩,
   .others ⟨making "unused" (by decide),.message 1 (text "ui.unregister") (.ofList [])⟩,
   .deliver,.deliver,.accept (making "unused" (by decide)),
   .deliver,.deliver,.deliver]

theorem handOver_matches :
    let s := (hookup .initial .quiet 7 {}).run handOver
    s.watch.client.providerActive = s.daemon.providerRegistry.isAuthorized 0 :=
  (belief_matches .initial .quiet 7 {} (by decide +kernel) (by decide +kernel)).finish (by decide +kernel) (by decide +kernel)

-- A clock that is set forward by twenty seconds between its two readings.
def stranded : List Move :=
  [.accept {making "client" (by decide) with clock:=fun reading => 20000 * reading},
   .accept (making "unused" (by decide)),
   .deliver,.deliver]

theorem stranded_disagrees :
    (hookup .initial .quiet 7 {}).Admits stranded ∧
    let s := (hookup .initial .quiet 7 {}).run stranded
    s.watch.client.registered = true ∧ s.incoming 0 = [] ∧ s.watch.outbox.length = 0 ∧
      s.watch.client.providerActive = false ∧ s.daemon.providerRegistry.isAuthorized 0 = true := by
  decide +kernel

-- In every run: when nothing is on the way in either direction, an active client
-- shows exactly the open sessions.
theorem no_prompt_lost {d : Daemon} (path : daemon.Reached d) (env : Env) (peerPid : Pid) (c : FallbackClient)
    {moves : List Move} (admitted : (hookup d env peerPid c).Admits moves) :
    (hookup d env peerPid c).Always
      (fun s => s.watch.client.registered = true → s.watch.client.providerActive = true →
        s.incoming d.nextSocket = [] → s.watch.outbox = [] →
        s.watch.shown = {id | s.daemon.sessionStore.contains id = true}) moves := by
  have every : (hookup d env peerPid c).EveryFrom (fun _ _ => True) (hookup d env peerPid c).initial moves :=
    Machine.EveryFrom.imp .initial (fun _ _ _ _ _ => trivial) admitted admitted
  refine Machine.AlwaysFrom.of_kept (P := Linked False d.nextSocket) ?_ ?_ admitted every (linked_joined False path env peerPid c)
  · intro s move linked allowed _
    exact linked_step move linked allowed False.elim
  · intro s linked registered active quiet written
    have handed := (linked_registered linked registered quiet).handed
    apply Set.Subset.antisymm (handed.within active)
    rcases handed.complete active with all | asked
    · exact all
    · rw [written] at asked
      cases asked

theorem handOver_shown :
    let s := (hookup .initial .quiet 7 {}).run handOver
    s.watch.shown = {id | s.daemon.sessionStore.contains id = true} :=
  (no_prompt_lost .initial .quiet 7 {} (by decide +kernel)).finish (by decide +kernel) (by decide +kernel)
    (by decide +kernel) (List.isEmpty_iff.mp (by decide +kernel))

end FallbackClient

end BbAuth
