import BbAuth.HandOver

open Library
namespace BbAuth

open View (Turn Turns Sequel)

variable {socket : Socket} {uuid : QString}

namespace View

theorem turn_listed {v w : View} (turn : Turn socket uuid v w) (listed : w.registry.contains socket = true) :
    v.registry.contains socket = true := by
  cases turn with
  | emitted event => exact listed
  | restated => exact listed
  | @elected _ candidates changed elected renewed nowMs isConnected outcome =>
    obtain ⟨_,left,_⟩ := ProviderRegistry.recompute_spec outcome
    obtain ⟨provider,found⟩ := (Table.contains_iff _ _).mp listed
    rcases renewed.known socket provider ((left socket provider).mp found).1 with ⟨before,present,_⟩ | ⟨other,_⟩
    · exact (Table.contains_iff _ _).mpr ⟨before,present⟩
    · exact absurd rfl other

theorem sequel_listed {v w : View} (sequel : Sequel socket uuid v w) (listed : w.registry.contains socket = true) :
    v.registry.contains socket = true := by
  obtain ⟨m,replies,turns,_,rfl⟩ := sequel
  have back := turns.invariant (P := fun m => m.registry.contains socket = true → v.registry.contains socket = true)
    (fun _ _ turn before listed => before (turn_listed turn listed)) id
  exact back listed

end View

namespace Agent

-- A registration lasts exactly when its own heartbeat is recent enough at the
-- election that follows.
theorem handleUIRegister_listed (d : Daemon) (msg : QJsonObject) (listens : d.Listens socket) :
    (handleUIRegister d socket msg).Listens socket ∧
    ((handleUIRegister d socket msg).providerRegistry.contains socket = true ↔
      elapsedMs (d.env.clock (d.clockReads + 1)) (d.env.clock d.clockReads) ≤ ProviderRegistry.providerHeartbeatTimeoutMs) := by
  cases registered : d.providerRegistry.registerProvider socket msg d.env.uuid d.nowMs.1 with
  | mk provider joined =>
  cases outcome : joined.recomputeActiveProvider d.nowMs.2.nowMs.1 d.isConnected with
  | mk changed elected =>
  obtain ⟨viewed,after⟩ := registered_view d msg listens registered outcome
  obtain ⟨_,beat,_,mine,_⟩ := registered_spec registered
  obtain ⟨_,left,_⟩ := ProviderRegistry.recompute_spec outcome
  refine ⟨after,?_⟩
  change ((handleUIRegister d socket msg).view socket).registry.contains socket = true ↔ _
  rw [viewed]
  change elected.contains socket = true ↔ _
  have clock : elapsedMs d.nowMs.2.nowMs.1 d.nowMs.1 =
      elapsedMs (d.env.clock (d.clockReads + 1)) (d.env.clock d.clockReads) := rfl
  constructor
  · intro listed
    obtain ⟨entry,found⟩ := (Table.contains_iff _ _).mp listed
    obtain ⟨before,kept⟩ := (left socket entry).mp found
    cases mine.symm.trans before
    obtain ⟨_,recent⟩ := Bool.and_eq_true_iff.mp kept
    rw [Bool.not_eq_true',decide_eq_false_iff_not,beat,clock] at recent
    exact Int.not_lt.mp recent
  · intro recent
    refine (Table.contains_iff _ _).mpr ⟨provider,(left socket provider).mpr ⟨mine,?_⟩⟩
    rw [listens.connected,Bool.true_and,Bool.not_eq_true',decide_eq_false_iff_not,beat,clock]
    exact Int.not_lt.mpr recent

end Agent

namespace FallbackClient

theorem handleMessage_registered (c : FallbackClient) (msg : QJsonObject) (registered : c.registered = true) :
    (c.handleMessage msg).1.registered = true := by
  unfold handleMessage
  simp only
  split
  · unfold onSubscribed
    simp only [setProviderActive_eq]
    split <;> exact registered
  split
  · unfold onRegistered applyPendingProviderState
    simp only [setProviderActive_eq]
    split
    · rfl
    · split <;> rfl
  split
  · unfold onActive
    simp only [setProviderActive_eq]
    split
    · exact registered
    · split
      · split <;> exact registered
      · exact registered
  split
  · exact registered
  split
  · exact registered
  split
  · unfold onError
    simp only [setProviderActive_eq]
    split <;> exact registered
  · exact registered

end FallbackClient

namespace Hookup

variable {s : Hookup}

def possible (socket : Socket) (s : Hookup) (move : Move) : Prop :=
  match move with
  | .others input => s.daemon.allows input.event ∧ ¬input.event.concerns socket
  | .accept _ => s.watch.outbox.isEmpty = false
  | .deliver => (s.incoming socket).isEmpty = false
  | .watchdog | .heartbeat | .respond .. | .cancel _ => True

instance (socket : Socket) (s : Hookup) : (move : Move) → Decidable (s.possible socket move)
  | .others _ => inferInstanceAs (Decidable (_ ∧ _))
  | .accept _ | .deliver => inferInstanceAs (Decidable (_ = false))
  | .watchdog | .heartbeat | .respond .. | .cancel _ => isTrue trivial

def listed (socket : Socket) (s : Hookup) : Bool := s.daemon.providerRegistry.contains socket

def prunes (socket : Socket) (s : Hookup) (move : Move) : Prop :=
  s.listed socket = true ∧ (step socket s move).listed socket = false

instance (socket : Socket) (s : Hookup) (move : Move) : Decidable (s.prunes socket move) :=
  inferInstanceAs (Decidable (_ ∧ _))

-- The daemon handles a registration of the client whose heartbeat is not too old
-- by the time of the election that follows.
def enlists (s : Hookup) (move : Move) : Prop :=
  match move with
  | .accept env => (∃ json ∈ s.watch.outbox.head?, registers json) ∧
      elapsedMs (env.clock (s.daemon.clockReads + 1)) (env.clock s.daemon.clockReads) ≤ ProviderRegistry.providerHeartbeatTimeoutMs
  | _ => False

instance (s : Hookup) : (move : Move) → Decidable (s.enlists move)
  | .accept _ => inferInstanceAs (Decidable (_ ∧ _))
  | .others _ | .deliver | .watchdog | .heartbeat | .respond .. | .cancel _ => isFalse id

-- A client on a connection that is up, which wrote only what clients write.
structure Attached (socket : Socket) (s : Hookup) : Prop where
  settled : s.daemon.Settled
  listens : s.daemon.Listens socket
  spoken : ∀ json ∈ s.watch.outbox, Spoken json

theorem spoken_listed (d : Daemon) (listens : d.Listens socket) (spoken : Spoken json) :
    let e := Agent.handleMessage d socket (typeOf json) json
    e.Listens socket ∧
    (registers json → (e.providerRegistry.contains socket = true ↔
      elapsedMs (d.env.clock (d.clockReads + 1)) (d.env.clock d.clockReads) ≤ ProviderRegistry.providerHeartbeatTimeoutMs)) ∧
    (¬registers json → e.providerRegistry.contains socket = true → d.providerRegistry.contains socket = true) := by
  have replied {e : Daemon} (replied : Agent.Replied socket d.env.uuid d e) :
      e.Listens socket ∧ (e.providerRegistry.contains socket = true → d.providerRegistry.contains socket = true) := by
    rcases replied with ⟨sequel,after⟩ | ⟨_,rfl⟩
    · exact ⟨after,View.sequel_listed sequel⟩
    · refine ⟨(Daemon.hear_one d socket (.error notActive) listens).2,?_⟩
      rw [Daemon.registry_sendJson]
      exact id
  intro e
  cases spoken with
  | registers =>
    have handled : e = Agent.handleUIRegister d socket FallbackClient.registerJson :=
      Agent.dispatched d FallbackClient.registerJson (by decide +kernel : Agent.handlers.lookup _ = some .uiRegister)
    obtain ⟨after,listed⟩ := Agent.handleUIRegister_listed d FallbackClient.registerJson listens
    rw [handled]
    exact ⟨after,fun _ => listed,fun other => absurd rfl other⟩
  | subscribes =>
    have handled : e = Agent.handleSubscribe d socket :=
      Agent.dispatched d FallbackClient.subscribeJson (by decide +kernel : Agent.handlers.lookup _ = some .subscribe)
    obtain ⟨viewed,after⟩ := Agent.subscribed_view d listens
    have registry := congrArg View.registry viewed
    rw [handled]
    refine ⟨after,fun same => absurd same (by decide +kernel),fun _ listed => ?_⟩
    change ((Agent.handleSubscribe d socket).view socket).registry.contains socket = true at listed
    rw [registry] at listed
    exact listed
  | beats id =>
    have named : typeOf (FallbackClient.heartbeatJson id) = text "ui.heartbeat" := rfl
    have handled : e = Agent.handleUIHeartbeat d socket :=
      Agent.dispatched d (FallbackClient.heartbeatJson id)
        (by rw [named]; decide +kernel : Agent.handlers.lookup _ = some .uiHeartbeat)
    obtain ⟨after,kept⟩ := replied (Agent.replied_handleUIHeartbeat d d.env.uuid listens)
    rw [handled]
    exact ⟨after,fun same => absurd (named.symm.trans same) (by decide +kernel),fun _ => kept⟩
  | responds id response =>
    have named : typeOf (FallbackClient.respondJson id response) = text "session.respond" := rfl
    have handled : e = Agent.handleRespond d socket (FallbackClient.respondJson id response) :=
      Agent.dispatched d (FallbackClient.respondJson id response)
        (by rw [named]; decide +kernel : Agent.handlers.lookup _ = some .respond)
    obtain ⟨after,kept⟩ := replied (Agent.replied_handleRespond d _ d.env.uuid listens)
    rw [handled]
    exact ⟨after,fun same => absurd (named.symm.trans same) (by decide +kernel),fun _ => kept⟩
  | cancels id =>
    have named : typeOf (FallbackClient.cancelJson id) = text "session.cancel" := rfl
    have handled : e = Agent.handleCancel d socket (FallbackClient.cancelJson id) :=
      Agent.dispatched d (FallbackClient.cancelJson id)
        (by rw [named]; decide +kernel : Agent.handlers.lookup _ = some .cancel)
    obtain ⟨after,kept⟩ := replied (Agent.replied_handleCancel d _ d.env.uuid listens)
    rw [handled]
    exact ⟨after,fun same => absurd (named.symm.trans same) (by decide +kernel),fun _ => kept⟩

theorem uttered_spoken (utters : Utters signals) (attached : Attached socket s) :
    Attached socket (s.say signals) ∧ (s.say signals).watch.client = s.watch.client := by
  obtain ⟨jsons,rfl,spoken⟩ := utters
  have written : s.say (jsons.map .wrote) = {s with watch:={s.watch with outbox:=s.watch.outbox ++ jsons}} := by
    unfold say
    rw [emit_uttered]
  rw [written]
  refine ⟨⟨attached.settled,attached.listens,?_⟩,rfl⟩
  intro json present
  rcases List.mem_append.mp present with old | new
  · exact attached.spoken json old
  · exact spoken json new

-- What one move does to a client that is attached: it stays so, stays registered
-- if it was, and is on the list if it is enlisted, or was and is not pruned.
structure Moved (socket : Socket) (s : Hookup) (move : Move) : Prop where
  attached : Attached socket (step socket s move)
  registered : s.watch.client.registered = true → (step socket s move).watch.client.registered = true
  enlisted : s.enlists move → (step socket s move).listed socket = true
  kept : ¬s.enlists move → (step socket s move).listed socket = true → s.listed socket = true

theorem moved_say (move : Move) (said : step socket s move = s.say signals) (utters : Utters signals)
    (silent : ¬s.enlists move) (attached : Attached socket s) : Moved socket s move := by
  obtain ⟨after,client⟩ := uttered_spoken utters attached
  refine ⟨said ▸ after,?_,fun enlists => absurd enlists silent,?_⟩
  · intro registered
    rw [said,client]
    exact registered
  · intro _ listed
    rw [said] at listed
    exact listed

theorem moved_accept (env : Env) (filled : s.watch.outbox.isEmpty = false) (attached : Attached socket s) :
    Moved socket s (.accept env) := by
  obtain ⟨settled,listens,spoken⟩ := attached
  cases asked : s.watch.outbox with
  | nil =>
    rw [asked] at filled
    cases filled
  | cons json rest =>
    have listening : ({s.daemon with env} : Daemon).Listens socket :=
      ⟨listens.connected,listens.patient,listens.once,listens.ids⟩
    obtain ⟨after,fresh,old⟩ := spoken_listed {s.daemon with env} listening (spoken json (asked ▸ List.mem_cons_self))
    have accepted : step socket s (.accept env) = {s with
        daemon := Agent.handleMessage {s.daemon with env} socket (typeOf json) json
        watch := {s.watch with outbox:=rest}
        handled := s.handled + 1} := by
      change s.accept socket env = _
      unfold accept
      rw [asked]
      rfl
    have stepped := Daemon.step_settled s.daemon ⟨env,.message socket (typeOf json) json⟩ settled
    have enlists : s.enlists (.accept env) ↔ registers json ∧
        elapsedMs (env.clock (s.daemon.clockReads + 1)) (env.clock s.daemon.clockReads) ≤ ProviderRegistry.providerHeartbeatTimeoutMs := by
      unfold Hookup.enlists
      rw [asked]
      simp
    refine ⟨?_,?_,?_,?_⟩
    · rw [accepted]
      exact ⟨stepped,after,fun other present => spoken other (asked ▸ List.mem_cons_of_mem _ present)⟩
    · intro registered
      rw [accepted]
      exact registered
    · intro enlisted
      obtain ⟨registers,recent⟩ := enlists.mp enlisted
      rw [accepted]
      exact (fresh registers).mpr recent
    · intro silent listed
      rw [accepted] at listed
      by_cases same : registers json
      · exact absurd (enlists.mpr ⟨same,(fresh same).mp listed⟩) silent
      · exact old same listed

theorem moved (move : Move) (attached : Attached socket s) (allowed : s.possible socket move) : Moved socket s move := by
  cases move with
  | others input =>
    have listening : ({s.daemon with env:=input.env} : Daemon).Listens socket :=
      ⟨attached.listens.connected,attached.listens.patient,attached.listens.once,attached.listens.ids⟩
    obtain ⟨sequel,listens⟩ := Daemon.others_sequel {s.daemon with env:=input.env} input.event attached.settled listening allowed.2
    have settled := Daemon.step_settled s.daemon input attached.settled
    exact ⟨⟨settled,listens,attached.spoken⟩,id,False.elim,fun _ => View.sequel_listed sequel⟩
  | accept env => exact moved_accept env allowed attached
  | deliver =>
    cases incoming : s.incoming socket with
    | nil =>
      unfold possible at allowed
      rw [incoming] at allowed
      cases allowed
    | cons message rest =>
      have delivered : step socket s .deliver =
          {s with watch := s.watch.deliver message,delivered := s.delivered + 1} := by
        change s.deliver socket = _
        unfold deliver
        rw [incoming]
      refine ⟨?_,?_,False.elim,?_⟩
      · rw [delivered]
        exact ⟨attached.settled,attached.listens,Watch.deliver_spoken message attached.spoken⟩
      · intro registered
        rw [delivered]
        have told := FallbackClient.handleMessage_registered s.watch.client message.json registered
        refine (congrArg FallbackClient.registered ?_).trans told
        exact Watch.emit_client _ _
      · intro _ listed
        rw [delivered] at listed
        exact listed
  | watchdog => exact moved_say .watchdog rfl (utters_subscribeWatchdog _) id attached
  | heartbeat => exact moved_say .heartbeat rfl (utters_heartbeatTimer _) id attached
  | respond id response => exact moved_say (.respond id response) rfl (utters_sendJson _ (.responds id response)) (fun never => never) attached
  | cancel id => exact moved_say (.cancel id) rfl (utters_sendJson _ (.cancels id)) (fun never => never) attached

theorem listed_step (moved : Moved socket s move) :
    (step socket s move).listed socket = true ↔ s.enlists move ∨ s.listed socket = true ∧ ¬s.prunes socket move := by
  constructor
  · intro listed
    by_cases enlists : s.enlists move
    · exact .inl enlists
    · refine .inr ⟨moved.kept enlists listed,?_⟩
      intro pruned
      exact Bool.false_ne_true (pruned.2.symm.trans listed)
  · intro found
    rcases found with enlists | ⟨listed,kept⟩
    · exact moved.enlisted enlists
    · by_contra unlisted
      exact kept ⟨listed,Bool.eq_false_iff.mpr unlisted⟩

end Hookup

def liaison (d : Daemon) (env : Env) (peerPid : Pid) (c : FallbackClient) : Machine Hookup Move where
  initial := {daemon := d.step ⟨env,.connected peerPid⟩,watch := .joined c}
  enabled := Hookup.possible d.nextSocket
  step := Hookup.step d.nextSocket

instance (d : Daemon) (env : Env) (peerPid : Pid) (c : FallbackClient) (moves : List Move) :
    Decidable ((liaison d env peerPid c).Admits moves) :=
  have (s : Hookup) (move : Move) : Decidable ((liaison d env peerPid c).enabled s move) :=
    inferInstanceAs (Decidable (s.possible d.nextSocket move))
  inferInstanceAs (Decidable (Machine.Every _ (liaison d env peerPid c).enabled moves))

namespace FallbackClient

open Hookup (Attached moved listed_step)

variable {d : Daemon} {env : Env} {peerPid : Pid} {c : FallbackClient} {s : Hookup}

theorem attached_reached (path : daemon.Reached d) (reached : (liaison d env peerPid c).Reached s) :
    Attached d.nextSocket s := by
  apply reached.invariant (P := Attached d.nextSocket)
  · obtain ⟨listens,_⟩ := Daemon.newcomer_view path env peerPid
    have linked := linked_joined True path env peerPid c
    exact ⟨linked.settled,listens,linked.spoken⟩
  · intro s move _ attached allowed
    exact (moved move attached allowed).attached

def Regained (d : Daemon) (env : Env) (peerPid : Pid) (c : FallbackClient) (s : Hookup) (moves : List Move) : Prop :=
  ∃ early move late, moves = early ++ move :: late ∧ ((liaison d env peerPid c).runFrom s early).enlists move ∧
    (liaison d env peerPid c).EveryFrom (fun s move => ¬s.prunes d.nextSocket move)
      ((liaison d env peerPid c).runFrom s (early ++ [move])) late

theorem listed_iff (path : daemon.Reached d) (reached : (liaison d env peerPid c).Reached s) (moves : List Move)
    (admitted : (liaison d env peerPid c).EveryFrom (liaison d env peerPid c).enabled s moves)
    (lost : s.listed d.nextSocket = false) :
    ((liaison d env peerPid c).runFrom s moves).listed d.nextSocket = true ↔ Regained d env peerPid c s moves := by
  refine Machine.since_iff (fun s => s.listed d.nextSocket = true) ?_ reached admitted (Bool.eq_false_iff.mp lost)
  intro s move here allowed
  exact listed_step (moved move (attached_reached path here) allowed)

-- In every run in which the daemon prunes the client and the client writes a
-- heartbeat afterwards: from then on both sides agree on its registration exactly
-- when the client was enlisted once more, and not pruned again.
theorem found_again_iff (path : daemon.Reached d) (env : Env) (peerPid : Pid) (c : FallbackClient)
    {before middle after : List Move} {prune : Move}
    (admitted : (liaison d env peerPid c).Admits (before ++ prune :: (middle ++ .heartbeat :: after)))
    (pruned : ((liaison d env peerPid c).run before).prunes d.nextSocket prune)
    (beats : ((liaison d env peerPid c).run (before ++ prune :: middle)).watch.client.registered = true) :
    let s := (liaison d env peerPid c).run (before ++ prune :: (middle ++ .heartbeat :: after))
    (s.watch.client.registered = true ↔ s.listed d.nextSocket = true) ↔
      Regained d env peerPid c ((liaison d env peerPid c).run (before ++ [prune])) (middle ++ .heartbeat :: after) := by
  intro s
  have split : before ++ prune :: (middle ++ .heartbeat :: after) = (before ++ [prune]) ++ (middle ++ .heartbeat :: after) := by
    rw [List.append_assoc]
    rfl
  have halves : before ++ prune :: (middle ++ .heartbeat :: after) = (before ++ prune :: middle) ++ (.heartbeat :: after) := by
    rw [List.append_assoc]
    rfl
  have whole := admitted
  rw [split] at whole
  obtain ⟨first,rest⟩ := (Machine.everyFrom_append _ (before ++ [prune]) _).mp whole
  have lost : ((liaison d env peerPid c).run (before ++ [prune])).listed d.nextSocket = false := by
    have stepped : (liaison d env peerPid c).run (before ++ [prune]) =
        Hookup.step d.nextSocket ((liaison d env peerPid c).run before) prune := Machine.runFrom_append _ before [prune]
    rw [stepped]
    exact pruned.2
  have listed := listed_iff path (Machine.Reached.initial.runFrom first) (middle ++ .heartbeat :: after) rest lost
  rw [← Machine.runFrom_append,← split] at listed
  have registered : s.watch.client.registered = true := by
    have later := admitted
    rw [halves] at later
    obtain ⟨early,late⟩ := (Machine.everyFrom_append _ (before ++ prune :: middle) _).mp later
    have told : ∀ s move, (liaison d env peerPid c).Reached s → (liaison d env peerPid c).enabled s move → True →
        s.watch.client.registered = true → ((liaison d env peerPid c).step s move).watch.client.registered = true :=
      fun s move reached allowed _ => (moved move (attached_reached path reached) allowed).registered
    have kept := Machine.runFrom_invariant told (Machine.Reached.initial.runFrom early) late (fun _ _ _ => trivial) beats
    rw [← Machine.runFrom_append,← halves] at kept
    exact kept
  constructor
  · intro agree
    exact listed.mp (agree.mp registered)
  · intro regained
    exact ⟨fun _ => listed.mpr regained,fun _ => registered⟩

def resumed : Env := {Env.quiet with clock:=fun _ => 20000}

-- The daemon handles a second registration, which the watchdog wrote before the
-- first one was answered, only after it dropped the first.
def twiceRegistered : List Move := [.watchdog,.accept .quiet,.deliver,.deliver]

def heldUp : List Move := [.accept resumed,.accept resumed]

def answered : List Move :=
  [.accept resumed,.accept resumed,.accept resumed,.deliver,.deliver,.deliver,.deliver,.deliver,.deliver]

theorem heldUp_found :
    let s := (liaison .initial .quiet 7 {}).run
      (twiceRegistered ++ .others ⟨resumed,.maintenance⟩ :: (heldUp ++ .heartbeat :: answered))
    s.watch.client.registered = true ↔ s.listed 0 = true := by
  have regained : Regained .initial .quiet 7 {} ((liaison .initial .quiet 7 {}).run
      (twiceRegistered ++ [.others ⟨resumed,.maintenance⟩])) (heldUp ++ .heartbeat :: answered) :=
    ⟨[.accept resumed],.accept resumed,.heartbeat :: answered,rfl,by decide +kernel,by decide +kernel⟩
  exact (found_again_iff .initial .quiet 7 {} (by decide +kernel) (by decide +kernel) (by decide +kernel)).mpr regained

-- A client that was told of its registration, with no other one on its way, and
-- that the daemon does not list.
structure Lost (socket : Socket) (s : Hookup) : Prop where
  attached : Attached socket s
  registered : s.watch.client.registered = true
  unlisted : s.listed socket = false
  unasked : ∀ json ∈ s.watch.outbox, ¬Hookup.registers json

theorem writes_unasked (c : FallbackClient) (registered : c.registered = true) (wrote : .wrote json ∈ c.subscribeWatchdog) :
    ¬Hookup.registers json := by
  unfold subscribeWatchdog at wrote
  rw [registered] at wrote
  split at wrote
  · cases wrote
  · simp only [Bool.not_true,Bool.false_eq_true,if_false,List.nil_append] at wrote
    split at wrote
    · unfold subscribe sendJson at wrote
      split at wrote
      · cases wrote
      · cases List.mem_singleton.mp wrote
        decide +kernel
    · cases wrote

theorem sends_unasked (c : FallbackClient) (other : ¬Hookup.registers json) (wrote : .wrote written ∈ c.sendJson json) :
    ¬Hookup.registers written := by
  unfold sendJson at wrote
  split at wrote
  · cases wrote
  · cases List.mem_singleton.mp wrote
    exact other

theorem lost_step {socket : Socket} (move : Move) (lost : Lost socket s) (allowed : s.possible socket move) :
    Lost socket (Hookup.step socket s move) := by
  obtain ⟨attached,registered,unlisted,unasked⟩ := lost
  have after := moved move attached allowed
  have silent : ¬s.enlists move := by
    intro enlists
    cases move with
    | accept env =>
      obtain ⟨⟨json,first,registers⟩,_⟩ := enlists
      exact unasked json (List.mem_of_head? first) registers
    | others | deliver | watchdog | heartbeat | respond | cancel => exact enlists
  refine ⟨after.attached,after.registered registered,?_,?_⟩
  · apply Bool.eq_false_iff.mpr
    intro listed
    exact Bool.false_ne_true (unlisted.symm.trans (after.kept silent listed))
  · have said (signals : List ClientSignal) (writes : ∀ json, .wrote json ∈ signals → ¬Hookup.registers json) :
        ∀ json ∈ (s.say signals).watch.outbox, ¬Hookup.registers json := by
      intro json present
      rcases Watch.emit_outbox _ signals present with old | wrote
      · exact unasked json old
      · exact writes json wrote
    cases move with
    | others input => exact unasked
    | accept env =>
      intro json present
      change json ∈ (s.accept socket env).watch.outbox at present
      unfold Hookup.accept at present
      split at present
      · exact unasked json present
      · next asked => exact unasked json (asked ▸ List.mem_cons_of_mem _ present)
    | deliver =>
      intro json present
      change json ∈ (s.deliver socket).watch.outbox at present
      unfold Hookup.deliver at present
      split at present
      · exact unasked json present
      · next message rest _ =>
        rcases Watch.emit_outbox {s.watch with client:=_} _ present with old | wrote
        · exact unasked json old
        · rw [handleMessage_writes s.watch.client message.json wrote]
          decide +kernel
    | watchdog => exact said _ (fun json wrote => writes_unasked _ registered wrote)
    | heartbeat =>
      have other : ¬Hookup.registers (heartbeatJson s.watch.client.providerId) :=
        (by decide +kernel : text "ui.heartbeat" ≠ text "ui.register")
      apply said
      intro json wrote
      unfold heartbeatTimer at wrote
      split at wrote
      · cases wrote
      · exact sends_unasked _ other wrote
    | respond id response =>
      have other : ¬Hookup.registers (respondJson id response) :=
        (by decide +kernel : text "session.respond" ≠ text "ui.register")
      exact said _ (fun json => sends_unasked _ other)
    | cancel id =>
      have other : ¬Hookup.registers (cancelJson id) := (by decide +kernel : text "session.cancel" ≠ text "ui.register")
      exact said _ (fun json => sends_unasked _ other)

theorem lost_stays (moves : List Move) (lost : Lost d.nextSocket s)
    (admitted : (liaison d env peerPid c).EveryFrom (liaison d env peerPid c).enabled s moves) :
    (liaison d env peerPid c).AlwaysFrom (Lost d.nextSocket) s moves :=
  Machine.AlwaysFrom.of_kept (P := Lost d.nextSocket) (fun _ move lost allowed _ => lost_step move lost allowed)
    (fun _ lost => lost) admitted admitted lost

-- The machine sleeps for twenty seconds, and the daemon's tick comes first.
def slept : List Move :=
  [.accept .quiet,.accept .quiet,.deliver,.deliver,.deliver,.accept .quiet,.deliver,
   .others ⟨resumed,.maintenance⟩,.deliver,.heartbeat,.accept resumed,.deliver]

theorem slept_lost :
    (liaison .initial .quiet 7 {}).Admits slept ∧
    ((liaison .initial .quiet 7 {}).run (slept.take 7)).prunes 0 (.others ⟨resumed,.maintenance⟩) ∧
    let s := (liaison .initial .quiet 7 {}).run slept
    s.incoming 0 = [] ∧ s.watch.outbox.length = 0 ∧
      ¬(s.watch.client.registered = true ↔ s.listed 0 = true) := by
  decide +kernel

end FallbackClient

end BbAuth
