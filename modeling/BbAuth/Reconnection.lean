import BbAuth.FallbackClient
import BbAuth.Library.Backoff
import BbAuth.Library.Runs

open Library
namespace BbAuth

-- QLocalSocket as the client sees it. Nobody disconnects it from the server, so
-- it is never closing.
inductive ClientSocketState where
  | unconnected
  | connecting
  | connected
  deriving DecidableEq, Repr

inductive LinkEvent where
  | attempted
  | opened
  | lost
  | waited (delay : Nat)
  deriving DecidableEq, Repr

-- FallbackClient with its socket and its reconnect timer, which is single-shot: the
-- delay it was started with while it runs. `link` has the latest event first.
structure ReconnectingClient where
  client : FallbackClient := {}
  state : ClientSocketState := .unconnected
  started : Bool := false
  reconnectDelayMs : Nat := 200
  reconnectTimer : Option Nat := none
  link : List LinkEvent := []
  deriving DecidableEq, Repr

-- The signals of the socket and the timers, and what the window asks for.
inductive ClientInput where
  | start
  | connected
  | errorOccurred
  | disconnected
  | timeout
  | message (msg : QJsonObject)
  | subscribeWatchdog
  | heartbeatTimer
  | sendResponse (id response : QString)
  | sendCancel (id : QString)

namespace ReconnectingClient

def ensureConnected (c : ReconnectingClient) : ReconnectingClient :=
  if c.state = .connected ∨ c.state = .connecting then c
  else {c with state:=.connecting,link:=.attempted :: c.link}

-- What the slots of disconnected and errorOccurred have in common.
def scheduleReconnect (c : ReconnectingClient) : ReconnectingClient :=
  if c.reconnectTimer.isSome then c
  else
    {c with
      reconnectTimer:=some c.reconnectDelayMs
      reconnectDelayMs:=min (c.reconnectDelayMs * 2) 4000
      link:=.waited c.reconnectDelayMs :: c.link}

-- Both timers that start here only write to a connected socket.
def start (c : ReconnectingClient) : ReconnectingClient := ensureConnected {c with started:=true}

def onConnected (c : ReconnectingClient) : ReconnectingClient :=
  {c with client:=c.client.onConnected.1,state:=.connected,reconnectDelayMs:=200,link:=.opened :: c.link}

def onDisconnected (c : ReconnectingClient) : ReconnectingClient :=
  scheduleReconnect {c with client:=c.client.onDisconnected.1,state:=.unconnected,link:=.lost :: c.link}

-- An error while the socket connects ends the attempt once the slot has returned.
def onErrorOccurred (c : ReconnectingClient) : ReconnectingClient :=
  let c := if c.state ≠ .connected then c.scheduleReconnect else c
  if c.state = .connecting then {c with state:=.unconnected} else c

def onTimeout (c : ReconnectingClient) : ReconnectingClient := ensureConnected {c with reconnectTimer:=none}

def step (c : ReconnectingClient) (input : ClientInput) : ReconnectingClient :=
  match input with
  | .start => c.start
  | .connected => c.onConnected
  | .errorOccurred => c.onErrorOccurred
  | .disconnected => c.onDisconnected
  | .timeout => c.onTimeout
  | .message msg => {c with client:=(c.client.handleMessage msg).1}
  | .subscribeWatchdog | .heartbeatTimer | .sendResponse .. | .sendCancel _ => c

-- The socket speaks of a connection only after start has asked for one, and the
-- timer fires while it runs.
def enabled (c : ReconnectingClient) (input : ClientInput) : Prop :=
  match input with
  | .start => c.started = false
  | .connected => c.state = .connecting
  | .errorOccurred => c.started = true
  | .disconnected | .message _ => c.state = .connected
  | .timeout => c.reconnectTimer.isSome = true
  | .subscribeWatchdog | .heartbeatTimer => c.started = true
  | .sendResponse .. | .sendCancel _ => True

end ReconnectingClient

def reconnectingClient : Machine ReconnectingClient ClientInput where
  initial := {}
  enabled := ReconnectingClient.enabled
  step := ReconnectingClient.step

theorem FallbackClient.handleMessage_connected (c : FallbackClient) (msg : QJsonObject) :
    (c.handleMessage msg).1.connected = c.connected := by
  unfold handleMessage onSubscribed onRegistered applyPendingProviderState onActive onError
  simp only [setProviderActive_eq]
  repeat' split
  all_goals rfl

def LinkEvent.isWait : LinkEvent → Bool
  | .waited _ => true
  | .attempted | .opened | .lost => false

namespace ReconnectingClient

variable {c : ReconnectingClient}

def backoff : Backoff := ⟨200,4000,by decide⟩

theorem backoff_bounds (failures : Nat) : 200 ≤ backoff.wait failures ∧ backoff.wait failures ≤ 4000 :=
  ⟨backoff.first_wait failures,backoff.wait_limit failures⟩

def waits : List LinkEvent → List Nat
  | [] => []
  | .opened :: _ => []
  | .waited delay :: rest => waits rest ++ [delay]
  | .attempted :: rest | .lost :: rest => waits rest

-- The waits of a link follow the schedule, and the delay to come continues it.
structure OnSchedule (link : List LinkEvent) (delay : Nat) : Prop where
  waited : waits link = backoff.schedule (waits link).length
  next : delay = backoff.wait (waits link).length

-- What holds from the start on. Without a connection the client tries to get one or
-- waits as scheduled, and every attempt but the first has a wait of its own.
structure Persists (c : ReconnectingClient) : Prop where
  armed : c.reconnectTimer.isSome = true ↔ c.state = .unconnected
  bounded : ∀ delay, c.reconnectTimer = some delay → 200 ≤ delay ∧ delay ≤ 4000
  scheduled : OnSchedule c.link c.reconnectDelayMs
  paced : c.link.count .attempted + (if c.state = .unconnected then 1 else 0) = c.link.countP LinkEvent.isWait + 1
  linked : c.client.connected = decide (c.state = .connected)

theorem onSchedule_waited (link : List LinkEvent) (scheduled : OnSchedule link delay) :
    OnSchedule (.waited delay :: link) (min (delay * 2) 4000) := by
  have more : waits (.waited delay :: link) = waits link ++ [delay] := rfl
  have next : min (delay * 2) 4000 = backoff.next delay := rfl
  constructor
  · rw [more,List.length_append,List.length_singleton,backoff.schedule_more,← scheduled.waited,← scheduled.next]
  · rw [more,List.length_append,List.length_singleton,next,← backoff.wait_next,← scheduled.next]

theorem scheduleReconnect_persists (idle : c.reconnectTimer = none) (down : c.state = .unconnected)
    (scheduled : OnSchedule c.link c.reconnectDelayMs) (paced : c.link.count .attempted = c.link.countP LinkEvent.isWait + 1)
    (linked : c.client.connected = false) : c.scheduleReconnect.Persists := by
  have waits : c.scheduleReconnect = {c with
      reconnectTimer:=some c.reconnectDelayMs
      reconnectDelayMs:=min (c.reconnectDelayMs * 2) 4000
      link:=.waited c.reconnectDelayMs :: c.link} := if_neg (by rw [idle]; exact nofun)
  rw [waits]
  refine ⟨⟨fun _ => down,fun _ => rfl⟩,?_,onSchedule_waited c.link scheduled,?_,?_⟩
  · rintro _ ⟨⟩
    rw [scheduled.next]
    exact backoff_bounds _
  · rw [if_pos down,List.count_cons_of_ne (by exact nofun),List.countP_cons_of_pos rfl,paced]
  · rw [down]
    exact linked

theorem persists_idle (persists : c.Persists) (up : c.state ≠ .unconnected) : c.reconnectTimer = none := by
  cases timer : c.reconnectTimer with
  | none => rfl
  | some delay => exact absurd (persists.armed.mp (by rw [timer]; rfl)) up

theorem onConnected_persists (persists : c.Persists) (tries : c.state = .connecting) : c.onConnected.Persists := by
  have idle := persists_idle persists (by rw [tries]; exact nofun)
  have paced := persists.paced
  refine ⟨⟨fun waits => ?_,nofun⟩,?_,⟨rfl,rfl⟩,?_,?_⟩
  · change c.reconnectTimer.isSome = true at waits
    rw [idle] at waits
    cases waits
  · exact persists.bounded
  · rw [if_neg (by rw [tries]; exact nofun)] at paced
    exact paced
  · change c.client.onConnected.1.connected = true
    rw [FallbackClient.onConnected_client]

theorem onDisconnected_persists (persists : c.Persists) (up : c.state = .connected) : c.onDisconnected.Persists := by
  have paced := persists.paced
  rw [if_neg (by rw [up]; exact nofun)] at paced
  have idle := persists_idle persists (by rw [up]; exact nofun)
  have unlinked : c.client.onDisconnected.1.connected = false := by rw [FallbackClient.onDisconnected_client]
  exact scheduleReconnect_persists (c := {c with client:=_,state:=.unconnected,link:=_}) idle rfl
    ⟨persists.scheduled.waited,persists.scheduled.next⟩ paced unlinked

theorem onErrorOccurred_persists (persists : c.Persists) : c.onErrorOccurred.Persists := by
  cases state : c.state with
  | connected =>
    have same : c.onErrorOccurred = c := by
      simp [onErrorOccurred,state]
    rw [same]
    exact persists
  | unconnected =>
    have waits : c.scheduleReconnect = c := if_pos (persists.armed.mpr state)
    have same : c.onErrorOccurred = c := by
      simp [onErrorOccurred,state,waits]
    rw [same]
    exact persists
  | connecting =>
    have idle := persists_idle persists (by rw [state]; exact nofun)
    have paced := persists.paced
    rw [if_neg (by rw [state]; exact nofun)] at paced
    have same : c.onErrorOccurred = scheduleReconnect {c with state:=.unconnected} := by
      simp [onErrorOccurred,scheduleReconnect,state,idle]
    have unlinked := persists.linked
    rw [state] at unlinked
    rw [same]
    exact scheduleReconnect_persists (c := {c with state:=.unconnected}) idle rfl persists.scheduled paced unlinked

theorem onTimeout_persists (persists : c.Persists) (fires : c.reconnectTimer.isSome = true) : c.onTimeout.Persists := by
  have down := persists.armed.mp fires
  have paced := persists.paced
  have linked := persists.linked
  rw [down] at linked
  rw [if_pos down] at paced
  have tries : c.onTimeout = {c with reconnectTimer:=none,state:=.connecting,link:=.attempted :: c.link} := by
    simp [onTimeout,ensureConnected,down]
  rw [tries]
  refine ⟨⟨nofun,nofun⟩,fun _ => nofun,⟨persists.scheduled.waited,persists.scheduled.next⟩,?_,linked⟩
  rw [if_neg (by exact nofun),List.count_cons_self,List.countP_cons_of_neg (by exact nofun)]
  exact paced

structure Resting (c : ReconnectingClient) : Prop where
  state : c.state = .unconnected
  timer : c.reconnectTimer = none
  delay : c.reconnectDelayMs = 200
  link : c.link = []
  client : c.client.connected = false

theorem start_persists (rests : c.Resting) : c.start.Persists := by
  have tries : c.start = {c with started:=true,state:=.connecting,link:=[.attempted]} := by
    simp [start,ensureConnected,rests.state,rests.link]
  rw [tries]
  refine ⟨⟨fun waits => ?_,nofun⟩,fun delay waits => ?_,⟨rfl,rests.delay⟩,rfl,rests.client⟩
  · change c.reconnectTimer.isSome = true at waits
    rw [rests.timer] at waits
    cases waits
  · cases rests.timer.symm.trans waits

theorem step_persists (persists : c.Persists) (allowed : c.enabled input) (other : input ≠ .start) : (c.step input).Persists := by
  cases input with
  | start => exact absurd rfl other
  | connected => exact onConnected_persists persists allowed
  | errorOccurred => exact onErrorOccurred_persists persists
  | disconnected => exact onDisconnected_persists persists allowed
  | timeout => exact onTimeout_persists persists allowed
  | message msg =>
    refine ⟨persists.armed,persists.bounded,persists.scheduled,persists.paced,?_⟩
    exact (FallbackClient.handleMessage_connected c.client msg).trans persists.linked
  | subscribeWatchdog | heartbeatTimer | sendResponse | sendCancel => exact persists

theorem ensureConnected_started (c : ReconnectingClient) : c.ensureConnected.started = c.started := by
  unfold ensureConnected
  split <;> rfl

theorem scheduleReconnect_started (c : ReconnectingClient) : c.scheduleReconnect.started = c.started := by
  unfold scheduleReconnect
  split <;> rfl

theorem step_started (c : ReconnectingClient) (input : ClientInput) (other : input ≠ .start) :
    (c.step input).started = c.started := by
  cases input with
  | start => exact absurd rfl other
  | timeout => exact ensureConnected_started _
  | disconnected => exact scheduleReconnect_started _
  | errorOccurred =>
    have same (c : ReconnectingClient) : (if c.state = .connecting then {c with state:=.unconnected} else c).started = c.started := by
      split <;> rfl
    change (if _ then {(if _ then c.scheduleReconnect else c) with state:=.unconnected} else _).started = _
    rw [same]
    split
    · exact scheduleReconnect_started c
    · rfl
  | connected | message | subscribeWatchdog | heartbeatTimer | sendResponse | sendCancel => rfl

-- Before the start nothing happens, and from then on the client persists.
def Sound (c : ReconnectingClient) : Prop := c.started = false ∧ c.Resting ∨ c.started = true ∧ c.Persists

theorem step_sound (sound : c.Sound) (allowed : c.enabled input) : (c.step input).Sound := by
  by_cases first : input = .start
  · subst first
    rcases sound with ⟨_,rests⟩ | ⟨started,_⟩
    · exact .inr ⟨ensureConnected_started _,start_persists rests⟩
    · cases started.symm.trans allowed
  · unfold Sound
    rw [step_started c input first]
    rcases sound with ⟨before,rests⟩ | ⟨started,persists⟩
    · refine .inl ⟨before,?_⟩
      cases input with
      | start => exact absurd rfl first
      | connected => cases rests.state.symm.trans allowed
      | disconnected | message => cases rests.state.symm.trans allowed
      | errorOccurred | subscribeWatchdog | heartbeatTimer => cases before.symm.trans allowed
      | timeout =>
        change c.reconnectTimer.isSome = true at allowed
        rw [rests.timer] at allowed
        cases allowed
      | sendResponse | sendCancel => exact rests
    · exact .inr ⟨started,step_persists persists allowed first⟩

theorem reached_sound (path : reconnectingClient.Reached c) : c.Sound := by
  refine Machine.Reached.invariant (.inl ⟨rfl,rfl,rfl,rfl,rfl,rfl⟩) ?_ path
  intro c input _ sound allowed
  exact step_sound sound allowed

-- A client that was started never gives up: whenever it has no connection it is trying
-- or waits no longer than four seconds, its waits double from one failure to the next,
-- it makes no attempt without a wait, and two signals are enough to connect it.
theorem never_gives_up (path : reconnectingClient.Reached c) (started : c.started = true) :
    c.Persists ∧ ∃ inputs, inputs.length ≤ 2 ∧ reconnectingClient.EveryFrom enabled c inputs ∧
      (reconnectingClient.runFrom c inputs).state = .connected := by
  rcases reached_sound path with ⟨before,_⟩ | ⟨_,persists⟩
  · cases before.symm.trans started
  · refine ⟨persists,?_⟩
    cases state : c.state with
    | connected => exact ⟨[],Nat.zero_le _,trivial,state⟩
    | connecting => exact ⟨[.connected],by decide,⟨state,trivial⟩,rfl⟩
    | unconnected =>
      have tries : c.onTimeout.state = .connecting := by
        simp [onTimeout,ensureConnected,state]
      exact ⟨[.timeout,.connected],by decide,⟨persists.armed.mpr state,tries,trivial⟩,rfl⟩

def outage : List ClientInput :=
  [.start,.connected,.disconnected,.timeout,.errorOccurred,.timeout,.errorOccurred]

theorem outage_persists :
    waits (reconnectingClient.run outage).link = [200,400,800] ∧
    (reconnectingClient.run outage).Persists ∧ ∃ inputs, inputs.length ≤ 2 ∧
      reconnectingClient.EveryFrom enabled (reconnectingClient.run outage) inputs ∧
      (reconnectingClient.runFrom (reconnectingClient.run outage) inputs).state = .connected :=
  ⟨by decide,never_gives_up (Machine.Admits.reached ⟨rfl,rfl,rfl,rfl,rfl,rfl,rfl,trivial⟩) rfl⟩

end ReconnectingClient

end BbAuth
