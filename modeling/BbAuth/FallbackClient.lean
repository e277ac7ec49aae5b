import BbAuth.IpcClient

open Library
namespace BbAuth

-- What FallbackClient writes and what it tells its window.
inductive ClientSignal where
  | wrote (json : QJsonObject)
  | connectionStateChanged (connected : Bool)
  | providerStateChanged (active : Bool)
  | statusMessage (status : QString)
  | sessionCreated (event : QJsonObject)
  | sessionUpdated (event : QJsonObject)
  | sessionClosed (event : QJsonObject)

structure FallbackClient where
  connected : Bool := false
  subscribed : Bool := false
  registered : Bool := false
  providerActive : Bool := false
  providerId : QString := []
  pendingProviderActiveKnown : Bool := false
  pendingProviderActive : Bool := false
  pendingProviderId : QString := []
  deriving DecidableEq, Repr

namespace FallbackClient

def sendJson (c : FallbackClient) (json : QJsonObject) : List ClientSignal :=
  if !c.connected then [] else [.wrote json]

def registerJson : QJsonObject :=
  .ofList [(text "type",.string (text "ui.register")),
    (text "name",.string (text "bb-auth-fallback")),
    (text "kind",.string (text "fallback")),
    (text "priority",.integer 10)]

def subscribeJson : QJsonObject := .ofList [(text "type",.string (text "subscribe"))]

def heartbeatJson (providerId : QString) : QJsonObject :=
  .ofList [(text "type",.string (text "ui.heartbeat")),(text "id",.string providerId)]

def respondJson (id response : QString) : QJsonObject :=
  .ofList [(text "type",.string (text "session.respond")),(text "id",.string id),
    (text "response",.string response)]

def cancelJson (id : QString) : QJsonObject :=
  .ofList [(text "type",.string (text "session.cancel")),(text "id",.string id)]

def registerProvider (c : FallbackClient) : List ClientSignal := c.sendJson registerJson

def subscribe (c : FallbackClient) : List ClientSignal := c.sendJson subscribeJson

def sendResponse (c : FallbackClient) (id response : QString) : List ClientSignal :=
  c.sendJson (respondJson id response)

def sendCancel (c : FallbackClient) (id : QString) : List ClientSignal := c.sendJson (cancelJson id)

def setProviderActive (c : FallbackClient) (active : Bool) : FallbackClient × List ClientSignal :=
  if active = c.providerActive then (c,[])
  else
    let c := {c with providerActive:=active}
    (c,.providerStateChanged active :: if active && c.connected && c.registered then c.subscribe else [])

def clearPending (c : FallbackClient) : FallbackClient :=
  {c with pendingProviderActiveKnown:=false,pendingProviderActive:=false,pendingProviderId:=[]}

def applyPendingProviderState (c : FallbackClient) : FallbackClient × List ClientSignal :=
  if !c.pendingProviderActiveKnown || !c.registered || c.providerId.isEmpty then (c,[])
  else
    let shouldBeActive := if c.pendingProviderActive then decide (c.pendingProviderId = c.providerId) else true
    let (c,signals) := c.setProviderActive shouldBeActive
    (c.clearPending,signals)

-- The socket's connected signal, and what it finds of an earlier connection.
def onConnected (c : FallbackClient) : FallbackClient × List ClientSignal :=
  let c := {c with connected:=true,subscribed:=false,registered:=false,providerId:=[]}
  let (c,signals) := c.clearPending.setProviderActive false
  (c,signals ++ [.connectionStateChanged true,.statusMessage (text "Connected to auth daemon")] ++
    c.registerProvider ++ c.subscribe)

def onDisconnected (c : FallbackClient) : FallbackClient × List ClientSignal :=
  let c := {c with connected:=false,subscribed:=false,registered:=false,providerId:=[]}
  let (c,signals) := c.clearPending.setProviderActive false
  (c,signals ++ [.connectionStateChanged false,
    .statusMessage (text "Disconnected from auth daemon, reconnecting...")])

def subscribeWatchdog (c : FallbackClient) : List ClientSignal :=
  if !c.connected then []
  else (if !c.registered then c.registerProvider else []) ++ if !c.subscribed then c.subscribe else []

def heartbeatTimer (c : FallbackClient) : List ClientSignal :=
  if !c.connected || !c.registered then [] else c.sendJson (heartbeatJson c.providerId)

def onSubscribed (c : FallbackClient) (msg : QJsonObject) : FallbackClient × List ClientSignal :=
  let c := {c with subscribed:=true}
  if msg.contains (text "active") then c.setProviderActive (msg.value (text "active")).toBool else (c,[])

def onRegistered (c : FallbackClient) (msg : QJsonObject) : FallbackClient × List ClientSignal :=
  let c := {c with registered:=true,providerId:=(msg.value (text "id")).toString}
  if msg.contains (text "active") then
    let (c,signals) := c.setProviderActive (msg.value (text "active")).toBool
    (c.clearPending,signals)
  else c.applyPendingProviderState

-- A status with active false says that nobody provides, so that everybody may.
def onActive (c : FallbackClient) (msg : QJsonObject) : FallbackClient × List ClientSignal :=
  let active := (msg.value (text "active")).toBool
  let activeId := (msg.value (text "id")).toString
  if active && (!c.registered || c.providerId.isEmpty) then
    ({c with pendingProviderActiveKnown:=true,pendingProviderActive:=true,pendingProviderId:=activeId},[])
  else if !active then
    if !c.registered then
      ({c with pendingProviderActiveKnown:=true,pendingProviderActive:=false,pendingProviderId:=[]},[])
    else
      let (c,signals) := c.setProviderActive true
      (c.clearPending,signals)
  else c.setProviderActive (decide (activeId = c.providerId))

def onError (c : FallbackClient) (msg : QJsonObject) : FallbackClient × List ClientSignal :=
  let message := (msg.value (text "message")).toString
  let (c,signals) := if message = text "Not active UI provider" then c.setProviderActive false else (c,[])
  (c,signals ++ [.statusMessage message])

def onSession (c : FallbackClient) (type : QString) (msg : QJsonObject) : List ClientSignal :=
  if !c.providerActive && c.registered then []
  else if type = text "session.created" then [.sessionCreated msg]
  else if type = text "session.updated" then [.sessionUpdated msg]
  else if type = text "session.closed" then [.sessionClosed msg]
  else []

def handleMessage (c : FallbackClient) (msg : QJsonObject) : FallbackClient × List ClientSignal :=
  let type := (msg.value (text "type")).toString
  if type = text "subscribed" then c.onSubscribed msg
  else if type = text "ui.registered" then c.onRegistered msg
  else if type = text "ui.active" then c.onActive msg
  else if type = text "pong" then (c,[])
  else if type = text "ok" then (c,[])
  else if type = text "error" then c.onError msg
  else (c,c.onSession type msg)

-- What a change of the belief writes: a new subscription when it turns true.
def changeSignals (c : FallbackClient) (active : Bool) : List ClientSignal :=
  if active = c.providerActive then []
  else .providerStateChanged active :: if active && c.connected && c.registered then c.subscribe else []

theorem setProviderActive_eq (c : FallbackClient) (active : Bool) :
    c.setProviderActive active = ({c with providerActive:=active},c.changeSignals active) := by
  unfold setProviderActive changeSignals
  split
  · next same => rw [same]
  · rfl

theorem onDisconnected_client (c : FallbackClient) : c.onDisconnected.1 = {} := by
  unfold onDisconnected
  simp only [setProviderActive_eq]
  rfl

theorem onConnected_client (c : FallbackClient) : c.onConnected.1 = {connected := true} := by
  unfold onConnected
  simp only [setProviderActive_eq]
  rfl

theorem changeSignals_writes (c : FallbackClient) (active : Bool) (wrote : .wrote json ∈ c.changeSignals active) :
    json = subscribeJson := by
  unfold changeSignals subscribe sendJson at wrote
  split at wrote
  · cases wrote
  · rcases List.mem_cons.mp wrote with changed | asked
    · cases changed
    · split at asked
      · split at asked
        · cases asked
        · cases List.mem_singleton.mp asked
          rfl
      · cases asked

theorem onSession_writes (c : FallbackClient) (type : QString) (msg : QJsonObject) :
    .wrote json ∉ c.onSession type msg := by
  intro wrote
  unfold onSession at wrote
  repeat' split at wrote
  all_goals simp at wrote

theorem handleMessage_writes (c : FallbackClient) (msg : QJsonObject) (wrote : .wrote json ∈ (c.handleMessage msg).2) :
    json = subscribeJson := by
  unfold handleMessage at wrote
  simp only at wrote
  split at wrote
  · unfold onSubscribed at wrote
    simp only [setProviderActive_eq] at wrote
    split at wrote
    · exact changeSignals_writes _ _ wrote
    · cases wrote
  split at wrote
  · unfold onRegistered applyPendingProviderState at wrote
    simp only [setProviderActive_eq] at wrote
    split at wrote
    · exact changeSignals_writes _ _ wrote
    · split at wrote
      · cases wrote
      · exact changeSignals_writes _ _ wrote
  split at wrote
  · unfold onActive at wrote
    simp only [setProviderActive_eq] at wrote
    split at wrote
    · cases wrote
    · split at wrote
      · split at wrote
        · cases wrote
        · exact changeSignals_writes _ _ wrote
      · exact changeSignals_writes _ _ wrote
  split at wrote
  · cases wrote
  split at wrote
  · cases wrote
  split at wrote
  · unfold onError at wrote
    simp only [setProviderActive_eq] at wrote
    rcases List.mem_append.mp wrote with changed | noted
    · split at changed
      · exact changeSignals_writes _ _ changed
      · cases changed
    · cases List.mem_singleton.mp noted
  · exact absurd wrote (onSession_writes c _ msg)

theorem handle_subscribed (c : FallbackClient) (count : Nat) :
    c.handleMessage (Message.json (.subscribed count none)) = ({c with subscribed:=true},[]) := by rfl

theorem handle_subscribed_active (c : FallbackClient) (count : Nat) (active : Bool) :
    c.handleMessage (Message.json (.subscribed count (some active))) =
      ({c with subscribed:=true,providerActive:=active},c.changeSignals active) :=
  setProviderActive_eq {c with subscribed:=true} active

theorem handle_registered (c : FallbackClient) (id : QString) (active : Bool) (priority : Int) :
    c.handleMessage (Message.json (.uiRegistered id active priority)) =
      ({c with registered:=true,providerId:=id,providerActive:=active}.clearPending,
        {c with registered:=true,providerId:=id}.changeSignals active) := by
  have set := setProviderActive_eq {c with registered:=true,providerId:=id} active
  have handled : c.handleMessage (Message.json (.uiRegistered id active priority)) =
      (({c with registered:=true,providerId:=id}.setProviderActive active).1.clearPending,
        ({c with registered:=true,providerId:=id}.setProviderActive active).2) := by rfl
  rw [handled,set]

theorem handle_vacant (c : FallbackClient) (registered : c.registered = true) :
    c.handleMessage (Message.json (.uiActive false none)) =
      ({c with providerActive:=true}.clearPending,c.changeSignals true) := by
  have set := setProviderActive_eq c true
  have guard : (!c.registered) = false := by rw [registered]; rfl
  have handled : c.handleMessage (Message.json (.uiActive false none)) =
      if !c.registered then
        ({c with pendingProviderActiveKnown:=true,pendingProviderActive:=false,pendingProviderId:=[]},[])
      else ((c.setProviderActive true).1.clearPending,(c.setProviderActive true).2) := by rfl
  rw [handled]
  simp only [guard,Bool.false_eq_true,if_false]
  rw [set]

theorem handle_occupied (c : FallbackClient) (provider : ProviderJson) (registered : c.registered = true)
    (named : c.providerId ≠ []) :
    c.handleMessage (Message.json (.uiActive true (some provider))) =
      ({c with providerActive:=decide (provider.id = c.providerId)},
        c.changeSignals (decide (provider.id = c.providerId))) := by
  have set := setProviderActive_eq c (decide (provider.id = c.providerId))
  have handled : c.handleMessage (Message.json (.uiActive true (some provider))) =
      if !c.registered || c.providerId.isEmpty then
        ({c with pendingProviderActiveKnown:=true,pendingProviderActive:=true,pendingProviderId:=provider.id},[])
      else c.setProviderActive (decide (provider.id = c.providerId)) := by rfl
  have filled : c.providerId.isEmpty = false := by
    cases known : c.providerId with
    | nil => exact absurd known named
    | cons => rfl
  have guard : (!c.registered || c.providerId.isEmpty) = false := by rw [registered,filled]; rfl
  rw [handled]
  simp only [guard,Bool.false_eq_true,if_false]
  exact set

theorem handle_refused (c : FallbackClient) :
    c.handleMessage (Message.json (.error (text "Not active UI provider"))) =
      ({c with providerActive:=false},c.changeSignals false ++ [.statusMessage (text "Not active UI provider")]) := by
  have set := setProviderActive_eq c false
  have handled : c.handleMessage (Message.json (.error (text "Not active UI provider"))) =
      ((c.setProviderActive false).1,(c.setProviderActive false).2 ++ [.statusMessage (text "Not active UI provider")]) := by
    rfl
  rw [handled,set]

theorem handle_error (c : FallbackClient) {message : QString} (other : message ≠ text "Not active UI provider") :
    c.handleMessage (Message.json (.error message)) = (c,[.statusMessage message]) := by
  have handled : c.handleMessage (Message.json (.error message)) =
      ((if message = text "Not active UI provider" then c.setProviderActive false else (c,[])).1,
        (if message = text "Not active UI provider" then c.setProviderActive false else (c,[])).2 ++
          [.statusMessage message]) := by rfl
  rw [handled,if_neg other]
  rfl

theorem handle_ok (c : FallbackClient) (active : Option Bool) :
    c.handleMessage (Message.json (.ok active)) = (c,[]) := by cases active <;> rfl

theorem onSession_foreign (c : FallbackClient) {type : QString} (msg : QJsonObject)
    (foreign : type ≠ text "session.created" ∧ type ≠ text "session.updated" ∧ type ≠ text "session.closed") :
    c.onSession type msg = [] := by
  obtain ⟨created,updated,closed⟩ := foreign
  simp only [onSession,created,updated,closed,if_false,ite_self]

theorem handle_response (c : FallbackClient) (kind : RequestKind) (id : QString) (answer : Answer) :
    c.handleMessage (Message.json (.response kind id answer)) = (c,[]) := by
  have handled : c.handleMessage (Message.json (.response kind id answer)) =
      (c,c.onSession (Message.response kind id answer).type (Message.json (.response kind id answer))) := by
    cases kind <;> cases answer <;> rfl
  rw [handled,onSession_foreign]
  cases kind
  · exact (by decide +kernel : text "keyring_response" ≠ text "session.created" ∧
      text "keyring_response" ≠ text "session.updated" ∧ text "keyring_response" ≠ text "session.closed")
  · exact (by decide +kernel : text "pinentry_response" ≠ text "session.created" ∧
      text "pinentry_response" ≠ text "session.updated" ∧ text "pinentry_response" ≠ text "session.closed")

theorem handle_event (c : FallbackClient) (event : SessionEvent) :
    c.handleMessage (Message.json (.event event)) = (c,c.onSession event.type (Message.json (.event event))) := by
  cases event <;> rfl

end FallbackClient

end BbAuth
