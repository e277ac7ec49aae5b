import BbAuth.Daemon

open Library
namespace BbAuth.KeyringManager

def hasPendingRequest (manager : KeyringManager) (cookie : QString) : Bool :=
  manager.pendingRequests.contains cookie

def getSocketForRequest (manager : KeyringManager) (cookie : QString) : Option Socket :=
  (manager.pendingRequests.find cookie).map KeyringRequest.socket

def setPending (d : Daemon) (pending : Table QString KeyringRequest) : Daemon :=
  d.withKeyringManager {d.keyringManager with pendingRequests:=pending}

def parseKeyringRequest (msg : QJsonObject) (cookie : QString) (socket : Socket) (peerPid : Pid) : KeyringRequest :=
  { cookie
    socket
    peerPid
    title :=
      if msg.contains (text "title") then (msg.value (text "title")).toString
      else (msg.value (text "prompt")).toString
    message := (msg.value (text "message")).toString
    choice := (msg.value (text "choice")).toString
    flags := (msg.value (text "flags")).toInt }

def contextOf (request : KeyringRequest) (actor : ActorInfo) : Context :=
  { message := request.title
    keyringName := request.message
    requestor := Daemon.requestorOf actor request.peerPid }

def handleRequest (d : Daemon) (msg : QJsonObject) (socket : Socket) (peerPid : Pid) : Daemon :=
  let request := parseKeyringRequest msg (d.env.effectiveCookie msg) socket peerPid
  let actor := d.env.resolveActorForPid peerPid
  let d := d.log (.requested .keyring socket peerPid request.cookie)
  let d := setPending d (d.keyringManager.pendingRequests.insert request.cookie request)
  let d := d.createSession request.cookie .keyring (contextOf request actor)
  d.updateSessionPrompt request.cookie request.message false true

-- Both ways to end a pending request: forget it, close its session with
-- `result` and answer with `answer`.
def conclude (d : Daemon) (cookie : QString) (result : Result) (answer : Answer) : Message × Daemon :=
  match d.keyringManager.pendingRequests.find cookie with
  | none => (.error (text "Unknown cookie"),d)
  | some _ =>
    let d := setPending d (d.keyringManager.pendingRequests.remove cookie)
    (.response .keyring cookie answer,d.closeSession cookie result)

def handleResponse (d : Daemon) (cookie response : QString) : Message × Daemon :=
  conclude d cookie .success (.ok response)

def handleCancel (d : Daemon) (cookie : QString) : Message × Daemon :=
  conclude d cookie .cancelled .cancelled

-- The entry is erased under its key, the session closed under the cookie that
-- the request records.
def cleanupForSocket (d : Daemon) (socket : Socket) : Daemon :=
  let entries := d.keyringManager.pendingRequests.toList.filter (fun entry => entry.2.socket = socket)
  entries.foldl (fun d entry =>
    (setPending d (d.keyringManager.pendingRequests.remove entry.1)).closeSession entry.2.cookie .cancelled) d

end BbAuth.KeyringManager
