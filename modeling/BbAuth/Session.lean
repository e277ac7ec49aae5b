import BbAuth.Qt

open Library
namespace BbAuth

abbrev Pid := Int

inductive Source where
  | polkit
  | keyring
  | pinentry
  deriving DecidableEq, Repr

inductive State where
  | prompting
  | closed
  deriving DecidableEq, Repr

inductive Result where
  | success
  | cancelled
  | error
  deriving DecidableEq, Repr

structure Requestor where
  name : QString := []
  icon : QString := []
  fallbackLetter : QString := []
  fallbackKey : QString := []
  pid : Pid := 0
  deriving DecidableEq, Repr

structure Context where
  message : QString := []
  requestor : Requestor := {}
  actionId : QString := []
  user : QString := []
  details : List (QString × QString) := []
  keyringName : QString := []
  description : QString := []
  keyinfo : QString := []
  curRetry : Int := 0
  maxRetries : Int := 3
  confirmOnly : Bool := false
  repeated : Bool := false
  deriving DecidableEq, Repr

structure Session where
  id : QString
  source : Source
  context : Context
  state : State := .prompting
  prompt : QString := []
  error : QString := []
  info : QString := []
  echo : Bool := false
  result : Option Result := none
  deriving DecidableEq, Repr

namespace Session

def setPrompt (s : Session) (prompt : QString) (echo clearError : Bool) : Session :=
  {s with prompt,echo,state:=.prompting,error:=if clearError then [] else s.error,info:=[]}

def setError (s : Session) (error : QString) : Session := {s with error}

def setInfo (s : Session) (info : QString) : Session := {s with info}

def setPinentryRetry (s : Session) (curRetry maxRetries : Int) : Session :=
  if s.source ≠ .pinentry then s
  else
    let curRetry := if curRetry < 0 then 0 else curRetry
    let maxRetries := if maxRetries > 0 then maxRetries else 3
    {s with context:={s.context with curRetry,maxRetries}}

def close (s : Session) (result : Result) : Session :=
  {s with result:=some result,state:=.closed,error:=if result = .success then [] else s.error}

end Session

-- The JSON objects of the v2 protocol. A key the source leaves out is `none`.
structure RequestorJson where
  name : QString
  icon : QString
  fallbackLetter : QString
  fallbackKey : Option QString
  pid : Option Pid
  deriving DecidableEq, Repr

structure ContextJson where
  message : QString
  requestor : RequestorJson
  actionId : Option QString := none
  user : Option QString := none
  details : Option (List (QString × QString)) := none
  keyringName : Option QString := none
  description : Option QString := none
  keyinfo : Option QString := none
  curRetry : Option Int := none
  maxRetries : Option Int := none
  confirmOnly : Option Bool := none
  repeated : Option Bool := none
  deriving DecidableEq, Repr

-- Constructors `created`, `updated` and `closed` are the objects whose type is
-- session.created, session.updated and session.closed.
inductive SessionEvent where
  | created (id : QString) (source : Source) (context : ContextJson)
  | updated (id prompt : QString) (echo : Bool) (retry : Option (Int × Int)) (error info : Option QString)
  | closed (id : QString) (result : Result) (error : Option QString)
  deriving DecidableEq, Repr

def SessionEvent.id : SessionEvent → QString
  | .created id .. | .updated id .. | .closed id .. => id

def SessionEvent.type : SessionEvent → QString
  | .created .. => text "session.created"
  | .updated .. => text "session.updated"
  | .closed .. => text "session.closed"

def unlessEmpty (s : List α) : Option (List α) := if s.isEmpty then none else some s

namespace Session

def requestorToJson (s : Session) : RequestorJson :=
  let requestor := s.context.requestor
  ⟨requestor.name,requestor.icon,requestor.fallbackLetter,unlessEmpty requestor.fallbackKey,
    if requestor.pid > 0 then some requestor.pid else none⟩

def contextToJson (s : Session) : ContextJson :=
  let ctx := s.context
  let json : ContextJson := {message:=ctx.message,requestor:=s.requestorToJson}
  match s.source with
  | .polkit => {json with actionId:=unlessEmpty ctx.actionId,user:=unlessEmpty ctx.user,details:=unlessEmpty ctx.details}
  | .keyring => {json with keyringName:=unlessEmpty ctx.keyringName}
  | .pinentry =>
    {json with
      description:=unlessEmpty ctx.description
      keyinfo:=unlessEmpty ctx.keyinfo
      curRetry:=some ctx.curRetry
      maxRetries:=some ctx.maxRetries
      confirmOnly:=some ctx.confirmOnly
      repeated:=some ctx.repeated}

def toCreatedEvent (s : Session) : SessionEvent := .created s.id s.source s.contextToJson

def toUpdatedEvent (s : Session) : SessionEvent :=
  let retry := if s.source = .pinentry then some (s.context.curRetry,s.context.maxRetries) else none
  .updated s.id s.prompt s.echo retry (unlessEmpty s.error) (unlessEmpty s.info)

def toClosedEvent (s : Session) : SessionEvent :=
  .closed s.id (s.result.getD .error) (unlessEmpty s.error)

end Session

abbrev SessionStore := Table QString Session

namespace SessionStore

def getSession (store : SessionStore) (id : QString) : Option Session := store.find id

def createSession (store : SessionStore) (id : QString) (source : Source) (ctx : Context) :
    SessionEvent × SessionStore :=
  let session : Session := {id,source,context:=ctx}
  (session.toCreatedEvent,store.insert id session)

-- The three updates find the session, change it in place and serialize it.
def updateWith (change : Session → Session) (store : SessionStore) (id : QString) :
    Option (SessionEvent × SessionStore) :=
  match store.find id with
  | none => none
  | some session => some ((change session).toUpdatedEvent,store.insert id (change session))

def updatePrompt (store : SessionStore) (id prompt : QString) (echo clearError : Bool) :
    Option (SessionEvent × SessionStore) :=
  store.updateWith (·.setPrompt prompt echo clearError) id

def updateError (store : SessionStore) (id error : QString) : Option (SessionEvent × SessionStore) :=
  store.updateWith (·.setError error) id

def updateInfo (store : SessionStore) (id info : QString) : Option (SessionEvent × SessionStore) :=
  store.updateWith (·.setInfo info) id

def updatePinentryRetry (store : SessionStore) (id : QString) (curRetry maxRetries : Int) : Option SessionStore :=
  match store.find id with
  | none => none
  | some session =>
    if session.source ≠ .pinentry then none
    else some (store.insert id (session.setPinentryRetry curRetry maxRetries))

def closeSession (store : SessionStore) (id : QString) (result : Result) :
    Option (SessionEvent × SessionStore) :=
  match store.find id with
  | none => none
  | some session => some ((session.close result).toClosedEvent,store.remove id)

end SessionStore

end BbAuth
