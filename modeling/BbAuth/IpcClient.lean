import Mathlib.Data.List.TakeWhile
import BbAuth.Routing

open Library
namespace BbAuth

def Session.sourceToString : Source → QString
  | .polkit => text "polkit"
  | .keyring => text "keyring"
  | .pinentry => text "pinentry"

def Session.resultToString : Result → QString
  | .success => text "success"
  | .cancelled => text "cancelled"
  | .error => text "error"

-- The members of the objects the daemon writes, besides their type. A member
-- that is left out is `none`.
def optionalText (name : String) (value : Option QString) : List (QString × QJsonValue) :=
  value.toList.map (fun value => (text name,.string value))

def optionalFlag (name : String) (value : Option Bool) : List (QString × QJsonValue) :=
  value.toList.map (fun value => (text name,.bool value))

def Answer.members : Answer → List (QString × QJsonValue)
  | .ok password => [(text "result",.string (text "ok")),(text "password",.string password)]
  | .confirmed => [(text "result",.string (text "confirmed"))]
  | .cancelled => [(text "result",.string (text "cancelled"))]

def SessionEvent.members : SessionEvent → List (QString × QJsonValue)
  | .created id source _ =>
    [(text "id",.string id),(text "source",.string (Session.sourceToString source)),(text "context",.object)]
  | .updated id prompt echo retry error info =>
    [(text "id",.string id),(text "state",.string (text "prompting")),(text "prompt",.string prompt),
      (text "echo",.bool echo)] ++
    retry.toList.flatMap (fun retry =>
      [(text "curRetry",.integer retry.1),(text "maxRetries",.integer retry.2)]) ++
    optionalText "error" error ++ optionalText "info" info
  | .closed id result error =>
    [(text "id",.string id),(text "result",.string (Session.resultToString result))] ++ optionalText "error" error

def Message.members : Message → List (QString × QJsonValue)
  | .error message => [(text "message",.string message)]
  | .ok active => optionalFlag "active" active
  | .pong provider => provider.toList.map (fun _ => (text "provider",.object))
  | .subscribed sessionCount active => (text "sessionCount",.integer sessionCount) :: optionalFlag "active" active
  | .uiRegistered id active priority =>
    [(text "id",.string id),(text "active",.bool active),(text "priority",.integer priority)]
  | .uiActive active provider =>
    (text "active",.bool active) :: provider.toList.flatMap (fun provider =>
      [(text "id",.string provider.id),(text "name",.string provider.name),(text "kind",.string provider.kind),
        (text "priority",.integer provider.priority)])
  | .response _ id answer => (text "id",.string id) :: answer.members
  | .event e => e.members

def Message.json (message : Message) : QJsonObject :=
  .ofList ((text "type",.string message.type) :: message.members)

-- src/keyring-prompter/ipc-client.c. A null pointer is `none`.
namespace IpcClient

structure KeyringArguments where
  cookie : QString
  title : Option QString
  message : Option QString
  description : Option QString
  warning : Option QString
  passwordNew : Bool

structure ConfirmArguments where
  cookie : QString
  title : Option QString
  message : Option QString
  description : Option QString

def keyringRequest (arguments : KeyringArguments) : QJsonObject :=
  .ofList ([(text "type",.string (text "keyring_request")),
      (text "cookie",.string arguments.cookie),
      (text "title",.string (arguments.title.getD (text "Unlock Keyring"))),
      (text "message",.string (arguments.message.getD (text "Password required")))] ++
    optionalText "description" arguments.description ++
    optionalText "warning" (arguments.warning.filter (fun warning => !warning.isEmpty)) ++
    [(text "password_new",.bool arguments.passwordNew),
      (text "confirm_only",.bool false)])

def confirmRequest (arguments : ConfirmArguments) : QJsonObject :=
  .ofList ([(text "type",.string (text "keyring_request")),
      (text "cookie",.string arguments.cookie),
      (text "title",.string (arguments.title.getD (text "Confirm"))),
      (text "message",.string (arguments.message.getD (text "Please confirm")))] ++
    optionalText "description" arguments.description ++
    [(text "confirm_only",.bool true)])

-- bb_auth_ipc_send_cancel, which does not look at the reply.
def cancelRequest (cookie : QString) : QJsonObject :=
  .ofList [(text "type",.string (text "session.cancel")),(text "id",.string cookie)]

-- json_object_get_string_member: NULL for a member that is no string, and a C
-- string ends at its first NUL.
def stringMember (object : QJsonObject) (name : String) : Option QString :=
  match object.value (text name) with
  | .string value => some (value.takeWhile (fun c => decide (c ≠ 0)))
  | _ => none

-- The result of a keyring_response, and nothing for any other reply. `none` is
-- a reply that did not come or is no object, and the end of the stream as well, for
-- which g_data_input_stream_read_line sets no error: there send_json_command reads
-- the message of a null GError before it returns.
def responseResult (response : Option QJsonObject) : Option (QJsonObject × QString) :=
  match response with
  | none => none
  | some object =>
    if !object.contains (text "type") then none
    else if stringMember object "type" ≠ some (text "keyring_response") then none
    else if !object.contains (text "result") then none
    else (stringMember object "result").map (fun result => (object,result))

-- What bb_auth_ipc_send_keyring_request returns, and what it leaves in
-- out_password.
def keyringOutcome (response : Option QJsonObject) : Bool × Option QString :=
  match responseResult response with
  | none => (false,none)
  | some (object,result) =>
    if result = text "ok" then
      if !object.contains (text "password") then (false,none)
      else
        match stringMember object "password" with
        | none => (false,none)
        | some password => (true,some password)
    else (false,none)

def confirmOutcome (response : Option QJsonObject) : Bool :=
  match responseResult response with
  | none => false
  | some (_,result) => decide (result = text "confirmed")

inductive Call where
  | password (arguments : KeyringArguments)
  | confirm (arguments : ConfirmArguments)

def Call.request : Call → QJsonObject
  | .password arguments => keyringRequest arguments
  | .confirm arguments => confirmRequest arguments

theorem takeWhile_whole {s : QString} (whole : (0 : QChar) ∉ s) : s.takeWhile (fun c => decide (c ≠ 0)) = s := by
  apply List.takeWhile_eq_self_iff.mpr
  intro c present
  apply decide_eq_true
  rintro rfl
  exact whole present

theorem keyringOutcome_ok (id password : QString) :
    keyringOutcome (some (Message.json (.response .keyring id (.ok password)))) =
      (true,some (password.takeWhile (fun c => decide (c ≠ 0)))) := by rfl

theorem keyringOutcome_cancelled (id : QString) :
    keyringOutcome (some (Message.json (.response .keyring id .cancelled))) = (false,none) := by rfl

theorem confirmOutcome_ok (id password : QString) :
    confirmOutcome (some (Message.json (.response .keyring id (.ok password)))) = false := by rfl

theorem confirmOutcome_cancelled (id : QString) :
    confirmOutcome (some (Message.json (.response .keyring id .cancelled))) = false := by rfl

end IpcClient

end BbAuth
