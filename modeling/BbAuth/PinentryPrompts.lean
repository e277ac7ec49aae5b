import BbAuth.AssuanReplies
import BbAuth.RequestCalls

open Library BbAuth.AssuanCodec
namespace BbAuth

namespace PinentrySession

variable (s : PinentrySession) (env : PinentryEnv)

def cancelledLine : QString := text "ERR 83886179 Operation cancelled"

theorem ask_answered (request : PinentryState → QString → QJsonObject) (wanted : QString) :
    (s.ask env request wanted).2 = decide (responseResult env.reply = some wanted) := by
  unfold ask
  simp only
  split
  · next granted => exact (decide_eq_true granted).symm
  · next denied => exact (decide_eq_false denied).symm

theorem getPin_prints : Prints s (s.handleGetPin env)
    (if responseResult env.reply = some (text "ok") ∧ responsePassword env.reply ≠ [] then
      [text "D " ++ assuanEncode (responsePassword env.reply),okLine []]
    else [cancelledLine]) := by
  have retried : Prints s (if s.awaitingTerminalResult then
      s.reportTerminalResult (text "retry") (orElse s.state.error (text "Authentication failed")) else s) [] := by
    split
    · exact silent_reportTerminalResult _ _ _
    · exact prints_same rfl rfl
  unfold handleGetPin requestPasswordFromDaemon
  simp only
  generalize (if s.awaitingTerminalResult then
    s.reportTerminalResult (text "retry") (orElse s.state.error (text "Authentication failed")) else s) = m at *
  have asked := retried.trans (silent_ask m env passwordRequest (text "ok"))
  rw [ask_answered]
  generalize (m.ask env passwordRequest (text "ok")).1 = t at *
  have cancelled : Prints s t.operationCancelled.clearError [cancelledLine] :=
    (asked.trans (prints_operationCancelled t)).trans (prints_same rfl rfl)
  by_cases granted : responseResult env.reply = some (text "ok")
  · rw [decide_eq_true granted,if_pos rfl]
    by_cases empty : responsePassword env.reply = []
    · rw [if_neg (fun both => both.2 empty)]
      simp only [empty,List.isEmpty_nil,if_true]
      exact cancelled
    · rw [if_pos ⟨granted,empty⟩]
      simp only [List.isEmpty_iff,empty,if_false]
      exact ((asked.trans (prints_sendData t _)).trans (prints_sendOk _ [])).trans (prints_same rfl rfl)
  · rw [decide_eq_false granted,if_neg Bool.false_ne_true,if_neg (fun both => granted both.1)]
    exact cancelled

theorem confirm_prints : Prints s (s.handleConfirm env)
    (if responseResult env.reply = some (text "confirmed") then [okLine []] else [cancelledLine]) := by
  have asked := silent_ask s env confirmRequest (text "confirmed")
  unfold handleConfirm requestConfirmFromDaemon
  simp only
  rw [ask_answered]
  generalize (s.ask env confirmRequest (text "confirmed")).1 = t at *
  by_cases granted : responseResult env.reply = some (text "confirmed")
  · rw [decide_eq_true granted,if_pos granted]
    exact (asked.trans (prints_sendOk t [])).trans (prints_same rfl rfl)
  · rw [decide_eq_false granted,if_neg granted]
    exact (asked.trans (prints_operationCancelled t)).trans (prints_same rfl rfl)

theorem flow_named : (s.ensureFlowCookie env).flowCookie ≠ [] := by
  unfold ensureFlowCookie
  split
  · exact env.uuid_nonempty
  · next named => exact fun empty => named (List.isEmpty_iff.mpr empty)

end PinentrySession

namespace RequestCall

theorem response_read (id : QString) (answer : Answer) :
    PinentrySession.responseResult (some (Message.json (.response .pinentry id answer))) =
      some (match answer with
        | .ok _ => text "ok"
        | .confirmed => text "confirmed"
        | .cancelled => text "cancelled") := by
  cases answer <;> rfl

theorem password_read (id password : QString) :
    PinentrySession.responsePassword (some (Message.json (.response .pinentry id (.ok password)))) = password := rfl

-- GETPIN prints a password only if an authorized user interface typed it in reply
-- to the request of this flow, and otherwise that the operation was cancelled.
theorem getPin_typed (x : RequestCall .pinentry) (proper : x.Proper) (s : PinentrySession) (env : PinentryEnv)
    (asks : x.request = PinentrySession.passwordRequest s.state (s.ensureFlowCookie env).flowCookie)
    (reads : env.reply = x.reply) :
    s.Prints (s.handleGetPin env) [PinentrySession.cancelledLine] ∨
    ∃ password, password ≠ [] ∧ x.Settled (s.ensureFlowCookie env).flowCookie (.ok password) ∧
      s.Prints (s.handleGetPin env) [text "D " ++ assuanEncode password,PinentrySession.okLine []] := by
  have prints := s.getPin_prints env
  have named : x.id = (s.ensureFlowCookie env).flowCookie := by
    apply effectiveCookie_named x.asked _ (s.flow_named env)
    rw [asks]
    exact cookie_member _ _ _
  rw [reads] at prints
  rcases x.reply_settled proper with none | ⟨answer,told,settled⟩
  · rw [none,if_neg nofun] at prints
    exact .inl prints
  · rw [told,response_read] at prints
    cases answer with
    | ok password =>
      rw [password_read] at prints
      by_cases empty : password = []
      · rw [if_neg (fun both => both.2 empty)] at prints
        exact .inl prints
      · rw [if_pos ⟨rfl,empty⟩] at prints
        exact .inr ⟨password,empty,named ▸ settled,prints⟩
    | confirmed | cancelled =>
      rw [if_neg (fun both => absurd both.1 (by decide))] at prints
      exact .inl prints

theorem password_flag (state : PinentryState) (cookie : QString) :
    ((PinentrySession.passwordRequest state cookie).value (text "confirm_only")).toBool = false := by
  unfold PinentrySession.passwordRequest
  rw [value_absent]
  · rfl
  · split <;> split <;> simp only [List.map_append,List.map_cons,List.map_nil] <;> decide

theorem confirm_flag (state : PinentryState) (cookie : QString) :
    ((PinentrySession.confirmRequest state cookie).value (text "confirm_only")).toBool = true := by
  unfold PinentrySession.confirmRequest
  simp only [value_cons]
  rfl

-- What an authorized user interface types in reply to the request of this flow,
-- GETPIN prints.
theorem getPin_arrives (x : RequestCall .pinentry) (proper : x.Proper) (s : PinentrySession) (env : PinentryEnv)
    (asks : x.request = PinentrySession.passwordRequest s.state (s.ensureFlowCookie env).flowCookie)
    (reads : env.reply = x.reply) (responded : x.Responded password) (filled : password ≠ []) :
    s.Prints (s.handleGetPin env) [text "D " ++ assuanEncode password,PinentrySession.okLine []] := by
  have prints := s.getPin_prints env
  have typed : x.granted password = .ok password := by
    unfold RequestCall.granted
    simp only
    rw [asks,password_flag,if_neg Bool.false_ne_true]
  rw [reads,x.reply_granted proper responded,typed,response_read,password_read,if_pos ⟨rfl,filled⟩] at prints
  exact prints

-- CONFIRM says OK only if an authorized user interface confirmed this flow.
theorem confirm_approved (x : RequestCall .pinentry) (proper : x.Proper) (s : PinentrySession) (env : PinentryEnv)
    (asks : x.request = PinentrySession.confirmRequest s.state (s.ensureFlowCookie env).flowCookie)
    (reads : env.reply = x.reply) :
    s.Prints (s.handleConfirm env) [PinentrySession.cancelledLine] ∨
    x.Settled (s.ensureFlowCookie env).flowCookie .confirmed ∧
      s.Prints (s.handleConfirm env) [PinentrySession.okLine []] := by
  have prints := s.confirm_prints env
  have named : x.id = (s.ensureFlowCookie env).flowCookie := by
    apply effectiveCookie_named x.asked _ (s.flow_named env)
    rw [asks]
    exact cookie_member _ _ _
  rw [reads] at prints
  rcases x.reply_settled proper with none | ⟨answer,told,settled⟩
  · rw [none,if_neg nofun] at prints
    exact .inl prints
  · rw [told,response_read] at prints
    cases answer with
    | confirmed => exact .inr ⟨named ▸ settled,prints⟩
    | ok | cancelled =>
      rw [if_neg (by simp only [Option.some.injEq]; decide)] at prints
      exact .inl prints

theorem confirm_arrives (x : RequestCall .pinentry) (proper : x.Proper) (s : PinentrySession) (env : PinentryEnv)
    (asks : x.request = PinentrySession.confirmRequest s.state (s.ensureFlowCookie env).flowCookie)
    (reads : env.reply = x.reply) (responded : x.Responded response) :
    s.Prints (s.handleConfirm env) [PinentrySession.okLine []] := by
  have prints := s.confirm_prints env
  have confirmed : x.granted response = .confirmed := by
    unfold RequestCall.granted
    simp only
    rw [asks,confirm_flag,if_pos rfl]
  rw [reads,x.reply_granted proper responded,confirmed,response_read,if_pos rfl] at prints
  exact prints

-- The user types a PIN into a shell while GETPIN waits for it.
def unlocking : RequestCall .pinentry where
  before := [.quiet (.connected 7),.say 0 "ui.register" [("kind","quickshell")]]
  opened := .quiet
  peerPid := 8
  early := []
  asked := .quiet
  request := PinentrySession.passwordRequest {} (text "flow")
  after := [.say 0 "session.respond" [("id","flow"),("response","1234")]]

def gpgFlow : PinentrySession := {PinentrySession.initial with flowCookie:=text "flow"}

def gpgEnv (x : RequestCall .pinentry) : PinentryEnv := ⟨text "other",nofun,x.reply,99⟩

theorem unlocking_responded : unlocking.Responded (text "1234") :=
  ⟨unlocking.inputs.dropLast,_,[],0,.ofList [(text "id",.string (text "flow")),(text "response",.string (text "1234"))],
    by rfl,rfl,⟨by decide +kernel,rfl⟩,by rfl,by decide +kernel,by decide +kernel,fun _ => by decide +kernel⟩

theorem unlocking_arrives :
    gpgFlow.Prints (gpgFlow.handleGetPin (gpgEnv unlocking)) [text "D " ++ assuanEncode (text "1234"),PinentrySession.okLine []] :=
  unlocking.getPin_arrives ⟨by decide +kernel,by decide +kernel⟩ gpgFlow (gpgEnv unlocking) rfl rfl unlocking_responded
    (by decide)

theorem unlocking_typed :
    PinentrySession.responsePassword unlocking.reply = text "1234" ∧
    (gpgFlow.Prints (gpgFlow.handleGetPin (gpgEnv unlocking)) [PinentrySession.cancelledLine] ∨
    ∃ password, password ≠ [] ∧ unlocking.Settled (gpgFlow.ensureFlowCookie (gpgEnv unlocking)).flowCookie (.ok password) ∧
      gpgFlow.Prints (gpgFlow.handleGetPin (gpgEnv unlocking))
        [text "D " ++ assuanEncode password,PinentrySession.okLine []]) :=
  ⟨by decide +kernel,
    unlocking.getPin_typed ⟨by decide +kernel,by decide +kernel⟩ gpgFlow (gpgEnv unlocking) rfl rfl⟩

def signing : RequestCall .pinentry :=
  { unlocking with
    request := PinentrySession.confirmRequest {} (text "flow")
    after := [.say 0 "session.respond" [("id","flow")]] }

theorem signing_approved :
    PinentrySession.responseResult signing.reply = some (text "confirmed") ∧
    (gpgFlow.Prints (gpgFlow.handleConfirm (gpgEnv signing)) [PinentrySession.cancelledLine] ∨
    signing.Settled (gpgFlow.ensureFlowCookie (gpgEnv signing)).flowCookie .confirmed ∧
      gpgFlow.Prints (gpgFlow.handleConfirm (gpgEnv signing)) [PinentrySession.okLine []]) :=
  ⟨by decide +kernel,
    signing.confirm_approved ⟨by decide +kernel,by decide +kernel⟩ gpgFlow (gpgEnv signing) rfl rfl⟩

end RequestCall

end BbAuth
