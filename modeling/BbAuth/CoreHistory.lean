import BbAuth.Actions
import BbAuth.Library.History

open Library
namespace BbAuth

-- What the polkit listener does, or may do, and no other part of the agent.
def Action.ofListener : Action → Bool
  | .submit .. | .initiate _ | .polkit => true
  | _ => false

namespace Core

variable {c m e : Core} {may : Effect → Prop}

def Notes (may : Effect → Prop) (c e : Core) : Prop := Grown may c.history e.history

theorem notes_same (same : e.history = c.history) : Notes may c e := Grown.same same

theorem notes_log (c : Core) (allowed : may effect) : Notes may c (c.log effect) := Grown.one c.history allowed

theorem Notes.trans (first : Notes may c m) (second : Notes may m e) : Notes may c e := Grown.trans first second

section sessions

-- What concerns only sessions emits their events and nothing else.
variable (emits : ∀ event, may (.emitted event))

include emits

theorem notes_createSession (c : Core) (id : QString) (source : Source) (ctx : Context) :
    Notes may c (c.createSession id source ctx) := notes_log (c.withSessions _) (emits _)

theorem notes_updateSession (c : Core) (id : QString) (change : Session → Session) :
    Notes may c (c.updateSession id change) := by
  unfold updateSession
  split
  · exact notes_same rfl
  · exact notes_log (c.withSessions _) (emits _)

theorem notes_closeSession (c : Core) (id : QString) (result : Result) : Notes may c (c.closeSession id result) := by
  unfold closeSession
  split
  · exact notes_same rfl
  · exact notes_log (c.withSessions _) (emits _)

theorem notes_moves (logs : ∀ effect, may (.polkit effect)) (moves : Moves c e) : Notes may c e := by
  induction moves with
  | refl => exact notes_same rfl
  | tail _ move ih =>
    apply ih.trans
    cases move with
    | listener listener => exact notes_same rfl
    | logged effect => exact notes_log _ (logs effect)
    | updated id change alike => exact notes_updateSession emits _ id change
    | closed id result => exact notes_closeSession emits _ id result

theorem notes_closeFlow (c : Core) (cookie : QString) (result : Result) (error : QString) :
    Notes may c (c.closeFlow cookie result error) := by
  change Notes may c (c.endPinentrySession cookie result error)
  unfold endPinentrySession
  split
  · apply Notes.trans _ (notes_closeSession emits _ cookie result)
    split
    · exact notes_same rfl
    · exact notes_updateSession emits c cookie _
  · exact notes_same rfl

theorem notes_keyringDisconnect (c : Core) (socket : Socket) : Notes may c (c.keyringDisconnect socket) := by
  unfold keyringDisconnect
  generalize c.keyringManager.pendingRequests.toList.filter (fun entry => entry.2.socket = socket) = entries
  induction entries generalizing c with
  | nil => exact notes_same rfl
  | cons entry rest ih =>
    have closed : Notes may c (c.keyringForget entry) := notes_closeSession emits (c.withKeyring _) _ _
    exact closed.trans (ih _)

theorem notes_pinentryDisconnect (c : Core) (socket : Socket) : Notes may c (c.pinentryDisconnect socket) := by
  unfold pinentryDisconnect
  simp only
  generalize (c.pinentryManager.pendingRequests.toList.filter
    (fun entry => entry.2.socket = socket)).map Prod.fst = cookies
  induction cookies generalizing c with
  | nil => exact notes_same rfl
  | cons cookie rest ih => exact (notes_closeFlow emits c cookie _ _).trans (ih _)

theorem notes_disconnect (c : Core) (socket : Socket) : Notes may c (c.disconnect socket) := by
  have left : Notes may c (c.setSocketState socket .unconnected) := by
    unfold setSocketState
    split <;> exact notes_same rfl
  exact left.trans <| (notes_keyringDisconnect emits _ socket).trans (notes_pinentryDisconnect emits _ socket)

theorem notes_applyOutcome (c : Core) (cookie : QString) (outcome : PinentryManager.Outcome) (error : QString) :
    Notes may c (c.applyOutcome cookie outcome error) := by
  cases outcome with
  | retry => exact notes_updateSession emits (c.withPinentry _) cookie _
  | success | cancelled | error => exact notes_closeFlow emits c cookie _ _

theorem notes_timeout (c : Core) (timer : Timer) : Notes may c (c.timeout timer) := by
  unfold timeout
  split
  · exact notes_same rfl
  · exact notes_closeFlow emits (c.withPinentry _) _ _ _

theorem notes_reportRetry (c : Core) (request : PinentryRequest) : Notes may c (c.reportRetry request) := by
  unfold reportRetry
  split
  · exact notes_updateSession emits (c.withPinentry _) _ _
  · exact notes_same rfl

theorem notes_present (c : Core) (request : PinentryRequest) (actor : ActorInfo) (retry : Int × Int)
    (sessionExists : Bool) : Notes may c (c.present request actor retry sessionExists) := by
  have counted : Notes may c (c.setPinentryRetry request.cookie retry.1 retry.2) := by
    unfold setPinentryRetry
    split <;> exact notes_same rfl
  unfold present
  cases sessionExists with
  | true => exact counted.trans (notes_updateSession emits _ _ _)
  | false => exact (notes_createSession emits c _ _ _).trans (notes_updateSession emits _ _ _)

theorem notes_reportRequestError (c : Core) (request : PinentryRequest) :
    Notes may c (c.reportRequestError request) := by
  unfold reportRequestError
  simp only
  split
  · exact notes_updateSession emits (c.withPinentry _) _ _
  · exact notes_same rfl

end sessions

-- A request is logged first, and what follows concerns only its session.
theorem notes_keyringRequest (emits : ∀ event, may (.emitted event)) (c : Core) (request : KeyringRequest)
    (actor : ActorInfo) :
    Notes may (c.log (.requested .keyring request.socket request.peerPid request.cookie)) (c.keyringRequest request actor) :=
  (notes_createSession emits (c.log _ |>.withKeyring _) _ _ _).trans (notes_updateSession emits _ _ _)

theorem notes_pinentryRequest (emits : ∀ event, may (.emitted event)) (c : Core) (request : PinentryRequest)
    (actor : ActorInfo) :
    Notes may (c.log (.requested .pinentry request.socket request.peerPid request.cookie)) (c.pinentryRequest request actor) := by
  unfold pinentryRequest
  simp only
  split
  · exact notes_same rfl
  · apply Notes.trans _ (notes_reportRequestError emits _ request)
    apply Notes.trans _ (notes_present emits _ request actor _ _)
    exact notes_reportRetry emits (c.log _ |>.withPinentry _) request

section requests

variable (emits : ∀ event, may (.emitted event))
variable (answers : ∀ socket kind id reply, may (.sent socket (.response kind id reply)))

include answers

theorem notes_answer (c : Core) (socket : Socket) (kind : RequestKind) (id : QString) (reply : Answer) :
    Notes may c (c.answer socket kind id reply) := by
  unfold answer
  split
  · exact notes_log c (answers _ _ _ _)
  · exact notes_same rfl

theorem notes_pinentryRespond (c : Core) (cookie response : QString) :
    Notes may c (c.pinentryRespond cookie response) := by
  unfold pinentryRespond
  split
  · exact notes_same rfl
  · exact notes_answer answers (c.withPinentry _) _ _ _ _

include emits

theorem notes_keyringConclude (c : Core) (cookie : QString) (result : Result) (reply : Answer) :
    Notes may c (c.keyringConclude cookie result reply) := by
  unfold keyringConclude
  split
  · exact notes_same rfl
  · have closed := notes_closeSession emits (c.withKeyring (c.keyringManager.pendingRequests.remove cookie)) cookie result
    exact closed.trans (notes_answer answers _ _ _ _ _)

theorem notes_pinentryCancel (c : Core) (cookie : QString) : Notes may c (c.pinentryCancel cookie) := by
  unfold pinentryCancel
  simp only
  split
  · exact notes_closeFlow emits c _ _ _
  · exact (notes_closeFlow emits c _ _ _).trans (notes_answer answers _ _ _ _ _)

theorem acts_notes (asks : ∀ kind socket peerPid cookie, may (.requested kind socket peerPid cookie))
    (acts : Acts c action e) (other : action.ofListener = false) : Notes may c e := by
  cases acts with
  | idle | connect => exact notes_same rfl
  | socketState known later =>
    unfold setSocketState
    split <;> exact notes_same rfl
  | disconnect known => exact notes_disconnect emits c _
  | keyringRequest known peer named => exact (notes_log c (asks _ _ _ _)).trans (notes_keyringRequest emits c _ _)
  | keyringConclude pending plain => exact notes_keyringConclude emits answers c _ _ _
  | pinentryRequest known peer named => exact (notes_log c (asks _ _ _ _)).trans (notes_pinentryRequest emits c _ _)
  | pinentryRespond free pending => exact notes_pinentryRespond answers c _ _
  | pinentryCancel => exact notes_pinentryCancel emits answers c _
  | pinentryOutcome known => exact notes_applyOutcome emits c _ _ _
  | timeout running => exact notes_timeout emits c _
  | submit found source moves => cases other
  | initiate before same after => cases other
  | polkit moves => cases other

end requests

end Core

end BbAuth
