import BbAuth.CoreHistory
import BbAuth.Deeds

open Library
namespace BbAuth

def Effect.silent (effect : Effect) : Prop := effect.emission = none

namespace Core

-- One thing that happens to the sessions. The retry counters of a pinentry session
-- are changed in silence, but never without its prompt.
inductive SessionStep : Core → Core → Prop where
  | aside (store : e.sessionStore = c.sessionStore) (silent : Notes Effect.silent c e) : SessionStep c e
  | created (id : QString) (source : Source) (ctx : Context)
      (counts : source = .pinentry → 0 ≤ ctx.curRetry ∧ 0 < ctx.maxRetries) : SessionStep c (c.createSession id source ctx)
  | updated (id : QString) (change : Session → Session)
      (alike : ∀ s, (change s).id = s.id ∧ (change s).source = s.source ∧ (change s).context = s.context) :
      SessionStep c (c.updateSession id change)
  | counted (id prompt : QString) (curRetry maxRetries : Int) (echo clearError : Bool) :
      SessionStep c ((c.setPinentryRetry id curRetry maxRetries).updateSession id (·.setPrompt prompt echo clearError))
  | closed (id : QString) (result : Result) : SessionStep c (c.closeSession id result)

def SessionSteps : Core → Core → Prop := Relation.ReflTransGen SessionStep

variable {c m e : Core}

namespace SessionSteps

theorem one (step : SessionStep c e) : SessionSteps c e := Relation.ReflTransGen.single step

theorem trans (first : SessionSteps c m) (second : SessionSteps m e) : SessionSteps c e :=
  Relation.ReflTransGen.trans first second

theorem invariant {P : Core → Prop} (kept : ∀ c e, SessionStep c e → P c → P e) (steps : SessionSteps c e)
    (start : P c) : P e := by
  induction steps with
  | refl => exact start
  | tail _ step ih => exact kept _ _ step ih

theorem frame (store : e.sessionStore = c.sessionStore) (history : e.history = c.history) : SessionSteps c e :=
  one (.aside store (notes_same history))

theorem withPinentry (c : Core) (manager : PinentryManager) : SessionSteps c (c.withPinentry manager) := frame rfl rfl

theorem withKeyring (c : Core) (pending : Table QString KeyringRequest) : SessionSteps c (c.withKeyring pending) :=
  frame rfl rfl

theorem log (c : Core) (silent : Effect.silent effect) : SessionSteps c (c.log effect) := one (.aside rfl (notes_log c silent))

theorem setError (c : Core) (id error : QString) : SessionSteps c (c.updateSession id (·.setError error)) :=
  one (.updated id _ (fun _ => ⟨rfl,rfl,rfl⟩))

theorem setPrompt (c : Core) (id prompt : QString) (echo clearError : Bool) :
    SessionSteps c (c.updateSession id (·.setPrompt prompt echo clearError)) :=
  one (.updated id _ (fun _ => ⟨rfl,rfl,rfl⟩))

theorem createSession (c : Core) (id : QString) (source : Source) (ctx : Context)
    (counts : source = .pinentry → 0 ≤ ctx.curRetry ∧ 0 < ctx.maxRetries) :
    SessionSteps c (c.createSession id source ctx) := one (.created id source ctx counts)

theorem closeSession (c : Core) (id : QString) (result : Result) : SessionSteps c (c.closeSession id result) :=
  one (.closed id result)

theorem answer (c : Core) (socket : Socket) (kind : RequestKind) (id : QString) (reply : Answer) :
    SessionSteps c (c.answer socket kind id reply) := by
  unfold Core.answer
  split
  · exact log c rfl
  · exact .refl

theorem ofMoves (moves : c.Moves e) : SessionSteps c e := by
  induction moves with
  | refl => exact .refl
  | tail _ move ih =>
    apply ih.trans
    cases move with
    | listener listener => exact frame rfl rfl
    | logged effect => exact log _ rfl
    | updated id change alike => exact one (.updated id change alike)
    | closed id result => exact closeSession _ id result

theorem keyringRequest (c : Core) (request : KeyringRequest) (actor : ActorInfo) :
    SessionSteps c (c.keyringRequest request actor) := by
  have asked : SessionSteps c (c.log (.requested .keyring request.socket request.peerPid request.cookie)) := log c rfl
  exact asked.trans <| (withKeyring _ _).trans <| (createSession _ _ _ _ (fun other => by cases other)).trans
    (setPrompt _ _ _ _ _)

theorem keyringConclude (c : Core) (cookie : QString) (result : Result) (reply : Answer) :
    SessionSteps c (c.keyringConclude cookie result reply) := by
  unfold Core.keyringConclude
  split
  · exact .refl
  · exact (withKeyring c _).trans <| (closeSession _ _ _).trans (answer _ _ _ _ _)

theorem keyringDisconnect (c : Core) (socket : Socket) : SessionSteps c (c.keyringDisconnect socket) := by
  unfold Core.keyringDisconnect
  generalize c.keyringManager.pendingRequests.toList.filter (fun entry => entry.2.socket = socket) = entries
  induction entries generalizing c with
  | nil => exact .refl
  | cons entry rest ih =>
    exact (withKeyring c _).trans <| (closeSession _ _ _).trans (ih _)

theorem closeFlow (c : Core) (cookie : QString) (result : Result) (error : QString) :
    SessionSteps c (c.closeFlow cookie result error) := by
  have ended : SessionSteps c (c.endPinentrySession cookie result error) := by
    unfold Core.endPinentrySession
    split
    · simp only
      split
      · exact closeSession c _ _
      · exact (setError c _ _).trans (closeSession _ _ _)
    · exact .refl
  exact ended.trans (withPinentry _ _)

theorem pinentryDisconnect (c : Core) (socket : Socket) : SessionSteps c (c.pinentryDisconnect socket) := by
  unfold Core.pinentryDisconnect
  simp only
  generalize (c.pinentryManager.pendingRequests.toList.filter
    (fun entry => entry.2.socket = socket)).map Prod.fst = cookies
  induction cookies generalizing c with
  | nil => exact .refl
  | cons cookie rest ih => exact (closeFlow c _ _ _).trans (ih _)

theorem setSocketState (c : Core) (socket : Socket) (state : LocalSocketState) :
    SessionSteps c (c.setSocketState socket state) := by
  unfold Core.setSocketState
  split
  · exact .refl
  · exact frame rfl rfl

theorem disconnect (c : Core) (socket : Socket) : SessionSteps c (c.disconnect socket) := by
  have cleaned := (keyringDisconnect (c.setSocketState socket .unconnected) socket).trans (pinentryDisconnect _ socket)
  exact ((setSocketState c socket .unconnected).trans cleaned).trans (frame rfl rfl)

theorem reportRetry (c : Core) (request : PinentryRequest) : SessionSteps c (c.reportRetry request) := by
  unfold Core.reportRetry
  split
  · exact (withPinentry c _).trans (setError _ _ _)
  · exact .refl

theorem present (c : Core) (request : PinentryRequest) (actor : ActorInfo) (retry : Int × Int) (sessionExists : Bool)
    (counts : 0 ≤ retry.1 ∧ 0 < retry.2) : SessionSteps c (c.present request actor retry sessionExists) := by
  unfold Core.present
  cases sessionExists with
  | true => exact one (.counted request.cookie request.prompt retry.1 retry.2 false false)
  | false => exact (createSession c _ _ _ (fun _ => counts)).trans (setPrompt _ _ _ _ _)

theorem reportRequestError (c : Core) (request : PinentryRequest) : SessionSteps c (c.reportRequestError request) := by
  unfold Core.reportRequestError
  simp only
  split
  · exact (withPinentry c _).trans (setError _ _ _)
  · exact withPinentry c _

end SessionSteps

end Core

theorem PinentryManager.resolveRetryInfo_counts (manager : PinentryManager) (request : PinentryRequest) :
    0 ≤ (resolveRetryInfo manager request).1.1 ∧ 0 < (resolveRetryInfo manager request).1.2 := by
  have clamped (curRetry maxRetries : Int) :
      0 ≤ (if curRetry < 0 then 0 else curRetry) ∧ 0 < (if maxRetries ≤ 0 then 3 else maxRetries) := by
    constructor
    · split <;> omega
    · split <;> omega
  unfold resolveRetryInfo
  simp only
  split
  · exact clamped _ _
  · exact clamped _ _

theorem PinentryManager.enterFlow_counts (manager : PinentryManager) (request : PinentryRequest) :
    0 ≤ (enterFlow manager request).1.1 ∧ 0 < (enterFlow manager request).1.2 :=
  resolveRetryInfo_counts _ request

namespace Core

variable {c m e : Core}

namespace SessionSteps

theorem pinentryRequest (c : Core) (request : PinentryRequest) (actor : ActorInfo) :
    SessionSteps c (c.pinentryRequest request actor) := by
  have asked : SessionSteps c (c.log (.requested .pinentry request.socket request.peerPid request.cookie)) := log c rfl
  unfold Core.pinentryRequest
  apply asked.trans
  simp only
  split
  · exact .refl
  · have counts := PinentryManager.enterFlow_counts
      (c.log (.requested .pinentry request.socket request.peerPid request.cookie)).pinentryManager request
    exact (withPinentry _ _).trans <| (reportRetry _ request).trans <| (withPinentry _ _).trans <|
      (present _ request actor _ _ counts).trans (reportRequestError _ request)

theorem pinentryRespond (c : Core) (cookie response : QString) : SessionSteps c (c.pinentryRespond cookie response) := by
  unfold Core.pinentryRespond
  split
  · exact .refl
  · exact (withPinentry c _).trans (answer _ _ _ _ _)

theorem pinentryCancel (c : Core) (cookie : QString) : SessionSteps c (c.pinentryCancel cookie) := by
  unfold Core.pinentryCancel
  simp only
  split
  · exact closeFlow c _ _ _
  · exact (closeFlow c _ _ _).trans (answer _ _ _ _ _)

theorem applyOutcome (c : Core) (cookie : QString) (outcome : PinentryManager.Outcome) (error : QString) :
    SessionSteps c (c.applyOutcome cookie outcome error) := by
  cases outcome with
  | retry => exact (withPinentry c _).trans (setError _ _ _)
  | success | cancelled | error => exact closeFlow c _ _ _

theorem timeout (c : Core) (timer : Timer) : SessionSteps c (c.timeout timer) := by
  unfold Core.timeout
  split
  · exact .refl
  · exact (withPinentry c _).trans (closeFlow _ _ _ _)

end SessionSteps

theorem acts_sessionSteps (acts : Acts c action e) : SessionSteps c e := by
  cases acts with
  | idle => exact .refl
  | connect => exact .frame rfl rfl
  | socketState known later => exact .setSocketState c _ _
  | disconnect known => exact .disconnect c _
  | keyringRequest known peer named => exact .keyringRequest c _ _
  | keyringConclude pending plain => exact .keyringConclude c _ _ _
  | pinentryRequest known peer named => exact .pinentryRequest c _ _
  | pinentryRespond free pending => exact .pinentryRespond c _ _
  | pinentryCancel => exact .pinentryCancel c _
  | pinentryOutcome known => exact .applyOutcome c _ _ _
  | timeout running => exact .timeout c _
  | @submit session _ cookie response _ found source moves =>
    have answered : SessionSteps c (c.log (.submitted cookie response)) := SessionSteps.log c rfl
    exact answered.trans (.ofMoves moves)
  | initiate before same after =>
    apply (SessionSteps.ofMoves before).trans
    apply SessionSteps.trans _ (.ofMoves after)
    exact .createSession _ _ _ _ (fun other => by cases other)
  | polkit moves => exact .ofMoves moves

end Core

end BbAuth
