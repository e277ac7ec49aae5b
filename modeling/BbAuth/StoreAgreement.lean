import BbAuth.Library.Directory
import BbAuth.PinentrySessions

open Library
namespace BbAuth

variable {roster : QString → Source}

namespace Core

def held (c : Core) (id : QString) : Source → Prop
  | .keyring => c.keyringManager.pendingRequests.contains id = true
  | .pinentry => c.pinentryManager.flowOwners.contains id = true
  | .polkit => c.listener.cookieToState.contains id = true

def directory (c : Core) : Directory QString Source := ⟨c.source,c.held⟩

-- The store and the managers agree, and what the managers keep is filed under
-- ids of their own kind.
structure Tidy (roster : QString → Source) (c : Core) : Prop where
  agrees : c.directory.Agrees roster
  keyed : ∀ cookie request, c.keyringManager.pendingRequests.find cookie = some request → request.cookie = cookie
  states : ∀ ref state, c.listener.states.find ref = some state → roster state.cookie = .polkit

-- The listener is not concerned.
@[simp] theorem listener_log (c : Core) (effect : Effect) : (c.log effect).listener = c.listener := rfl

@[simp] theorem listener_answer (c : Core) (socket : Socket) (kind : RequestKind) (id : QString) (reply : Answer) :
    (c.answer socket kind id reply).listener = c.listener := by
  unfold answer
  split <;> rfl

@[simp] theorem listener_createSession (c : Core) (id : QString) (source : Source) (ctx : Context) :
    (c.createSession id source ctx).listener = c.listener := rfl

@[simp] theorem listener_updateSession (c : Core) (id : QString) (change : Session → Session) :
    (c.updateSession id change).listener = c.listener := by
  unfold updateSession
  split <;> rfl

@[simp] theorem listener_closeSession (c : Core) (id : QString) (result : Result) :
    (c.closeSession id result).listener = c.listener := by
  unfold closeSession
  split <;> rfl

@[simp] theorem listener_setPinentryRetry (c : Core) (id : QString) (curRetry maxRetries : Int) :
    (c.setPinentryRetry id curRetry maxRetries).listener = c.listener := by
  unfold setPinentryRetry
  split <;> rfl

@[simp] theorem source_answer (c : Core) (socket : Socket) (kind : RequestKind) (id other : QString) (reply : Answer) :
    (c.answer socket kind id reply).source other = c.source other := by
  unfold answer
  split <;> rfl

@[simp] theorem source_setPrompt (c : Core) (id other prompt : QString) (echo clearError : Bool) :
    (c.updateSession id (·.setPrompt prompt echo clearError)).source other = c.source other :=
  source_updateSession c id other _ (fun _ => ⟨rfl,rfl⟩)

@[simp] theorem source_setError (c : Core) (id other error : QString) :
    (c.updateSession id (·.setError error)).source other = c.source other :=
  source_updateSession c id other _ (fun _ => ⟨rfl,rfl⟩)

theorem listener_closeFlow (c : Core) (cookie : QString) (result : Result) (error : QString) :
    (c.closeFlow cookie result error).listener = c.listener := by
  have ended : (c.closeFlow cookie result error).listener = (c.endPinentrySession cookie result error).listener := rfl
  rw [ended]
  unfold endPinentrySession
  split
  · rw [listener_closeSession]
    split
    · rfl
    · exact listener_updateSession _ _ _
  · rfl

theorem reportRetry_frame (c : Core) (request : PinentryRequest) :
    (∀ other, (c.reportRetry request).source other = c.source other) ∧
      (c.reportRetry request).listener = c.listener := by
  unfold reportRetry
  split
  · exact ⟨fun _ => source_setError _ _ _ _,listener_updateSession _ _ _⟩
  · exact ⟨fun _ => rfl,rfl⟩

theorem reportRequestError_frame (c : Core) (request : PinentryRequest) :
    (∀ other, (c.reportRequestError request).source other = c.source other) ∧
      (c.reportRequestError request).listener = c.listener := by
  unfold reportRequestError
  simp only
  split
  · exact ⟨fun _ => source_setError _ _ _ _,listener_updateSession _ _ _⟩
  · exact ⟨fun _ => rfl,rfl⟩

theorem present_frame (c : Core) (request : PinentryRequest) (actor : ActorInfo) (retry : Int × Int)
    (sessionExists : Bool) :
    (∀ other, (c.present request actor retry sessionExists).source other =
      if sessionExists = false ∧ other = request.cookie then some .pinentry else c.source other) ∧
    (c.present request actor retry sessionExists).listener = c.listener := by
  unfold present
  cases sessionExists with
  | true => exact ⟨fun other => by simp [source_setPinentryRetry],by simp⟩
  | false => exact ⟨fun other => by simp,by simp⟩

theorem pinentryRequest_frame (c : Core) (request : PinentryRequest) (actor : ActorInfo)
    (mine : PinentryManager.ownedByOther c.pinentryManager request.cookie request.peerPid = false) :
    (∀ other, (c.pinentryRequest request actor).source other =
      if c.source request.cookie = none ∧ other = request.cookie then some .pinentry else c.source other) ∧
    (c.pinentryRequest request actor).listener = c.listener := by
  have owned : ¬PinentryManager.ownedByOther c.pinentryManager request.cookie request.peerPid = true := by simp [mine]
  have missing : (c.sessionStore.find request.cookie).isSome = false ↔ c.source request.cookie = none := by
    unfold Core.source
    cases c.sessionStore.find request.cookie <;> simp
  let started := c.log (.requested .pinentry request.socket request.peerPid request.cookie)
  obtain ⟨entered,recorded,retry,same⟩ : ∃ entered recorded retry, c.pinentryRequest request actor =
      ((((started.withPinentry entered).reportRetry request).withPinentry recorded).present request actor retry
        (c.sessionStore.find request.cookie).isSome).reportRequestError request := ⟨_,_,_,if_neg owned⟩
  obtain ⟨reported,unchanged⟩ := reportRetry_frame (started.withPinentry entered) request
  rw [same]
  constructor
  · intro other
    rw [(reportRequestError_frame _ _).1,(present_frame _ _ _ _ _).1]
    simp only [missing]
    exact congrArg (ite _ _) (reported other)
  · rw [(reportRequestError_frame _ _).2,(present_frame _ _ _ _ _).2]
    exact unchanged

def ownerOf (c : Core) (id : QString) : Option Pid := (PinentryManager.flow c.pinentryManager id).owner

theorem ownerOf_records {r : Records} (same : e.records = r) (id : QString) :
    ownerOf e id = (PinentryManager.flow r.pinentryManager id).owner := by
  rw [← same]
  rfl

theorem held_keyring {c e : Core} (same : e.keyringManager.pendingRequests = c.keyringManager.pendingRequests)
    (id : QString) : e.held id .keyring ↔ c.held id .keyring :=
  iff_of_eq (congrArg (fun pending => Table.contains pending id = true) same)

theorem held_pinentry {c e : Core} (same : ∀ id, ownerOf e id = ownerOf c id) (id : QString) :
    e.held id .pinentry ↔ c.held id .pinentry := iff_of_eq (congrArg (fun owner => Option.isSome owner = true) (same id))

theorem held_polkit {c e : Core} (same : e.listener.cookieToState = c.listener.cookieToState) (id : QString) :
    e.held id .polkit ↔ c.held id .polkit := iff_of_eq (congrArg (fun refs => Table.contains refs id = true) same)

theorem held_others {c e : Core} {mine : Source}
    (keyring : mine ≠ .keyring → e.keyringManager.pendingRequests = c.keyringManager.pendingRequests)
    (owners : mine ≠ .pinentry → ∀ id, ownerOf e id = ownerOf c id)
    (cookies : mine ≠ .polkit → e.listener.cookieToState = c.listener.cookieToState)
    (id : QString) (kind : Source) (different : kind ≠ mine) : e.held id kind ↔ c.held id kind := by
  cases kind with
  | keyring => exact held_keyring (keyring different.symm) id
  | pinentry => exact held_pinentry (owners different.symm) id
  | polkit => exact held_polkit (cookies different.symm) id

namespace Tidy

variable {c e : Core} {cookie : QString}

theorem same (tidy : c.Tidy roster) (source : ∀ id, e.source id = c.source id)
    (keyring : e.keyringManager.pendingRequests = c.keyringManager.pendingRequests)
    (owners : ∀ id, ownerOf e id = ownerOf c id) (listener : e.listener = c.listener) : e.Tidy roster where
  agrees := by
    refine tidy.agrees.same source (fun id kind => ?_)
    cases kind with
    | keyring => exact held_keyring keyring id
    | pinentry => exact held_pinentry owners id
    | polkit => exact held_polkit (congrArg _ listener) id
  keyed := keyring ▸ tidy.keyed
  states := listener ▸ tidy.states

theorem keyringRequest (tidy : c.Tidy roster) (request : KeyringRequest) (actor : ActorInfo)
    (mine : roster request.cookie = .keyring) : (c.keyringRequest request actor).Tidy roster := by
  have records : (c.keyringRequest request actor).records = c.records.act (.keyringRequest request actor) :=
    records_updateSession _ _ _
  have pending : (c.keyringRequest request actor).keyringManager.pendingRequests =
      c.keyringManager.pendingRequests.insert request.cookie request := congrArg Records.pendingKeyring records
  have listener : (c.keyringRequest request actor).listener = c.listener := listener_updateSession _ _ _
  refine ⟨tidy.agrees.opened mine ?_ ?_ ?_,?_,listener ▸ tidy.states⟩
  · intro other
    change (Core.keyringRequest c request actor).source other = _
    simp only [Core.keyringRequest,source_setPrompt,source_createSession]
    rfl
  · intro other
    change Table.contains _ other = true ↔ _
    rw [pending,Table.contains_insert]
    rfl
  · apply held_others
    · exact absurd rfl
    · exact fun _ => ownerOf_records records
    · exact fun _ => congrArg _ listener
  · intro cookie found
    rw [pending,Table.find_insert]
    split
    · next same =>
      rintro ⟨⟩
      exact same.symm
    · exact tidy.keyed cookie found

theorem keyringClosed (tidy : c.Tidy roster) (mine : roster cookie = .keyring)
    (records : e.records = c.records.forgetKeyring cookie) (listener : e.listener = c.listener)
    (source : ∀ other, e.source other = if other = cookie then none else c.source other) : e.Tidy roster := by
  have pending : e.keyringManager.pendingRequests = c.keyringManager.pendingRequests.remove cookie :=
    congrArg Records.pendingKeyring records
  refine ⟨tidy.agrees.closed mine source ?_ ?_,?_,listener ▸ tidy.states⟩
  · intro other
    change Table.contains _ other = true ↔ _
    rw [pending,Table.contains_remove]
    rfl
  · apply held_others
    · exact absurd rfl
    · exact fun _ => ownerOf_records records
    · exact fun _ => congrArg _ listener
  · intro other found
    rw [pending,Table.find_remove]
    split
    · intro none
      cases none
    · exact tidy.keyed other found

theorem keyringConclude (tidy : c.Tidy roster) (result : Result) (reply : Answer)
    (pending : c.keyringManager.pendingRequests.find cookie = some request) :
    (c.keyringConclude cookie result reply).Tidy roster := by
  have mine : roster cookie = .keyring := tidy.agrees.kind _ .keyring ((Table.contains_iff _ _).mpr ⟨_,pending⟩)
  refine tidy.keyringClosed mine (records_keyringConclude c cookie result reply pending) ?_ ?_
  · simp only [Core.keyringConclude,pending,listener_answer,listener_closeSession]
    rfl
  · intro other
    simp only [Core.keyringConclude,pending,source_answer,source_closeSession]
    rfl

theorem keyringForget (tidy : c.Tidy roster) (entry : QString × KeyringRequest) (mine : roster entry.1 = .keyring)
    (keyed : entry.2.cookie = entry.1) : (c.keyringForget entry).Tidy roster := by
  refine tidy.keyringClosed mine ?_ ?_ ?_
  · exact records_closeSession _ _ _
  · exact listener_closeSession _ _ _
  · intro other
    rw [← keyed]
    exact source_closeSession _ _ _ _

theorem keyringDisconnect (tidy : c.Tidy roster) (socket : Socket) : (c.keyringDisconnect socket).Tidy roster := by
  have listed : ∀ entry ∈ c.keyringManager.pendingRequests.toList.filter (fun entry => entry.2.socket = socket),
      roster entry.1 = .keyring ∧ entry.2.cookie = entry.1 := by
    intro entry present
    have found := (Table.mem_toList _ _ _).mp (List.mem_of_mem_filter present)
    exact ⟨tidy.agrees.kind _ .keyring ((Table.contains_iff _ _).mpr ⟨_,found⟩),tidy.keyed _ _ found⟩
  unfold Core.keyringDisconnect
  generalize c.keyringManager.pendingRequests.toList.filter (fun entry => entry.2.socket = socket) = entries at listed
  induction entries generalizing c with
  | nil => exact tidy
  | cons entry rest ih =>
    obtain ⟨⟨mine,keyed⟩,others⟩ := List.forall_mem_cons.mp listed
    exact ih (tidy.keyringForget entry mine keyed) others

theorem closeFlow (tidy : c.Tidy roster) (cookie : QString) (result : Result) (error : QString) :
    (c.closeFlow cookie result error).Tidy roster := by
  have records := records_closeFlow c cookie result error
  have listener := listener_closeFlow c cookie result error
  have keyring : (c.closeFlow cookie result error).keyringManager.pendingRequests = c.keyringManager.pendingRequests :=
    congrArg Records.pendingKeyring records
  have owners (other : QString) : ownerOf (c.closeFlow cookie result error) other =
      if other = cookie then none else ownerOf c other := by
    rw [ownerOf_records records]
    change (PinentryManager.flow (PinentryManager.forgetFlow c.pinentryManager cookie) other).owner = _
    rw [PinentryManager.flow_forgetFlow]
    split <;> rfl
  by_cases shown : c.source cookie = some .pinentry
  · refine ⟨tidy.agrees.closed (tidy.agrees.shown_kind shown) ?_ ?_ ?_,keyring ▸ tidy.keyed,listener ▸ tidy.states⟩
    · intro other
      exact (source_closeFlow c cookie other result error).trans (by simp only [shown,and_true]; rfl)
    · intro other
      change (ownerOf (c.closeFlow cookie result error) other).isSome = true ↔ other ≠ cookie ∧ (ownerOf c other).isSome = true
      rw [owners]
      by_cases same : other = cookie
      · simp [same]
      · simp [same]
    · apply held_others
      · exact fun _ => keyring
      · exact absurd rfl
      · exact fun _ => congrArg _ listener
  · refine tidy.same ?_ keyring ?_ listener
    · intro other
      rw [source_closeFlow,if_neg (fun both => shown both.2)]
    · intro other
      rw [owners]
      split
      · next same =>
        have unheld : ¬c.held cookie .pinentry := fun held => shown ((tidy.agrees.agree _ _).mpr held)
        rw [same]
        exact (Option.not_isSome_iff_eq_none.mp unheld).symm
      · rfl

theorem pinentryDisconnect (tidy : c.Tidy roster) (socket : Socket) : (c.pinentryDisconnect socket).Tidy roster := by
  change (List.foldl pinentryForget c (c.records.flowsOf socket)).Tidy roster
  generalize c.records.flowsOf socket = cookies
  induction cookies generalizing c with
  | nil => exact tidy
  | cons cookie rest ih => exact ih (tidy.closeFlow cookie _ _)

theorem setSocketState (tidy : c.Tidy roster) (socket : Socket) (state : LocalSocketState) :
    (c.setSocketState socket state).Tidy roster := by
  unfold Core.setSocketState
  split
  · exact tidy
  · exact tidy.same (fun _ => rfl) rfl (fun _ => rfl) rfl

theorem disconnect (tidy : c.Tidy roster) (socket : Socket) : (c.disconnect socket).Tidy roster := by
  have forgotten := ((tidy.setSocketState socket .unconnected).keyringDisconnect socket).pinentryDisconnect socket
  have deleted (m : Core) (kept : m.Tidy roster) : (m.deleteSocket socket).Tidy roster :=
    kept.same (fun _ => rfl) rfl (fun _ => rfl) rfl
  exact deleted _ forgotten

theorem pinentryRequest (tidy : c.Tidy roster) (request : PinentryRequest) (actor : ActorInfo)
    (mine : roster request.cookie = .pinentry) : (c.pinentryRequest request actor).Tidy roster := by
  by_cases owned : PinentryManager.ownedByOther c.pinentryManager request.cookie request.peerPid = true
  · rw [pinentryRequest_refused c request actor owned]
    exact tidy.same (fun _ => rfl) rfl (fun _ => rfl) rfl
  · have free := Bool.not_eq_true _ ▸ owned
    obtain ⟨source,listener⟩ := pinentryRequest_frame c request actor free
    have records := records_pinentryRequest c request actor
    have keyring : (c.pinentryRequest request actor).keyringManager.pendingRequests = c.keyringManager.pendingRequests := by
      refine (congrArg Records.pendingKeyring records).trans ?_
      unfold Records.act
      simp only
      split <;> rfl
    refine ⟨tidy.agrees.opened mine ?_ ?_ ?_,keyring ▸ tidy.keyed,listener ▸ tidy.states⟩
    · intro other
      refine (source other).trans ?_
      by_cases same : other = request.cookie
      · rw [if_pos same,same]
        cases shown : c.source request.cookie with
        | none => simp
        | some kind =>
          have same_kind : kind = .pinentry := (tidy.agrees.shown_kind shown).symm.trans mine
          simp [same_kind]
      · rw [if_neg same,if_neg (fun both => same both.2)]
        rfl
    · intro other
      change (ownerOf (c.pinentryRequest request actor) other).isSome = true ↔
        other = request.cookie ∨ (ownerOf c other).isSome = true
      have flow := congrArg PinentryManager.Flow.owner (enrolled_flow c request actor free other)
      rw [show ownerOf (c.pinentryRequest request actor) other = _ from flow]
      by_cases same : other = request.cookie
      · simp [same]
      · simp only [same,if_false,false_or]
        rfl
    · apply held_others
      · exact fun _ => keyring
      · exact absurd rfl
      · exact fun _ => congrArg _ listener

theorem pinentryRespond (tidy : c.Tidy roster) (cookie response : QString) :
    (c.pinentryRespond cookie response).Tidy roster := by
  unfold Core.pinentryRespond
  split
  · exact tidy
  · next request _ =>
    simp only
    refine tidy.same ?_ ?_ ?_ (listener_answer _ _ _ _ _)
    · exact fun other => source_answer _ _ _ _ _ _
    · exact congrArg Records.pendingKeyring (records_answer _ _ _ _ _)
    · intro other
      rw [ownerOf_records (records_answer _ _ _ _ _)]
      change (PinentryManager.flow (PinentryManager.awaitOutcome c.pinentryManager request cookie) other).owner = _
      rw [PinentryManager.flow_awaitOutcome]
      split
      · next same => rw [same]; rfl
      · rfl

theorem pinentryCancel (tidy : c.Tidy roster) (cookie : QString) : (c.pinentryCancel cookie).Tidy roster := by
  have closed := tidy.closeFlow cookie .cancelled []
  unfold Core.pinentryCancel
  simp only
  split
  · exact closed
  · exact closed.same (fun _ => source_answer _ _ _ _ _ _) (congrArg Records.pendingKeyring (records_answer _ _ _ _ _))
      (fun other => ownerOf_records (records_answer _ _ _ _ _) other) (listener_answer _ _ _ _ _)

theorem applyOutcome (tidy : c.Tidy roster) (cookie : QString) (outcome : PinentryManager.Outcome) (error : QString) :
    (c.applyOutcome cookie outcome error).Tidy roster := by
  cases outcome with
  | success | cancelled | error => exact tidy.closeFlow _ _ _
  | retry =>
    refine tidy.same (fun _ => source_setError _ _ _ _) ?_ ?_ (listener_updateSession _ _ _)
    · exact congrArg Records.pendingKeyring (records_updateSession _ _ _)
    · intro other
      rw [ownerOf_records (records_applyOutcome c cookie .retry error)]
      change (PinentryManager.flow (PinentryManager.cleanupAwaiting c.pinentryManager cookie) other).owner = _
      rw [PinentryManager.flow_cleanupAwaiting]
      split
      · next same => rw [same]; rfl
      · rfl

theorem timeout (tidy : c.Tidy roster) (timer : Timer) : (c.timeout timer).Tidy roster := by
  unfold Core.timeout
  split
  · exact tidy
  · next cookie _ =>
    have expired : (c.withPinentry {c.pinentryManager with timers:=c.pinentryManager.timers.remove timer}).Tidy roster :=
      tidy.same (fun _ => rfl) rfl (fun _ => rfl) rfl
    exact expired.closeFlow cookie _ _

theorem log (tidy : c.Tidy roster) (effect : Effect) : (c.log effect).Tidy roster :=
  tidy.same (fun _ => rfl) rfl (fun _ => rfl) rfl

theorem updateSession (tidy : c.Tidy roster) (id : QString) (change : Session → Session)
    (alike : ∀ s, (change s).id = s.id ∧ (change s).source = s.source) : (c.updateSession id change).Tidy roster :=
  tidy.same (fun _ => source_updateSession _ _ _ _ alike)
    (congrArg Records.pendingKeyring (records_updateSession _ _ _))
    (fun other => ownerOf_records (records_updateSession _ _ _) other) (listener_updateSession _ _ _)

theorem withListener (tidy : c.Tidy roster) (listener : PolkitListener)
    (cookies : listener.cookieToState = c.listener.cookieToState)
    (states : ∀ ref state, listener.states.find ref = some state → roster state.cookie = .polkit) :
    (c.withListener listener).Tidy roster := by
  refine ⟨tidy.agrees.same (fun _ => rfl) (fun other kind => ?_),tidy.keyed,states⟩
  cases kind with
  | keyring | pinentry => exact Iff.rfl
  | polkit => exact held_polkit cookies other

theorem polkitOpened (tidy : c.Tidy roster) (ctx : Context) (mine : roster cookie = .polkit) (ref : StateRef) :
    ((c.withListener {c.listener with cookieToState:=c.listener.cookieToState.insert cookie ref}).createSession
      cookie .polkit ctx).Tidy roster := by
  refine ⟨tidy.agrees.opened mine ?_ ?_ ?_,tidy.keyed,tidy.states⟩
  · intro other
    exact source_createSession _ _ _ _ _
  · intro other
    exact Table.contains_insert _ _ _ _
  · intro other kind different
    cases kind with
    | keyring | pinentry => exact Iff.rfl
    | polkit => exact absurd rfl different

theorem polkitClosed (tidy : c.Tidy roster) (result : Result) (effect : Effect) (mine : roster cookie = .polkit)
    (ref : StateRef) :
    (((c.closeSession cookie result).log effect).withListener {c.listener with
      cookieToState:=c.listener.cookieToState.remove cookie,states:=c.listener.states.remove ref}).Tidy roster := by
  have records := records_closeSession c cookie result
  have keyring : (c.closeSession cookie result).keyringManager.pendingRequests = c.keyringManager.pendingRequests :=
    congrArg Records.pendingKeyring records
  refine ⟨tidy.agrees.closed mine ?_ ?_ ?_,fun other request found => tidy.keyed other request ?_,?_⟩
  · intro other
    exact source_closeSession c cookie other result
  · intro other
    exact Table.contains_remove _ _ _
  · apply held_others
    · exact fun _ => keyring
    · exact fun _ => ownerOf_records records
    · exact absurd rfl
  · rw [← keyring]
    exact found
  · intro other state found
    change (c.listener.states.remove ref).find other = some state at found
    rw [Table.find_remove] at found
    split at found
    · cases found
    · exact tidy.states other state found

end Tidy

end Core

namespace PolkitListener

variable {d : Daemon}

theorem tidy_logPolkit (tidy : d.core.Tidy roster) (effect : PolkitEffect) : (logPolkit d effect).core.Tidy roster := by
  rw [logPolkit,Daemon.core_log]
  exact tidy.log _

theorem tidy_withListener (tidy : d.core.Tidy roster) (listener : PolkitListener)
    (cookies : listener.cookieToState = d.listener.cookieToState) (states : listener.states = d.listener.states) :
    (d.withListener listener).core.Tidy roster :=
  tidy.withListener listener cookies (states ▸ tidy.states)

theorem tidy_setState (tidy : d.core.Tidy roster) (ref : StateRef) (state : SessionState)
    (mine : roster state.cookie = .polkit) : (setState d ref state).core.Tidy roster := by
  refine tidy.withListener _ rfl ?_
  intro other found stored
  change (d.listener.states.insert ref state).find other = some found at stored
  rw [Table.find_insert] at stored
  split at stored
  · cases stored
    exact mine
  · exact tidy.states other found stored

theorem tidy_newSession (tidy : d.core.Tidy roster) (ref : StateRef) (state : SessionState)
    (mine : roster state.cookie = .polkit) : (newSession d ref state).core.Tidy roster := by
  refine (tidy_logPolkit tidy _).withListener _ rfl ?_
  intro other found stored
  change (d.listener.states.insert ref {state with session:=some (_ : PolkitSession)}).find other = some found at stored
  rw [Table.find_insert] at stored
  split at stored
  · cases stored
    exact mine
  · exact tidy.states other found stored

theorem tidy_reattempt (tidy : d.core.Tidy roster) (ref : StateRef) : (reattempt d ref).core.Tidy roster := by
  unfold reattempt
  split
  · exact tidy_logPolkit tidy _
  · next state stored =>
    have retried := tidy_setState tidy ref {state with cancelled:=false} (tidy.states ref state stored)
    simp only
    split
    · exact retried
    · exact tidy_logPolkit retried _

theorem tidy_dropSession (tidy : d.core.Tidy roster) (session : Option PolkitSession) :
    (dropSession d session).core.Tidy roster := by
  cases session with
  | none => exact tidy
  | some session => exact tidy_withListener tidy _ rfl rfl

-- The session is closed before the cookie is forgotten.
theorem tidy_completed (tidy : d.core.Tidy roster) (cookie : QString) (gained : Bool) (mine : roster cookie = .polkit)
    (ref : StateRef) :
    let e := logPolkit (d.onSessionComplete cookie gained) (.completed gained)
    (e.withListener {e.listener with
      cookieToState:=e.listener.cookieToState.remove cookie,states:=e.listener.states.remove ref}).core.Tidy roster := by
  intro e
  have closed := tidy.polkitClosed (if gained then .success else .cancelled) (.polkit (.completed gained)) mine ref
  have core : e.core = (d.core.closeSession cookie (if gained then .success else .cancelled)).log
      (.polkit (.completed gained)) := by
    rw [← Daemon.core_onSessionComplete]
    exact Daemon.core_log _ _
  have kept : e.listener = d.listener := (congrArg Core.listener core).trans (Core.listener_closeSession _ _ _)
  rw [kept,Daemon.core_withListener,core]
  exact closed

theorem tidy_cleanUp (tidy : d.core.Tidy roster) (ref : StateRef) (state : SessionState)
    (mine : roster state.cookie = .polkit) : (cleanUp d ref state).core.Tidy roster := by
  have stopped := tidy_setState tidy ref {state with inProgress:=false} mine
  exact tidy_completed (tidy_dropSession (tidy_logPolkit stopped _) state.session) state.cookie state.gainedAuth mine ref

theorem tidy_onSessionRetry (tidy : d.core.Tidy roster) (cookie error : QString) :
    (d.onSessionRetry cookie error).core.Tidy roster := by
  rw [Daemon.core_onSessionRetry]
  exact tidy.updateSession cookie _ (fun _ => ⟨rfl,rfl⟩)

theorem tidy_finishAuth (tidy : d.core.Tidy roster) (ref : StateRef) : (finishAuth d ref).core.Tidy roster := by
  unfold finishAuth
  split
  · exact tidy_logPolkit tidy _
  · next state stored =>
    have mine := tidy.states ref state stored
    simp only
    split
    · exact tidy
    · split
      · split
        · apply tidy_reattempt
          exact tidy_newSession (tidy_dropSession tidy _) ref {state with retryCount:=state.retryCount + 1} mine
        · apply tidy_cleanUp (tidy_onSessionRetry tidy _ _)
          exact mine
      · exact tidy_cleanUp tidy ref state mine

theorem tidy_withState (tidy : d.core.Tidy roster) (session : Nat) (slot : StateRef → SessionState → Daemon)
    (slots : ∀ ref state, roster state.cookie = .polkit → (slot ref state).core.Tidy roster) :
    (withState d session slot).core.Tidy roster := by
  unfold withState
  split
  · exact tidy
  · split
    · exact tidy_logPolkit tidy _
    · next ref _ _ state stored => exact slots ref state (tidy.states ref state stored)

theorem tidy_signal (tidy : d.core.Tidy roster) (session : Nat) (said : PolkitSignal) :
    (signal d session said).core.Tidy roster := by
  have heard := tidy_logPolkit tidy (.signalled session said)
  cases said with
  | request request echo =>
    refine tidy_withState heard session _ (fun ref state mine => ?_)
    rw [Daemon.core_onSessionRequest]
    refine Core.Tidy.updateSession (tidy_setState heard ref _ ?_) _ _ (fun _ => ⟨rfl,rfl⟩)
    exact mine
  | completed gained =>
    refine tidy_withState heard session _ (fun ref state mine => ?_)
    apply tidy_finishAuth
    cases gained with
    | true => exact tidy_setState heard ref {state with gainedAuth:=true} mine
    | false =>
      refine tidy_onSessionRetry (tidy_setState heard ref _ ?_) _ _
      exact mine
  | showError error =>
    refine tidy_withState heard session _ (fun ref state mine => ?_)
    exact tidy_onSessionRetry (tidy_setState heard ref {state with errorText:=error} mine) _ _
  | showInfo info =>
    refine tidy_withState heard session _ (fun ref state mine => ?_)
    rw [Daemon.core_onSessionInfo]
    exact heard.updateSession _ _ (fun _ => ⟨rfl,rfl⟩)

theorem tidy_finishCancelled (tidy : d.core.Tidy roster) (ref : StateRef) :
    (finishCancelled d ref).core.Tidy roster := by
  unfold finishCancelled
  split
  · exact tidy_logPolkit tidy _
  · next state stored =>
    have mine := tidy.states ref state stored
    exact tidy_finishAuth (tidy_setState tidy ref {state with cancelled:=true} mine) ref

theorem tidy_cancelAuthentication (tidy : d.core.Tidy roster) : (cancelAuthentication d).core.Tidy roster := by
  unfold cancelAuthentication
  generalize d.listener.cookieToState.toList.map Prod.snd = refs
  induction refs generalizing d with
  | nil => exact tidy
  | cons ref rest ih => exact ih (tidy_finishCancelled tidy ref)

theorem tidy_submitPassword (tidy : d.core.Tidy roster) (cookie pass : QString) :
    (submitPassword d cookie pass).core.Tidy roster := by
  have submitted : (d.log (.submitted cookie pass)).core.Tidy roster := by
    rw [Daemon.core_log]
    exact tidy.log _
  unfold submitPassword
  simp only
  repeat' split
  · exact submitted
  · exact tidy_logPolkit submitted _
  · exact submitted
  · exact tidy_logPolkit submitted _

-- Session::cancel() returns before anything is emitted.
theorem tidy_cancelPending (tidy : d.core.Tidy roster) (cookie : QString) (quiet : d.env.cancelCompletes = false) :
    (cancelPending d cookie).core.Tidy roster := by
  have returns (session : PolkitSession) : (cancelSession d session).core.Tidy roster := by
    have alone : cancelSession d session = logPolkit d (.cancelled session) :=
      if_neg (fun completes => Bool.false_ne_true (quiet.symm.trans completes))
    rw [alone]
    exact tidy_logPolkit tidy _
  unfold cancelPending
  repeat' split
  · exact tidy
  · exact tidy_logPolkit tidy _
  · exact tidy
  · exact tidy_finishCancelled (returns _) _

theorem tidy_onPolkitRequest (tidy : d.core.Tidy roster) (cookie message actionId user : QString)
    (details : List (QString × QString)) (mine : roster cookie = .polkit) (ref : StateRef) :
    ((d.withListener {d.listener with cookieToState:=d.listener.cookieToState.insert cookie ref}).onPolkitRequest
      cookie message actionId user details).core.Tidy roster := by
  unfold Daemon.onPolkitRequest
  simp only
  rw [Daemon.core_createSession,Daemon.core_withListener]
  exact tidy.polkitOpened _ mine ref

theorem tidy_initiateAuthentication (tidy : d.core.Tidy roster) (actionId message iconName : QString)
    (details : List (QString × QString)) (cookie : QString) (identities : List QString) (mine : roster cookie = .polkit) :
    (initiateAuthentication d actionId message iconName details cookie identities).core.Tidy roster := by
  have counted := tidy_withListener tidy {d.listener with nextResult:=d.listener.nextResult + 1} rfl rfl
  unfold initiateAuthentication
  simp only
  split
  · exact tidy_logPolkit (tidy_logPolkit counted _) _
  · cases identities with
    | nil => exact tidy_logPolkit (tidy_logPolkit counted _) _
    | cons selectedUser others =>
      apply tidy_reattempt
      apply tidy_onPolkitRequest _ cookie message actionId selectedUser details mine
      apply tidy_newSession
      · exact tidy_withListener counted _ rfl rfl
      · exact mine

end PolkitListener

namespace Agent

variable {d : Daemon}

theorem tidy_sendError (tidy : d.core.Tidy roster) (socket : Socket) (message : String) :
    (sendError d socket message).core.Tidy roster := by
  rw [core_sendError]
  exact tidy

theorem tidy_handleRespond (tidy : d.core.Tidy roster) (socket : Socket) (msg : QJsonObject) :
    (handleRespond d socket msg).core.Tidy roster := by
  unfold handleRespond
  simp only
  generalize (msg.value (text "id")).toString = cookie
  generalize (msg.value (text "response")).toString = response
  split
  · exact tidy_sendError tidy socket _
  split
  · next held =>
    obtain ⟨request,found⟩ := (Table.contains_iff _ _).mp held
    rw [core_respondKeyring]
    exact tidy.keyringConclude _ _ found
  split
  · next held =>
    rw [core_respondPinentry d socket cookie response held]
    exact tidy.pinentryRespond cookie response
  split
  · exact tidy_sendError tidy socket _
  cases d.getSession cookie with
  | none => exact tidy_sendError tidy socket _
  | some session =>
    simp only
    split
    · exact tidy_sendError tidy socket _
    · rw [core_acknowledged]
      exact PolkitListener.tidy_submitPassword tidy cookie response

theorem tidy_handleCancel (tidy : d.core.Tidy roster) (socket : Socket) (msg : QJsonObject)
    (quiet : d.env.cancelCompletes = false) : (handleCancel d socket msg).core.Tidy roster := by
  unfold handleCancel
  simp only
  generalize (msg.value (text "id")).toString = cookie
  split
  · exact tidy_sendError tidy socket _
  split
  · next held =>
    obtain ⟨request,found⟩ := (Table.contains_iff _ _).mp held
    rw [core_cancelKeyring]
    exact tidy.keyringConclude _ _ found
  split
  · next known =>
    rw [core_cancelPinentry d socket cookie known]
    exact tidy.pinentryCancel cookie
  cases d.getSession cookie with
  | none => exact tidy_sendError tidy socket _
  | some session =>
    simp only
    split
    · exact tidy_sendError tidy socket _
    · rw [core_acknowledged]
      exact PolkitListener.tidy_cancelPending tidy cookie quiet

theorem tidy_handlePinentryResult (tidy : d.core.Tidy roster) (socket : Socket) (msg : QJsonObject) :
    (handlePinentryResult d socket msg).core.Tidy roster := by
  have refused (message : QString) : (d.sendJson socket (.error message)).core.Tidy roster := by
    rw [Daemon.core_sendJson d socket _ rfl]
    exact tidy
  unfold handlePinentryResult PinentryManager.handleResult
  simp only
  split
  · exact refused _
  split
  · exact refused _
  split
  · exact refused _
  cases PinentryManager.parseOutcome (toLower (msg.value (text "result")).toString) with
  | none => exact refused _
  | some outcome =>
    simp only
    rw [core_acknowledged,PinentryManager.core_applyOutcome]
    exact tidy.applyOutcome _ _ _

end Agent

-- The ids of the requests an input makes are ids of their own source, and
-- PolkitQt1's Session::cancel() emits nothing before it returns.
def Input.keepsApart (input : Input) (roster : QString → Source) : Prop :=
  input.env.cancelCompletes = false ∧
    match input.kind with
    | .keyringRequest _ msg => roster (input.env.effectiveCookie msg) = .keyring
    | .pinentryRequest _ msg => roster (input.env.effectiveCookie msg) = .pinentry
    | .initiateAuthentication _ _ _ _ cookie _ => roster cookie = .polkit
    | _ => True

namespace Daemon

-- A prompt of a kind is in the store exactly while the manager of that kind
-- keeps its request.
structure StoreAgrees (d : Daemon) : Prop where
  keyring : ∀ c, (∃ session, d.sessionStore.find c = some session ∧ session.source = .keyring) ↔
    d.keyringManager.pendingRequests.contains c = true
  pinentry : ∀ c, (∃ session, d.sessionStore.find c = some session ∧ session.source = .pinentry) ↔
    d.pinentryManager.flowOwners.contains c = true
  polkit : ∀ c, (∃ session, d.sessionStore.find c = some session ∧ session.source = .polkit) ↔
    d.listener.cookieToState.contains c = true

theorem tidy_storeAgrees {d : Daemon} (tidy : d.core.Tidy roster) : d.StoreAgrees := by
  have agree (c : QString) (source : Source) :
      (∃ session, d.sessionStore.find c = some session ∧ session.source = source) ↔ d.core.held c source := by
    exact Option.map_eq_some_iff.symm.trans (tidy.agrees.agree c source)
  exact ⟨fun c => agree c .keyring,fun c => agree c .pinentry,fun c => agree c .polkit⟩

theorem tidy_message (d : Daemon) (socket : Socket) (type : QString) (msg : QJsonObject) (tidy : d.core.Tidy roster)
    (apart : Input.keepsApart ⟨d.env,.message socket type msg⟩ roster) :
    (Agent.handleMessage d socket type msg).core.Tidy roster := by
  obtain ⟨quiet,mine⟩ := apart
  have routed {e : Daemon} (same : e.core = d.core) : e.core.Tidy roster := same ▸ tidy
  simp only [Input.kind] at mine
  simp only [Agent.handleMessage]
  cases found : Agent.handlers.lookup type with
  | none => exact Agent.tidy_sendError tidy socket _
  | some handler =>
    rw [found] at mine
    cases handler with
    | keyringRequest =>
      change (Agent.handleKeyringRequest d socket msg).core.Tidy roster
      rw [Agent.handleKeyringRequest,KeyringManager.core_handleRequest]
      refine tidy.keyringRequest _ _ ?_
      exact mine
    | pinentryRequest =>
      change (Agent.handlePinentryRequest d socket msg).core.Tidy roster
      rw [Agent.handlePinentryRequest,PinentryManager.core_handleRequest]
      refine tidy.pinentryRequest _ _ ?_
      exact mine
    | pinentryResult => exact Agent.tidy_handlePinentryResult tidy socket msg
    | respond => exact Agent.tidy_handleRespond tidy socket msg
    | cancel => exact Agent.tidy_handleCancel tidy socket msg quiet
    | ping => exact routed (Agent.core_handlePing d socket)
    | subscribe => exact routed (Agent.core_handleSubscribe d socket)
    | next => exact routed (Agent.core_handleNext d socket)
    | uiRegister => exact routed (Agent.core_handleUIRegister d socket msg)
    | uiHeartbeat => exact routed (Agent.core_handleUIHeartbeat d socket)
    | uiUnregister => exact routed (Agent.core_handleUIUnregister d socket)

theorem tidy_handle (d : Daemon) (event : Event) (tidy : d.core.Tidy roster)
    (apart : Input.keepsApart ⟨d.env,event⟩ roster) : (d.handle event).core.Tidy roster := by
  cases event with
  | connected peerPid => exact tidy.same (fun _ => rfl) rfl (fun _ => rfl) rfl
  | socketState socket state =>
    rw [handle,core_setSocketState]
    exact tidy.setSocketState socket state
  | message socket type msg => exact tidy_message d socket type msg tidy apart
  | disconnected socket =>
    rw [handle,core_disconnect]
    exact tidy.disconnect socket
  | initiateAuthentication actionId message iconName details cookie identities =>
    exact PolkitListener.tidy_initiateAuthentication tidy actionId message iconName details cookie identities apart.2
  | polkitSignal session signal => exact PolkitListener.tidy_signal tidy session signal
  | cancelAuthentication => exact PolkitListener.tidy_cancelAuthentication tidy
  | timeout timer =>
    rw [handle,PinentryManager.core_timeout]
    exact tidy.timeout timer
  | maintenance =>
    rw [handle,Agent.core_pruneStaleProviders]
    exact tidy

-- At the end of every handler of a run that keeps the ids of the sources apart,
-- no prompt has outlived its request and no live request lacks its prompt.
theorem store_agrees (roster : QString → Source) (inputs : List Input) (admitted : daemon.Admits inputs)
    (apart : daemon.Every (fun _ input => input.keepsApart roster) inputs) : daemon.Always StoreAgrees inputs := by
  refine Machine.AlwaysFrom.of_kept (P := fun d => d.core.Tidy roster) ?_ (fun d tidy => tidy_storeAgrees tidy)
    admitted apart ?_
  · intro d input tidy _ apart
    exact tidy_handle {d with env:=input.env} input.event tidy apart
  · refine ⟨⟨fun id kind => ⟨nofun,?_⟩,fun id kind held => ?_⟩,nofun,nofun⟩
    · intro held
      cases kind <;> cases held
    · cases kind <;> cases held

instance (input : Input) (roster : QString → Source) : Decidable (input.keepsApart roster) := by
  unfold Input.keepsApart
  exact match input.kind with
  | .keyringRequest .. | .pinentryRequest .. | .initiateAuthentication .. => inferInstanceAs (Decidable (_ ∧ _ = _))
  | .connected .. | .socketState .. | .disconnected .. | .pinentryResult .. | .respond .. | .cancel .. | .routing
  | .polkitSignal .. | .cancelAuthentication | .timeout .. => inferInstanceAs (Decidable (_ ∧ True))

-- One request of each source: the keyring client goes away, pinentry is asked
-- again after a wrong answer, and polkit gives up.
def threeSources : List Input :=
  [.quiet (.connected 7),
   .quiet (.connected 8),
   .say 0 "keyring_request" [("cookie","k"),("title","Unlock")],
   .say 1 "pinentry_request" [("cookie","p"),("prompt","PIN")],
   .quiet (.initiateAuthentication (text "act") (text "msg") [] [] (text "q") [text "root"]),
   .say 1 "session.respond" [("id","p"),("response","1234")],
   .quiet (.disconnected 0),
   .say 1 "pinentry_request" [("cookie","p"),("prompt","PIN"),("error","Bad PIN")],
   .quiet .cancelAuthentication]

def sourceOfName (id : QString) : Source :=
  if id = text "k" then .keyring else if id = text "p" then .pinentry else .polkit

theorem threeSources_agree : daemon.Always StoreAgrees threeSources :=
  store_agrees sourceOfName threeSources (by decide +kernel) (by decide +kernel)

end Daemon

end BbAuth
