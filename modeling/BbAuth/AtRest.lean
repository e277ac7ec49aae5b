import BbAuth.Departures
import BbAuth.Library.Draining
import BbAuth.PinentryRecovery
import BbAuth.StoreAgreement

open Library
namespace BbAuth

variable {id : QString}

def PinentryManager.Flow.Tended (flow : PinentryManager.Flow) : Prop :=
  flow.owner.isSome = true → flow.pending.isSome = true ∨ flow.awaiting.isSome = true

theorem PinentryManager.forgetFlow_tended {m : PinentryManager} (tended : (flow m id).Tended) (cookie : QString) :
    (flow (forgetFlow m cookie) id).Tended := by
  rw [flow_forgetFlow]
  split
  · exact nofun
  · exact tended

namespace Records

theorem act_keyring_kept (r : Records) (action : Action) (pending : r.pendingKeyring.find id = some request) :
    (∃ other, (r.act action).pendingKeyring.find id = some other) ∨
    (∃ result reply, action = .keyringConclude id result reply) ∨ action = .disconnect request.socket := by
  cases action with
  | keyringRequest asked actor =>
    left
    rw [act,Table.find_insert]
    split
    · exact ⟨asked,rfl⟩
    · exact ⟨request,pending⟩
  | keyringConclude cookie result reply =>
    by_cases same : id = cookie
    · subst same
      exact .inr (.inl ⟨result,reply,rfl⟩)
    · left
      rw [act,forgetKeyring,Table.find_remove,if_neg same]
      exact ⟨request,pending⟩
  | socketState socket state =>
    left
    rw [act,(setSocketState_other r socket state).1]
    exact ⟨request,pending⟩
  | disconnect socket =>
    by_cases mine : request.socket = socket
    · subst mine
      exact .inr (.inr rfl)
    · left
      have other : ¬∃ asked, r.pendingKeyring.find id = some asked ∧ asked.socket = socket := by
        rintro ⟨asked,found,sender⟩
        cases pending.symm.trans found
        exact mine sender
      rw [act,disconnect_keyring,if_neg other]
      exact ⟨request,pending⟩
  | pinentryRequest asked actor =>
    simp only [act]
    split <;> exact .inl ⟨request,pending⟩
  | pinentryRespond cookie response =>
    simp only [act]
    split <;> exact .inl ⟨request,pending⟩
  | pinentryOutcome cookie outcome error => cases outcome <;> exact .inl ⟨request,pending⟩
  | timeout timer =>
    simp only [act]
    split <;> exact .inl ⟨request,pending⟩
  | idle | connect | pinentryCancel | submit | initiate | polkit => exact .inl ⟨request,pending⟩

end Records

namespace Core

variable {c e : Core} {source : Source}

-- Every open keyring session has its request pending.
def Asked (c : Core) : Prop :=
  ∀ id, c.source id = some .keyring → ∃ request, c.keyringManager.pendingRequests.find id = some request

theorem keyringForgets_tends (entries : List (QString × KeyringRequest)) (c : Core) :
    Tends c (entries.foldl keyringForget c) := by
  induction entries generalizing c with
  | nil => exact .refl
  | cons entry rest ih => exact (Tends.withKeyring c _).trans <| (Tends.closeSession _ _ _).trans (ih _)

theorem keyringForgets_close (entries : List (QString × KeyringRequest)) (c : Core)
    (still : (entries.foldl keyringForget c).source id = some source) : ∀ entry ∈ entries, entry.2.cookie ≠ id := by
  induction entries generalizing c with
  | nil => exact nofun
  | cons entry rest ih =>
    intro other present
    rcases List.mem_cons.mp present with same | later
    · subst same
      intro closed
      have before := tends_source (keyringForgets_tends rest _) id source still
      rw [keyringForget,source_closeSession,if_pos closed.symm] at before
      cases before
    · exact ih _ still other later

theorem disconnect_keyring_closed (socket : Socket) (still : (c.disconnect socket).source id = some source)
    (keyed : ∀ cookie request, c.keyringManager.pendingRequests.find cookie = some request → request.cookie = cookie)
    (pending : c.keyringManager.pendingRequests.find id = some request) : request.socket ≠ socket := by
  intro mine
  have unconnected : (c.setSocketState socket .unconnected).keyringManager = c.keyringManager := by
    unfold setSocketState
    split <;> rfl
  have kept : ((c.setSocketState socket .unconnected).keyringDisconnect socket).source id = some source :=
    tends_source ((Tends.pinentryDisconnect _ socket).trans (Tends.deleteSocket _ socket)) id source still
  refine keyringForgets_close _ _ kept (id,request) (List.mem_filter.mpr ⟨?_,?_⟩) (keyed id request pending)
  · rw [unconnected]
    exact (Table.mem_toList _ _ _).mpr pending
  · exact decide_eq_true mine

theorem acts_asked (sound : Records.Sound c.records) (acts : Acts c action e) (asked : Asked c) : Asked e := by
  intro id still
  have records := acts_records acts
  have kept (before : c.source id = some .keyring) : ∃ request, e.keyringManager.pendingRequests.find id = some request := by
    obtain ⟨request,pending⟩ := asked id before
    rcases Records.act_keyring_kept c.records action pending with later | ⟨result,reply,concluded⟩ | left
    · rw [← records] at later
      exact later
    · subst concluded
      cases acts with
      | keyringConclude held plain =>
        simp only [keyringConclude,held,source_answer,source_closeSession] at still
        cases still
    · subst left
      cases acts with
      | disconnect known =>
        exact absurd rfl (disconnect_keyring_closed request.socket still sound.keyringIds pending)
  cases opens : c.opens action with
  | none => exact kept (tends_source (acts_tends acts opens) id .keyring still)
  | some target =>
    obtain ⟨other,source⟩ := target
    obtain ⟨m,announces⟩ := acts_opens acts opens
    obtain ⟨ctx,after⟩ := announces.after
    have created := tends_source after id .keyring still
    rw [source_createSession] at created
    by_cases same : id = other
    · subst same
      rw [if_pos rfl] at created
      cases created
      cases acts with
      | @keyringRequest _ _ request actor =>
        cases opens
        have pending : (c.keyringRequest request actor).keyringManager.pendingRequests =
          c.keyringManager.pendingRequests.insert request.cookie request := congrArg Records.pendingKeyring records
        rw [pending]
        exact ⟨request,Table.find_insert_self _ _ _⟩
      | pinentryRequest =>
        unfold Core.opens at opens
        simp only at opens
        split at opens
        · cases opens
        · split at opens <;> cases opens
      | _ => cases opens
    · rw [if_neg same] at created
      exact kept (tends_source announces.before id .keyring created)

-- Every flow that has an owner is tended.
def Tended (c : Core) : Prop := ∀ id, (c.flow id).Tended

theorem acts_tended (acts : Acts c action e) (tended : Tended c) (kept : ¬c.strands action) : Tended e := by
  intro id
  have before := tended id
  rw [flow_records (acts_records acts) id]
  cases action with
  | idle | connect | keyringRequest | keyringConclude | submit | initiate | polkit => exact before
  | socketState socket state =>
    rw [Records.act,(Records.setSocketState_other c.records socket state).2.1]
    exact before
  | disconnect socket =>
    rw [Records.act,Records.disconnect_flow]
    split
    · intro owner
      cases owner
    · exact before
  | pinentryRequest request actor =>
    by_cases mine : PinentryManager.ownedByOther c.records.pinentryManager request.cookie request.peerPid = false
    · rw [Records.act_enrol c.records request actor id mine]
      split
      · exact fun _ => .inl rfl
      · exact before
    · simp only [Records.act,(Bool.not_eq_false _).mp mine,if_true]
      exact before
  | pinentryRespond cookie response =>
    simp only [Records.act]
    split
    · exact before
    · rw [PinentryManager.flow_awaitOutcome]
      split
      · exact fun _ => .inr rfl
      · exact before
  | pinentryCancel cookie => exact PinentryManager.forgetFlow_tended before cookie
  | pinentryOutcome cookie outcome error =>
    cases outcome with
    | retry =>
      have flow : PinentryManager.flow (Records.retry c.records.pinentryManager cookie) id = _ :=
        PinentryManager.flow_cleanupAwaiting c.pinentryManager cookie id
      change (PinentryManager.flow (Records.retry c.records.pinentryManager cookie) id).Tended
      rw [flow]
      split
      · next same =>
        subst same
        exact fun owner => .inl ((before owner).resolve_right kept)
      · exact before
    | success | cancelled | error => exact PinentryManager.forgetFlow_tended before cookie
  | timeout timer =>
    simp only [Records.act]
    split
    · exact before
    · exact PinentryManager.forgetFlow_tended (m := {c.records.pinentryManager with
        timers:=c.records.pinentryManager.timers.remove timer}) before _

-- The owner of the flow stays, since only closing the flow would forget it.
theorem retry_untended (sound : PinentryManager.Sound c.pinentryManager) (owned : Owned c)
    (acts : Acts c (.pinentryOutcome cookie .retry error) e) (awaiting : (c.flow cookie).awaiting.isSome = true) :
    ¬Tended e := by
  intro tended
  obtain ⟨known,_⟩ := acts_outcome acts
  obtain ⟨owner,_,held,_⟩ := owned cookie ((hasPinentrySession_iff c cookie).mp known)
  have flow : e.flow cookie = {c.flow cookie with awaiting:=none} := by
    rw [flow_records (acts_records acts) cookie]
    exact (PinentryManager.flow_cleanupAwaiting c.pinentryManager cookie cookie).trans (if_pos rfl)
  have unasked : (c.flow cookie).pending = none := by
    cases pending : (c.flow cookie).pending with
    | none => rfl
    | some request =>
      have apart : (c.flow cookie).awaiting = none := sound.apart cookie request pending
      rw [apart] at awaiting
      cases awaiting
  have either := tended cookie
  rw [flow] at either
  rcases either (Option.isSome_of_eq_some held) with pending | awaits
  · change (c.flow cookie).pending.isSome = true at pending
    rw [unasked] at pending
    cases pending
  · cases awaits

end Core

-- A connection ends, or a flow that awaits its outcome times out.
def Event.leaves : Event → Bool
  | .disconnected _ | .timeout _ => true
  | .connected _ | .socketState .. | .message .. | .initiateAuthentication .. | .polkitSignal .. | .cancelAuthentication
  | .maintenance => false

namespace Daemon

variable {d : Daemon} {input : Input} {env : Env}

theorem reached_asked (path : daemon.Reached d) : Core.Asked d.core := by
  apply path.invariant (P := fun d => Core.Asked d.core)
  · intro id source
    cases source
  · intro d input before asked allowed
    exact Core.acts_asked (reached_records before) (acts_step d input allowed) asked

-- Every flow that has an owner asks its user or awaits its outcome.
def Tended (d : Daemon) : Prop :=
  ∀ cookie, d.pinentryManager.flowOwners.contains cookie = true →
    d.pinentryManager.pendingRequests.contains cookie = true ∨ d.pinentryManager.awaitingOutcome.contains cookie = true

theorem step_tended (path : daemon.Reached d) (tended : d.Tended) (allowed : daemon.enabled d input) :
    (daemon.step d input).Tended ↔ ¬d.strands input := by
  have acts := acts_step d input allowed
  rw [← strands_iff]
  constructor
  · intro later strands
    unfold Core.strands at strands
    split at strands
    · next same =>
      rw [same] at acts
      exact Core.retry_untended (reached_records path).manager (reached_owned path) acts strands later
    · exact strands
  · exact Core.acts_tended acts tended

def load (d : Daemon) : Nat := d.sockets.size + d.pinentryManager.timers.size

theorem timeout_flow (allowed : daemon.enabled d ⟨env,.timeout timer⟩)
    (running : d.pinentryManager.timers.find timer = some cookie) (id : QString) :
    (daemon.step d ⟨env,.timeout timer⟩).core.flow id = if id = cookie then ⟨none,none,none⟩ else d.core.flow id := by
  have records := Core.acts_records (acts_step d ⟨env,.timeout timer⟩ allowed)
  have manager : d.core.records.pinentryManager.timers.find timer = some cookie := running
  have acted : d.core.records.act (.timeout timer) = Records.forgetFlow {d.core.records with
      pinentryManager:={d.pinentryManager with timers:=d.pinentryManager.timers.remove timer}} cookie := by
    simp only [Records.act,manager]
    rfl
  exact (Core.flow_records (records.trans acted) id).trans (PinentryManager.flow_forgetFlow _ cookie id)

theorem leaves_flow (path : daemon.Reached d) (allowed : daemon.enabled d input) (leaves : input.event.leaves = true)
    (id : QString) :
    (daemon.step d input).core.flow id = d.core.flow id ∨
    (daemon.step d input).core.flow id = ⟨none,none,none⟩ ∧
      ((d.core.flow id).pending.isSome = true ∨ (d.core.flow id).awaiting.isSome = true) := by
  obtain ⟨env,event⟩ := input
  cases event with
  | disconnected socket =>
    have records := Core.acts_records (acts_step d ⟨env,.disconnected socket⟩ allowed)
    have flow := (Core.flow_records records id).trans (Records.disconnect_flow d.core.records socket id)
    split at flow
    · next mine =>
      obtain ⟨request,pending,_⟩ := mine
      exact .inr ⟨flow,.inl (Option.isSome_of_eq_some pending)⟩
    · exact .inl flow
  | timeout timer =>
    obtain ⟨cookie,running⟩ := (Table.contains_iff _ _).mp allowed
    have flow := timeout_flow allowed running id
    split at flow
    · next same =>
      subst same
      obtain ⟨awaiting,awaits,_⟩ := (reached_records path).manager.meant timer id running
      exact .inr ⟨flow,.inr (Option.isSome_of_eq_some awaits)⟩
    · exact .inl flow
  | connected | socketState | message | initiateAuthentication | polkitSignal | cancelAuthentication | maintenance =>
    cases leaves

theorem leaves_tended (path : daemon.Reached d) (allowed : daemon.enabled d input) (leaves : input.event.leaves = true) :
    (daemon.step d input).Tended ↔ d.Tended := by
  have each (id : QString) : ((daemon.step d input).core.flow id).Tended ↔ (d.core.flow id).Tended := by
    rcases leaves_flow path allowed leaves id with same | ⟨gone,busy⟩
    · rw [same]
    · rw [gone]
      exact ⟨fun _ _ => busy,fun _ => nofun⟩
  exact forall_congr' each

theorem leaves_timers (path : daemon.Reached d) (allowed : daemon.enabled d input) (leaves : input.event.leaves = true)
    (timer : Timer) (running : (daemon.step d input).pinentryManager.timers.contains timer = true) :
    d.pinentryManager.timers.contains timer = true := by
  obtain ⟨cookie,runs⟩ := (Table.contains_iff _ _).mp running
  obtain ⟨awaiting,awaits,armed⟩ := (reached_records (path.step allowed)).manager.meant timer cookie runs
  have held : ((daemon.step d input).core.flow cookie).awaiting = some awaiting := awaits
  rcases leaves_flow path allowed leaves cookie with same | ⟨gone,_⟩
  · rw [same] at held
    have before := (reached_records path).manager.armed cookie awaiting held
    rw [armed] at before
    exact (Table.contains_iff _ _).mpr ⟨cookie,before⟩
  · rw [gone] at held
    cases held

theorem leaves_sockets (allowed : daemon.enabled d input) (leaves : input.event.leaves = true) (socket : Socket)
    (known : (daemon.step d input).sockets.contains socket = true) : d.sockets.contains socket = true := by
  have records := Core.acts_records (acts_step d input allowed)
  change (daemon.step d input).core.records.sockets.contains socket = true at known
  rw [records] at known
  rcases Records.act_known _ _ _ known with before | ⟨_,peerPid,connects⟩
  · exact before
  · obtain ⟨env,event⟩ := input
    cases event with
    | disconnected | timeout => cases connects
    | connected | socketState | message | initiateAuthentication | polkitSignal | cancelAuthentication | maintenance =>
      cases leaves

theorem disconnected_gone (allowed : daemon.enabled d ⟨env,.disconnected socket⟩) :
    (daemon.step d ⟨env,.disconnected socket⟩).sockets.contains socket = false := by
  have records := Core.acts_records (acts_step d ⟨env,.disconnected socket⟩ allowed)
  change (daemon.step d ⟨env,.disconnected socket⟩).core.records.sockets.contains socket = false
  rw [records]
  exact Records.disconnect_gone _ socket

theorem timeout_stopped (path : daemon.Reached d) (allowed : daemon.enabled d ⟨env,.timeout timer⟩) :
    (daemon.step d ⟨env,.timeout timer⟩).pinentryManager.timers.contains timer = false := by
  rw [Bool.eq_false_iff]
  intro running
  obtain ⟨cookie,runs⟩ := (Table.contains_iff _ _).mp running
  obtain ⟨awaiting,awaits,armed⟩ := (reached_records (path.step allowed)).manager.meant timer cookie runs
  obtain ⟨mine,before⟩ := (Table.contains_iff _ _).mp allowed
  have held : ((daemon.step d ⟨env,.timeout timer⟩).core.flow cookie).awaiting = some awaiting := awaits
  rw [timeout_flow allowed before] at held
  split at held
  · cases held
  · next other =>
    have owns : d.pinentryManager.timers.find awaiting.timer = some cookie :=
      (reached_records path).manager.armed cookie awaiting held
    rw [armed,before] at owns
    exact other (Option.some.inj owns).symm

theorem draining : Draining daemon (fun input => input.event.leaves = true) load where
  lowers d input path allowed leaves := by
    obtain ⟨env,event⟩ := input
    cases event with
    | disconnected socket =>
      have sockets := Table.size_lt (leaves_sockets allowed leaves) allowed (disconnected_gone allowed)
      have timers := Table.size_le (leaves_timers path allowed leaves)
      exact Nat.add_lt_add_of_lt_of_le sockets timers
    | timeout timer =>
      have sockets := Table.size_le (leaves_sockets allowed leaves)
      have timers := Table.size_lt (leaves_timers path allowed leaves) allowed (timeout_stopped path allowed)
      exact Nat.add_lt_add_of_le_of_lt sockets timers
    | connected | socketState | message | initiateAuthentication | polkitSignal | cancelAuthentication | maintenance =>
      cases leaves
  possible d _ left := by
    rcases Nat.add_pos_iff_pos_or_pos.mp left with sockets | timers
    · obtain ⟨socket,known⟩ := (Table.size_pos _).mp sockets
      exact ⟨.quiet (.disconnected socket),rfl,known⟩
    · obtain ⟨timer,running⟩ := (Table.size_pos _).mp timers
      exact ⟨.quiet (.timeout timer),rfl,running⟩

-- Nothing of any client is left: no pointer to a socket, no running timer, no flow,
-- and of the sessions only those that polkit opened.
structure AtRest (d : Daemon) : Prop where
  alone : ∀ socket, ¬d.Refers socket
  silent : ∀ timer, d.pinentryManager.timers.find timer = none
  settled : ∀ cookie, d.pinentryManager.awaitingOutcome.find cookie = none
  forgotten : ∀ cookie, d.pinentryManager.flowOwners.find cookie = none
  closed : ∀ id session, d.getSession id = some session → session.source = .polkit

theorem left_atRest_iff (path : daemon.Reached d) (left : d.load = 0) : d.AtRest ↔ d.Tended := by
  obtain ⟨sockets,timers⟩ := Nat.add_eq_zero_iff.mp left
  have unknown (socket : Socket) : d.sockets.contains socket = false := by
    rw [Bool.eq_false_iff]
    intro known
    exact absurd ((Table.size_pos _).mpr ⟨socket,known⟩) (Nat.not_lt.mpr (Nat.le_of_eq sockets))
  have silent (timer : Timer) : d.pinentryManager.timers.find timer = none := by
    rw [← Option.not_isSome_iff_eq_none]
    intro running
    exact absurd ((Table.size_pos _).mpr ⟨timer,running⟩) (Nat.not_lt.mpr (Nat.le_of_eq timers))
  have alone (socket : Socket) : ¬d.Refers socket := by
    intro refers
    exact Bool.eq_false_iff.mp (unknown socket) (refers_known path refers)
  have unasked (cookie : QString) : d.pinentryManager.pendingRequests.find cookie = none := by
    rw [Option.eq_none_iff_forall_ne_some]
    intro request pending
    exact alone _ (.pinentry pending rfl)
  have settled (cookie : QString) : d.pinentryManager.awaitingOutcome.find cookie = none := by
    rw [Option.eq_none_iff_forall_ne_some]
    intro awaiting awaits
    cases (silent _).symm.trans ((reached_records path).manager.armed cookie awaiting awaits)
  constructor
  · intro rest cookie owner
    rw [Table.contains,rest.forgotten cookie] at owner
    cases owner
  · intro tended
    have forgotten (cookie : QString) : d.pinentryManager.flowOwners.find cookie = none := by
      rw [← Option.not_isSome_iff_eq_none]
      intro owner
      rcases tended cookie owner with pending | awaits
      · rw [Table.contains,unasked cookie] at pending
        cases pending
      · rw [Table.contains,settled cookie] at awaits
        cases awaits
    refine ⟨alone,silent,settled,forgotten,fun id session found => ?_⟩
    have source := source_getSession d found
    cases kind : session.source with
    | polkit => rfl
    | keyring =>
      rw [kind] at source
      obtain ⟨request,pending⟩ := reached_asked path id source
      exact absurd (.keyring pending rfl) (alone request.socket)
    | pinentry =>
      rw [kind] at source
      obtain ⟨owner,_,held,_⟩ := reached_owned path id source
      cases (forgotten id).symm.trans held

-- Whoever leaves first, once all have left the daemon is at rest.
def Rests (d : Daemon) : Prop :=
  ∀ leaving, daemon.EveryFrom daemon.enabled d leaving → (∀ input ∈ leaving, input.event.leaves = true) →
    (∀ input, input.event.leaves = true → ¬daemon.enabled (daemon.runFrom d leaving) input) →
    (daemon.runFrom d leaving).AtRest

theorem leaving_tended (path : daemon.Reached d) (leaving : List Input) (admitted : daemon.EveryFrom daemon.enabled d leaving)
    (all : ∀ input ∈ leaving, input.event.leaves = true) : (daemon.runFrom d leaving).Tended ↔ d.Tended := by
  induction leaving generalizing d with
  | nil => exact Iff.rfl
  | cons input rest ih =>
    obtain ⟨first,others⟩ := List.forall_mem_cons.mp all
    exact (ih (path.step admitted.1) admitted.2 others).trans (leaves_tended path admitted.1 first)

theorem rests_iff (path : daemon.Reached d) : d.Rests ↔ d.Tended := by
  constructor
  · intro rests
    obtain ⟨leaving,admitted,all,left⟩ := draining.completes path
    have after := path.runFrom admitted
    have rest := rests leaving admitted all ((draining.drained_iff after).mp left)
    exact (leaving_tended path leaving admitted all).mp ((left_atRest_iff after left).mp rest)
  · intro tended leaving admitted all stuck
    have after := path.runFrom admitted
    have left := (draining.drained_iff after).mpr stuck
    exact (left_atRest_iff after left).mpr ((leaving_tended path leaving admitted all).mpr tended)

-- As long as nobody else comes, everyone has left after as many steps as there were
-- connections and running timers, in any order. The daemon is then at rest exactly if
-- every flow was tended, which is so throughout a run exactly when no step of it
-- reports retry for a flow that awaits its outcome.
theorem leaves_to_rest (inputs : List Input) (admitted : daemon.Admits inputs) :
    (daemon.Always Rests inputs ↔ daemon.Every (fun d input => ¬d.strands input) inputs) ∧
    ∀ d, daemon.Reached d → (d.Rests ↔ d.Tended) ∧ ∀ leaving, daemon.EveryFrom daemon.enabled d leaving →
      (∀ input ∈ leaving, input.event.leaves = true) →
      leaving.length ≤ d.load ∧ ∃ more, daemon.EveryFrom daemon.enabled d (leaving ++ more) ∧
        (∀ input ∈ more, input.event.leaves = true) ∧
        ∀ input, input.event.leaves = true → ¬daemon.enabled (daemon.runFrom d (leaving ++ more)) input := by
  constructor
  · refine Machine.always_iff ?_ ?_ admitted
    · intro d input path rests allowed
      rw [rests_iff (path.step allowed)]
      exact step_tended path ((rests_iff path).mp rests) allowed
    · exact (rests_iff .initial).mpr (fun cookie owner => by cases owner)
  · intro d path
    refine ⟨rests_iff path,fun leaving possible all => ?_⟩
    have bound := draining.bounded path possible all
    obtain ⟨more,further,others,left⟩ := draining.completes (path.runFrom possible)
    refine ⟨Nat.le_of_add_right_le bound,more,(Machine.everyFrom_append _ _ _).mpr ⟨possible,further⟩,others,?_⟩
    rw [Machine.runFrom_append]
    exact (draining.drained_iff ((path.runFrom possible).runFrom further)).mp left

def threeAsked : List Input :=
  [.quiet (.connected 7),
   .quiet (.connected 8),
   .say 0 "ui.register" [("kind","quickshell")],
   .say 0 "subscribe" [],
   .say 1 "keyring_request" [("cookie","k"),("message","Unlock")],
   .say 1 "pinentry_request" [("cookie","p"),("prompt","PIN")],
   .say 0 "session.respond" [("id","p"),("response","1234")],
   .quiet (.initiateAuthentication (text "a") (text "m") [] [] (text "c") [text "unix-user:me"])]

theorem threeAsked_rests : daemon.Always Rests threeAsked :=
  (leaves_to_rest threeAsked (by decide +kernel)).1.mpr (by decide +kernel)

end Daemon

end BbAuth
