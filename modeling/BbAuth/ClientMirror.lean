import BbAuth.Handshake
import BbAuth.Newcomers
import BbAuth.SessionPicture

open Library
namespace BbAuth

def Message.session : Message → Option SessionEvent
  | .event told => some told
  | _ => none

def Message.isStatus : Message → Bool
  | .uiActive .. => true
  | _ => false

def Effect.eventless (socket : Socket) (effect : Effect) : Prop :=
  effect.emission = none ∧ ∀ event, effect ≠ .sent socket (.event event)

variable {socket speaker : Socket} {uuid : QString} {d e m : Daemon}

open View (Turn Turns)

namespace View

def events (v : View) : List SessionEvent := v.heard.filterMap Message.session

def statuses (v : View) : Nat := v.heard.countP Message.isStatus

theorem statuses_hear (v : View) (told : Bool) (message : Message) :
    (v.hear told message).statuses = v.statuses + if told && message.isStatus then 1 else 0 := by
  unfold hear statuses
  cases told with
  | false => simp
  | true => simp [List.countP_cons]

theorem events_hear (v : View) (told : Bool) (message : Message) :
    (v.hear told message).events = v.events ++ if told then message.session.toList else [] := by
  unfold hear events
  cases told with
  | false => simp
  | true => cases told : message.session <;> simp [told]

def Held (v : View) : Prop := ∀ other, v.registry.activeProvider = some other → v.registry.contains other = true

theorem faces_held {v : View} (held : v.Held) (socket : Socket) : v.faces socket =
    match v.registry.activeProvider with
    | none => v.subscribed
    | some other => decide (other = socket) := by
  unfold faces ProviderRegistry.hasActiveProvider
  cases leader : v.registry.activeProvider with
  | none => rfl
  | some other => simp [held other leader]

theorem faces_alone {v : View} (subscribed : v.subscribed = true)
    (alone : v.registry.hasActiveProvider = true → v.registry.activeProvider = some socket) : v.faces socket = true := by
  unfold faces
  split
  · next active => exact decide_eq_true (alone active)
  · exact subscribed

-- What a subscriber keeps while others take their turns: as long as it is told of
-- no change of the provider, events are routed as before.
structure Kept (socket : Socket) (v w : View) : Prop where
  subscribed : w.subscribed = true
  held : w.Held
  grows : v.statuses ≤ w.statuses
  follows : w.statuses = v.statuses → w.faces socket = v.faces socket

theorem turn_kept {u v w : View} (turn : Turn socket uuid v w) (kept : Kept socket u v) : Kept socket u w := by
  cases turn with
  | emitted event =>
    have same : ({v with sessions:=event.enter v.sessions}.hear (v.faces socket) (.event event)).statuses = v.statuses := by
      rw [statuses_hear]
      simp only [Message.isStatus,Bool.and_false,Bool.false_eq_true,if_false]
      rfl
    exact ⟨kept.subscribed,kept.held,same ▸ kept.grows,fun equal => kept.follows (same.symm.trans equal)⟩
  | @elected candidates changed elected _ renewed nowMs isConnected outcome =>
    obtain ⟨settled,_,changes⟩ := ProviderRegistry.recompute_spec outcome
    have told : (changed && (elected.contains socket || v.subscribed)) = changed := by
      rw [kept.subscribed,Bool.or_true,Bool.and_true]
    rw [told]
    have counted : ({v with registry:=elected}.hear changed elected.status).statuses =
        v.statuses + if changed then 1 else 0 := by
      rw [statuses_hear]
      simp only [ProviderRegistry.status,Message.isStatus,Bool.and_true]
      rfl
    refine ⟨kept.subscribed,settled.held,?_,?_⟩
    · rw [counted]
      exact Nat.le_trans kept.grows (Nat.le_add_right _ _)
    · intro equal
      rw [counted] at equal
      have grows := kept.grows
      cases changed with
      | true => simp only [if_true] at equal; omega
      | false =>
        have leader := (changes.mp rfl).trans renewed.leader
        have held : ({v with registry:=elected}.hear false elected.status).Held := settled.held
        rw [← kept.follows equal,faces_held held,faces_held kept.held]
        change (match elected.activeProvider with | none => v.subscribed | some other => decide (other = socket)) = _
        rw [leader]
  | restated =>
    have counted : (v.hear (v.registry.contains socket || v.subscribed) v.registry.status).statuses = v.statuses + 1 := by
      rw [statuses_hear,kept.subscribed]
      simp [ProviderRegistry.status,Message.isStatus]
    refine ⟨kept.subscribed,kept.held,?_,?_⟩
    · rw [counted]
      exact Nat.le_succ_of_le kept.grows
    · intro equal
      have grows := kept.grows
      rw [counted] at equal
      omega

theorem turns_kept {v w : View} (turns : Turns socket uuid v w) (subscribed : v.subscribed = true) (held : v.Held) :
    Kept socket v w :=
  turns.invariant (fun _ _ turn kept => turn_kept turn kept) ⟨subscribed,held,Nat.le_refl _,fun _ => rfl⟩

end View

namespace Daemon

structure Hears (d : Daemon) (socket : Socket) : Prop where
  listens : d.Listens socket
  subscribed : (d.view socket).subscribed = true
  held : (d.view socket).Held

-- Unless the subscriber is told of a change of the provider, it goes on being
-- faced or not, and is sent all events that are emitted or none.
structure Relay (socket : Socket) (d e : Daemon) : Prop where
  grows : (d.view socket).statuses ≤ (e.view socket).statuses
  follows : (e.view socket).statuses = (d.view socket).statuses →
    (e.view socket).faces socket = (d.view socket).faces socket ∧
    ∃ events, e.emissions = d.emissions ++ events ∧
      (e.view socket).events = (d.view socket).events ++ if (d.view socket).faces socket then events else []

def Follows (socket : Socket) (d e : Daemon) : Prop := d.Hears socket → e.Hears socket ∧ Relay socket d e

theorem Follows.refl (d : Daemon) : Follows socket d d := fun hears =>
  ⟨hears,Nat.le_refl _,fun _ => ⟨rfl,[],(List.append_nil _).symm,by simp⟩⟩

theorem Follows.trans (first : Follows socket d m) (second : Follows socket m e) : Follows socket d e := by
  intro hears
  obtain ⟨between,before⟩ := first hears
  obtain ⟨ends,after⟩ := second between
  refine ⟨ends,Nat.le_trans before.grows after.grows,?_⟩
  intro equal
  have lower := before.grows
  have upper := after.grows
  obtain ⟨faced,early,emitted,heard⟩ := before.follows (by omega)
  obtain ⟨faces,late,later,told⟩ := after.follows (by omega)
  refine ⟨faces.trans faced,early ++ late,?_,?_⟩
  · rw [later,emitted,List.append_assoc]
  · rw [told,heard,faced]
    cases (d.view socket).faces socket with
    | true => simp only [if_true,List.append_assoc]
    | false => simp only [Bool.false_eq_true,if_false,List.append_nil]

theorem emissions_eventless (quiet : Grown (Effect.eventless socket) d.trace e.trace) : e.emissions = d.emissions :=
  congrArg List.reverse (quiet.filterMap Effect.emission (fun _ eventless => eventless.1))

theorem events_eventless (quiet : Grown (Effect.eventless socket) d.trace e.trace) :
    (e.view socket).events = (d.view socket).events := by
  refine quiet.read (fun trace => (heardBy socket (trace.filterMap Effect.delivery)).filterMap Message.session) ?_
  intro effect rest eventless
  simp only [List.filterMap_cons]
  cases effect with
  | sent other message =>
    simp only [Effect.delivery]
    rw [show (other,message) :: rest.filterMap Effect.delivery = [(other,message)] ++ rest.filterMap Effect.delivery from rfl,
      heardBy_append,List.filterMap_append]
    by_cases mine : other = socket
    · subst mine
      cases message with
      | event event => exact absurd rfl (eventless.2 event)
      | error | ok | pong | subscribed | uiRegistered | uiActive | response => simp [heardBy,Message.session]
    · simp [heardBy,mine]
  | requested | emitted | submitted | fallbackRequested | fallbackLaunched | polkit => rfl

theorem follows_turns (turns : d.Listens socket → Turns socket uuid (d.view socket) (e.view socket) ∧ e.Listens socket)
    (quiet : Grown (Effect.eventless socket) d.trace e.trace) : Follows socket d e := by
  intro hears
  obtain ⟨turned,listens⟩ := turns hears.listens
  have kept := View.turns_kept turned hears.subscribed hears.held
  refine ⟨⟨listens,kept.subscribed,kept.held⟩,kept.grows,?_⟩
  intro equal
  refine ⟨kept.follows equal,[],?_,?_⟩
  · rw [emissions_eventless quiet,List.append_nil]
  · rw [events_eventless quiet,ite_self,List.append_nil]

theorem follows_same (same : d.Listens socket → e.view socket = d.view socket ∧ e.Listens socket)
    (quiet : Grown (Effect.eventless socket) d.trace e.trace) : Follows socket d e :=
  follows_turns (fun listens => ⟨((same listens).1 ▸ .refl : Turns socket [] (d.view socket) (e.view socket)),(same listens).2⟩)
    quiet

theorem eventless_sendAll (d : Daemon) (messages : List (Socket × Message))
    (besides : ∀ message ∈ messages, message.1 ≠ socket ∨ message.2.session = none) :
    Grown (Effect.eventless socket) d.trace (d.sendAll messages).trace := by
  induction messages generalizing d with
  | nil => exact .same rfl
  | cons message rest ih =>
    have one : Grown (Effect.eventless socket) d.trace (d.sendJson message.1 message.2).trace := by
      unfold sendJson
      split
      · apply Grown.one
        refine ⟨rfl,fun event same => ?_⟩
        injection same with mine said
        rcases besides message List.mem_cons_self with other | plain
        · exact other mine
        · rw [said] at plain
          cases plain
      · exact .same rfl
    exact one.trans (ih _ (fun other present => besides other (List.mem_cons_of_mem _ present)))

theorem follows_reply (d : Daemon) (speaker : Socket) (message : Message) (plain : message.session = none)
    (other : message.isStatus = false) : Follows socket d (d.sendJson speaker message) := by
  intro hears
  obtain ⟨heard,listens⟩ := hear_one d speaker message hears.listens
  have quiet : Grown (Effect.eventless socket) d.trace (d.sendJson speaker message).trace :=
    eventless_sendAll d [(speaker,message)] (fun one present => .inr (List.mem_singleton.mp present ▸ plain))
  have same : ((d.sendJson speaker message).view socket).statuses = (d.view socket).statuses := by
    rw [heard,View.statuses_hear,other,Bool.and_false]
    simp
  have faces : ((d.sendJson speaker message).view socket).faces socket = (d.view socket).faces socket := by
    rw [heard]
    rfl
  refine ⟨⟨listens,?_,?_⟩,Nat.le_of_eq same.symm,?_⟩
  · rw [heard]
    exact hears.subscribed
  · rw [heard]
    exact hears.held
  · intro _
    refine ⟨faces,[],?_,?_⟩
    · rw [emissions_eventless quiet,List.append_nil]
    · rw [events_eventless quiet,ite_self,List.append_nil]

theorem follows_emitSessionEvent (d : Daemon) (event : SessionEvent) : Follows socket d (d.emitSessionEvent event) := by
  intro hears
  obtain ⟨heard,listens⟩ := hear_event d event hears.listens
  have emitted : (d.emitSessionEvent event).emissions = d.emissions ++ [event] := by
    have told := (told_emitSessionEvent d event).filterMap Effect.emission (by
      intro effect told
      cases effect with
      | emitted other => cases told
      | requested | sent | submitted | fallbackRequested | fallbackLaunched | polkit => rfl)
    unfold emissions
    rw [told,List.filterMap_cons_some (show Effect.emission (.emitted event) = some event from rfl),List.reverse_cons]
  have same : ((d.emitSessionEvent event).view socket).statuses = (d.view socket).statuses := by
    rw [heard,View.statuses_hear]
    simp [Message.isStatus]
  refine ⟨⟨listens,?_,?_⟩,Nat.le_of_eq same.symm,?_⟩
  · rw [heard]
    exact hears.subscribed
  · rw [heard]
    exact hears.held
  · intro _
    refine ⟨by rw [heard]; rfl,[event],emitted,?_⟩
    rw [heard,View.events_hear]
    rfl

theorem follows_withSessionStore (d : Daemon) (store : SessionStore)
    (ids : d.Listens socket → ∀ id session, store.find id = some session → session.id = id) :
    Follows socket d (d.withSessionStore store) := fun hears =>
  ⟨⟨listens_withSessionStore store hears.listens (ids hears.listens),hears.subscribed,hears.held⟩,Nat.le_refl _,
    fun _ => ⟨rfl,[],(List.append_nil _).symm,by simp only [ite_self,List.append_nil]; rfl⟩⟩

theorem follows_stored (d : Daemon) (store : SessionStore) (event : SessionEvent)
    (ids : d.Listens socket → ∀ id session, store.find id = some session → session.id = id) :
    Follows socket d ((d.withSessionStore store).emitSessionEvent event) :=
  (follows_withSessionStore d store ids).trans (follows_emitSessionEvent _ event)

theorem eventless_refresh (d : Daemon) : Grown (Effect.eventless socket) d.trace d.refreshActiveProvider.trace := by
  unfold refreshActiveProvider
  simp only
  split
  · apply eventless_sendAll (d.recomputeActiveProvider.2)
    intro message present
    obtain ⟨_,_,rfl⟩ := List.mem_map.mp present
    exact .inr rfl
  · exact .same rfl

theorem follows_refresh (d : Daemon) : Follows socket d d.refreshActiveProvider :=
  follows_turns (turns_refresh d []) (eventless_refresh d)

theorem eventless_aside (aside : Grown Effect.aside d.trace e.trace) : Grown (Effect.eventless socket) d.trace e.trace :=
  aside.imp (fun effect quiet => ⟨quiet.2,fun event same => by rw [same] at quiet; cases quiet.1⟩)

theorem follows_fallback (d : Daemon) (reason : QString) : Follows socket d (d.ensureFallbackUiRunning reason) :=
  follows_same (fun listens => ⟨view_front (front_ensureFallbackUiRunning d reason) socket,
    listens_front (front_ensureFallbackUiRunning d reason) listens⟩) (eventless_aside (aside_ensureFallbackUiRunning d reason))

theorem follows_emitUpdated (d : Daemon) (id : QString) (change : Session → Session) (named : ∀ s, (change s).id = s.id) :
    Follows socket d (d.emitUpdated (d.sessionStore.updateWith change id)) := by
  unfold SessionStore.updateWith emitUpdated
  cases found : d.sessionStore.find id with
  | none => exact .refl d
  | some session =>
    exact follows_stored d _ _ (fun listens => ids_insert listens.ids ((named session).trans (listens.ids id session found)))

theorem follows_counted (d : Daemon) (id : QString) (curRetry maxRetries : Int) :
    Follows socket d (d.updateSessionPinentryRetry id curRetry maxRetries) := by
  unfold updateSessionPinentryRetry SessionStore.updatePinentryRetry
  cases found : d.sessionStore.find id with
  | none => exact .refl d
  | some session =>
    by_cases other : session.source ≠ .pinentry
    · simp only [if_pos other]
      exact .refl d
    · simp only [if_neg other]
      apply follows_withSessionStore
      intro listens
      exact ids_insert listens.ids ((session.setPinentryRetry_id curRetry maxRetries).trans (listens.ids id session found))

theorem follows_closeSession (d : Daemon) (id : QString) (result : Result) : Follows socket d (d.closeSession id result) := by
  unfold closeSession SessionStore.closeSession
  cases d.sessionStore.find id with
  | none => exact .refl d
  | some session =>
    have removed : Follows socket d (d.withSessionStore (d.sessionStore.remove id)) :=
      follows_withSessionStore d _ (fun listens => ids_remove listens.ids id)
    simp only
    split
    · exact removed.trans <| (follows_refresh _).trans (follows_emitSessionEvent _ _)
    · exact removed.trans (follows_emitSessionEvent _ _)

theorem follows_onSessionComplete (d : Daemon) (id : QString) (success : Bool) :
    Follows socket d (d.onSessionComplete id success) := by
  unfold onSessionComplete SessionStore.closeSession
  generalize (if success then Result.success else .cancelled) = result
  cases d.sessionStore.find id with
  | none => exact .refl d
  | some session =>
    have emitted (event : SessionEvent) : Follows socket d ((d.withSessionStore (d.sessionStore.remove id)).emitSessionEvent event) :=
      follows_stored d _ event (fun listens => ids_remove listens.ids id)
    simp only
    split
    · exact (emitted _).trans (follows_refresh _)
    · exact emitted _

theorem follows_createSession (d : Daemon) (id : QString) (source : Source) (ctx : Context) :
    Follows socket d (d.createSession id source ctx) := by
  let session : Session := {id,source,context:=ctx}
  have emitted : Follows socket d ((d.withSessionStore (d.sessionStore.insert id session)).emitSessionEvent session.toCreatedEvent) :=
    follows_stored d _ _ (fun listens => ids_insert listens.ids rfl)
  unfold createSession SessionStore.createSession
  simp only
  split
  · exact emitted.trans (follows_fallback _ _)
  · exact emitted

theorem deed_follows (deed : Deed d e) : Follows socket d e := by
  cases deed with
  | quiet same aside =>
    exact follows_same (fun listens => ⟨view_front same socket,listens_front same listens⟩) (eventless_aside aside)
  | created id source ctx => exact follows_createSession d id source ctx
  | updated id change alike => exact follows_emitUpdated d id change (fun s => (alike s).1)
  | counted id curRetry maxRetries => exact follows_counted d id curRetry maxRetries
  | closed id result => exact follows_closeSession d id result
  | completed id success => exact follows_onSessionComplete d id success

theorem deeds_follows (deeds : Deeds d e) : Follows socket d e :=
  deeds.invariant (P := Follows socket d) (fun _ _ deed before => before.trans (deed_follows deed)) (.refl d)

theorem served_follows (served : Served d speaker e) : Follows socket d e := by
  cases served with
  | quietly deeds => exact (deeds_follows deeds).trans (follows_reply _ _ _ rfl rfl)
  | keyring deeds asked gone answer =>
    exact (deeds_follows deeds).trans <| (follows_reply _ _ _ rfl rfl).trans (follows_reply _ _ _ rfl rfl)
  | pinentry deeds asked gone answer =>
    exact (deeds_follows deeds).trans <| (follows_reply _ _ _ rfl rfl).trans (follows_reply _ _ _ rfl rfl)

end Daemon

end BbAuth
