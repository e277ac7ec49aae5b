import BbAuth.Library.Telling
import BbAuth.SessionHistory
import BbAuth.SessionSteps

open Library
namespace BbAuth

-- What the events say of an open session.
structure Shown where
  source : Source
  context : ContextJson
  prompt : QString
  echo : Bool
  error : Option QString
  info : Option QString
  deriving DecidableEq, Repr

def Session.shown (s : Session) : Shown :=
  ⟨s.source,s.contextToJson,s.prompt,s.echo,unlessEmpty s.error,unlessEmpty s.info⟩

def ContextJson.recount (json : ContextJson) (retry : Option (Int × Int)) : ContextJson :=
  match retry with
  | none => json
  | some (curRetry,maxRetries) => {json with curRetry:=some curRetry,maxRetries:=some maxRetries}

-- A client that follows the events replaces what an update repeats, and keeps the
-- rest of what the session was created with.
def SessionEvent.becomes (event : SessionEvent) (before : Option Shown) : Option Shown :=
  match event with
  | .created _ source context => some ⟨source,context,[],false,none,none⟩
  | .updated _ prompt echo retry error info =>
    before.map (fun shown => {shown with context:=shown.context.recount retry,prompt,echo,error,info})
  | .closed .. => none

def sessionTelling : Telling SessionEvent QString Shown := ⟨SessionEvent.id,SessionEvent.becomes⟩

def SessionStore.shown (store : SessionStore) (id : QString) : Option Shown := (store.find id).map Session.shown

namespace Session

theorem created_shown (id : QString) (source : Source) (ctx : Context) (before : Option Shown) :
    (toCreatedEvent {id,source,context:=ctx}).becomes before = some (shown {id,source,context:=ctx}) := rfl

theorem updated_shown (s t : Session) (source : t.source = s.source)
    (context : t.context = {s.context with curRetry:=t.context.curRetry,maxRetries:=t.context.maxRetries}) :
    t.toUpdatedEvent.becomes (some s.shown) = some t.shown := by
  have json : s.contextToJson.recount (if t.source = .pinentry then some (t.context.curRetry,t.context.maxRetries) else none) =
      t.contextToJson := by
    unfold contextToJson requestorToJson
    rw [context,source]
    cases s.source <;> rfl
  simp only [toUpdatedEvent,SessionEvent.becomes,shown,Option.map_some]
  rw [json,source]

theorem replayed_shown (s : Session) (before : Option Shown) :
    [s.toCreatedEvent,s.toUpdatedEvent].foldl (fun value event => event.becomes value) before = some s.shown := by
  have json : s.contextToJson.recount (if s.source = .pinentry then some (s.context.curRetry,s.context.maxRetries) else none) =
      s.contextToJson := by
    unfold contextToJson
    cases s.source <;> rfl
  simp only [List.foldl_cons,List.foldl_nil,toCreatedEvent,toUpdatedEvent,SessionEvent.becomes,Option.map_some,json]
  rfl

theorem counted_shown (s : Session) (prompt : QString) (curRetry maxRetries : Int) (echo clearError : Bool) :
    ((s.setPinentryRetry curRetry maxRetries).setPrompt prompt echo clearError).toUpdatedEvent.becomes (some s.shown) =
      some ((s.setPinentryRetry curRetry maxRetries).setPrompt prompt echo clearError).shown := by
  apply updated_shown
  · unfold setPinentryRetry
    split <;> rfl
  · unfold setPinentryRetry
    split <;> rfl

theorem setPinentryRetry_id (s : Session) (curRetry maxRetries : Int) : (s.setPinentryRetry curRetry maxRetries).id = s.id := by
  unfold setPinentryRetry
  split <;> rfl

end Session

namespace Core

variable {c e : Core}

def emissions (c : Core) : List SessionEvent := (c.history.filterMap Effect.emission).reverse

-- Sessions are stored under their own ids, and the events emitted so far tell what
-- is stored.
structure Pictured (c : Core) : Prop where
  ids : ∀ id session, c.sessionStore.find id = some session → session.id = id
  told : sessionTelling.listen (fun _ => none) c.emissions = c.sessionStore.shown

theorem emissions_log (c : Core) (event : SessionEvent) : (c.log (.emitted event)).emissions = c.emissions ++ [event] := by
  simp [emissions,log,Effect.emission]

theorem emissions_silent (silent : Notes Effect.silent c e) : e.emissions = c.emissions :=
  congrArg List.reverse (silent.filterMap Effect.emission (fun _ held => held))

theorem pictured_emit (pictured : Pictured c) (event : SessionEvent) (store : SessionStore) (entry : Option Session)
    (written : ∀ id, store.find id = if id = event.id then entry else c.sessionStore.find id)
    (named : ∀ session, entry = some session → session.id = event.id)
    (tells : event.becomes (c.sessionStore.shown event.id) = entry.map Session.shown) :
    Pictured ((c.withSessions store).log (.emitted event)) where
  ids id session found := by
    have stored : store.find id = some session := found
    rw [written] at stored
    split at stored
    · next same => rw [same]; exact named session stored
    · exact pictured.ids id session stored
  told := by
    rw [emissions_log,Telling.listen_append]
    change sessionTelling.hear (sessionTelling.listen (fun _ => none) c.emissions) event = store.shown
    rw [pictured.told]
    funext id
    unfold Telling.hear SessionStore.shown
    rw [written]
    change (if id = event.id then event.becomes (c.sessionStore.shown id) else _) = _
    by_cases same : id = event.id
    · rw [if_pos same,if_pos same,same]
      exact tells
    · rw [if_neg same,if_neg same]

theorem pictured_replace {id : QString} {old : Session} (pictured : Pictured c)
    (found : c.sessionStore.find id = some old) (new : Session)
    (same : new.id = old.id) (store : SessionStore)
    (written : ∀ other, store.find other = if other = id then some new else c.sessionStore.find other)
    (tells : new.toUpdatedEvent.becomes (some old.shown) = some new.shown) :
    Pictured ((c.withSessions store).log (.emitted new.toUpdatedEvent)) := by
  have named : new.toUpdatedEvent.id = id := same.trans (pictured.ids id old found)
  apply pictured_emit pictured new.toUpdatedEvent store (some new)
  · rw [named]
    exact written
  · intro session equal
    cases equal
    rfl
  · rw [named,SessionStore.shown,found]
    exact tells

theorem pictured_createSession (pictured : Pictured c) (id : QString) (source : Source) (ctx : Context) :
    Pictured (c.createSession id source ctx) :=
  pictured_emit pictured (Session.toCreatedEvent {id,source,context:=ctx}) _ (some {id,source,context:=ctx})
    (fun other => Table.find_insert _ _ other _) (fun session equal => by cases equal; rfl)
    (Session.created_shown id source ctx _)

theorem pictured_updateSession (pictured : Pictured c) (id : QString) (change : Session → Session)
    (alike : ∀ s, (change s).id = s.id ∧ (change s).source = s.source ∧ (change s).context = s.context) :
    Pictured (c.updateSession id change) := by
  unfold updateSession
  split
  · exact pictured
  · next old found =>
    obtain ⟨same,source,context⟩ := alike old
    apply pictured_replace pictured found (change old) same _ (fun other => Table.find_insert _ _ other _)
    apply Session.updated_shown old (change old) source
    rw [context]

theorem pictured_closeSession (pictured : Pictured c) (id : QString) (result : Result) :
    Pictured (c.closeSession id result) := by
  unfold closeSession
  split
  · exact pictured
  · next old found =>
    have named : (old.close result).toClosedEvent.id = id := pictured.ids id old found
    apply pictured_emit pictured (old.close result).toClosedEvent _ none
    · rw [named]
      exact fun other => Table.find_remove _ _ other
    · intro session none
      cases none
    · rfl

-- The counters that were stored in silence come out with the prompt.
theorem pictured_counted (pictured : Pictured c) (id prompt : QString) (curRetry maxRetries : Int) (echo clearError : Bool) :
    Pictured ((c.setPinentryRetry id curRetry maxRetries).updateSession id (·.setPrompt prompt echo clearError)) := by
  unfold setPinentryRetry SessionStore.updatePinentryRetry
  cases found : c.sessionStore.find id with
  | none => exact pictured_updateSession pictured id _ (fun _ => ⟨rfl,rfl,rfl⟩)
  | some old =>
    simp only
    by_cases other : old.source ≠ .pinentry
    · rw [if_pos other]
      exact pictured_updateSession pictured id _ (fun _ => ⟨rfl,rfl,rfl⟩)
    · rw [if_neg other]
      unfold updateSession
      simp only [withSessions,Table.find_insert_self]
      have same : ((old.setPinentryRetry curRetry maxRetries).setPrompt prompt echo clearError).id = old.id :=
        old.setPinentryRetry_id curRetry maxRetries
      apply pictured_replace pictured found _ same
      · intro one
        rw [Table.find_insert,Table.find_insert]
        split <;> rfl
      · exact Session.counted_shown old prompt curRetry maxRetries echo clearError

theorem step_pictured (step : SessionStep c e) (pictured : Pictured c) : Pictured e := by
  cases step with
  | aside store silent => exact ⟨by rw [store]; exact pictured.ids,by rw [emissions_silent silent,store]; exact pictured.told⟩
  | created id source ctx counts => exact pictured_createSession pictured id source ctx
  | updated id change alike => exact pictured_updateSession pictured id change alike
  | counted id prompt curRetry maxRetries echo clearError => exact pictured_counted pictured id prompt _ _ echo clearError
  | closed id result => exact pictured_closeSession pictured id result

end Core

-- The retry counters that an event tells, and that a pinentry session has.
def SessionEvent.counters : SessionEvent → Option (Int × Int)
  | .created _ _ context => context.curRetry.bind (fun curRetry => context.maxRetries.map (fun maxRetries => (curRetry,maxRetries)))
  | .updated _ _ _ retry _ _ => retry
  | .closed .. => none

def Session.counters (s : Session) : Option (Int × Int) :=
  if s.source = .pinentry then some (s.context.curRetry,s.context.maxRetries) else none

-- No attempt before the first, and at least one is allowed.
def sensible (counters : Option (Int × Int)) : Prop := ∀ pair, counters = some pair → 0 ≤ pair.1 ∧ 0 < pair.2

namespace Session

theorem counters_created (s : Session) : s.toCreatedEvent.counters = s.counters := by
  unfold toCreatedEvent SessionEvent.counters contextToJson counters
  cases s.source <;> rfl

theorem counters_updated (s : Session) : s.toUpdatedEvent.counters = s.counters := rfl

theorem setPinentryRetry_sensible (s : Session) (curRetry maxRetries : Int) :
    sensible (s.setPinentryRetry curRetry maxRetries).counters := by
  intro pair told
  by_cases pinentry : s.source = .pinentry
  · have set : (s.setPinentryRetry curRetry maxRetries).counters =
        some (if curRetry < 0 then 0 else curRetry,if maxRetries > 0 then maxRetries else 3) := by
      simp [setPinentryRetry,counters,pinentry]
    rw [set] at told
    cases told
    constructor
    · simp only
      split <;> omega
    · simp only
      split <;> omega
  · simp [setPinentryRetry,counters,pinentry] at told

end Session

namespace Core

variable {c e : Core}

structure Counted (c : Core) : Prop where
  sessions : ∀ id session, c.sessionStore.find id = some session → sensible session.counters
  events : ∀ event ∈ c.emissions, sensible event.counters

theorem counted_emit (counted : Counted c) (event : SessionEvent) (store : SessionStore) (told : sensible event.counters)
    (stored : ∀ id session, store.find id = some session → sensible session.counters) :
    Counted ((c.withSessions store).log (.emitted event)) := by
  refine ⟨stored,?_⟩
  intro other present
  rw [emissions_log] at present
  rcases List.mem_append.mp present with old | new
  · exact counted.events other old
  · rw [List.mem_singleton.mp new]
    exact told

theorem counted_insert (counted : Counted c) (store : SessionStore) (id : QString) (new : Session) (event : SessionEvent)
    (told : event.counters = new.counters) (counters : sensible new.counters)
    (before : ∀ id session, store.find id = some session → sensible session.counters) :
    Counted ((c.withSessions (store.insert id new)).log (.emitted event)) := by
  apply counted_emit counted event _ (told ▸ counters)
  intro other session found
  rw [Table.find_insert] at found
  split at found
  · cases found
    exact counters
  · exact before other session found

theorem step_counted (step : SessionStep c e) (counted : Counted c) : Counted e := by
  cases step with
  | aside store silent =>
    exact ⟨by rw [store]; exact counted.sessions,by rw [emissions_silent silent]; exact counted.events⟩
  | created id source ctx counts =>
    apply counted_insert counted _ id {id,source,context:=ctx} _ (Session.counters_created _) _ counted.sessions
    intro pair told
    unfold Session.counters at told
    split at told
    · next pinentry =>
      cases told
      exact counts pinentry
    · cases told
  | updated id change alike =>
    unfold updateSession
    split
    · exact counted
    · next old found =>
      have same : (change old).counters = old.counters := by
        obtain ⟨_,source,context⟩ := alike old
        unfold Session.counters
        rw [source,context]
      apply counted_insert counted _ id (change old) _ (Session.counters_updated _) _ counted.sessions
      rw [same]
      exact counted.sessions id old found
  | counted id prompt curRetry maxRetries echo clearError =>
    unfold setPinentryRetry SessionStore.updatePinentryRetry
    have again {c : Core} (counted : Counted c) : Counted (c.updateSession id (·.setPrompt prompt echo clearError)) := by
      unfold updateSession
      split
      · exact counted
      · next old found =>
        exact counted_insert counted _ id _ _ (Session.counters_updated _) (counted.sessions id old found) counted.sessions
    cases found : c.sessionStore.find id with
    | none => exact again counted
    | some old =>
      simp only
      split
      · exact again counted
      · next store written =>
        split at written
        · cases written
        · cases written
          apply again
          refine ⟨?_,counted.events⟩
          intro other session stored
          change (c.sessionStore.insert id (old.setPinentryRetry curRetry maxRetries)).find other = some session at stored
          rw [Table.find_insert] at stored
          split at stored
          · cases stored
            exact old.setPinentryRetry_sensible curRetry maxRetries
          · exact counted.sessions other session stored
  | closed id result =>
    unfold closeSession
    split
    · exact counted
    · apply counted_emit counted
      · intro pair told
        cases told
      · intro other session found
        rw [Table.find_remove] at found
        split at found
        · cases found
        · exact counted.sessions other session found

end Core

namespace Daemon

def emissions (d : Daemon) : List SessionEvent := (d.trace.filterMap Effect.emission).reverse

theorem emissions_core (d : Daemon) : d.core.emissions = d.emissions := by
  refine congrArg List.reverse (unrouted_filterMap Effect.emission (fun effect routine => ?_) d.trace)
  rcases routine_cases routine with ⟨_,_,rfl,_⟩ | ⟨_,rfl⟩ | rfl <;> rfl

theorem reached_pictured (path : daemon.Reached d) : Core.Pictured d.core := by
  refine reached_core ⟨?_,rfl⟩ ?_ path
  · intro id session found
    cases found
  · intro c action e acts
    exact (Core.acts_sessionSteps acts).invariant (fun _ _ => Core.step_pictured)

-- The events are the whole truth of the sessions: in every reached state they tell
-- which are open, and of each all that a user interface may know.
theorem events_tell_sessions (path : daemon.Reached d) (id : QString) :
    sessionTelling.listen (fun _ => none) d.emissions id = (d.getSession id).map Session.shown := by
  rw [← emissions_core]
  exact congrFun (reached_pictured path).told id

theorem reached_counted (path : daemon.Reached d) : Core.Counted d.core := by
  refine reached_core ⟨?_,?_⟩ ?_ path
  · intro id session found
    cases found
  · intro event present
    cases present
  · intro c action e acts
    exact (Core.acts_sessionSteps acts).invariant (fun _ _ => Core.step_counted)

-- A pinentry flow is asked again with other counters, after a wrong answer.
def askedTwiceOver : List Input :=
  [.quiet (.connected 7),
   .quiet (.connected 8),
   .say 0 "pinentry_request" [("cookie","p"),("prompt","PIN"),("description","(1 of 3 attempts)")],
   .say 1 "session.respond" [("id","p"),("response","1234")],
   .say 0 "pinentry_request" [("cookie","p"),("prompt","PIN"),("description","(2 of 3 attempts)"),("error","Bad PIN")]]

theorem askedTwiceOver_told :
    sessionTelling.listen (fun _ => none) (daemon.run askedTwiceOver).emissions (text "p") =
      ((daemon.run askedTwiceOver).getSession (text "p")).map Session.shown :=
  events_tell_sessions (Machine.Admits.reached (by decide +kernel)) (text "p")

end Daemon

end BbAuth
