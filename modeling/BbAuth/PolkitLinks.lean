import BbAuth.Library.Attempts
import BbAuth.Core

open Library Library.Attempts
namespace BbAuth

namespace PolkitListener

structure Fit (cookie : QString) (state : SessionState) (session : PolkitSession) : Prop where
  named : state.cookie = cookie
  current : state.session = some session
  requested : session.cookie = cookie
  result : session.result = state.result
  progress : state.inProgress = true
  few : state.retryCount < maxAuthRetries
  unsettled : state.gainedAuth = false
  wanted : state.cancelled = false

-- m_cookieToState and m_sessionToState are inverse to each other, and every
-- state that is not deleted is in them.
structure Linked (l : PolkitListener) : Prop where
  forward : ∀ cookie ref, l.cookieToState.find cookie = some ref → ∃ state session,
    l.states.find ref = some state ∧ Fit cookie state session ∧ l.sessionToState.find session.ref = some ref
  owned : ∀ ref state, l.states.find ref = some state → l.cookieToState.find state.cookie = some ref
  backward : ∀ s ref, l.sessionToState.find s = some ref → ∃ state session,
    l.states.find ref = some state ∧ state.session = some session ∧ session.ref = s
  allocated : ∀ ref state, l.states.find ref = some state → ref < l.nextState
  created : ∀ s ref, l.sessionToState.find s = some ref → s < l.nextSession

theorem empty_linked : Linked {} := ⟨nofun,nofun,nofun,nofun,nofun⟩

def attemptOf (l : PolkitListener) (cookie : QString) : Option Attempt :=
  (l.cookieToState.find cookie).bind fun ref =>
    (l.states.find ref).bind fun state =>
      state.session.map fun session => ⟨state.result,session.ref,state.retryCount⟩

theorem attemptOf_found {l : PolkitListener} (named : l.cookieToState.find cookie = some ref)
    (stored : l.states.find ref = some state) (current : state.session = some session) :
    attemptOf l cookie = some ⟨state.result,session.ref,state.retryCount⟩ := by
  simp [attemptOf,named,stored,current]

-- The request of a cookie, and where the listener keeps it.
structure Held (l : PolkitListener) (cookie : QString) (ref : StateRef) (state : SessionState)
    (session : PolkitSession) : Prop where
  named : l.cookieToState.find cookie = some ref
  stored : l.states.find ref = some state
  fit : Fit cookie state session
  mapped : l.sessionToState.find session.ref = some ref

theorem Linked.held (linked : Linked l) (named : l.cookieToState.find cookie = some ref) :
    ∃ state session, Held l cookie ref state session := by
  obtain ⟨state,session,stored,fit,mapped⟩ := linked.forward cookie ref named
  exact ⟨state,session,named,stored,fit,mapped⟩

theorem Held.attempt (held : Held l cookie ref state session) :
    attemptOf l cookie = some ⟨state.result,session.ref,state.retryCount⟩ :=
  attemptOf_found held.named held.stored held.fit.current

theorem attemptOf_held (linked : Linked l) (attempt : attemptOf l cookie = some a) :
    ∃ ref state session, Held l cookie ref state session ∧ a = ⟨state.result,session.ref,state.retryCount⟩ := by
  cases named : l.cookieToState.find cookie with
  | none => simp [attemptOf,named] at attempt
  | some ref =>
    obtain ⟨state,session,held⟩ := linked.held named
    exact ⟨ref,state,session,held,Option.some.inj (attempt.symm.trans held.attempt)⟩

-- A state and the session it had, if any, belong to one cookie.
structure Owner (l : PolkitListener) (cookie : QString) (ref : StateRef) (old : Option Nat) : Prop where
  cookieOf : ∀ other, l.cookieToState.find other = some ref → other = cookie
  refOf : ∀ other, l.cookieToState.find cookie = some other → other = ref
  sessionOf : ∀ s, l.sessionToState.find s = some ref → old = some s
  mapped : ∀ s, old = some s → l.sessionToState.find s = some ref

theorem Held.owner (held : Held l cookie ref state session) (linked : Linked l) : Owner l cookie ref (some session.ref) where
  cookieOf other named := by
    obtain ⟨_,_,found⟩ := linked.held named
    cases held.stored.symm.trans found.stored
    exact found.fit.named.symm.trans held.fit.named
  refOf other named := Option.some.inj (named.symm.trans held.named)
  sessionOf s mapped := by
    obtain ⟨_,_,stored,current,same⟩ := linked.backward s ref mapped
    cases held.stored.symm.trans stored
    cases held.fit.current.symm.trans current
    exact congrArg some same
  mapped s same := by
    cases same
    exact held.mapped

theorem fresh_owner (linked : Linked l) (free : l.cookieToState.find cookie = none) : Owner l cookie l.nextState none where
  cookieOf other named := by
    obtain ⟨_,_,held⟩ := linked.held named
    exact absurd (linked.allocated _ _ held.stored) (Nat.lt_irrefl _)
  refOf other named := nomatch free.symm.trans named
  sessionOf s mapped := by
    obtain ⟨_,_,stored,_⟩ := linked.backward s _ mapped
    exact absurd (linked.allocated _ _ stored) (Nat.lt_irrefl _)
  mapped := nofun

-- The entries of one cookie are replaced, or removed, and the others stay.
structure Rewired (l e : PolkitListener) (cookie : QString) (ref : StateRef) (old : Option Nat)
    (new : Option (SessionState × PolkitSession)) : Prop where
  cookies : ∀ other, e.cookieToState.find other =
    if other = cookie then new.map (fun _ => ref) else l.cookieToState.find other
  sessions : ∀ s, e.sessionToState.find s =
    if new.map (fun entry => entry.2.ref) = some s then some ref
    else if old = some s then none else l.sessionToState.find s
  states : ∀ other, e.states.find other = if other = ref then new.map Prod.fst else l.states.find other
  nextState : l.nextState ≤ e.nextState
  nextSession : l.nextSession ≤ e.nextSession

-- The new entry of a cookie is fit, and its session is no one else's.
structure Suits (l e : PolkitListener) (cookie : QString) (ref : StateRef) (state : SessionState)
    (session : PolkitSession) : Prop where
  fit : Fit cookie state session
  alone : ∀ other, l.sessionToState.find session.ref = some other → other = ref
  allocated : ref < e.nextState
  created : session.ref < e.nextSession

variable {l e : PolkitListener} {cookie : QString} {ref : StateRef} {old : Option Nat}
variable {new : Option (SessionState × PolkitSession)}

theorem rewired_linked (linked : Linked l) (owner : Owner l cookie ref old) (rewired : Rewired l e cookie ref old new)
    (suits : ∀ state session, new = some (state,session) → Suits l e cookie ref state session) : Linked e where
  forward other found named := by
    rw [rewired.cookies] at named
    split at named
    · next same =>
      subst same
      obtain ⟨⟨state,session⟩,made,rfl⟩ := Option.map_eq_some_iff.mp named
      refine ⟨state,session,?_,(suits state session made).fit,?_⟩
      · rw [rewired.states,if_pos rfl,made]; rfl
      · rw [rewired.sessions,made]; exact if_pos rfl
    · next different =>
      obtain ⟨state,session,stored,fit,mapped⟩ := linked.forward other found named
      have apart : found ≠ ref := fun same => different (owner.cookieOf other (same ▸ named))
      refine ⟨state,session,?_,fit,?_⟩
      · rw [rewired.states,if_neg apart]; exact stored
      · rw [rewired.sessions]
        have fresh : ¬new.map (fun entry => entry.2.ref) = some session.ref := by
          intro same
          obtain ⟨⟨changed,current⟩,made,equal⟩ := Option.map_eq_some_iff.mp same
          exact apart ((suits changed current made).alone found (by rw [equal]; exact mapped))
        have kept : ¬old = some session.ref := fun same => by
          exact apart (Option.some.inj (mapped.symm.trans (owner.mapped _ same)))
        rw [if_neg fresh,if_neg kept]
        exact mapped
  owned found state stored := by
    rw [rewired.states] at stored
    rw [rewired.cookies]
    split at stored
    · next same =>
      obtain ⟨⟨changed,session⟩,made,rfl⟩ := Option.map_eq_some_iff.mp stored
      rw [if_pos (suits changed session made).fit.named,made,same]
      rfl
    · next apart =>
      have named := linked.owned found state stored
      rw [if_neg (fun same : state.cookie = cookie => apart (owner.refOf found (same ▸ named)))]
      exact named
  backward s found mapped := by
    rw [rewired.sessions] at mapped
    rw [rewired.states]
    split at mapped
    · next fresh =>
      cases mapped
      obtain ⟨⟨state,session⟩,made,same⟩ := Option.map_eq_some_iff.mp fresh
      refine ⟨state,session,?_,(suits state session made).fit.current,same⟩
      rw [if_pos rfl,made]
      rfl
    · split at mapped
      · cases mapped
      · next kept =>
        have apart : found ≠ ref := fun same => kept (owner.sessionOf s (same ▸ mapped))
        rw [if_neg apart]
        exact linked.backward s found mapped
  allocated found state stored := by
    rw [rewired.states] at stored
    split at stored
    · next same =>
      obtain ⟨⟨changed,session⟩,made,_⟩ := Option.map_eq_some_iff.mp stored
      exact same ▸ (suits changed session made).allocated
    · exact Nat.lt_of_lt_of_le (linked.allocated found state stored) rewired.nextState
  created s found mapped := by
    rw [rewired.sessions] at mapped
    split at mapped
    · next fresh =>
      obtain ⟨⟨state,session⟩,made,same⟩ := Option.map_eq_some_iff.mp fresh
      exact same ▸ (suits state session made).created
    · split at mapped
      · cases mapped
      · exact Nat.lt_of_lt_of_le (linked.created s found mapped) rewired.nextSession

def attemptIn (entry : SessionState × PolkitSession) : Attempt := ⟨entry.1.result,entry.2.ref,entry.1.retryCount⟩

theorem rewired_attempts (owner : Owner l cookie ref old) (rewired : Rewired l e cookie ref old new)
    (current : ∀ state session, new = some (state,session) → state.session = some session) :
    attemptOf e = Function.update (attemptOf l) cookie (new.map attemptIn) := by
  funext other
  unfold attemptOf
  rw [rewired.cookies]
  by_cases same : other = cookie
  · subst same
    rw [Function.update_self,if_pos rfl]
    cases made : new with
    | none => rfl
    | some entry =>
      simp [rewired.states,made,current entry.1 entry.2 made,attemptIn]
  · rw [Function.update_of_ne same,if_neg same]
    cases named : l.cookieToState.find other with
    | none => rfl
    | some found =>
      have apart : found ≠ ref := fun equal => same (owner.cookieOf other (equal ▸ named))
      simp [rewired.states,apart]

end PolkitListener

end BbAuth
