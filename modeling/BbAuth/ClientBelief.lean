import Mathlib.Order.BooleanAlgebra.Set
import BbAuth.Hookup

open Library
namespace BbAuth

namespace ProviderRegistry

theorem authorized_eq {registry : ProviderRegistry} (settled : registry.Settled) (socket : Socket) :
    registry.isAuthorized socket =
      decide (registry.activeProvider = none ∨ registry.activeProvider = some socket) := by
  cases someone : registry.uiProviders.isEmpty with
  | true =>
    have nobody := settled.vacant.mpr someone
    simp [isAuthorized,someone,nobody]
  | false =>
    have somebody : registry.activeProvider ≠ none := by
      intro nobody
      rw [settled.vacant.mp nobody] at someone
      cases someone
    rw [Bool.eq_iff_iff,isAuthorized_iff settled someone]
    simp [somebody]

theorem status_vacant {registry : ProviderRegistry} (vacant : registry.activeProvider = none) :
    registry.status = .uiActive false none := by
  simp [status,activeProviderInfo,hasActiveProvider,vacant]

theorem status_occupied {registry : ProviderRegistry} (settled : registry.Settled)
    (active : registry.activeProvider = some leader) :
    ∃ provider, registry.uiProviders.find leader = some provider ∧
      registry.status = .uiActive true (some (Daemon.providerJson provider)) := by
  have held := settled.held leader active
  obtain ⟨provider,found⟩ := (Table.contains_iff _ _).mp held
  exact ⟨provider,found,by simp [status,activeProviderInfo,hasActiveProvider,active,held,found]⟩

end ProviderRegistry

-- What a registered client knows: its own id, which nobody else has.
structure Known (socket : Socket) (v : View) (w : Watch) : Prop where
  settled : w.Settled
  elected : v.registry.Settled
  mine : ∀ provider, v.registry.uiProviders.find socket = some provider → provider.id = w.client.providerId
  theirs : ∀ other provider, other ≠ socket → v.registry.uiProviders.find other = some provider →
    provider.id ≠ w.client.providerId
  told : ∃ message ∈ v.heard, message.givenId = some w.client.providerId

-- What an active client shows is open, and nothing else is, unless it asked for
-- the rest.
structure Handed (v : View) (w : Watch) : Prop where
  within : w.client.providerActive = true → w.shown ⊆ v.sessions
  complete : w.client.providerActive = true → v.sessions ⊆ w.shown ∨ FallbackClient.subscribeJson ∈ w.outbox

-- Once a client heard all that the daemon told it, it is active only if it is
-- authorized, and under `strict` exactly then.
structure Informed (strict : Prop) (socket : Socket) (v : View) (w : Watch) : Prop where
  known : Known socket v w
  handed : Handed v w
  sound : w.client.providerActive = true → v.registry.isAuthorized socket = true
  honest : strict → v.registry.isAuthorized socket = true → w.client.providerActive = true

variable {socket : Socket} {uuid : QString} {v : View} {w : Watch} {strict : Prop}

theorem known_heard (known : Known socket v w) (more : List Message) :
    Known socket {v with heard:=v.heard ++ more} w := by
  obtain ⟨message,present,given⟩ := known.told
  exact ⟨known.settled,known.elected,known.mine,known.theirs,message,List.mem_append_left _ present,given⟩

theorem known_client {u : Watch} (known : Known socket v w) (same : u.client = w.client) : Known socket v u :=
  ⟨Watch.settled_client same known.settled,known.elected,same ▸ known.mine,same ▸ known.theirs,same ▸ known.told⟩

theorem known_believe (active : Bool) (known : Known socket v w) : Known socket v (w.believe active) :=
  ⟨Watch.believe_settled active known.settled,known.elected,known.mine,known.theirs,known.told⟩

theorem handed_believe (active : Bool) (handed : Handed v w) : Handed v (w.believe active) := by
  unfold Watch.believe
  cases active with
  | false => exact ⟨nofun,nofun⟩
  | true =>
    cases before : w.client.providerActive with
    | false =>
      simp only [Bool.not_false,Bool.and_self,if_true]
      exact ⟨fun _ => Set.empty_subset _,fun _ => .inr (List.mem_append_right _ List.mem_cons_self)⟩
    | true =>
      simp only [Bool.not_true,Bool.and_false,Bool.false_eq_true,if_false,List.append_nil]
      exact ⟨fun _ => handed.within before,fun _ => handed.complete before⟩

theorem informed_believe (strict : Prop) (known : Known socket v w) (handed : Handed v w)
    (agreed : active = v.registry.isAuthorized socket) : Informed strict socket v (w.believe active) :=
  ⟨known_believe active known,handed_believe active handed,fun believed => agreed ▸ believed,
    fun _ authorized => agreed.trans authorized⟩

theorem informed_heard (informed : Informed strict socket v w) (more : List Message) :
    Informed strict socket {v with heard:=v.heard ++ more} w :=
  ⟨known_heard informed.known more,⟨informed.handed.within,informed.handed.complete⟩,informed.sound,informed.honest⟩

theorem deliver_status (known : Known socket v w) :
    w.deliver v.registry.status = w.believe (v.registry.isAuthorized socket) := by
  rw [ProviderRegistry.authorized_eq known.elected]
  cases active : v.registry.activeProvider with
  | none =>
    rw [ProviderRegistry.status_vacant active,Watch.deliver_vacant known.settled]
    simp
  | some leader =>
    obtain ⟨provider,found,status⟩ := ProviderRegistry.status_occupied known.elected active
    rw [status,Watch.deliver_occupied _ known.settled]
    congr 1
    rw [decide_eq_decide]
    simp only [reduceCtorEq,Option.some.injEq,false_or]
    constructor
    · intro same
      by_contra other
      exact known.theirs leader provider other found same
    · rintro rfl
      exact known.mine provider found

theorem informed_status (strict : Prop) (known : Known socket v w) (handed : Handed v w) :
    Informed strict socket (v.hear true v.registry.status) (w.deliver v.registry.status) := by
  rw [deliver_status known]
  exact informed_heard (informed_believe strict known handed rfl) [v.registry.status]

theorem known_elected {candidates elected : ProviderRegistry} (renewed : View.Renewed socket uuid v.registry candidates)
    (outcome : candidates.recomputeActiveProvider nowMs isConnected = (changed,elected))
    (fresh : uuid ≠ w.client.providerId) (known : Known socket v w) : Known socket {v with registry:=elected} w := by
  obtain ⟨settled,left,_⟩ := ProviderRegistry.recompute_spec outcome
  refine ⟨known.settled,settled,?_,?_,known.told⟩
  · intro provider found
    rcases renewed.known socket provider ((left _ _).mp found).1 with ⟨before,held,same⟩ | ⟨other,_⟩
    · exact same ▸ known.mine before held
    · exact absurd rfl other
  · intro other provider apart found
    rcases renewed.known other provider ((left _ _).mp found).1 with ⟨before,held,same⟩ | ⟨_,new⟩
    · exact same ▸ known.theirs other before apart held
    · exact new ▸ fresh

theorem active_faces (informed : Informed strict socket v w) (subscribed : v.subscribed = true)
    (active : w.client.providerActive = true) : v.faces socket = true := by
  have authorized := informed.sound active
  rw [ProviderRegistry.authorized_eq informed.known.elected] at authorized
  unfold View.faces
  rcases of_decide_eq_true authorized with nobody | mine
  · simp [ProviderRegistry.hasActiveProvider,nobody,subscribed]
  · simp [ProviderRegistry.hasActiveProvider,mine,informed.known.elected.held socket mine]

theorem enter_mono (event : SessionEvent) {first second : Set QString} (subset : first ⊆ second) :
    event.enter first ⊆ event.enter second := by
  cases event with
  | created => exact Set.insert_subset_insert subset
  | updated => exact subset
  | closed => exact Set.sdiff_subset_sdiff_left subset

theorem informed_event (event : SessionEvent) (informed : Informed strict socket v w) (subscribed : v.subscribed = true) :
    Informed strict socket ({v with sessions:=event.enter v.sessions}.hear (v.faces socket) (.event event))
      (w.deliverAll (if v.faces socket then [.event event] else [])) := by
  have moved : Informed strict socket {v with sessions:=event.enter v.sessions}
      (w.deliverAll (if v.faces socket then [.event event] else [])) := by
    obtain ⟨known,handed,sound,honest⟩ := informed
    cases believed : w.client.providerActive with
    | true =>
      have faced : v.faces socket = true :=
        active_faces ⟨known,handed,sound,honest⟩ subscribed believed
      have heard : w.deliverAll [.event event] = {w with shown:=event.enter w.shown} :=
        Watch.deliver_event event believed
      rw [faced,if_pos rfl,heard]
      have shown : Known socket v {w with shown:=event.enter w.shown} := known_client known rfl
      refine ⟨⟨shown.settled,shown.elected,shown.mine,shown.theirs,shown.told⟩,⟨?_,?_⟩,sound,honest⟩
      · exact fun _ => enter_mono event (handed.within believed)
      · exact fun _ => (handed.complete believed).imp_left (enter_mono event)
    | false =>
      have unheeded : w.deliverAll (if v.faces socket then [.event event] else []) = w := by
        split
        · exact Watch.deliver_unheeded event believed known.settled.registered
        · rfl
      rw [unheeded]
      refine ⟨⟨known.settled,known.elected,known.mine,known.theirs,known.told⟩,⟨?_,?_⟩,sound,honest⟩
      · intro active
        cases believed.symm.trans active
      · intro active
        cases believed.symm.trans active
  exact informed_heard moved _

theorem informed_elected {candidates elected : ProviderRegistry} (renewed : View.Renewed socket uuid v.registry candidates)
    (outcome : candidates.recomputeActiveProvider nowMs isConnected = (changed,elected))
    (fresh : uuid ≠ w.client.providerId) (subscribed : v.subscribed = true) (informed : Informed strict socket v w) :
    Informed strict socket ({v with registry:=elected}.hear (changed && (elected.contains socket || v.subscribed)) elected.status)
      (w.deliverAll (if changed then [elected.status] else [])) := by
  have known : Known socket {v with registry:=elected} w := known_elected renewed outcome fresh informed.known
  have handed : Handed {v with registry:=elected} w := ⟨informed.handed.within,informed.handed.complete⟩
  obtain ⟨settled,_,unchanged⟩ := ProviderRegistry.recompute_spec outcome
  have heard : (changed && (elected.contains socket || v.subscribed)) = changed := by
    rw [subscribed,Bool.or_true,Bool.and_true]
  rw [heard]
  cases changed with
  | true =>
    have stated := deliver_status known
    have told : w.deliverAll [elected.status] = w.believe (elected.isAuthorized socket) := stated
    rw [if_pos rfl,told]
    exact informed_heard (informed_believe strict known handed rfl) [elected.status]
  | false =>
    have leader : elected.activeProvider = v.registry.activeProvider := (unchanged.mp rfl).trans renewed.leader
    have same : elected.isAuthorized socket = v.registry.isAuthorized socket := by
      rw [ProviderRegistry.authorized_eq settled,ProviderRegistry.authorized_eq informed.known.elected,leader]
    rw [View.hear_untold]
    exact ⟨known,handed,fun active => same.trans (informed.sound active),
      fun strictly authorized => informed.honest strictly (same.symm.trans authorized)⟩

-- Whatever others bring about, a subscribed client that hears of it stays informed.
theorem informed_turn {v' : View} (turn : View.Turn socket uuid v v')
    (fresh : ∀ message ∈ v.heard, message.givenId ≠ some uuid) (subscribed : v.subscribed = true)
    (informed : Informed strict socket v w) :
    ∃ more, v'.heard = v.heard ++ more ∧ (∀ message ∈ more, message.givenId = none) ∧ v'.subscribed = true ∧
      Informed strict socket v' (w.deliverAll more) := by
  have ungiven (told : Bool) (message : Message) (nothing : message.givenId = none) :
      ∀ other ∈ (if told then [message] else []), other.givenId = none := by
    intro other present
    split at present
    · exact List.mem_singleton.mp present ▸ nothing
    · cases present
  cases turn with
  | emitted event => exact ⟨_,rfl,ungiven _ _ rfl,subscribed,informed_event event informed subscribed⟩
  | @elected candidates changed elected _ renewed nowMs isConnected outcome =>
    obtain ⟨message,present,given⟩ := informed.known.told
    have other : uuid ≠ w.client.providerId := by
      rintro rfl
      exact fresh message present given
    refine ⟨_,?_,ungiven changed elected.status rfl,subscribed,informed_elected renewed outcome other subscribed informed⟩
    have heard : (changed && (elected.contains socket || v.subscribed)) = changed := by
      rw [subscribed,Bool.or_true,Bool.and_true]
    rw [heard]
    rfl
  | restated =>
    have heard : (v.registry.contains socket || v.subscribed) = true := by rw [subscribed,Bool.or_true]
    refine ⟨[v.registry.status],?_,ungiven true v.registry.status rfl,subscribed,?_⟩
    · rw [heard]
      rfl
    · rw [heard]
      exact informed_status strict informed.known informed.handed

structure Attends (strict : Prop) (socket : Socket) (uuid : QString) (v : View) (w : Watch) : Prop where
  informed : Informed strict socket v w
  subscribed : v.subscribed = true
  fresh : ∀ message ∈ v.heard, message.givenId ≠ some uuid

theorem attends_turns {v' : View} (turns : View.Turns socket uuid v v') (attends : Attends strict socket uuid v w) :
    ∃ more, v'.heard = v.heard ++ more ∧ Attends strict socket uuid v' (w.deliverAll more) := by
  refine turns.invariant (P := fun v' => ∃ more, v'.heard = v.heard ++ more ∧
    Attends strict socket uuid v' (w.deliverAll more)) ?_ ⟨[],(List.append_nil _).symm,attends⟩
  intro m n turn before
  obtain ⟨more,heard,informed,subscribed,fresh⟩ := before
  obtain ⟨later,told,ungiven,still,after⟩ := informed_turn turn fresh subscribed informed
  refine ⟨more ++ later,by rw [told,heard,List.append_assoc],?_,still,?_⟩
  · rw [Watch.deliverAll_append]
    exact after
  · rw [told]
    intro message present
    rcases List.mem_append.mp present with old | new
    · exact fresh message old
    · rw [ungiven message new]
      simp

structure Stranger (socket : Socket) (v : View) (w : Watch) : Prop where
  elected : v.registry.Settled
  unregistered : v.registry.contains socket = false
  unsubscribed : v.subscribed = false
  client : w.client = {connected := true}

theorem stranger_faces (stranger : Stranger socket v w) : v.faces socket = false := by
  unfold View.faces
  split
  · rw [decide_eq_false_iff_not]
    intro mine
    have held := stranger.elected.held socket mine
    rw [stranger.unregistered] at held
    cases held
  · exact stranger.unsubscribed

theorem stranger_turn {v' : View} (turn : View.Turn socket uuid v v') (stranger : Stranger socket v w) :
    v'.heard = v.heard ∧ Stranger socket v' w := by
  have unfaced := stranger_faces stranger
  obtain ⟨settled,unregistered,unsubscribed,client⟩ := stranger
  cases turn with
  | emitted event =>
    rw [unfaced,View.hear_untold]
    exact ⟨rfl,settled,unregistered,unsubscribed,client⟩
  | @elected candidates changed elected _ renewed nowMs isConnected outcome =>
    obtain ⟨after,left,_⟩ := ProviderRegistry.recompute_spec outcome
    have absent : elected.contains socket = false := by
      refine Bool.eq_false_iff.mpr fun present => ?_
      obtain ⟨provider,found⟩ := (Table.contains_iff _ _).mp present
      rcases renewed.known socket provider ((left _ _).mp found).1 with ⟨before,held,_⟩ | ⟨other,_⟩
      · have registered : v.registry.contains socket = true := Option.isSome_of_eq_some held
        rw [unregistered] at registered
        cases registered
      · exact other rfl
    rw [absent,unsubscribed,Bool.or_self,Bool.and_false,View.hear_untold]
    exact ⟨rfl,after,absent,rfl,client⟩
  | restated =>
    rw [unregistered,unsubscribed,Bool.or_self,View.hear_untold]
    exact ⟨rfl,settled,unregistered,unsubscribed,client⟩

theorem stranger_turns {v' : View} (turns : View.Turns socket uuid v v') (stranger : Stranger socket v w) :
    v'.heard = v.heard ∧ Stranger socket v' w := by
  refine turns.invariant (P := fun v' => v'.heard = v.heard ∧ Stranger socket v' w) ?_ ⟨rfl,stranger⟩
  intro m n turn before
  obtain ⟨heard,stranger⟩ := before
  obtain ⟨same,after⟩ := stranger_turn turn stranger
  exact ⟨same.trans heard,after⟩

end BbAuth
