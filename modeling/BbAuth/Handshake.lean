import BbAuth.ClientTalk

open Library
namespace BbAuth

variable {socket : Socket} {uuid : QString} {strict : Prop} {v : View} {w : Watch}

-- The sessions as a new subscriber is told of them.
def replay (entries : List (QString × Session)) : List Message :=
  entries.flatMap (fun entry => [.event entry.2.toCreatedEvent,.event entry.2.toUpdatedEvent])

namespace Watch

theorem replay_shown (entries : List (QString × Session)) (active : w.client.providerActive = true) :
    w.deliverAll (replay entries) = {w with shown:=w.shown ∪ {id | ∃ entry ∈ entries, entry.2.id = id}} := by
  induction entries generalizing w with
  | nil =>
    have nothing : w.shown ∪ {id | ∃ entry ∈ ([] : List (QString × Session)), entry.2.id = id} = w.shown := by
      ext id
      simp
    rw [nothing]
    rfl
  | cons entry rest ih =>
    have created : w.deliverAll [.event entry.2.toCreatedEvent,.event entry.2.toUpdatedEvent] =
        {w with shown:=insert entry.2.id w.shown} := by
      have first : w.deliver (.event entry.2.toCreatedEvent) = {w with shown:=insert entry.2.id w.shown} :=
        deliver_event _ active
      have second : ({w with shown:=insert entry.2.id w.shown} : Watch).deliver (.event entry.2.toUpdatedEvent) =
          {w with shown:=insert entry.2.id w.shown} := deliver_event (w := {w with shown:=_}) _ active
      change (w.deliver (.event entry.2.toCreatedEvent)).deliver (.event entry.2.toUpdatedEvent) = _
      rw [first,second]
    have union : insert entry.2.id w.shown ∪ {id | ∃ entry ∈ rest, entry.2.id = id} =
        w.shown ∪ {id | ∃ other ∈ entry :: rest, other.2.id = id} := by
      ext id
      simp only [Set.mem_union,Set.mem_insert_iff,Set.mem_ofPred_eq,List.exists_mem_cons_iff,eq_comm]
      tauto
    change w.deliverAll ([.event entry.2.toCreatedEvent,.event entry.2.toUpdatedEvent] ++ replay rest) = _
    rw [deliverAll_append,created,ih (w := {w with shown:=insert entry.2.id w.shown}) active,union]

theorem replay_unheeded (entries : List (QString × Session)) (inactive : w.client.providerActive = false)
    (registered : w.client.registered = true) : w.deliverAll (replay entries) = w := by
  induction entries with
  | nil => rfl
  | cons entry rest ih =>
    change w.deliverAll ([.event entry.2.toCreatedEvent,.event entry.2.toUpdatedEvent] ++ replay rest) = _
    rw [deliverAll_append]
    change ((w.deliver (.event entry.2.toCreatedEvent)).deliver (.event entry.2.toUpdatedEvent)).deliverAll _ = w
    rw [deliver_unheeded _ inactive registered,deliver_unheeded _ inactive registered,ih]

end Watch

theorem informed_answered (count : Nat) (known : Known socket v w) (handed : Handed v w)
    (sound : w.client.providerActive = true → v.registry.isAuthorized socket = true)
    (honest : strict → v.registry.isAuthorized socket = true → w.client.providerActive = true) :
    Informed strict socket v (w.deliver (.subscribed count (if v.registry.contains socket then
      some (v.registry.contains socket && decide (some socket = v.registry.activeProvider)) else none))) := by
  have listed : Known socket v {w with client:={w.client with subscribed:=true}} :=
    ⟨Watch.subscribed_settled known.settled,known.elected,known.mine,known.theirs,known.told⟩
  have shown : Handed v {w with client:={w.client with subscribed:=true}} := ⟨handed.within,handed.complete⟩
  cases registered : v.registry.contains socket with
  | false =>
    simp only [Bool.false_eq_true,if_false]
    rw [Watch.deliver_subscribed]
    exact ⟨listed,shown,sound,honest⟩
  | true =>
    simp only [if_true,Bool.true_and]
    rw [Watch.deliver_subscribed_active count _ known.settled]
    have somebody : v.registry.activeProvider ≠ none := by
      intro nobody
      have absent := (Table.isEmpty_iff _).mp (known.elected.vacant.mp nobody) socket
      obtain ⟨provider,found⟩ := (Table.contains_iff _ _).mp registered
      rw [absent] at found
      cases found
    apply informed_believe strict listed shown
    rw [ProviderRegistry.authorized_eq known.elected,decide_eq_decide]
    simp only [somebody,false_or]
    exact eq_comm

theorem informed_subscribed (entries : List (QString × Session)) (count : Nat) (rest : List QJsonObject)
    (listed : v.sessions = {id | ∃ entry ∈ entries, entry.2.id = id}) (informed : Informed strict socket v w) :
    let active := v.registry.contains socket && decide (some socket = v.registry.activeProvider)
    let more := (if !v.registry.contains socket || active then replay entries else []) ++
      [.subscribed count (if v.registry.contains socket then some active else none)]
    Informed strict socket {v with subscribed:=true,heard:=v.heard ++ more}
      (({w with outbox:=rest} : Watch).deliverAll more) := by
  intro active more
  obtain ⟨known,handed,sound,honest⟩ := informed
  have before : Known socket v {w with outbox:=rest} := known_client known rfl
  have answered : Informed strict socket v (({w with outbox:=rest} : Watch).deliverAll more) := by
    change Informed strict socket v (({w with outbox:=rest} : Watch).deliverAll (_ ++ [_]))
    rw [Watch.deliverAll_append]
    cases believed : w.client.providerActive with
    | true =>
      have authorized := sound believed
      rw [ProviderRegistry.authorized_eq known.elected] at authorized
      have faced : (!v.registry.contains socket || active) = true := by
        change (!v.registry.contains socket || (v.registry.contains socket &&
          decide (some socket = v.registry.activeProvider))) = true
        rcases of_decide_eq_true authorized with nobody | mine
        · have absent := (Table.isEmpty_iff _).mp (known.elected.vacant.mp nobody) socket
          simp [ProviderRegistry.contains,Table.contains,absent]
        · simp [mine]
      rw [faced,if_pos rfl,Watch.replay_shown (w := {w with outbox:=rest}) entries believed]
      have shown : w.shown ∪ {id | ∃ entry ∈ entries, entry.2.id = id} = v.sessions := by
        rw [← listed]
        exact Set.union_eq_self_of_subset_left (handed.within believed)
      rw [shown]
      exact informed_answered count (known_client known rfl) ⟨fun _ => subset_rfl,fun _ => .inl subset_rfl⟩ sound honest
    | false =>
      have unheeded : ({w with outbox:=rest} : Watch).deliverAll
          (if !v.registry.contains socket || active then replay entries else []) = {w with outbox:=rest} := by
        split
        · exact Watch.replay_unheeded (w := {w with outbox:=rest}) entries believed known.settled.registered
        · rfl
      rw [unheeded]
      refine informed_answered count before ⟨?_,?_⟩ sound honest
      · intro held
        cases believed.symm.trans held
      · intro held
        cases believed.symm.trans held
  obtain ⟨known,handed,sound,honest⟩ := informed_heard answered more
  exact ⟨⟨known.settled,known.elected,known.mine,known.theirs,known.told⟩,⟨handed.within,handed.complete⟩,sound,honest⟩

-- A registration that is answered. Where the answer does not say who may
-- respond, because nobody is left, a status has to.
theorem informed_registered {elected : ProviderRegistry} (id : QString) (priority : Int) (stated : Bool)
    (settled : elected.Settled) (connected : w.client.connected = true) (named : id ≠ [])
    (mine : ∀ provider, elected.uiProviders.find socket = some provider → provider.id = id)
    (theirs : ∀ other provider, other ≠ socket → elected.uiProviders.find other = some provider → provider.id ≠ id)
    (handed : Handed v w) (somebody : strict → elected.activeProvider = none → stated = true) :
    let active := decide (some socket = elected.activeProvider)
    let more := Message.uiRegistered id active priority :: if stated then [elected.status] else []
    Informed strict socket {v with registry:=elected,heard:=v.heard ++ more} (w.deliverAll more) := by
  intro active more
  have told : Known socket {v with registry:=elected,heard:=v.heard ++ [.uiRegistered id active priority]}
      (w.registeredAs id) :=
    ⟨Watch.registeredAs_settled connected named,settled,mine,theirs,.uiRegistered id active priority,
      List.mem_append_right _ List.mem_cons_self,rfl⟩
  have shown : Handed {v with registry:=elected,heard:=v.heard ++ [.uiRegistered id active priority]}
      (w.registeredAs id) := ⟨handed.within,handed.complete⟩
  have authorized := ProviderRegistry.authorized_eq settled socket
  have answered : w.deliver (.uiRegistered id active priority) = (w.registeredAs id).believe active :=
    Watch.deliver_registered w id active priority connected
  change Informed strict socket {v with registry:=elected,heard:=v.heard ++ (_ :: _)}
    ((w.deliver (.uiRegistered id active priority)).deliverAll (if stated then [elected.status] else []))
  rw [answered,List.append_cons]
  cases stated with
  | true =>
    exact informed_status strict (known_believe active told) (handed_believe active shown)
  | false =>
    simp only [Bool.false_eq_true,if_false,List.append_nil]
    refine ⟨known_believe active told,handed_believe active shown,?_,?_⟩
    · intro believed
      rw [authorized]
      exact decide_eq_true (.inr (of_decide_eq_true believed).symm)
    · intro strictly allowed
      rw [authorized] at allowed
      rcases of_decide_eq_true allowed with nobody | leader
      · cases somebody strictly nobody
      · exact decide_eq_true leader.symm

namespace Agent

open Daemon (hear_one hear_status sendAll_front)

theorem enlisted_view (d : Daemon) (listens : d.Listens socket) :
    ∃ e : Daemon, (if d.subscribers.contains socket then d else {d with subscribers:=d.subscribers ++ [socket]}) = e ∧
      e.view socket = {d.view socket with subscribed:=true} ∧ e.Listens socket ∧
      e.providerRegistry = d.providerRegistry ∧ e.sessionStore = d.sessionStore := by
  cases present : d.subscribers.contains socket with
  | true =>
    refine ⟨d,rfl,?_,listens,rfl,rfl⟩
    exact congrArg (fun subscribed => ({d.view socket with subscribed} : View)) present
  | false =>
    refine ⟨_,rfl,?_,⟨listens.connected,listens.patient,?_,listens.ids⟩,rfl,rfl⟩
    · refine congrArg (fun subscribed => ({d.view socket with subscribed} : View)) ?_
      simp
    · apply listens.once.append (List.nodup_singleton socket)
      intro one held same
      cases List.mem_singleton.mp same
      rw [List.contains_iff_mem.mpr held] at present
      cases present

def replayTo (socket : Socket) (entries : List (QString × Session)) : List (Socket × Message) :=
  entries.flatMap (fun entry =>
    [(socket,Message.event entry.2.toCreatedEvent),(socket,Message.event entry.2.toUpdatedEvent)])

theorem replayTo_mine (socket : Socket) (entries : List (QString × Session)) :
    ((replayTo socket entries).filter (fun message => message.1 = socket)).map Prod.snd = replay entries := by
  induction entries with
  | nil => rfl
  | cons entry rest ih =>
    unfold replayTo
    rw [List.flatMap_cons,List.filter_append,List.map_append]
    change _ ++ ((replayTo socket rest).filter (fun message => message.1 = socket)).map Prod.snd = _
    rw [ih]
    simp [replay]

theorem replayed_view (d : Daemon) (told : Bool) (entries : List (QString × Session)) (listens : d.Listens socket) :
    ∃ e : Daemon, (if told then d.sendAll (replayTo socket entries) else d) = e ∧
      e.view socket = {d.view socket with heard:=(d.view socket).heard ++ if told then replay entries else []} ∧
      e.Listens socket ∧ e.sessionStore = d.sessionStore := by
  cases told with
  | true =>
    have front := sendAll_front d (replayTo socket entries)
    refine ⟨d.sendAll (replayTo socket entries),rfl,?_,Daemon.listens_sendAll d _ listens,
      congrArg Front.sessionStore front⟩
    rw [Daemon.heard_sendAll d _ listens.connected,replayTo_mine]
    rfl
  | false =>
    refine ⟨d,rfl,?_,listens,rfl⟩
    simp

theorem subscribed_view (d : Daemon) (listens : d.Listens socket) :
    let v := d.view socket
    let active := v.registry.contains socket && decide (some socket = v.registry.activeProvider)
    let count := if !v.registry.contains socket || active then d.sessionStore.size else 0
    let more := (if !v.registry.contains socket || active then replay d.sessionStore.toList else []) ++
      [.subscribed count (if v.registry.contains socket then some active else none)]
    (handleSubscribe d socket).view socket = {v with subscribed:=true,heard:=v.heard ++ more} ∧
      (handleSubscribe d socket).Listens socket := by
  intro v active count more
  obtain ⟨e,same,viewed,enlisted,registry,store⟩ := enlisted_view d listens
  obtain ⟨f,sent,told,replayed,kept⟩ := replayed_view e (!v.registry.contains socket || active) d.sessionStore.toList enlisted
  have counted : f.sessionStore = d.sessionStore := kept.trans store
  have ends : handleSubscribe d socket =
      f.sendJson socket (.subscribed count (if v.registry.contains socket then some active else none)) := by
    change (if !d.providerRegistry.contains socket || (d.providerRegistry.contains socket &&
      decide (some socket = d.providerRegistry.activeProvider)) then _ else _) = f at sent
    unfold handleSubscribe
    simp only
    rw [same,registry,store]
    rw [show d.sessionStore.toList.flatMap _ = replayTo socket d.sessionStore.toList from rfl]
    rw [sent,counted]
    rfl
  obtain ⟨heard,later⟩ := hear_one f socket (.subscribed count (if v.registry.contains socket then some active else none))
    replayed
  rw [ends]
  refine ⟨?_,later⟩
  rw [heard,told,viewed,decide_eq_true rfl]
  exact congrArg (fun heard => ({v with subscribed:=true,heard} : View)) (List.append_assoc _ _ _)

theorem registered_view (d : Daemon) (msg : QJsonObject) (listens : d.Listens socket)
    (registered : d.providerRegistry.registerProvider socket msg d.env.uuid d.nowMs.1 = (provider,joined))
    (outcome : joined.recomputeActiveProvider d.nowMs.2.nowMs.1 d.isConnected = (changed,elected)) :
    let v := d.view socket
    let active := decide (some socket = elected.activeProvider)
    let stated := (changed || active) && (elected.contains socket || v.subscribed)
    let more := Message.uiRegistered provider.id active provider.priority :: if stated then [elected.status] else []
    (handleUIRegister d socket msg).view socket = {v with registry:=elected,heard:=v.heard ++ more} ∧
      (handleUIRegister d socket msg).Listens socket := by
  intro v active stated more
  have after : (d.nowMs.2.nowMs.2.withProviderRegistry elected).Listens socket :=
    ⟨listens.connected,listens.patient,listens.once,listens.ids⟩
  obtain ⟨answered,replied⟩ := hear_one _ socket (.uiRegistered provider.id active provider.priority) after
  rw [decide_eq_true rfl] at answered
  obtain ⟨told,later⟩ := hear_status _ replied
  rw [handleUIRegister_elects d socket msg registered outcome]
  simp only
  split
  · next said =>
    have heard : more = .uiRegistered provider.id active provider.priority ::
        if elected.contains socket || v.subscribed then [elected.status] else [] := by
      change _ :: (if (changed || active) && _ then _ else _) = _
      rw [said,Bool.true_and]
    refine ⟨?_,later⟩
    rw [told,answered,heard]
    exact congrArg (fun heard => ({v with registry:=elected,heard} : View)) (List.append_assoc _ _ _)
  · next untold =>
    have heard : more = [.uiRegistered provider.id active provider.priority] := by
      change _ :: (if (changed || active) && _ then _ else _) = _
      rw [Bool.eq_false_iff.mpr untold,Bool.false_and]
      rfl
    refine ⟨?_,replied⟩
    rw [answered,heard]
    rfl

theorem registered_spec {registry joined : ProviderRegistry}
    (registered : registry.registerProvider socket msg uuid nowMs = (provider,joined)) :
    (provider.id = uuid ∨ ∃ old, registry.uiProviders.find socket = some old ∧ old.id ≠ [] ∧ provider.id = old.id) ∧
    provider.lastHeartbeatMs = nowMs ∧ joined.activeProvider = registry.activeProvider ∧
    joined.uiProviders.find socket = some provider ∧
    ∀ other, other ≠ socket → joined.uiProviders.find other = registry.uiProviders.find other := by
  cases registered
  refine ⟨?_,rfl,rfl,Table.find_insert_self _ _ _,fun other apart => Table.find_insert_other _ _ apart⟩
  simp only
  cases before : registry.uiProviders.find socket with
  | none => exact .inl rfl
  | some old =>
    simp only [Option.getD_some]
    split
    · exact .inl rfl
    · next named => exact .inr ⟨old,rfl,fun nothing => named (by rw [nothing]; rfl),rfl⟩

theorem registered_nobody_iff (d : Daemon) (listens : d.Listens socket)
    (registered : d.providerRegistry.registerProvider socket msg d.env.uuid d.nowMs.1 = (provider,joined))
    (outcome : joined.recomputeActiveProvider d.nowMs.2.nowMs.1 d.isConnected = (changed,elected)) :
    elected.activeProvider = none ↔
      elapsedMs (d.env.clock (d.clockReads + 1)) (d.env.clock d.clockReads) > ProviderRegistry.providerHeartbeatTimeoutMs ∧
      ∀ entry ∈ d.providerRegistry.uiProviders.toList, entry.1 ≠ socket → d.isConnected entry.1 = true →
        elapsedMs (d.env.clock (d.clockReads + 1)) entry.2.lastHeartbeatMs > ProviderRegistry.providerHeartbeatTimeoutMs := by
  obtain ⟨_,beat,_,mine,others⟩ := registered_spec registered
  have elects := ProviderRegistry.elected_nobody_iff joined d.nowMs.2.nowMs.1 d.isConnected
  rw [outcome] at elects
  apply elects.trans
  constructor
  · intro stale
    have own := stale socket _ mine listens.connected
    rw [beat] at own
    refine ⟨own,?_⟩
    intro entry listed apart connected
    have found := (Table.mem_toList _ _ _).mp listed
    exact stale entry.1 entry.2 ((others entry.1 apart).trans found) connected
  · intro late other entry found connected
    by_cases own : other = socket
    · subst own
      cases mine.symm.trans found
      rw [beat]
      exact late.1
    · have listed := (Table.mem_toList _ _ _).mpr ((others other own).symm.trans found)
      exact late.2 (other,entry) listed own connected

theorem stated_unless_stranded (d : Daemon) (listens : d.Listens socket)
    (registered : d.providerRegistry.registerProvider socket msg d.env.uuid d.nowMs.1 = (provider,joined))
    (outcome : joined.recomputeActiveProvider d.nowMs.2.nowMs.1 d.isConnected = (changed,elected))
    (nobody : elected.activeProvider = none) (met : ¬d.Strands socket) :
    ((changed || decide (some socket = elected.activeProvider)) &&
      (elected.contains socket || (d.view socket).subscribed)) = true := by
  obtain ⟨late,stale⟩ := (registered_nobody_iff d listens registered outcome).mp nobody
  obtain ⟨_,_,leader,_,_⟩ := registered_spec registered
  obtain ⟨_,_,unchanged⟩ := ProviderRegistry.recompute_spec outcome
  have somebody : d.providerRegistry.activeProvider ≠ none := fun before => met ⟨late,stale,.inl before⟩
  have subscribed : (d.view socket).subscribed = true := by
    by_contra unsubscribed
    exact met ⟨late,stale,.inr (Bool.eq_false_iff.mpr unsubscribed)⟩
  have reported : changed = true := by
    rw [← Bool.not_eq_false]
    intro quiet
    exact somebody (leader.symm.trans ((unchanged.mp quiet).symm.trans nobody))
  rw [reported,subscribed,Bool.true_or,Bool.or_true,Bool.and_true]

-- What registering brings to a client that is connected, and shows nothing or
-- only what it should.
theorem informed_handleUIRegister (d : Daemon) (msg : QJsonObject) (listens : d.Listens socket)
    (unissued : d.Unissued d.env.uuid) (connected : w.client.connected = true) (handed : Handed (d.view socket) w)
    (known : ∀ old, d.providerRegistry.uiProviders.find socket = some old → Known socket (d.view socket) w)
    (met : strict → ¬d.Strands socket) :
    ∃ more, ((handleUIRegister d socket msg).view socket).heard = (d.view socket).heard ++ more ∧
      Informed strict socket ((handleUIRegister d socket msg).view socket) (w.deliverAll more) ∧
      ((handleUIRegister d socket msg).view socket).subscribed = (d.view socket).subscribed ∧
      (handleUIRegister d socket msg).Listens socket := by
  cases registered : d.providerRegistry.registerProvider socket msg d.env.uuid d.nowMs.1 with
  | mk provider joined =>
  cases outcome : joined.recomputeActiveProvider d.nowMs.2.nowMs.1 d.isConnected with
  | mk changed elected =>
  obtain ⟨viewed,after⟩ := registered_view d msg listens registered outcome
  obtain ⟨given,_,_,mine,others⟩ := registered_spec registered
  obtain ⟨settled,left,_⟩ := ProviderRegistry.recompute_spec outcome
  have named : provider.id ≠ [] := by
    rcases given with new | ⟨old,_,filled,same⟩
    · exact new ▸ d.env.uuid_nonempty
    · exact same ▸ filled
  have apart (other : Socket) (entry : UIProvider) (different : other ≠ socket)
      (found : elected.uiProviders.find other = some entry) : entry.id ≠ provider.id := by
    have before := (others other different).symm.trans ((left _ _).mp found).1
    rcases given with new | ⟨old,held,_,same⟩
    · exact new ▸ unissued.1 (other,entry) ((Table.mem_toList _ _ _).mpr before)
    · have mine := (known old held).mine old held
      rw [same,mine]
      exact (known old held).theirs other entry different before
  have own (entry : UIProvider) (found : elected.uiProviders.find socket = some entry) : entry.id = provider.id := by
    have before := mine.symm.trans ((left _ _).mp found).1
    cases before
    rfl
  have informed := informed_registered provider.id provider.priority
    ((changed || decide (some socket = elected.activeProvider)) && (elected.contains socket || (d.view socket).subscribed))
    settled connected named own apart handed
    (fun strictly nobody => stated_unless_stranded d listens registered outcome nobody (met strictly))
  rw [viewed]
  exact ⟨_,rfl,informed,rfl,after⟩

theorem stranded_handleUIRegister (d : Daemon) (msg : QJsonObject) (listens : d.Listens socket)
    (connected : w.client.connected = true) (stranded : d.Strands socket) :
    ∃ more, ((handleUIRegister d socket msg).view socket).heard = (d.view socket).heard ++ more ∧
      (w.deliverAll more).client.registered = true ∧ (w.deliverAll more).client.providerActive = false ∧
      ((handleUIRegister d socket msg).view socket).registry.isAuthorized socket = true := by
  cases registered : d.providerRegistry.registerProvider socket msg d.env.uuid d.nowMs.1 with
  | mk provider joined =>
  cases outcome : joined.recomputeActiveProvider d.nowMs.2.nowMs.1 d.isConnected with
  | mk changed elected =>
  have nobody := (registered_nobody_iff d listens registered outcome).mpr ⟨stranded.1,stranded.2.1⟩
  obtain ⟨viewed,_⟩ := registered_view d msg listens registered outcome
  obtain ⟨_,_,leader,_,_⟩ := registered_spec registered
  obtain ⟨settled,_,unchanged⟩ := ProviderRegistry.recompute_spec outcome
  have absent : elected.contains socket = false := by
    have missing := (Table.isEmpty_iff _).mp (settled.vacant.mp nobody) socket
    unfold ProviderRegistry.contains Table.contains
    rw [missing]
    rfl
  have inactive : decide (some socket = elected.activeProvider) = false := by
    rw [nobody]
    rfl
  have untold : (changed && (d.view socket).subscribed) = false := by
    rcases stranded.2.2 with before | unsubscribed
    · have quiet : changed = false := unchanged.mpr (nobody.trans (leader.trans before).symm)
      rw [quiet,Bool.false_and]
    · rw [show (d.view socket).subscribed = false from unsubscribed,Bool.and_false]
  have answered : w.deliverAll [.uiRegistered provider.id false provider.priority] =
      (w.registeredAs provider.id).believe false := Watch.deliver_registered w provider.id false provider.priority connected
  rw [viewed]
  simp only [absent,inactive,Bool.or_false,Bool.false_or,untold,Bool.false_eq_true,if_false]
  refine ⟨[.uiRegistered provider.id false provider.priority],rfl,?_,?_,?_⟩
  · rw [answered]
    rfl
  · rw [answered]
    rfl
  · rw [ProviderRegistry.authorized_eq settled]
    exact decide_eq_true (.inl nobody)

end Agent

theorem informed_popped (asked : w.outbox = json :: rest) (other : json ≠ FallbackClient.subscribeJson)
    (informed : Informed strict socket v w) : Informed strict socket v {w with outbox:=rest} := by
  obtain ⟨known,handed,sound,honest⟩ := informed
  refine ⟨known_client known rfl,⟨handed.within,?_⟩,sound,honest⟩
  intro active
  refine (handed.complete active).imp_right fun pending => ?_
  rw [asked] at pending
  rcases List.mem_cons.mp pending with same | later
  · exact absurd same.symm other
  · exact later

namespace Daemon

theorem unissued_heard {d : Daemon} (unissued : d.Unissued uuid) (socket : Socket) :
    ∀ message ∈ (d.view socket).heard, message.givenId ≠ some uuid := by
  intro message present
  change message ∈ heardBy socket d.front.deliveries at present
  obtain ⟨delivery,filtered,rfl⟩ := List.mem_map.mp (List.mem_reverse.mp present)
  exact unissued.2 delivery (List.mem_filter.mp filtered).1

theorem sessions_listed {d : Daemon} (listens : d.Listens socket) :
    (d.view socket).sessions = {id | ∃ entry ∈ d.sessionStore.toList, entry.2.id = id} := by
  ext id
  change d.sessionStore.contains id = true ↔ _
  rw [Table.contains_iff]
  constructor
  · rintro ⟨session,found⟩
    exact ⟨(id,session),(Table.mem_toList _ _ _).mpr found,listens.ids id session found⟩
  · rintro ⟨⟨key,session⟩,listed,rfl⟩
    have found := (Table.mem_toList _ _ _).mp listed
    rw [listens.ids key session found]
    exact ⟨session,found⟩

end Daemon

def typeOf (json : QJsonObject) : QString := (json.value (text "type")).toString

namespace Agent

theorem dispatched (d : Daemon) (json : QJsonObject) (named : handlers.lookup (typeOf json) = some handler) :
    handleMessage d socket (typeOf json) json = dispatch d socket handler json := by
  unfold handleMessage
  rw [named]

theorem informed_handleSubscribe (d : Daemon) (rest : List QJsonObject) (listens : d.Listens socket)
    (informed : Informed strict socket (d.view socket) w) :
    ∃ more, ((handleSubscribe d socket).view socket).heard = (d.view socket).heard ++ more ∧
      Informed strict socket ((handleSubscribe d socket).view socket) (({w with outbox:=rest} : Watch).deliverAll more) ∧
      ((handleSubscribe d socket).view socket).subscribed = true ∧ (handleSubscribe d socket).Listens socket := by
  obtain ⟨viewed,after⟩ := subscribed_view d listens
  have answered := informed_subscribed d.sessionStore.toList
    (if !(d.view socket).registry.contains socket || ((d.view socket).registry.contains socket &&
      decide (some socket = (d.view socket).registry.activeProvider)) then d.sessionStore.size else 0)
    rest (Daemon.sessions_listed listens) informed
  rw [viewed]
  exact ⟨_,rfl,answered,rfl,after⟩

theorem informed_replied (d : Daemon) {e : Daemon} (replied : Replied socket uuid d e) (listens : d.Listens socket)
    (attends : Attends strict socket uuid (d.view socket) w) :
    ∃ more, (e.view socket).heard = (d.view socket).heard ++ more ∧
      Informed strict socket (e.view socket) (w.deliverAll more) ∧ (e.view socket).subscribed = true ∧
      e.Listens socket := by
  rcases replied with ⟨sequel,after⟩ | ⟨foreign,rfl⟩
  · obtain ⟨more,heard,informed,subscribed⟩ := attends_sequel sequel attends
    exact ⟨more,heard,informed,subscribed,after⟩
  · obtain ⟨heard,after⟩ := Daemon.hear_one d socket (.error notActive) listens
    rw [decide_eq_true rfl] at heard
    have refused : w.deliver (.error notActive) = w.believe false := Watch.deliver_refused attends.informed.known.settled
    have informed : Informed strict socket (d.view socket) (w.believe false) :=
      informed_believe strict attends.informed.known attends.informed.handed foreign.symm
    rw [heard]
    refine ⟨[.error notActive],rfl,?_,attends.subscribed,after⟩
    change Informed strict socket _ (w.deliver (.error notActive))
    rw [refused]
    exact informed_heard informed [.error notActive]

theorem informed_spoken (d : Daemon) (spoken : Spoken json) (asked : w.outbox = json :: rest) (listens : d.Listens socket)
    (unissued : d.Unissued d.env.uuid) (subscribed : (d.view socket).subscribed = true)
    (informed : Informed strict socket (d.view socket) w)
    (met : strict → Hookup.registers json → ¬d.Strands socket) :
    let e := handleMessage d socket (typeOf json) json
    ∃ more, (e.view socket).heard = (d.view socket).heard ++ more ∧
      Informed strict socket (e.view socket) (({w with outbox:=rest} : Watch).deliverAll more) ∧
      (e.view socket).subscribed = true ∧ e.Listens socket := by
  intro e
  have attends (other : json ≠ FallbackClient.subscribeJson) :
      Attends strict socket d.env.uuid (d.view socket) {w with outbox:=rest} :=
    ⟨informed_popped asked other informed,subscribed,Daemon.unissued_heard unissued socket⟩
  have apart (other : typeOf json ≠ text "subscribe") : json ≠ FallbackClient.subscribeJson := by
    rintro rfl
    exact other rfl
  cases spoken with
  | registers =>
    have handled : e = handleUIRegister d socket FallbackClient.registerJson :=
      dispatched d FallbackClient.registerJson (by decide +kernel : handlers.lookup _ = some .uiRegister)
    obtain ⟨popped,_,_⟩ := attends (apart (by decide +kernel))
    obtain ⟨more,heard,after,still,listening⟩ := informed_handleUIRegister d FallbackClient.registerJson listens unissued
      popped.known.settled.connected popped.handed (fun _ _ => popped.known) (fun strictly => met strictly rfl)
    rw [handled]
    exact ⟨more,heard,after,still.trans subscribed,listening⟩
  | subscribes =>
    have handled : e = handleSubscribe d socket :=
      dispatched d FallbackClient.subscribeJson (by decide +kernel : handlers.lookup _ = some .subscribe)
    rw [handled]
    exact informed_handleSubscribe d rest listens informed
  | beats id =>
    have named : typeOf (FallbackClient.heartbeatJson id) = text "ui.heartbeat" := rfl
    have handled : e = handleUIHeartbeat d socket :=
      dispatched d (FallbackClient.heartbeatJson id)
        (by rw [named]; decide +kernel : handlers.lookup _ = some .uiHeartbeat)
    rw [handled]
    exact informed_replied d (replied_handleUIHeartbeat d _ listens) listens
      (attends (apart (by rw [named]; decide +kernel)))
  | responds id response =>
    have named : typeOf (FallbackClient.respondJson id response) = text "session.respond" := rfl
    have handled : e = handleRespond d socket (FallbackClient.respondJson id response) :=
      dispatched d (FallbackClient.respondJson id response)
        (by rw [named]; decide +kernel : handlers.lookup _ = some .respond)
    rw [handled]
    exact informed_replied d (replied_handleRespond d _ _ listens) listens
      (attends (apart (by rw [named]; decide +kernel)))
  | cancels id =>
    have named : typeOf (FallbackClient.cancelJson id) = text "session.cancel" := rfl
    have handled : e = handleCancel d socket (FallbackClient.cancelJson id) :=
      dispatched d (FallbackClient.cancelJson id)
        (by rw [named]; decide +kernel : handlers.lookup _ = some .cancel)
    rw [handled]
    exact informed_replied d (replied_handleCancel d _ _ listens) listens
      (attends (apart (by rw [named]; decide +kernel)))

end Agent

end BbAuth
