import BbAuth.ClientBelief

open Library
namespace BbAuth

open View (Turn Turns)

variable {socket : Socket} {uuid : QString} {strict : Prop}

-- What a client sees of the daemon when others, or the client itself, are
-- served: turns, and replies that it does not heed.
structure View.Sequel (socket : Socket) (uuid : QString) (v v' : View) : Prop where
  served : ∃ m replies, Turns socket uuid v m ∧ (∀ reply ∈ replies, Watch.Ignored reply) ∧
    v' = {m with heard:=m.heard ++ replies}

namespace View

theorem Turns.sequel {v m : View} (turns : Turns socket uuid v m) : Sequel socket uuid v m :=
  ⟨m,[],turns,List.forall_mem_nil _,by rw [List.append_nil]⟩

theorem Sequel.hears {v m : View} (sequel : Sequel socket uuid v m) (told : Bool) (ignored : Watch.Ignored message) :
    Sequel socket uuid v (m.hear told message) := by
  obtain ⟨n,replies,turns,unheeded,rfl⟩ := sequel
  refine ⟨n,replies ++ (if told then [message] else []),turns,?_,?_⟩
  · intro reply present
    rcases List.mem_append.mp present with old | new
    · exact unheeded reply old
    · split at new
      · exact List.mem_singleton.mp new ▸ ignored
      · cases new
  · simp only [hear,List.append_assoc]

end View

open View (Sequel)

theorem attends_sequel {v v' : View} {w : Watch} (sequel : Sequel socket uuid v v') (attends : Attends strict socket uuid v w) :
    ∃ more, v'.heard = v.heard ++ more ∧ Informed strict socket v' (w.deliverAll more) ∧ v'.subscribed = true := by
  obtain ⟨m,replies,turns,unheeded,rfl⟩ := sequel
  obtain ⟨more,heard,after⟩ := attends_turns turns attends
  refine ⟨more ++ replies,?_,?_,after.subscribed⟩
  · rw [heard,List.append_assoc]
  · rw [Watch.deliverAll_append,Watch.deliverAll_ignored _ unheeded]
    exact informed_heard after.informed replies

theorem stranger_sequel {v v' : View} {w : Watch} (sequel : Sequel socket uuid v v') (stranger : Stranger socket v w) :
    ∃ more, v'.heard = v.heard ++ more ∧ w.deliverAll more = w ∧ Stranger socket v' w := by
  obtain ⟨m,replies,turns,unheeded,rfl⟩ := sequel
  obtain ⟨heard,settled,unregistered,unsubscribed,client⟩ := stranger_turns turns stranger
  exact ⟨replies,by rw [heard],Watch.deliverAll_ignored w unheeded,settled,unregistered,unsubscribed,client⟩

namespace Daemon

theorem sequel_reply {d m : Daemon} (other : Socket) (ignored : Watch.Ignored message)
    (before : Sequel socket uuid (d.view socket) (m.view socket) ∧ m.Listens socket) :
    Sequel socket uuid (d.view socket) ((m.sendJson other message).view socket) ∧
      (m.sendJson other message).Listens socket := by
  obtain ⟨heard,listens⟩ := hear_one m other message before.2
  rw [heard]
  exact ⟨before.1.hears _ ignored,listens⟩

theorem served_sequel {d e : Daemon} (uuid : QString) (served : Served d speaker e) (listens : d.Listens socket) :
    Sequel socket uuid (d.view socket) (e.view socket) ∧ e.Listens socket := by
  have begun {m : Daemon} (deeds : Deeds d m) : Sequel socket uuid (d.view socket) (m.view socket) ∧ m.Listens socket := by
    obtain ⟨turns,after⟩ := deeds_turns uuid deeds listens
    exact ⟨turns.sequel,after⟩
  cases served with
  | quietly deeds => exact sequel_reply _ (.ok none) (begun deeds)
  | keyring deeds asked gone answer =>
    exact sequel_reply _ (.ok none) (sequel_reply _ (.response .keyring _ answer) (begun deeds))
  | pinentry deeds asked gone answer =>
    exact sequel_reply _ (.ok none) (sequel_reply _ (.response .pinentry _ answer) (begun deeds))

theorem others_sequel (d : Daemon) (event : Event) (settled : d.Settled) (listens : d.Listens socket)
    (others : ¬event.concerns socket) :
    Sequel socket d.env.uuid (d.view socket) ((d.handle event).view socket) ∧ (d.handle event).Listens socket := by
  rcases handle_turns d event settled listens others with ⟨turns,after⟩ | ⟨speaker,_,served⟩
  · exact ⟨turns.sequel,after⟩
  · exact served_sequel _ served listens

end Daemon

inductive Spoken : QJsonObject → Prop where
  | registers : Spoken FallbackClient.registerJson
  | subscribes : Spoken FallbackClient.subscribeJson
  | beats (id : QString) : Spoken (FallbackClient.heartbeatJson id)
  | responds (id response : QString) : Spoken (FallbackClient.respondJson id response)
  | cancels (id : QString) : Spoken (FallbackClient.cancelJson id)

namespace Agent

open Daemon (sequel_reply served_sequel)

-- Messages that neither register nor subscribe are served, or refused while the
-- client is not authorized.
def Replied (socket : Socket) (uuid : QString) (d e : Daemon) : Prop :=
  (Sequel socket uuid (d.view socket) (e.view socket) ∧ e.Listens socket) ∨
  d.isAuthorizedProviderSocket socket = false ∧ e = d.sendJson socket (.error notActive)

theorem replied_error (d : Daemon) (uuid : QString) (listens : d.Listens socket) (other : message ≠ notActive) :
    Replied socket uuid d (d.sendJson socket (.error message)) :=
  .inl (sequel_reply socket (.error other) ⟨Turns.sequel .refl,listens⟩)

theorem replied_handleRespond (d : Daemon) (msg : QJsonObject) (uuid : QString) (listens : d.Listens socket) :
    Replied socket uuid d (handleRespond d socket msg) := by
  rcases handleRespond_cases d socket msg with ⟨foreign,refused⟩ | ⟨_,⟨message,other,refused⟩ | served⟩
  · exact .inr ⟨foreign,refused⟩
  · exact refused ▸ replied_error d uuid listens other
  · exact .inl (served_sequel uuid served listens)

theorem replied_handleCancel (d : Daemon) (msg : QJsonObject) (uuid : QString) (listens : d.Listens socket) :
    Replied socket uuid d (handleCancel d socket msg) := by
  rcases handleCancel_cases d socket msg with ⟨foreign,refused⟩ | ⟨_,⟨message,other,refused⟩ | served⟩
  · exact .inr ⟨foreign,refused⟩
  · exact refused ▸ replied_error d uuid listens other
  · exact .inl (served_sequel uuid served listens)

theorem replied_handleUIHeartbeat (d : Daemon) (uuid : QString) (listens : d.Listens socket) :
    Replied socket uuid d (handleUIHeartbeat d socket) := by
  cases known : d.providerRegistry.contains socket with
  | false =>
    have refused : handleUIHeartbeat d socket = d.sendJson socket (.error (text "Provider not registered")) := by
      simp [handleUIHeartbeat,known,sendError]
    exact refused ▸ replied_error d uuid listens (by decide +kernel)
  | true =>
    obtain ⟨old,before⟩ := (Table.contains_iff _ _).mp known
    have ticked : d.nowMs.2.Listens socket := ⟨listens.connected,listens.patient,listens.once,listens.ids⟩
    have beat : d.providerRegistry.heartbeat socket d.nowMs.1 =
        some {d.providerRegistry with
          uiProviders:=d.providerRegistry.uiProviders.insert socket {old with lastHeartbeatMs:=d.nowMs.1}} := by
      simp only [ProviderRegistry.heartbeat,before]
    obtain ⟨turns,after⟩ := turns_reelect d.nowMs.2 _ ticked (heartbeat_renewed uuid beat)
    unfold handleUIHeartbeat
    simp only [known,Bool.not_true,Bool.false_eq_true,if_false]
    rw [show d.nowMs.2.providerRegistry.heartbeat socket d.nowMs.1 = _ from beat]
    exact .inl (sequel_reply socket (.ok (some _)) ⟨turns.sequel,after⟩)

end Agent

end BbAuth
