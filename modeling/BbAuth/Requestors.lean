import BbAuth.Announcements
import BbAuth.PromptModel
import BbAuth.RequestContext

open Library
namespace BbAuth

namespace Core

variable {c m e : Core} {id : QString} {source : Source}

theorem tends_created (tends : Tends c e) (present : .emitted (.created id source context) ∈ e.history) :
    .emitted (.created id source context) ∈ c.history := by
  induction tends with
  | refl => exact present
  | tail _ tending ih =>
    apply ih
    cases tending with
    | frame _ history => exact history ▸ present
    | logged effect plain =>
      rcases List.mem_cons.mp present with rfl | before
      · exact absurd rfl (plain _)
      · exact before
    | updated id change alike =>
      unfold updateSession at present
      split at present
      · exact present
      · rcases List.mem_cons.mp present with now | before
        · cases now
        · exact before
    | retried id curRetry maxRetries =>
      unfold setPinentryRetry at present
      split at present <;> exact present
    | closed id result =>
      unfold closeSession at present
      split at present
      · exact present
      · rcases List.mem_cons.mp present with now | before
        · cases now
        · exact before

-- The sessions that an action opens, by the context they get.
def Presents (action : Action) (id : QString) (source : Source) (context : Context) : Prop :=
  match action with
  | .keyringRequest request actor =>
    id = request.cookie ∧ source = .keyring ∧ context = KeyringManager.contextOf request actor
  | .pinentryRequest request actor =>
    id = request.cookie ∧ source = .pinentry ∧ ∃ retry, context = PinentryManager.contextOf request actor retry
  | .initiate _ => source = .polkit
  | _ => False

theorem keyringRequest_presents (c : Core) (request : KeyringRequest) (actor : ActorInfo) :
    ∃ m, Tends c m ∧ Tends (m.createSession request.cookie .keyring (KeyringManager.contextOf request actor))
      (c.keyringRequest request actor) := by
  refine ⟨_,?_,.setPrompt _ _ _ _ _⟩
  exact (Tends.log c (.requested .keyring request.socket request.peerPid request.cookie) (fun _ => nofun)).trans
    (.withKeyring _ _)

theorem pinentryRequest_presents (c : Core) (request : PinentryRequest) (actor : ActorInfo) :
    Tends c (c.pinentryRequest request actor) ∨
    ∃ m retry, Tends c m ∧ Tends (m.createSession request.cookie .pinentry (PinentryManager.contextOf request actor retry))
      (c.pinentryRequest request actor) := by
  by_cases owned : PinentryManager.ownedByOther c.pinentryManager request.cookie request.peerPid = true
  · rw [pinentryRequest_refused c request actor owned]
    exact .inl (.log c _ (fun _ => nofun))
  · let asked := c.log (.requested .pinentry request.socket request.peerPid request.cookie)
    let entered := PinentryManager.enterFlow asked.pinentryManager request
    let reported := (asked.withPinentry entered.2).reportRetry request
    let m := reported.withPinentry (PinentryManager.recordPending reported.pinentryManager request)
    have logged : Tends c asked := .log c _ (fun _ => nofun)
    have before : Tends c m :=
      logged.trans <| (Tends.withPinentry asked entered.2).trans <| (Tends.reportRetry _ request).trans (.withPinentry _ _)
    have presented : c.pinentryRequest request actor =
        (m.present request actor entered.1 (c.sessionStore.find request.cookie).isSome).reportRequestError request :=
      if_neg owned
    rw [presented]
    unfold present
    simp only
    split
    · exact .inr ⟨m,entered.1,before,(Tends.setPrompt _ _ _ _ _).trans (.reportRequestError _ _)⟩
    · exact .inl (before.trans <| (Tends.one (.retried _ _ _)).trans <|
        (Tends.setPrompt _ _ _ _ _).trans (.reportRequestError _ _))

theorem acts_presents (acts : Acts c action e) (present : .emitted (.created id source shown) ∈ e.history) :
    .emitted (.created id source shown) ∈ c.history ∨
    ∃ context, Presents action id source context ∧ shown = Session.contextToJson {id,source,context} := by
  have created {m : Core} {opened : QString} {kind : Source} {context : Context} (before : Tends c m)
      (after : Tends (m.createSession opened kind context) e) : .emitted (.created id source shown) ∈ c.history ∨
      id = opened ∧ source = kind ∧ shown = Session.contextToJson {id,source,context} := by
    rcases List.mem_cons.mp (tends_created after present) with now | old
    · cases now
      exact .inr ⟨rfl,rfl,rfl⟩
    · exact .inl (tends_created before old)
  cases acts with
  | @keyringRequest _ _ request actor known peer named =>
    obtain ⟨m,before,after⟩ := keyringRequest_presents c request actor
    rcases created before after with old | ⟨rfl,rfl,same⟩
    · exact .inl old
    · exact .inr ⟨_,⟨rfl,rfl,rfl⟩,same⟩
  | @pinentryRequest _ _ request actor known peer named =>
    rcases pinentryRequest_presents c request actor with nothing | ⟨m,retry,before,after⟩
    · exact .inl (tends_created nothing present)
    · rcases created before after with old | ⟨rfl,rfl,same⟩
      · exact .inl old
      · exact .inr ⟨_,⟨rfl,rfl,retry,rfl⟩,same⟩
  | initiate before same after =>
    rcases created (.ofMoves before) (.ofMoves after) with old | ⟨_,polkit,same⟩
    · exact .inl old
    · exact .inr ⟨_,polkit,same⟩
  | idle => exact .inl present
  | connect => exact .inl present
  | socketState known later => exact .inl (tends_created (.setSocketState c _ _) present)
  | disconnect known => exact .inl (tends_created (.disconnect c _) present)
  | keyringConclude pending plain => exact .inl (tends_created (.keyringConclude c _ _ _) present)
  | pinentryRespond free pending => exact .inl (tends_created (.pinentryRespond c _ _) present)
  | pinentryCancel => exact .inl (tends_created (.pinentryCancel c _) present)
  | pinentryOutcome known => exact .inl (tends_created (.applyOutcome c _ _ _) present)
  | timeout running => exact .inl (tends_created (.timeout c _) present)
  | @submit session _ cookie response _ found source moves =>
    have submitted : Tends c (c.log (.submitted cookie response)) := .log c _ (fun _ => nofun)
    exact .inl (tends_created (submitted.trans (.ofMoves moves)) present)
  | polkit moves => exact .inl (tends_created (.ofMoves moves) present)

end Core

namespace Daemon

variable {id : QString} {source : Source}

-- The message of a client that asks for a session of that id, and the process the
-- client is.
inductive Asks (d : Daemon) (input : Input) (id : QString) : Source → Pid → Prop where
  | keyring (kind : input.kind = .keyringRequest socket msg) (named : input.env.effectiveCookie msg = id) :
      Asks d input id .keyring (d.getPeerPid socket)
  | pinentry (kind : input.kind = .pinentryRequest socket msg) (named : input.env.effectiveCookie msg = id) :
      Asks d input id .pinentry (d.getPeerPid socket)

theorem presents_asks (d : Daemon) (input : Input) (presents : Core.Presents (d.action input) id source context)
    (client : source ≠ .polkit) :
    ∃ pid, d.Asks input id source pid ∧ context.requestor = requestorOf (input.env.resolveActorForPid pid) pid := by
  cases kind : input.kind with
  | keyringRequest socket msg =>
    unfold action at presents
    rw [kind] at presents
    obtain ⟨rfl,rfl,rfl⟩ := presents
    exact ⟨_,.keyring kind rfl,rfl⟩
  | pinentryRequest socket msg =>
    unfold action at presents
    rw [kind] at presents
    obtain ⟨rfl,rfl,_,rfl⟩ := presents
    exact ⟨_,.pinentry kind rfl,rfl⟩
  | initiateAuthentication =>
    unfold action at presents
    rw [kind] at presents
    simp only at presents
    split at presents
    · exact presents.elim
    · exact absurd presents client
  | respond ui msg =>
    unfold action respondAction at presents
    rw [kind] at presents
    simp only at presents
    repeat' split at presents
    all_goals exact presents.elim
  | cancel ui msg =>
    unfold action cancelAction at presents
    rw [kind] at presents
    simp only at presents
    repeat' split at presents
    all_goals exact presents.elim
  | pinentryResult sender msg =>
    unfold action resultAction at presents
    rw [kind] at presents
    simp only at presents
    repeat' split at presents
    all_goals exact presents.elim
  | connected | socketState | disconnected | routing | polkitSignal | cancelAuthentication | timeout =>
    unfold action at presents
    rw [kind] at presents
    exact presents.elim

theorem requestors_genuine (inputs : List Input) (admitted : daemon.Admits inputs) (client : source ≠ .polkit)
    (shown : .emitted (.created id source context) ∈ (daemon.run inputs).trace) :
    ∃ early input late pid, inputs = early ++ input :: late ∧ (daemon.run early).Asks input id source pid ∧
      .emitted (.created id source context) ∉ (daemon.run early).trace ∧
      .emitted (.created id source context) ∈ (daemon.step (daemon.run early) input).trace ∧
      context.requestor =
        Session.requestorToJson {id,source,context:={requestor:=requestorOf (input.env.resolveActorForPid pid) pid}} := by
  obtain ⟨early,input,late,split,allowed,before,after⟩ :=
    Machine.brought_about (fun d : Daemon => .emitted (.created id source context) ∈ d.trace) admitted List.not_mem_nil shown
  have kept (d : Daemon) : .emitted (.created id source context) ∈ d.trace →
      Effect.emitted (.created id source context) ∈ d.core.history := fun present => List.mem_filter.mpr ⟨present,rfl⟩
  rcases Core.acts_presents (acts_step _ input allowed) (kept _ after) with old | ⟨opened,presents,same⟩
  · exact absurd (List.mem_of_mem_filter old) before
  · obtain ⟨pid,asks,requestor⟩ := presents_asks _ input presents client
    refine ⟨early,input,late,pid,split,asks,before,after,?_⟩
    rw [same]
    unfold Session.requestorToJson
    rw [← requestor]
    cases source <;> rfl

end Daemon

-- What the fallback window reads of the object that announces a session.
def SessionCreated.ofEvent (id : QString) (source : Source) (context : ContextJson) : SessionCreated :=
  { id
    source := Session.sourceToString source
    message := context.message
    description := context.description.getD []
    keyringName := context.keyringName.getD []
    requestorName := context.requestor.name
    confirmOnly := context.confirmOnly.getD false }

namespace PromptModel

open AssuanCodec (trimmed lineFeed arg)
open TextNormalize FallbackWindow

variable (qt : QtText)

def heading (model : PromptDisplayModel) : QString × QString := (model.title,model.requestor)

theorem summarized_heading (model : PromptDisplayModel) : heading (summarized model) = heading model := by
  unfold summarized
  simp only [heading,apply_ite PromptDisplayModel.title,apply_ite PromptDisplayModel.requestor,ite_self]

theorem deduplicated_heading (model : PromptDisplayModel) : heading (deduplicated qt model) = heading model := by
  unfold deduplicated
  cases split (normalizeDetailText model.details) with
  | nil => simp only [heading,apply_ite PromptDisplayModel.title,apply_ite PromptDisplayModel.requestor,ite_self]
  | cons first rest => simp only [heading,apply_ite PromptDisplayModel.title,apply_ite PromptDisplayModel.requestor,ite_self]

theorem informed_heading (event : SessionCreated) (model : PromptDisplayModel) : heading (informed qt event model) = heading model := by
  unfold informed
  simp only [heading,apply_ite PromptDisplayModel.title,apply_ite PromptDisplayModel.requestor,ite_self]

theorem prompted_heading (event : SessionCreated) (model : PromptDisplayModel) : heading (prompted qt event model) = heading model := by
  unfold prompted
  simp only [heading,apply_ite PromptDisplayModel.title,apply_ite PromptDisplayModel.requestor,ite_self]

theorem buildDisplayModel_heading (event : SessionCreated) :
    heading (buildDisplayModel qt event) = heading (requested qt event (described qt event)) := by
  unfold buildDisplayModel
  rw [prompted_heading,informed_heading,deduplicated_heading,summarized_heading]

theorem described_requestor (event : SessionCreated) : (described qt event).requestor = [] := by
  unfold described
  cases intent qt event with
  | generic => simp only [apply_ite PromptDisplayModel.requestor,pinentryModel,genericModel,ite_self]
  | unlock | runCommand | openPgp | fingerprint | fido2 => rfl

theorem requestor_named (event : SessionCreated) :
    trimmed event.requestorName = [] ∧ (buildDisplayModel qt event).requestor = [] ∨
    (buildDisplayModel qt event).requestor = arg (text "Requested by %1") (trimmed event.requestorName) ∨
    (buildDisplayModel qt event).requestor = [] ∧ ∃ target, qt.foldCase target = qt.foldCase (trimmed event.requestorName) ∧
      (buildDisplayModel qt event).title = arg (text "Unlock %1") target := by
  obtain ⟨title,requestor⟩ := Prod.mk.inj (buildDisplayModel_heading qt event)
  rw [title,requestor]
  unfold requested
  simp only
  split
  · next hidden =>
    rw [described_requestor]
    rcases Bool.or_eq_true_iff.mp hidden with nameless | duplicate
    · exact .inl ⟨List.isEmpty_iff.mp nameless,rfl⟩
    · obtain ⟨unlock,same⟩ := Bool.and_eq_true_iff.mp duplicate
      refine .inr (.inr ⟨rfl,unlockTarget qt event,(of_decide_eq_true same).symm,?_⟩)
      unfold described
      rw [of_decide_eq_true unlock]
  · exact .inr (.inl rfl)

end PromptModel

namespace Daemon

variable {id : QString} {source : Source}

-- Whatever prompt of a client a window is told to show, live or when it subscribes, it
-- names the process of the client whose message opened it, as the surroundings know it,
-- unless they know no name.
theorem requestor_displayed (qt : QtText) (inputs : List Input) (admitted : daemon.Admits inputs) (client : source ≠ .polkit)
    (shown : .sent window (.event (.created id source context)) ∈ (daemon.run inputs).trace) :
    ∃ early input late pid first retry, inputs = early ++ input :: late ∧ (daemon.run early).Asks input id source pid ∧
      .emitted (.created id source first) ∉ (daemon.run early).trace ∧
      .emitted (.created id source first) ∈ (daemon.step (daemon.run early) input).trace ∧
      context = ContextJson.recount first retry ∧
      let name := AssuanCodec.trimmed (input.env.resolveActorForPid pid).displayName
      let model := PromptModel.buildDisplayModel qt (.ofEvent id source context)
      name = [] ∧ model.requestor = [] ∨
      model.requestor = AssuanCodec.arg (text "Requested by %1") name ∨
      model.requestor = [] ∧ ∃ target, qt.foldCase target = qt.foldCase name ∧
        model.title = AssuanCodec.arg (text "Unlock %1") target := by
  obtain ⟨first,retry,opened,same⟩ := sent_announced (Machine.Admits.reached admitted) shown
  obtain ⟨early,input,late,pid,split,asks,before,after,requestor⟩ := requestors_genuine inputs admitted client opened
  have kept : context.requestor = first.requestor := by
    rw [same]
    cases retry <;> rfl
  have name : (SessionCreated.ofEvent id source context).requestorName = (input.env.resolveActorForPid pid).displayName :=
    congrArg RequestorJson.name (kept.trans requestor)
  refine ⟨early,input,late,pid,first,retry,split,asks,before,after,same,?_⟩
  simp only
  rw [← name]
  exact PromptModel.requestor_named qt _

-- A shell asks for a passphrase and calls itself something else, and a window comes
-- for the prompt.
def shellAsks : List Input :=
  [.quiet (.connected 30),
   .quiet (.connected 31),
   ⟨{Env.quiet with readActor:=fun pid => if pid = 30 then some {displayName:=text "sh"} else none},
    .message 0 (text "pinentry_request") (.ofList [(text "cookie",.string (text "p")),(text "prompt",.string (text "PIN")),
      (text "requestor",.string (text "gpg-agent"))])⟩,
   .say 1 "subscribe" []]

def letters : QtText := ⟨toLower,toLower,fun _ _ => none⟩

def shellContext : ContextJson :=
  { message := text "PIN"
    requestor := ⟨text "sh",[],[],none,some 30⟩
    curRetry := some 0
    maxRetries := some 3
    confirmOnly := some false
    repeated := some false }

theorem shellAsks_displayed :
    (PromptModel.buildDisplayModel letters (.ofEvent (text "p") .pinentry shellContext)).requestor = text "Requested by sh" ∧
    ∃ early input late pid first retry, shellAsks = early ++ input :: late ∧
      (daemon.run early).Asks input (text "p") .pinentry pid ∧
      .emitted (.created (text "p") .pinentry first) ∉ (daemon.run early).trace ∧
      .emitted (.created (text "p") .pinentry first) ∈ (daemon.step (daemon.run early) input).trace ∧
      shellContext = ContextJson.recount first retry ∧
      let name := AssuanCodec.trimmed (input.env.resolveActorForPid pid).displayName
      let model := PromptModel.buildDisplayModel letters (.ofEvent (text "p") .pinentry shellContext)
      name = [] ∧ model.requestor = [] ∨
      model.requestor = AssuanCodec.arg (text "Requested by %1") name ∨
      model.requestor = [] ∧ ∃ target, letters.foldCase target = letters.foldCase name ∧
        model.title = AssuanCodec.arg (text "Unlock %1") target :=
  ⟨by decide +kernel,requestor_displayed letters shellAsks (by decide +kernel) nofun
    (by decide +kernel : .sent 1 (.event (.created (text "p") .pinentry shellContext)) ∈ (daemon.run shellAsks).trace)⟩

end Daemon

end BbAuth
