import BbAuth.ClientMirror
import BbAuth.ClientPruning
import BbAuth.Requestors
import BbAuth.WindowTyping

open Library
namespace BbAuth

-- What the user or a timer of the window does, as against what its client signals.
def WindowInput.own : WindowInput → Bool
  | .typed _ | .submit | .cancel | .close | .cleared | .idled => true
  | .connectionStateChanged _ | .providerStateChanged _ | .statusMessage _ | .sessionCreated .. | .sessionUpdated ..
  | .sessionClosed .. => false

-- The slot of the window that a signal of its client reaches. The object of an event
-- is read by what it was made of.
def ClientSignal.slot (qt : QtText) : ClientSignal → Option SessionEvent → Option WindowInput
  | .connectionStateChanged connected,_ => some (.connectionStateChanged connected)
  | .providerStateChanged active,_ => some (.providerStateChanged active)
  | .statusMessage status,_ => some (.statusMessage status)
  | .sessionCreated _,some (.created id source context) =>
    some (.sessionCreated id (context.confirmOnly.getD false) (PromptModel.buildDisplayModel qt (.ofEvent id source context)))
  | .sessionUpdated _,some (.updated id prompt _ _ error info) =>
    some (.sessionUpdated id prompt (info.getD []) (error.getD []))
  | .sessionClosed _,some (.closed id result error) =>
    some (.sessionClosed id (Session.resultToString result) (error.getD []))
  | _,_ => none

def WindowCall.move : WindowCall → Move
  | .sendResponse id response => .respond id response
  | .sendCancel id => .cancel id

def WindowCall.json : WindowCall → QJsonObject
  | .sendResponse id response => FallbackClient.respondJson id response
  | .sendCancel id => FallbackClient.cancelJson id

-- The daemon and the fallback program: its client with what is on the way between
-- them, and its window.
structure Station where
  hookup : Hookup
  desk : Desk := {}

inductive StationMove where
  | others (input : Input)
  | accept (env : Env)
  | deliver
  | watchdog
  | heartbeat
  | user (input : WindowInput)

namespace Station

-- What a move is to the daemon and the client, and what it is to the window.
def moves (s : Station) : StationMove → List Move
  | .others input => [.others input]
  | .accept env => [.accept env]
  | .deliver => [.deliver]
  | .watchdog => [.watchdog]
  | .heartbeat => [.heartbeat]
  | .user input => (s.desk.calls input).map WindowCall.move

def slots (qt : QtText) (s : Station) (message : Message) : List WindowInput :=
  (s.hookup.watch.client.handleMessage message.json).2.filterMap (·.slot qt message.session)

def inputs (qt : QtText) (socket : Socket) (s : Station) : StationMove → List WindowInput
  | .deliver => (s.hookup.incoming socket).head?.toList.flatMap (s.slots qt)
  | .user input => [input]
  | .others _ | .accept _ | .watchdog | .heartbeat => []

def step (qt : QtText) (quitOnLastWindowClosed : Bool) (socket : Socket) (s : Station) (move : StationMove) : Station where
  hookup := (s.moves move).foldl (Hookup.step socket) s.hookup
  desk := (s.inputs qt socket move).foldl (Desk.step quitOnLastWindowClosed) s.desk

def enabled (socket : Socket) (s : Station) : StationMove → Prop
  | .others input => s.hookup.possible socket (.others input)
  | .accept env => s.hookup.possible socket (.accept env)
  | .deliver => s.hookup.possible socket .deliver ∧ s.desk.exited = false
  | .watchdog | .heartbeat => s.desk.exited = false
  | .user input => input.own = true ∧ s.desk.enabled input

instance (socket : Socket) (s : Station) : (move : StationMove) → Decidable (s.enabled socket move)
  | .others input => inferInstanceAs (Decidable (s.hookup.possible socket (.others input)))
  | .accept env => inferInstanceAs (Decidable (s.hookup.possible socket (.accept env)))
  | .deliver => inferInstanceAs (Decidable (_ ∧ _))
  | .watchdog | .heartbeat => inferInstanceAs (Decidable (_ = _))
  | .user input => inferInstanceAs (Decidable (_ ∧ s.desk.enabled input))

end Station

def station (qt : QtText) (quitOnLastWindowClosed : Bool) (d : Daemon) (env : Env) (peerPid : Pid) :
    Machine Station StationMove where
  initial :=
    { hookup := (liaison d env peerPid {}).initial
      desk := ((FallbackClient.onConnected {}).2.filterMap (·.slot qt none)).foldl (Desk.step quitOnLastWindowClosed) {} }
  enabled := Station.enabled d.nextSocket
  step := Station.step qt quitOnLastWindowClosed d.nextSocket

instance (qt : QtText) (quitOnLastWindowClosed : Bool) (d : Daemon) (env : Env) (peerPid : Pid) (moves : List StationMove) :
    Decidable ((station qt quitOnLastWindowClosed d env peerPid).Admits moves) :=
  have (s : Station) (move : StationMove) :
      Decidable ((station qt quitOnLastWindowClosed d env peerPid).enabled s move) :=
    inferInstanceAs (Decidable (s.enabled d.nextSocket move))
  inferInstanceAs (Decidable (Machine.Every _ (station qt quitOnLastWindowClosed d env peerPid).enabled moves))

namespace FallbackWindow

variable {w v : FallbackWindow} {id : QString}

-- The window shows a prompt as buildDisplayModel made it, but for a title that a
-- later update gave it.
structure Presents (w : FallbackWindow) (confirmOnly : Bool) (model : PromptDisplayModel) : Prop where
  summary : w.summary = model.summary
  requestor : w.requestor = model.requestor
  details : w.details = model.details
  confirm : w.confirmOnly = confirmOnly
  title : w.title = model.title ∨ w.title = text "Verify Fingerprint" ∨ w.title = text "Use Security Key"

def Leads (w v : FallbackWindow) : Prop :=
  v.currentSessionId = [] ∨ v.currentSessionId = w.currentSessionId ∧
    ∀ confirmOnly model, w.Presents confirmOnly model → v.Presents confirmOnly model

theorem leads_same (current : v.currentSessionId = w.currentSessionId) (summary : v.summary = w.summary)
    (requestor : v.requestor = w.requestor) (details : v.details = w.details) (confirm : v.confirmOnly = w.confirmOnly)
    (title : v.title = w.title) : w.Leads v := by
  refine .inr ⟨current,fun confirmOnly model shown => ?_⟩
  exact ⟨summary.trans shown.summary,requestor.trans shown.requestor,details.trans shown.details,
    confirm.trans shown.confirm,title ▸ shown.title⟩

theorem leads_connection (w : FallbackWindow) (connected : Bool) : w.Leads (w.onConnectionStateChanged connected) := by
  unfold onConnectionStateChanged
  split
  · split
    · exact leads_same rfl rfl rfl rfl rfl rfl
    · exact leads_same rfl rfl rfl rfl rfl rfl
  · exact leads_same rfl rfl rfl rfl rfl rfl

theorem leads_provider (w : FallbackWindow) (active : Bool) : w.Leads (w.onProviderStateChanged active) := by
  cases active with
  | true => exact leads_same rfl rfl rfl rfl rfl rfl
  | false =>
    refine .inl ((startIdleExitTimer_current _).trans ?_)
    cases current : w.currentSessionId with
    | nil => exact current
    | cons => rfl

theorem leads_updated (w : FallbackWindow) (id prompt info error : QString) :
    w.Leads (w.onSessionUpdated id prompt info error) := by
  have kept : (w.onSessionUpdated id prompt info error).summary = w.summary ∧
      (w.onSessionUpdated id prompt info error).requestor = w.requestor ∧
      (w.onSessionUpdated id prompt info error).details = w.details ∧
      (w.onSessionUpdated id prompt info error).confirmOnly = w.confirmOnly := by
    unfold onSessionUpdated
    simp only [apply_ite summary,apply_ite requestor,apply_ite details,apply_ite confirmOnly,ite_self,and_self]
  have title : (w.onSessionUpdated id prompt info error).title = w.title ∨
      (w.onSessionUpdated id prompt info error).title = text "Verify Fingerprint" ∨
      (w.onSessionUpdated id prompt info error).title = text "Use Security Key" := by
    unfold onSessionUpdated
    simp only [apply_ite title,ite_self]
    split
    · exact .inl rfl
    · split
      · exact .inr (.inl rfl)
      · split
        · exact .inr (.inr rfl)
        · exact .inl rfl
  obtain ⟨summary,requestor,details,confirm⟩ := kept
  refine .inr ⟨(stays_updated w id prompt info error).1,fun confirmOnly model shown => ?_⟩
  refine ⟨summary.trans shown.summary,requestor.trans shown.requestor,details.trans shown.details,
    confirm.trans shown.confirm,?_⟩
  rcases title with same | given
  · rw [same]
    exact shown.title
  · exact .inr given

theorem leads_closed (w : FallbackWindow) (id result error : QString) : w.Leads (w.onSessionClosed id result error) := by
  unfold onSessionClosed
  split
  · exact leads_same rfl rfl rfl rfl rfl rfl
  · split
    · exact leads_same rfl rfl rfl rfl rfl rfl
    · split
      · exact .inl (startIdleExitTimer_current _)
      · exact leads_same rfl rfl rfl rfl rfl rfl

theorem leads_submit (w : FallbackWindow) : w.Leads w.onSubmit.1 := by
  unfold onSubmit
  split
  · exact leads_same rfl rfl rfl rfl rfl rfl
  · split
    · exact leads_same rfl rfl rfl rfl rfl rfl
    · exact leads_same rfl rfl rfl rfl rfl rfl

theorem leads_cancel (w : FallbackWindow) : w.Leads w.onCancel.1 := by
  unfold onCancel
  split
  · exact leads_same rfl rfl rfl rfl rfl rfl
  · exact leads_same rfl rfl rfl rfl rfl rfl

theorem created_presents (w : FallbackWindow) (confirmOnly : Bool) (model : PromptDisplayModel) (named : id.isEmpty = false) :
    (w.onSessionCreated id confirmOnly model).Presents confirmOnly model := by
  unfold onSessionCreated
  rw [named]
  exact ⟨rfl,rfl,rfl,rfl,.inl rfl⟩

end FallbackWindow

namespace Desk

theorem step_leads (quitOnLastWindowClosed : Bool) (s : Desk) (input : WindowInput)
    (other : ∀ id confirmOnly model, input ≠ .sessionCreated id confirmOnly model) :
    s.window.Leads (step quitOnLastWindowClosed s input).window := by
  cases input with
  | connectionStateChanged connected => exact FallbackWindow.leads_connection s.window connected
  | providerStateChanged active => exact FallbackWindow.leads_provider s.window active
  | statusMessage status => exact FallbackWindow.leads_same rfl rfl rfl rfl rfl rfl
  | sessionCreated id confirmOnly model => exact absurd rfl (other id confirmOnly model)
  | sessionUpdated id prompt info error => exact FallbackWindow.leads_updated s.window id prompt info error
  | sessionClosed id result error => exact FallbackWindow.leads_closed s.window id result error
  | typed content => exact FallbackWindow.leads_same rfl rfl rfl rfl rfl rfl
  | submit => exact FallbackWindow.leads_submit s.window
  | cancel => exact FallbackWindow.leads_cancel s.window
  | close => exact .inl (FallbackWindow.closeEvent_current s.window)
  | cleared => exact .inl (FallbackWindow.onCleared_current s.window)
  | idled => exact FallbackWindow.leads_same rfl rfl rfl rfl rfl rfl

-- The prompt on the window is one that its process was sent.
def Genuine (qt : QtText) (socket : Socket) (trace : List Effect) (s : Desk) : Prop :=
  s.window.currentSessionId = [] ∨ ∃ source context,
    .sent socket (.event (.created s.window.currentSessionId source context)) ∈ trace ∧
    s.window.Presents (context.confirmOnly.getD false)
      (PromptModel.buildDisplayModel qt (.ofEvent s.window.currentSessionId source context))

-- An input that brings a prompt brings one that was sent.
def Brings (qt : QtText) (socket : Socket) (trace : List Effect) (input : WindowInput) : Prop :=
  ∀ id confirmOnly model, input = .sessionCreated id confirmOnly model → ∃ source context,
    .sent socket (.event (.created id source context)) ∈ trace ∧ confirmOnly = context.confirmOnly.getD false ∧
    model = PromptModel.buildDisplayModel qt (.ofEvent id source context)

variable {qt : QtText} {trace : List Effect} {s : Desk}

theorem step_genuine (quitOnLastWindowClosed : Bool) (genuine : s.Genuine qt socket trace)
    (brings : Brings qt socket trace input) : (step quitOnLastWindowClosed s input).Genuine qt socket trace := by
  have leads (v : FallbackWindow) (leads : s.window.Leads v) (held : (step quitOnLastWindowClosed s input).window = v) :
      (step quitOnLastWindowClosed s input).Genuine qt socket trace := by
    unfold Genuine
    rw [held]
    rcases leads with none | ⟨same,presents⟩
    · exact .inl none
    · rw [same]
      rcases genuine with before | ⟨source,context,sent,shown⟩
      · exact .inl before
      · exact .inr ⟨source,context,sent,presents _ _ shown⟩
  by_cases other : ∀ id confirmOnly model, input ≠ .sessionCreated id confirmOnly model
  · exact leads _ (step_leads quitOnLastWindowClosed s input other) rfl
  · simp only [not_forall,not_not] at other
    obtain ⟨id,confirmOnly,model,rfl⟩ := other
    obtain ⟨source,context,sent,confirm,built⟩ := brings id confirmOnly model rfl
    cases named : id.isEmpty with
    | true => exact leads s.window (.inr ⟨rfl,fun _ _ shown => shown⟩) (FallbackWindow.onSessionCreated_unnamed _ _ _ named)
    | false =>
      have current := (FallbackWindow.onSessionCreated_shows s.window confirmOnly model named).1
      have presents := FallbackWindow.created_presents s.window confirmOnly model named
      refine .inr ⟨source,context,?_,?_⟩
      · change Effect.sent socket (.event (.created (s.window.onSessionCreated id confirmOnly model).currentSessionId _ _)) ∈ _
        rw [current]
        exact sent
      · change (s.window.onSessionCreated id confirmOnly model).Presents _ (PromptModel.buildDisplayModel qt
          (.ofEvent (s.window.onSessionCreated id confirmOnly model).currentSessionId _ _))
        rw [current,← confirm,← built]
        exact presents

theorem inputs_genuine (quitOnLastWindowClosed : Bool) (inputs : List WindowInput) (genuine : s.Genuine qt socket trace)
    (brings : ∀ input ∈ inputs, Brings qt socket trace input) :
    (inputs.foldl (step quitOnLastWindowClosed) s).Genuine qt socket trace := by
  induction inputs generalizing s with
  | nil => exact genuine
  | cons input rest ih =>
    exact ih (step_genuine quitOnLastWindowClosed genuine (brings input List.mem_cons_self))
      (fun other present => brings other (List.mem_cons_of_mem _ present))

theorem Genuine.mono {newer : List Effect} (genuine : s.Genuine qt socket trace) (grown : ∀ effect ∈ trace, effect ∈ newer) :
    s.Genuine qt socket newer := by
  rcases genuine with none | ⟨source,context,sent,shown⟩
  · exact .inl none
  · exact .inr ⟨source,context,grown _ sent,shown⟩

end Desk

end BbAuth
