import BbAuth.FlowCookies
import BbAuth.Library.LastWrite
import BbAuth.PinentryPrompts
import BbAuth.PinentryReports
import BbAuth.Requestors

open Library
namespace BbAuth

-- A command as a write to the texts of the prompt. RESET clears them all.
def writeOf (cmd arg : QString) : Write QString QString := if cmd = text "RESET" then .clear else .set cmd arg

def PinentryInput.writes (toUpper : QString → QString) (input : PinentryInput) : List (Write QString QString) :=
  match input.command toUpper with
  | none => []
  | some (_,cmd,arg) => [writeOf cmd arg]

-- The text that gpg-agent gave a command when it last sent it, unless it reset since.
def lastSet (toUpper : QString → QString) (cmd : String) (inputs : List PinentryInput) : QString :=
  lastWrite (text cmd) [] (inputs.flatMap (PinentryInput.writes toUpper))

namespace PinentrySession

variable {s : PinentrySession} {env : PinentryEnv} {cmd arg : QString} {cookie : QString} {request : QJsonObject}

-- The commands that set the texts of a prompt which the daemon is told.
inductive Sets : String → (PinentryState → QString) → Prop where
  | description : Sets "SETDESC" PinentryState.description
  | prompt : Sets "SETPROMPT" PinentryState.prompt
  | keyinfo : Sets "SETKEYINFO" PinentryState.keyinfo
  | repeat_ : Sets "SETREPEAT" PinentryState.repeat_

theorem assign_set (sets : Sets name field) (state : PinentryState) (cmd arg : QString) :
    field (assign state cmd arg) = (writeOf cmd arg).apply (text name) [] (field state) := by
  by_cases reset : cmd = text "RESET"
  · subst reset
    cases sets <;> rfl
  have write : writeOf cmd arg = .set cmd arg := if_neg reset
  rw [write,Write.apply]
  by_cases set : cmd = text name
  · subst set
    rw [if_pos rfl]
    cases sets <;> rfl
  rw [if_neg set]
  unfold assign
  cases sets with
  | description => simp only [set,reset,if_false,apply_ite PinentryState.description,ite_self]
  | prompt => simp only [set,reset,if_false,apply_ite PinentryState.prompt,ite_self]
  | keyinfo => simp only [set,reset,if_false,apply_ite PinentryState.keyinfo,ite_self]
  | repeat_ => simp only [set,reset,if_false,apply_ite PinentryState.repeat_,ite_self]

def Alike (state other : PinentryState) : Prop := ∃ error, other = {state with error}

theorem Alike.set {state other : PinentryState} (alike : Alike state other) (sets : Sets name field) :
    field other = field state := by
  obtain ⟨error,rfl⟩ := alike
  cases sets <;> rfl

theorem reportTerminalResult_state (s : PinentrySession) (result error : QString) :
    (s.reportTerminalResult result error).state = s.state := by
  unfold reportTerminalResult
  split
  · rfl
  · simp only
    split <;> rfl

theorem finalize_state (s : PinentrySession) : s.finalizeOnStreamClose.state = s.state := by
  unfold finalizeOnStreamClose
  split
  · split <;> exact reportTerminalResult_state s _ _
  · split
    · rfl
    · split <;> exact reportTerminalResult_state s _ _

theorem ask_state (s : PinentrySession) (env : PinentryEnv) (request : PinentryState → QString → QJsonObject)
    (wanted : QString) : (s.ask env request wanted).1.state = s.state := by
  have named : (s.ensureFlowCookie env).state = s.state := by
    unfold ensureFlowCookie
    split <;> rfl
  unfold ask
  simp only
  split
  · exact named
  · exact named

theorem retried_state (s : PinentrySession) : s.retried.state = s.state := by
  unfold retried
  split
  · exact reportTerminalResult_state s _ _
  · rfl

theorem getPin_alike (s : PinentrySession) (env : PinentryEnv) : Alike s.state (s.handleGetPin env).state := by
  unfold handleGetPin
  simp only
  have asked := (ask_state s.retried env passwordRequest (text "ok")).trans (retried_state s)
  rw [retried_if,← asked]
  unfold requestPasswordFromDaemon
  generalize s.retried.ask env passwordRequest (text "ok") = result
  obtain ⟨t,success⟩ := result
  cases success with
  | false => exact ⟨[],rfl⟩
  | true =>
    simp only [if_true]
    split <;> exact ⟨[],rfl⟩

theorem confirm_alike (s : PinentrySession) (env : PinentryEnv) : Alike s.state (s.handleConfirm env).state := by
  unfold handleConfirm requestConfirmFromDaemon
  rw [← ask_state s env confirmRequest (text "confirmed")]
  generalize s.ask env confirmRequest (text "confirmed") = result
  obtain ⟨t,success⟩ := result
  cases success <;> exact ⟨[],rfl⟩

theorem getInfo_state (s : PinentrySession) (env : PinentryEnv) (arg : QString) :
    (s.handleGetInfo env arg).state = s.state := by
  unfold handleGetInfo
  simp only
  repeat' split
  all_goals rfl

theorem handleCommand_alike (s : PinentrySession) (env : PinentryEnv) (cmd arg : QString) :
    Alike (assign s.state cmd arg) (s.handleCommand env cmd arg).1.state := by
  have unchanged (known : cmd = text "GETPIN" ∨ cmd = text "CONFIRM" ∨ cmd = text "GETINFO" ∨ cmd = text "BYE") :
      assign s.state cmd arg = (s.log (.received cmd arg)).state := by
    rcases known with rfl | rfl | rfl | rfl <;> rfl
  unfold handleCommand dispatch
  split
  · next bye =>
    rw [unchanged (.inr (.inr (.inr bye)))]
    exact ⟨_,finalize_state _⟩
  · split
    · next info =>
      rw [unchanged (.inr (.inr (.inl info)))]
      exact ⟨_,getInfo_state _ env arg⟩
    · split
      · next getPin =>
        rw [unchanged (.inl getPin)]
        exact getPin_alike _ env
      · split
        · next confirm =>
          rw [unchanged (.inr (.inl confirm))]
          exact confirm_alike _ env
        · exact ⟨_,rfl⟩

theorem step_set (toUpper : QString → QString) (sets : Sets name field) (s : PinentrySession) (input : PinentryInput) :
    field (s.step toUpper input).state =
      (input.writes toUpper).foldl (Write.apply (text name) []) (field s.state) := by
  have closed (s : PinentrySession) : s.close.state = s.state := finalize_state s
  cases input with
  | endOfInput => exact congrArg field (closed s)
  | line env read =>
    unfold step PinentryInput.writes
    simp only
    cases (PinentryInput.line env read).command toUpper with
    | none => rfl
    | some command =>
      obtain ⟨env,cmd,arg⟩ := command
      have handled := (handleCommand_alike s env cmd arg).set sets
      simp only [List.foldl_cons,List.foldl_nil]
      rw [← assign_set sets,← handled]
      split
      · rfl
      · exact congrArg field (closed _)

theorem run_set (toUpper : QString → QString) (sets : Sets name field) (inputs : List PinentryInput) :
    field ((pinentry toUpper).run inputs).state = lastSet toUpper name inputs := by
  apply Machine.run_lastWrite (pinentry toUpper) (fun s => field s.state) (PinentryInput.writes toUpper)
  · cases sets <;> rfl
  · exact step_set toUpper sets

-- The daemon was asked nothing in between.
def Unasking (s t : PinentrySession) : Prop :=
  ∀ cookie request, .requested cookie request ∈ t.trace → .requested cookie request ∈ s.trace

theorem Unasking.trans {s m t : PinentrySession} (first : Unasking s m) (second : Unasking m t) : Unasking s t :=
  fun cookie request present => first cookie request (second cookie request present)

theorem unasking_same {s t : PinentrySession} (same : t.trace = s.trace) : Unasking s t := fun _ _ present => same ▸ present

theorem unasking_log (s : PinentrySession) (effect : PinentryEffect)
    (other : ∀ cookie request, effect ≠ .requested cookie request) :
    Unasking s (s.log effect) := by
  intro cookie request present
  rcases List.mem_cons.mp present with now | before
  · exact absurd now.symm (other cookie request)
  · exact before

theorem unasking_sendOk (s : PinentrySession) (comment : QString) : Unasking s (s.sendOk comment) :=
  unasking_log s _ (fun _ _ => nofun)

theorem unasking_sendData (s : PinentrySession) (data : QString) : Unasking s (s.sendData data) :=
  unasking_log s _ (fun _ _ => nofun)

theorem unasking_cancelled (s : PinentrySession) : Unasking s s.operationCancelled := unasking_log s _ (fun _ _ => nofun)

theorem unasking_report (s : PinentrySession) (result error : QString) : Unasking s (s.reportTerminalResult result error) := by
  have logged := unasking_log s (.reported s.flowCookie result (resultRequest s.flowCookie result error)) (fun _ _ => nofun)
  unfold reportTerminalResult
  split
  · exact unasking_same rfl
  · simp only
    split
    · exact logged
    · exact logged

theorem unasking_retried (s : PinentrySession) : Unasking s s.retried := by
  unfold retried
  split
  · exact unasking_report s _ _
  · exact unasking_same rfl

theorem unasking_finalize (s : PinentrySession) : Unasking s s.finalizeOnStreamClose := by
  unfold finalizeOnStreamClose
  split
  · split <;> exact unasking_report s _ _
  · split
    · exact unasking_same rfl
    · split <;> exact unasking_report s _ _

theorem unasking_getInfo (s : PinentrySession) (env : PinentryEnv) (arg : QString) : Unasking s (s.handleGetInfo env arg) := by
  unfold handleGetInfo
  simp only
  refine Unasking.trans ?_ (unasking_sendOk _ _)
  repeat' split
  · exact unasking_sendData s _
  · exact unasking_sendData s _
  · exact unasking_sendData s _
  · exact unasking_sendData s _
  · exact unasking_same rfl

theorem ask_asks (s : PinentrySession) (env : PinentryEnv) (form : PinentryState → QString → QJsonObject) (wanted : QString)
    (present : .requested cookie request ∈ (s.ask env form wanted).1.trace) :
    .requested cookie request ∈ s.trace ∨ (cookie ≠ [] ∧ request = form s.state cookie) := by
  have named : (s.ensureFlowCookie env).trace = s.trace ∧ (s.ensureFlowCookie env).state = s.state ∧
      (s.ensureFlowCookie env).flowCookie ≠ [] := by
    unfold ensureFlowCookie
    split
    · exact ⟨rfl,rfl,env.uuid_nonempty⟩
    · next filled => exact ⟨rfl,rfl,mt List.isEmpty_iff.mpr filled⟩
  have logged : .requested cookie request ∈ ((s.ensureFlowCookie env).log
      (.requested (s.ensureFlowCookie env).flowCookie
        (form (s.ensureFlowCookie env).state (s.ensureFlowCookie env).flowCookie))).trace := by
    unfold ask at present
    simp only at present
    split at present
    · exact present
    · exact present
  rcases List.mem_cons.mp logged with now | before
  · injection now with sameCookie sameRequest
    rw [sameRequest,sameCookie,named.2.1]
    exact .inr ⟨named.2.2,rfl⟩
  · rw [named.1] at before
    exact .inl before

theorem getPin_asks (s : PinentrySession) (env : PinentryEnv)
    (present : .requested cookie request ∈ (s.handleGetPin env).trace) :
    .requested cookie request ∈ s.trace ∨ (cookie ≠ [] ∧ request = passwordRequest s.state cookie) := by
  unfold handleGetPin at present
  simp only at present
  rw [retried_if] at present
  have asked (early : .requested cookie request ∈ (s.retried.ask env passwordRequest (text "ok")).1.trace) :
      .requested cookie request ∈ s.trace ∨ (cookie ≠ [] ∧ request = passwordRequest s.state cookie) := by
    rcases ask_asks s.retried env passwordRequest (text "ok") early with before | now
    · exact .inl (unasking_retried s cookie request before)
    · rw [retried_state] at now
      exact .inr now
  apply asked
  unfold requestPasswordFromDaemon at present
  generalize s.retried.ask env passwordRequest (text "ok") = result at present ⊢
  obtain ⟨t,success⟩ := result
  cases success with
  | false => exact unasking_cancelled t cookie request present
  | true =>
    simp only [if_true] at present
    split at present
    · exact unasking_cancelled t cookie request present
    · exact ((unasking_sendData t _).trans (unasking_sendOk _ _)) cookie request present

theorem confirm_asks (s : PinentrySession) (env : PinentryEnv)
    (present : .requested cookie request ∈ (s.handleConfirm env).trace) :
    .requested cookie request ∈ s.trace ∨ (cookie ≠ [] ∧ request = confirmRequest s.state cookie) := by
  apply ask_asks s env confirmRequest (text "confirmed")
  unfold handleConfirm requestConfirmFromDaemon at present
  generalize s.ask env confirmRequest (text "confirmed") = result at present ⊢
  obtain ⟨t,success⟩ := result
  cases success with
  | false => exact unasking_cancelled t cookie request present
  | true => exact unasking_sendOk t [] cookie request present

-- What a command asks the daemon for.
def Wants (state : PinentryState) (cookie : QString) (request : QJsonObject) (cmd : QString) : Prop :=
  cookie ≠ [] ∧ (cmd = text "GETPIN" ∧ request = passwordRequest state cookie ∨
    cmd = text "CONFIRM" ∧ request = confirmRequest state cookie)

theorem handleCommand_asks (s : PinentrySession) (env : PinentryEnv) (cmd arg : QString)
    (present : .requested cookie request ∈ (s.handleCommand env cmd arg).1.trace) :
    .requested cookie request ∈ s.trace ∨ Wants s.state cookie request cmd := by
  have received := unasking_log s (.received cmd arg) (fun _ _ => nofun)
  unfold handleCommand dispatch at present
  split at present
  · exact .inl (received cookie request ((unasking_finalize _).trans (unasking_sendOk _ _) cookie request present))
  · split at present
    · exact .inl (received cookie request (unasking_getInfo _ env arg cookie request present))
    · split at present
      · next getPin =>
        exact (getPin_asks _ env present).imp (received cookie request) (fun now => ⟨now.1,.inl ⟨getPin,now.2⟩⟩)
      · split at present
        · next confirm =>
          exact (confirm_asks _ env present).imp (received cookie request) (fun now => ⟨now.1,.inr ⟨confirm,now.2⟩⟩)
        · exact .inl (received cookie request (unasking_sendOk _ _ cookie request present))

theorem step_asks (toUpper : QString → QString) (s : PinentrySession) (input : PinentryInput)
    (present : .requested cookie request ∈ (s.step toUpper input).trace) :
    .requested cookie request ∈ s.trace ∨
      ∃ env cmd arg, input.command toUpper = some (env,cmd,arg) ∧ Wants s.state cookie request cmd := by
  have closed (s : PinentrySession) : Unasking s s.close := unasking_finalize s
  cases input with
  | endOfInput => exact .inl (closed s cookie request present)
  | line env read =>
    unfold step at present
    simp only at present
    split at present
    · exact .inl present
    · next env cmd arg given =>
      have handled : .requested cookie request ∈ (s.handleCommand env cmd arg).1.trace := by
        split at present
        · exact present
        · exact closed _ cookie request present
      exact (handleCommand_asks s env cmd arg handled).imp_right (fun wants => ⟨env,cmd,arg,given,wants⟩)

theorem run_asks (toUpper : QString → QString) (inputs : List PinentryInput) (admitted : (pinentry toUpper).Admits inputs)
    (present : .requested cookie request ∈ ((pinentry toUpper).run inputs).trace) :
    ∃ early input late env cmd arg, inputs = early ++ input :: late ∧ input.command toUpper = some (env,cmd,arg) ∧
      .requested cookie request ∉ ((pinentry toUpper).run early).trace ∧
      .requested cookie request ∈ (((pinentry toUpper).run early).step toUpper input).trace ∧
      Wants ((pinentry toUpper).run early).state cookie request cmd := by
  have start : ¬.requested cookie request ∈ (pinentry toUpper).initial.trace := by
    intro begun
    cases List.mem_singleton.mp begun
  obtain ⟨early,input,late,split,_,before,after⟩ := Machine.brought_about
    (fun s : PinentrySession => .requested cookie request ∈ s.trace) admitted start present
  rcases step_asks toUpper _ input after with old | ⟨env,cmd,arg,given,wants⟩
  · exact absurd old before
  · exact ⟨early,input,late,env,cmd,arg,split,given,before,after,wants⟩

end PinentrySession

-- What a session.created shows of the pinentry_request that it goes back to.
structure ContextJson.Shows (context : ContextJson) (msg : QJsonObject) : Prop where
  message : context.message = PinentrySession.orElse (msg.value (text "prompt")).toString (text "Enter passphrase:")
  description : context.description = unlessEmpty (msg.value (text "description")).toString
  keyinfo : context.keyinfo = unlessEmpty (msg.value (text "keyinfo")).toString
  repeated : context.repeated = some (msg.value (text "repeat")).toBool
  confirmOnly : context.confirmOnly = some (msg.value (text "confirm_only")).toBool

namespace Daemon

variable {id : QString}

theorem presents_pinentry (d : Daemon) (input : Input) (presents : Core.Presents (d.action input) id .pinentry context) :
    ∃ socket msg, input.kind = .pinentryRequest socket msg ∧ input.env.effectiveCookie msg = id ∧
      (Session.contextToJson {id,source:=.pinentry,context}).Shows msg := by
  obtain ⟨pid,asks,_⟩ := presents_asks d input presents nofun
  cases asks with
  | @pinentry socket msg kind named =>
    unfold action at presents
    rw [kind] at presents
    obtain ⟨_,_,retry,same⟩ := presents
    subst same
    exact ⟨socket,msg,kind,named,rfl,rfl,rfl,rfl,rfl⟩

theorem pinentry_shown (admitted : daemon.Admits inputs)
    (shown : .sent window (.event (.created id .pinentry context)) ∈ (daemon.run inputs).trace) :
    ∃ input ∈ inputs, ∃ socket msg, input.kind = .pinentryRequest socket msg ∧ input.env.effectiveCookie msg = id ∧
      context.Shows msg := by
  obtain ⟨first,retry,opened,same⟩ := sent_announced (Machine.Admits.reached admitted) shown
  obtain ⟨early,input,late,split,allowed,before,after⟩ :=
    Machine.brought_about (fun d : Daemon => .emitted (.created id .pinentry first) ∈ d.trace) admitted
      List.not_mem_nil opened
  have kept : Effect.emitted (.created id .pinentry first) ∈
      (daemon.step (daemon.runFrom daemon.initial early) input).core.history :=
    List.mem_filter.mpr ⟨after,rfl⟩
  rcases Core.acts_presents (acts_step _ input allowed) kept with old | ⟨opened,presents,made⟩
  · exact absurd (List.mem_of_mem_filter old) before
  · obtain ⟨socket,msg,kind,named,shows⟩ := presents_pinentry _ input presents
    refine ⟨input,?_,socket,msg,kind,named,?_⟩
    · rw [split]
      exact List.mem_append_right _ List.mem_cons_self
    · rw [← made] at shows
      rw [same]
      cases retry with
      | none => exact shows
      | some retry => exact ⟨shows.message,shows.description,shows.keyinfo,shows.repeated,shows.confirmOnly⟩

end Daemon

namespace PinentrySession

theorem orElse_orElse (s : QString) {default : QString} (other : QString) (filled : default.isEmpty = false) :
    orElse (orElse s default) other = orElse s default := by
  unfold orElse
  cases empty : s.isEmpty with
  | true => simp only [if_true,filled,Bool.false_eq_true,if_false]
  | false => simp only [Bool.false_eq_true,if_false,empty]

variable {context : ContextJson} {state : PinentryState} {id : QString}

theorem password_keyinfo (state : PinentryState) (cookie : QString) :
    ((passwordRequest state cookie).value (text "keyinfo")).toString = state.keyinfo := by
  unfold passwordRequest
  simp only [List.cons_append,List.nil_append,value_cons]
  have others : ¬text "keyinfo" = text "type" ∧ ¬text "keyinfo" = text "cookie" ∧ ¬text "keyinfo" = text "title" ∧
    ¬text "keyinfo" = text "prompt" ∧ ¬text "keyinfo" = text "description" ∧ ¬text "keyinfo" = text "repeat" := by decide
  obtain ⟨type,cookie,title,prompt,description,repeat_⟩ := others
  rw [if_neg type,if_neg cookie,if_neg title,if_neg prompt,if_neg description,if_neg repeat_]
  have last : ((QJsonObject.ofList (if state.keyinfo.isEmpty then [] else [(text "keyinfo",.string state.keyinfo)])).value
      (text "keyinfo")).toString = state.keyinfo := by
    split
    · next empty =>
      rw [List.isEmpty_iff.mp empty]
      rfl
    · rw [value_cons,if_pos rfl]
      rfl
  split
  · exact last
  · rw [List.cons_append,List.nil_append,value_cons,if_neg (show ¬text "keyinfo" = text "error" by decide)]
    exact last

theorem password_shows (shows : context.Shows (passwordRequest state cookie)) :
    context.message = orElse state.prompt (text "Enter passphrase:") ∧ context.description = unlessEmpty state.description ∧
    context.keyinfo = unlessEmpty state.keyinfo ∧ context.repeated = some (!state.repeat_.isEmpty) ∧
    context.confirmOnly = some false := by
  obtain ⟨message,description,keyinfo,repeated,confirmOnly⟩ := shows
  rw [password_keyinfo] at keyinfo
  rw [RequestCall.password_flag] at confirmOnly
  unfold passwordRequest at message description repeated
  simp only [List.cons_append,List.nil_append,value_cons] at message description repeated
  exact ⟨message.trans (orElse_orElse state.prompt _ (by decide)),description,keyinfo,repeated,confirmOnly⟩

theorem confirm_shows (shows : context.Shows (confirmRequest state cookie)) :
    context.message = orElse state.description (text "Please confirm") ∧ context.description = none ∧
    context.keyinfo = none ∧ context.repeated = some false ∧ context.confirmOnly = some true := by
  obtain ⟨message,description,keyinfo,repeated,confirmOnly⟩ := shows
  unfold confirmRequest at message description keyinfo repeated confirmOnly
  simp only [value_cons] at message description keyinfo repeated confirmOnly
  exact ⟨message.trans (orElse_orElse state.description _ (by decide)),description,keyinfo,repeated,confirmOnly⟩

theorem wants_cookie (wants : Wants state cookie request cmd) (env : Env) : env.effectiveCookie request = cookie := by
  obtain ⟨filled,⟨_,same⟩ | ⟨_,same⟩⟩ := wants
  · subst same
    exact effectiveCookie_named env cookie filled (cookie_member _ _ _)
  · subst same
    exact effectiveCookie_named env cookie filled (cookie_member _ _ _)

-- What any window is shown of a pinentry flow, live or when it subscribes, is what
-- gpg-agent had set when it asked: the last texts before the GETPIN or the CONFIRM
-- whose request went out under this id, as long as all such requests come from this
-- pinentry.
theorem texts_shown (toUpper : QString → QString) (lines : List PinentryInput) (spoken : (pinentry toUpper).Admits lines)
    (inputs : List Input) (admitted : daemon.Admits inputs)
    (own : ∀ input ∈ inputs, ∀ socket msg, input.kind = .pinentryRequest socket msg →
      input.env.effectiveCookie msg = id → ∃ cookie, .requested cookie msg ∈ ((pinentry toUpper).run lines).trace)
    (shown : .sent window (.event (.created id .pinentry context)) ∈ (daemon.run inputs).trace) :
    ∃ early input late env cmd arg msg, lines = early ++ input :: late ∧ input.command toUpper = some (env,cmd,arg) ∧
      .requested id msg ∉ ((pinentry toUpper).run early).trace ∧
      .requested id msg ∈ (((pinentry toUpper).run early).step toUpper input).trace ∧
      let set name := lastSet toUpper name early
      (cmd = text "GETPIN" ∧ context.message = orElse (set "SETPROMPT") (text "Enter passphrase:") ∧
        context.description = unlessEmpty (set "SETDESC") ∧ context.keyinfo = unlessEmpty (set "SETKEYINFO") ∧
        context.repeated = some (!(set "SETREPEAT").isEmpty) ∧ context.confirmOnly = some false ∨
      cmd = text "CONFIRM" ∧ context.message = orElse (set "SETDESC") (text "Please confirm") ∧
        context.description = none ∧ context.keyinfo = none ∧ context.repeated = some false ∧
        context.confirmOnly = some true) := by
  obtain ⟨asked,present,socket,msg,kind,named,shows⟩ := Daemon.pinentry_shown admitted shown
  obtain ⟨cookie,requested⟩ := own asked present socket msg kind named
  obtain ⟨early,input,late,env,cmd,arg,split,given,before,after,wants⟩ := run_asks toUpper lines spoken requested
  rw [wants_cookie wants asked.env] at named
  subst named
  refine ⟨early,input,late,env,cmd,arg,msg,split,given,before,after,?_⟩
  simp only
  rw [← run_set toUpper .description early,← run_set toUpper .prompt early,← run_set toUpper .keyinfo early,
    ← run_set toUpper .repeat_ early]
  rcases wants with ⟨_,⟨getPin,same⟩ | ⟨confirm,same⟩⟩
  · subst same
    exact .inl ⟨getPin,password_shows shows⟩
  · subst same
    exact .inr ⟨confirm,confirm_shows shows⟩

def setTwice : List PinentryInput :=
  [say "SETDESC Unlock%20A" [],
   say "SETDESC Unlock%20B" [],
   say "SETPROMPT PIN:" [],
   say "GETPIN" [("type","pinentry_response"),("result","ok"),("password","1234")]]

def requestB : QJsonObject := passwordRequest {description:=text "Unlock B",prompt:=text "PIN:"} (text "u")

def shownLate : List Input :=
  [.quiet (.connected 7),
   .quiet (.message 0 (text "pinentry_request") requestB),
   .quiet (.connected 8),
   .say 1 "subscribe" []]

def contextB : ContextJson :=
  { message := text "PIN:"
    requestor := ⟨[],[],[],none,some 7⟩
    description := some (text "Unlock B")
    curRetry := some 0
    maxRetries := some 3
    confirmOnly := some false
    repeated := some false }

theorem setTwice_asks : .requested (text "u") requestB ∈ ((pinentry toUpper).run setTwice).trace := by
  apply List.mem_of_getElem? (i := 2)
  rfl

theorem setTwice_shown :
    ∃ early input late env cmd arg msg, setTwice = early ++ input :: late ∧ input.command toUpper = some (env,cmd,arg) ∧
      .requested (text "u") msg ∉ ((pinentry toUpper).run early).trace ∧
      .requested (text "u") msg ∈ (((pinentry toUpper).run early).step toUpper input).trace ∧
      let set name := lastSet toUpper name early
      (cmd = text "GETPIN" ∧ contextB.message = orElse (set "SETPROMPT") (text "Enter passphrase:") ∧
        contextB.description = unlessEmpty (set "SETDESC") ∧ contextB.keyinfo = unlessEmpty (set "SETKEYINFO") ∧
        contextB.repeated = some (!(set "SETREPEAT").isEmpty) ∧ contextB.confirmOnly = some false ∨
      cmd = text "CONFIRM" ∧ contextB.message = orElse (set "SETDESC") (text "Please confirm") ∧
        contextB.description = none ∧ contextB.keyinfo = none ∧ contextB.repeated = some false ∧
        contextB.confirmOnly = some true) := by
  have sent : .sent 1 (.event (.created (text "u") .pinentry contextB)) ∈ (daemon.run shownLate).trace := by decide +kernel
  refine texts_shown toUpper setTwice (by decide +kernel) shownLate (by decide +kernel) ?_ sent
  intro input present socket msg kind _
  simp only [shownLate,List.mem_cons,List.not_mem_nil,or_false] at present
  rcases present with rfl | rfl | rfl | rfl
  · cases kind
  · cases kind
    exact ⟨_,setTwice_asks⟩
  · cases kind
  · cases kind

end PinentrySession

end BbAuth
