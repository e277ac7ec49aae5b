import BbAuth.PinentryMode

open Library BbAuth.AssuanCodec
namespace BbAuth

-- What became of the last GETPIN or CONFIRM of a flow: it waits for its answer,
-- was answered with OK or with ERR, or was answered with OK and then objected to.
inductive Prompt where
  | asked
  | answered
  | refused
  | contested
  deriving DecidableEq, Repr

def Prompt.hear (line : QString) : Prompt → Prompt
  | .asked => if (text "OK").isPrefixOf line then .answered else if (text "ERR").isPrefixOf line then .refused else .asked
  | other => other

def Prompt.command (cmd arg : QString) : Prompt → Prompt
  | .answered => if cmd = text "SETERROR" ∧ arg ≠ [] then .contested else .answered
  | other => other

def lastPrompt (cookie : QString) : List PinentryEffect → Option Prompt
  | [] => none
  | .requested other _ :: rest => if other = cookie then some .asked else lastPrompt cookie rest
  | .printed line :: rest => (lastPrompt cookie rest).map (Prompt.hear line)
  | .received cmd arg :: rest => (lastPrompt cookie rest).map (Prompt.command cmd arg)
  | .reported .. :: rest => lastPrompt cookie rest

-- Success is only reported for a flow whose last prompt was answered, and not
-- objected to.
def Honest : List PinentryEffect → Prop
  | [] => True
  | .reported cookie result _ :: rest =>
    (result = text "success" → lastPrompt cookie rest = some .answered) ∧ Honest rest
  | _ :: rest => Honest rest

instance decidableHonest : (trace : List PinentryEffect) → Decidable (Honest trace)
  | [] => isTrue trivial
  | .reported .. :: rest =>
    have := decidableHonest rest
    inferInstanceAs (Decidable ((_ → _) ∧ _))
  | .received .. :: rest | .printed _ :: rest | .requested .. :: rest => decidableHonest rest

theorem hear_settled {prompt : Prompt} (settled : prompt ≠ .asked) (line : QString) : prompt.hear line = prompt := by
  cases prompt with
  | asked => exact absurd rfl settled
  | answered | refused | contested => rfl

theorem command_settled {prompt : Prompt} (settled : prompt ≠ .asked) (cmd arg : QString) : prompt.command cmd arg ≠ .asked := by
  cases prompt with
  | asked => exact absurd rfl settled
  | answered => simp only [Prompt.command]; split <;> nofun
  | refused | contested => nofun

theorem command_other (prompt : Prompt) (other : cmd ≠ text "SETERROR") (arg : QString) : prompt.command cmd arg = prompt := by
  cases prompt with
  | answered => exact if_neg (fun both => other both.1)
  | asked | refused | contested => rfl

theorem printed_prompt {cookie : QString} {trace : List PinentryEffect} {prompt : Prompt}
    (held : lastPrompt cookie trace = some prompt) (settled : prompt ≠ .asked)
    (line : QString) : lastPrompt cookie (.printed line :: trace) = some prompt := by
  change (lastPrompt cookie trace).map (Prompt.hear line) = _
  rw [held,Option.map_some,hear_settled settled]

theorem received_prompt {cookie cmd arg : QString} {trace : List PinentryEffect} {prompt : Prompt}
    (held : lastPrompt cookie trace = some prompt) :
    lastPrompt cookie (.received cmd arg :: trace) = some (prompt.command cmd arg) := by
  change (lastPrompt cookie trace).map (Prompt.command cmd arg) = _
  rw [held]
  rfl

namespace PinentrySession

variable {s t : PinentrySession} {env : PinentryEnv} {cmd arg : QString}

def prompt (s : PinentrySession) : Option Prompt := lastPrompt s.flowCookie s.trace

-- A flow that waits for its terminal result has a prompt that got its answer,
-- and one with an error has not got away with OK.
def Sound (s : PinentrySession) : Prop :=
  s.awaitingTerminalResult = true →
    s.flowCookie ≠ [] ∧ ∃ prompt, s.prompt = some prompt ∧ prompt ≠ .asked ∧ (s.state.error ≠ [] → prompt ≠ .answered)

-- Honest so far, and also if the stream is closed now.
structure Clear (s : PinentrySession) : Prop where
  honest : Honest s.trace
  settled : s.awaitingTerminalResult = true → s.state.error = [] → s.prompt = some .answered

theorem reportTerminalResult_honest (honest : Honest s.trace) (result error : QString)
    (vouched : result = text "success" → s.flowCookie ≠ [] → s.prompt = some .answered) :
    Honest (s.reportTerminalResult result error).trace := by
  unfold reportTerminalResult
  split
  · exact honest
  · next named =>
    have named : s.flowCookie ≠ [] := fun empty => named (List.isEmpty_iff.mpr empty)
    simp only
    split <;> exact ⟨fun same => vouched same named,honest⟩

theorem finalize_honest (clear : Clear s) : Honest s.finalizeOnStreamClose.trace := by
  unfold finalizeOnStreamClose
  split
  · next awaiting =>
    split
    · next none =>
      exact reportTerminalResult_honest clear.honest _ _
        (fun _ _ => clear.settled awaiting (List.isEmpty_iff.mp none))
    · exact reportTerminalResult_honest clear.honest _ _ (fun same => absurd same (by decide))
  · split
    · exact clear.honest
    · split <;> exact reportTerminalResult_honest clear.honest _ _ (fun same => absurd same (by decide))

-- Closing a flow without an error that waits for its result reports success.
theorem finalize_success (awaiting : s.awaitingTerminalResult = true) (none : s.state.error = [])
    (named : s.flowCookie ≠ []) (honest : Honest s.finalizeOnStreamClose.trace) : s.prompt = some .answered := by
  have open_ : s.flowCookie.isEmpty = false := Bool.eq_false_iff.mpr (fun empty => named (List.isEmpty_iff.mp empty))
  simp only [finalizeOnStreamClose,awaiting,none,reportTerminalResult,open_,List.isEmpty_nil,if_true,if_false,
    Bool.false_eq_true] at honest
  exact honest.1 rfl

theorem clear_iff (sound : Sound s) (honest : Honest s.trace) : Clear s ↔ Honest s.finalizeOnStreamClose.trace :=
  ⟨finalize_honest,fun closed => ⟨honest,fun awaiting none => finalize_success awaiting none (sound awaiting).1 closed⟩⟩

structure Acknowledges (s : PinentrySession) (cmd arg : QString) (t : PinentrySession) : Prop where
  state : t.state = assign s.state cmd arg
  flowCookie : t.flowCookie = s.flowCookie
  awaiting : t.awaitingTerminalResult = s.awaitingTerminalResult
  closed : t.closed = s.closed
  honest : Honest s.trace → Honest t.trace
  prompt : ∀ prompt, s.prompt = some prompt → prompt ≠ .asked → t.prompt = some (prompt.command cmd arg)

theorem assign_other (state : PinentryState) (arg : QString) (known : cmd = text "GETINFO" ∨ cmd = text "BYE") :
    assign state cmd arg = state := by
  rcases known with rfl | rfl <;> rfl

theorem handleGetInfo_acknowledges (s : PinentrySession) (env : PinentryEnv) (arg : QString) :
    Acknowledges s (text "GETINFO") arg ((s.log (.received (text "GETINFO") arg)).handleGetInfo env arg) := by
  have data (line : QString) :
      Acknowledges s (text "GETINFO") arg (((s.log (.received (text "GETINFO") arg)).sendData line).sendOk []) :=
    ⟨(assign_other _ _ (.inl rfl)).symm,rfl,rfl,rfl,id,fun prompt held settled =>
      have settled := command_settled settled (text "GETINFO") arg
      printed_prompt (printed_prompt (received_prompt held) settled _) settled _⟩
  unfold handleGetInfo
  simp only
  repeat' split
  · exact data _
  · exact data _
  · exact data _
  · exact data _
  · exact ⟨(assign_other _ _ (.inl rfl)).symm,rfl,rfl,rfl,id,fun prompt held settled =>
      printed_prompt (received_prompt held) (command_settled settled _ arg) _⟩

theorem assign_acknowledges (s : PinentrySession) (cmd arg : QString) :
    Acknowledges s cmd arg ({s.log (.received cmd arg) with state:=assign s.state cmd arg}.sendOk []) where
  state := rfl
  flowCookie := rfl
  awaiting := rfl
  closed := rfl
  honest := id
  prompt _ held settled := printed_prompt (received_prompt held) (command_settled settled cmd arg) _

-- RESET and an empty SETERROR take back an error that was set after the answer.
def takesBack (s : PinentrySession) (cmd arg : QString) : Prop :=
  s.awaitingTerminalResult = true ∧ s.state.error ≠ [] ∧ (cmd = text "RESET" ∨ cmd = text "SETERROR" ∧ arg = [])

theorem assign_error (state : PinentryState) (cmd arg : QString) :
    (assign state cmd arg).error =
      if cmd = text "SETERROR" then arg else if cmd = text "RESET" then [] else state.error := by
  by_cases set : cmd = text "SETERROR"
  · subst set; rfl
  by_cases reset : cmd = text "RESET"
  · subst reset; rfl
  unfold assign
  simp only [set,reset,if_false,apply_ite PinentryState.error,ite_self]

theorem acknowledges_sound (sound : Sound s) (acknowledges : Acknowledges s cmd arg t) : Sound t := by
  intro awaiting
  rw [acknowledges.awaiting] at awaiting
  obtain ⟨named,prompt,held,settled,spoilt⟩ := sound awaiting
  refine ⟨acknowledges.flowCookie ▸ named,_,acknowledges.prompt prompt held settled,command_settled settled _ _,?_⟩
  rw [acknowledges.state,assign_error]
  intro error
  split at error
  · next set =>
    cases prompt with
    | asked => exact absurd rfl settled
    | answered => simp [Prompt.command,set,error]
    | refused | contested => nofun
  · next other =>
    rw [command_other prompt other]
    split at error
    · exact absurd rfl error
    · exact spoilt error

theorem acknowledges_clear (sound : Sound s) (clear : Clear s) (acknowledges : Acknowledges s cmd arg t) :
    Clear t ↔ ¬s.takesBack cmd arg := by
  have error := acknowledges.state ▸ assign_error s.state cmd arg
  constructor
  · rintro later ⟨awaiting,spoiling,cleared⟩
    obtain ⟨named,prompt,held,settled,spoilt⟩ := sound awaiting
    have answered := later.settled (acknowledges.awaiting.trans awaiting) (by
      rw [error]
      rcases cleared with rfl | ⟨rfl,rfl⟩ <;> rfl)
    rw [acknowledges.prompt prompt held settled] at answered
    have kept : prompt.command cmd arg = prompt := by
      cases prompt with
      | answered => exact absurd rfl (spoilt spoiling)
      | asked | refused | contested => rfl
    exact spoilt spoiling (kept ▸ Option.some.inj answered)
  · intro kept
    refine ⟨acknowledges.honest clear.honest,?_⟩
    intro awaiting none
    rw [acknowledges.awaiting] at awaiting
    obtain ⟨named,prompt,held,settled,spoilt⟩ := sound awaiting
    rw [acknowledges.prompt prompt held settled]
    rw [error] at none
    have before : s.state.error = [] := by
      by_contra spoiling
      refine kept ⟨awaiting,spoiling,?_⟩
      split at none
      · next set => exact .inr ⟨set,none⟩
      · split at none
        · next reset => exact .inl reset
        · exact absurd none spoiling
    have answered := held.symm.trans (clear.settled awaiting before)
    cases answered
    exact congrArg some (if_neg (fun both => both.2 (by rw [if_pos both.1] at none; exact none)))

theorem idle_clear (idle : s.awaitingTerminalResult = false) (honest : Honest s.trace) : Sound s ∧ Clear s :=
  ⟨fun awaiting => (nomatch idle.symm.trans awaiting),honest,fun awaiting => (nomatch idle.symm.trans awaiting)⟩

-- Where a granted request leaves a flow, before it is answered.
structure Asked (t : PinentrySession) : Prop where
  awaiting : t.awaitingTerminalResult = true
  named : t.flowCookie ≠ []
  prompt : t.prompt = some .asked
  honest : Honest t.trace

theorem ask_granted (honest : Honest s.trace) (request : PinentryState → QString → QJsonObject)
    (granted : responseResult env.reply = some wanted) :
    ∃ t, s.ask env request wanted = (t,true) ∧ Asked t := by
  unfold ask
  simp only [granted,if_true]
  refine ⟨_,rfl,rfl,?_,?_,?_⟩
  · change (s.ensureFlowCookie env).flowCookie ≠ []
    unfold ensureFlowCookie
    split
    · exact env.uuid_nonempty
    · next named => exact fun empty => named (List.isEmpty_iff.mpr empty)
  · exact if_pos rfl
  · change Honest (s.ensureFlowCookie env).trace
    unfold ensureFlowCookie
    split <;> exact honest

theorem ask_denied (honest : Honest s.trace) (request : PinentryState → QString → QJsonObject)
    (denied : responseResult env.reply ≠ some wanted) :
    ∃ t, s.ask env request wanted = (t,false) ∧ t.awaitingTerminalResult = false ∧ Honest t.trace := by
  unfold ask
  simp only [denied,if_false]
  refine ⟨_,rfl,rfl,?_⟩
  change Honest (s.ensureFlowCookie env).trace
  unfold ensureFlowCookie
  split <;> exact honest

theorem Asked.ok (asked : Asked t) : Sound (t.sendOk []).clearError ∧ Clear (t.sendOk []).clearError := by
  have answered : (t.sendOk []).clearError.prompt = some .answered := congrArg (Option.map (Prompt.hear _)) asked.prompt
  exact ⟨fun _ => ⟨asked.named,_,answered,nofun,fun error => absurd rfl error⟩,asked.honest,fun _ _ => answered⟩

theorem Asked.data (asked : Asked t) (data : QString) : Asked (t.sendData data) where
  awaiting := asked.awaiting
  named := asked.named
  prompt := congrArg (Option.map (Prompt.hear _)) asked.prompt
  honest := asked.honest

theorem Asked.err (asked : Asked t) :
    Sound t.operationCancelled.clearError ∧ ¬Clear t.operationCancelled.clearError := by
  have refused : t.operationCancelled.clearError.prompt = some .refused :=
    congrArg (Option.map (Prompt.hear _)) asked.prompt
  refine ⟨fun _ => ⟨asked.named,_,refused,nofun,nofun⟩,?_⟩
  intro clear
  exact nomatch refused.symm.trans (clear.settled asked.awaiting rfl)

theorem denied_clear (idle : t.awaitingTerminalResult = false) (honest : Honest t.trace) :
    Sound t.operationCancelled.clearError ∧ Clear t.operationCancelled.clearError := idle_clear idle honest

-- The daemon says ok, but the password it sends is empty.
def emptyHanded (env : PinentryEnv) : Prop :=
  responseResult env.reply = some (text "ok") ∧ responsePassword env.reply = []

theorem handleGetPin_clear (honest : Honest s.trace) (env : PinentryEnv) :
    Sound (s.handleGetPin env) ∧ (Clear (s.handleGetPin env) ↔ ¬emptyHanded env) := by
  unfold handleGetPin
  simp only
  -- The retry of an earlier prompt is no report of a success.
  generalize begun : (if s.awaitingTerminalResult then
    s.reportTerminalResult (text "retry") (orElse s.state.error (text "Authentication failed")) else s) = m
  have honest : Honest m.trace := by
    rw [← begun]
    split
    · exact reportTerminalResult_honest honest _ _ (fun same => absurd same (by decide))
    · exact honest
  unfold requestPasswordFromDaemon
  by_cases granted : responseResult env.reply = some (text "ok")
  · obtain ⟨t,asks,asked⟩ := ask_granted honest passwordRequest granted
    simp only [asks,if_true]
    by_cases none : responsePassword env.reply = []
    · simp only [none,List.isEmpty_nil,if_true]
      exact ⟨asked.err.1,fun clear => absurd clear asked.err.2,fun full => absurd ⟨granted,none⟩ full⟩
    · have full : (responsePassword env.reply).isEmpty = false :=
        Bool.eq_false_iff.mpr (fun empty => none (List.isEmpty_iff.mp empty))
      simp only [full,if_false,Bool.false_eq_true]
      have ok := (asked.data (responsePassword env.reply)).ok
      exact ⟨ok.1,fun _ empty => none empty.2,fun _ => ok.2⟩
  · obtain ⟨t,asks,idle,honest⟩ := ask_denied honest passwordRequest granted
    simp only [asks,if_false,Bool.false_eq_true]
    have clear := denied_clear idle honest
    exact ⟨clear.1,fun _ empty => granted empty.1,fun _ => clear.2⟩

theorem handleConfirm_clear (honest : Honest s.trace) (env : PinentryEnv) :
    Sound (s.handleConfirm env) ∧ Clear (s.handleConfirm env) := by
  unfold handleConfirm requestConfirmFromDaemon
  by_cases granted : responseResult env.reply = some (text "confirmed")
  · obtain ⟨t,asks,asked⟩ := ask_granted honest confirmRequest granted
    simp only [asks,if_true]
    exact asked.ok
  · obtain ⟨t,asks,idle,honest⟩ := ask_denied honest confirmRequest granted
    simp only [asks,if_false,Bool.false_eq_true]
    exact denied_clear idle honest

theorem reportTerminalResult_ended (result error : QString) (last : result ≠ text "retry")
    (named : s.flowCookie.isEmpty = false) :
    (s.reportTerminalResult result error).awaitingTerminalResult = false ∧
      (s.reportTerminalResult result error).flowCookie = [] := by
  unfold reportTerminalResult
  simp only [named,last,if_false,Bool.false_eq_true]
  exact ⟨rfl,rfl⟩

theorem finalize_ended (sound : Sound s) :
    s.finalizeOnStreamClose.awaitingTerminalResult = false ∧ s.finalizeOnStreamClose.flowCookie = [] := by
  unfold finalizeOnStreamClose
  split
  · next awaiting =>
    have named : s.flowCookie.isEmpty = false :=
      Bool.eq_false_iff.mpr (fun empty => (sound awaiting).1 (List.isEmpty_iff.mp empty))
    split <;> exact reportTerminalResult_ended _ _ (by decide) named
  · next idle =>
    split
    · next empty => exact ⟨Bool.eq_false_iff.mpr idle,List.isEmpty_iff.mp empty⟩
    · next named => split <;> exact reportTerminalResult_ended _ _ (by decide) (Bool.eq_false_iff.mpr named)

theorem close_clear (sound : Sound s) (clear : Clear s) : Sound s.close ∧ Clear s.close := by
  have ended := finalize_ended sound
  exact idle_clear (s := s.close) ended.1 (finalize_honest clear)

theorem bye_clear (sound : Sound s) (clear : Clear s) :
    Sound (s.finalizeOnStreamClose.sendOk (text "closing connection")).close ∧
      Clear (s.finalizeOnStreamClose.sendOk (text "closing connection")).close := by
  have said := idle_clear (s := s.finalizeOnStreamClose.sendOk (text "closing connection")) (finalize_ended sound).1
    (finalize_honest clear)
  exact close_clear said.1 said.2

-- A command after which a success can be reported that nobody granted.
def misleads (s : PinentrySession) (env : PinentryEnv) (cmd arg : QString) : Prop :=
  cmd = text "GETPIN" ∧ emptyHanded env ∨ s.takesBack cmd arg

theorem handleCommand_clear (sound : Sound s) (clear : Clear s) (env : PinentryEnv) (cmd arg : QString) :
    let (t,more) := s.handleCommand env cmd arg
    let e := if more then t else t.close
    Sound e ∧ (Clear e ↔ ¬s.misleads env cmd arg) := by
  have kept (other : cmd ≠ text "RESET" ∧ cmd ≠ text "SETERROR") : ¬s.takesBack cmd arg :=
    fun back => back.2.2.elim other.1 (fun set => other.2 set.1)
  unfold handleCommand dispatch misleads
  by_cases bye : cmd = text "BYE"
  · subst bye
    have said : Acknowledges s (text "BYE") arg (s.log (.received (text "BYE") arg)) :=
      ⟨(assign_other _ _ (.inr rfl)).symm,rfl,rfl,rfl,id,fun _ held _ => received_prompt held⟩
    have fine := kept ⟨by decide,by decide⟩
    have ended := bye_clear (acknowledges_sound sound said) ((acknowledges_clear sound clear said).mpr fine)
    simp only [if_true,Bool.false_eq_true,if_false]
    exact ⟨ended.1,fun _ misled => misled.elim (fun pin => absurd pin.1 (by decide)) fine,fun _ => ended.2⟩
  by_cases info : cmd = text "GETINFO"
  · subst info
    have said := handleGetInfo_acknowledges s env arg
    have fine := kept ⟨by decide,by decide⟩
    simp only [bye,if_false,if_true]
    exact ⟨acknowledges_sound sound said,fun _ misled => misled.elim (fun pin => absurd pin.1 (by decide)) fine,
      fun _ => (acknowledges_clear sound clear said).mpr fine⟩
  by_cases pin : cmd = text "GETPIN"
  · subst pin
    have fine := kept ⟨by decide,by decide⟩
    have got := handleGetPin_clear (s := s.log (.received (text "GETPIN") arg)) clear.honest env
    simp only [bye,info,if_false,if_true]
    refine ⟨got.1,got.2.trans (not_congr ⟨fun empty => .inl ⟨trivial,empty⟩,?_⟩)⟩
    intro misled
    exact misled.elim And.right (fun back => absurd back fine)
  by_cases confirm : cmd = text "CONFIRM"
  · subst confirm
    have fine := kept ⟨by decide,by decide⟩
    have got := handleConfirm_clear (s := s.log (.received (text "CONFIRM") arg)) clear.honest env
    simp only [bye,info,pin,if_false,if_true]
    exact ⟨got.1,fun _ misled => misled.elim (fun asked => asked.1.elim) fine,fun _ => got.2⟩
  have said := assign_acknowledges s cmd arg
  simp only [bye,info,pin,confirm,if_false,if_true,false_and,false_or]
  exact ⟨acknowledges_sound sound said,acknowledges_clear sound clear said⟩

-- Honest so far, and also if the stream is closed now.
def Trustworthy (s : PinentrySession) : Prop := Honest s.trace ∧ Honest s.close.trace

theorem trustworthy_iff (sound : Sound s) : Trustworthy s ↔ Clear s :=
  ⟨fun trustworthy => (clear_iff sound trustworthy.1).mpr trustworthy.2,
    fun clear => ⟨clear.honest,finalize_honest clear⟩⟩

def forgives (toUpper : QString → QString) (s : PinentrySession) (input : PinentryInput) : Prop :=
  match input.command toUpper with
  | none => False
  | some (env,cmd,arg) => s.misleads env cmd arg

theorem step_clear (toUpper : QString → QString) (sound : Sound s) (clear : Clear s) (input : PinentryInput) :
    Sound (s.step toUpper input) ∧ (Clear (s.step toUpper input) ↔ ¬s.forgives toUpper input) := by
  cases input with
  | endOfInput =>
    have closed := close_clear sound clear
    exact ⟨closed.1,fun _ => not_false,fun _ => closed.2⟩
  | line env read =>
    unfold step forgives
    simp only
    cases PinentryInput.command toUpper (.line env read) with
    | none => exact ⟨sound,fun _ => not_false,fun _ => clear⟩
    | some command =>
      obtain ⟨env,cmd,arg⟩ := command
      exact handleCommand_clear sound clear env cmd arg

theorem initial_clear : Sound initial ∧ Clear initial := idle_clear rfl trivial

-- A run of the program reports success only for answered and uncontested
-- prompts, wherever its input ends, exactly when it is never handed an empty
-- password for a GETPIN, and no error that was set after an answer is taken back.
theorem reports_trustworthy_iff (toUpper : QString → QString) (inputs : List PinentryInput)
    (admitted : (pinentry toUpper).Admits inputs) :
    (pinentry toUpper).Always Trustworthy inputs ↔
      (pinentry toUpper).Every (fun s input => ¬s.forgives toUpper input) inputs := by
  refine Machine.carried_iff (P := Sound) (fun s input sound trustworthy _ => ?_) initial_clear.1
    ((trustworthy_iff initial_clear.1).mpr initial_clear.2) admitted
  obtain ⟨later,exact⟩ := step_clear toUpper sound ((trustworthy_iff sound).mp trustworthy) input
  exact ⟨later,(trustworthy_iff later).trans exact⟩

instance (env : PinentryEnv) : Decidable (emptyHanded env) := inferInstanceAs (Decidable (_ ∧ _))

instance (s : PinentrySession) (cmd arg : QString) : Decidable (s.takesBack cmd arg) := inferInstanceAs (Decidable (_ ∧ _))

instance (s : PinentrySession) (env : PinentryEnv) (cmd arg : QString) : Decidable (s.misleads env cmd arg) :=
  inferInstanceAs (Decidable (_ ∨ _))

instance (toUpper : QString → QString) (s : PinentrySession) (input : PinentryInput) :
    Decidable (s.forgives toUpper input) := by
  unfold forgives
  exact match input.command toUpper with
  | none => isFalse id
  | some (_,_,_) => inferInstanceAs (Decidable (misleads ..))

instance (toUpper : QString → QString) (s : PinentrySession) (input : PinentryInput) :
    Decidable ((pinentry toUpper).enabled s input) := inferInstanceAs (Decidable (s.closed = false))

instance (toUpper : QString → QString) (inputs : List PinentryInput) : Decidable ((pinentry toUpper).Admits inputs) :=
  inferInstanceAs (Decidable ((pinentry toUpper).Every (pinentry toUpper).enabled inputs))

def say (line : String) (reply : List (String × String)) : PinentryInput :=
  let response := QJsonObject.ofList (reply.map (fun field => (text field.1,.string (text field.2))))
  .line {uuid:=text "u",uuid_nonempty:=by decide,reply:=some response,pid:=1} (text line)

def granted : List PinentryInput :=
  [say "SETPROMPT PIN" [],
   say "GETPIN" [("type","pinentry_response"),("result","ok"),("password","1234")],
   say "BYE" []]

theorem granted_trustworthy : (pinentry toUpper).Always Trustworthy granted :=
  (reports_trustworthy_iff toUpper granted (by decide +kernel)).mpr (by decide +kernel)

-- The user sends an empty password: gpg-agent gets ERR, the daemon a success.
def sentNothing : List PinentryInput :=
  [say "GETPIN" [("type","pinentry_response"),("result","ok"),("password","")],say "BYE" []]

-- gpg-agent objects to the password, and starts over before it closes.
def objectedAndReset : List PinentryInput :=
  [say "GETPIN" [("type","pinentry_response"),("result","ok"),("password","1234")],
   say "SETERROR Bad PIN" [],say "RESET" [],say "BYE" []]

theorem success_unearned :
    ((pinentry toUpper).Admits sentNothing ∧ ¬Honest ((pinentry toUpper).run sentNothing).trace) ∧
    (pinentry toUpper).Admits objectedAndReset ∧ ¬Honest ((pinentry toUpper).run objectedAndReset).trace := by
  decide +kernel

end PinentrySession

end BbAuth
