import BbAuth.PinentryMode
import BbAuth.Library.Lines

open Library Library.Lines BbAuth.AssuanCodec
namespace BbAuth

def PinentryEffect.output : PinentryEffect → QString
  | .printed line => line
  | .received .. | .requested .. | .reported .. => []

def Whole (line : QString) : Prop := lineFeed ∉ line ∧ carriageReturn ∉ line

theorem Whole.append (front : Whole line) (back : Whole more) : Whole (line ++ more) := by
  constructor
  · intro inside
    exact (List.mem_append.mp inside).elim front.1 back.1
  · intro inside
    exact (List.mem_append.mp inside).elim front.2 back.2

instance (line : QString) : Decidable (Whole line) := inferInstanceAs (Decidable (_ ∧ _))

-- The line that ends the answer to a command.
def Final (line : QString) : Prop := text "OK" <+: line ∨ text "ERR" <+: line

-- The lines that one command is answered with.
structure Reply (block : List QString) : Prop where
  framed : ∃ data final, block = Option.toList data ++ [final] ∧ (∀ line ∈ data, text "D " <+: line) ∧ Final final
  whole : ∀ line ∈ block, Whole line

theorem encodeChar_whole (ch : QChar) : Whole (encodeChar ch) := by
  cases held : special ch with
  | false =>
    rw [encodeChar_plain held]
    constructor
    · intro inside
      cases List.mem_singleton.mp inside
      cases held
    · intro inside
      cases List.mem_singleton.mp inside
      cases held
  | true =>
    simp only [special,Bool.or_eq_true,decide_eq_true_eq] at held
    rcases held with (rfl | rfl) | rfl
    · decide
    · decide
    · decide

theorem assuanEncode_whole (s : QString) : Whole (assuanEncode s) := by
  constructor
  · intro inside
    obtain ⟨ch,_,found⟩ := List.mem_flatMap.mp inside
    exact (encodeChar_whole ch).1 found
  · intro inside
    obtain ⟨ch,_,found⟩ := List.mem_flatMap.mp inside
    exact (encodeChar_whole ch).2 found

def lineText (lines : List QString) : QString := lines.flatMap (fun line => line ++ [lineFeed])

theorem lineText_singleton (line : QString) : lineText [line] = line ++ text "\n" := List.flatMap_singleton _ line

theorem carve_lineText {lines : List QString} (whole : ∀ line ∈ lines, Whole line) : carve lineFeed (lineText lines) = (lines,[]) := by
  induction lines with
  | nil => rfl
  | cons line rest ih =>
    obtain ⟨here,others⟩ := List.forall_mem_cons.mp whole
    have split : lineText (line :: rest) = line ++ lineFeed :: lineText rest := by
      unfold lineText
      rw [List.flatMap_cons,List.append_assoc]
      rfl
    rw [split,carve_line here.1,ih others]

namespace PinentrySession

variable {s m t : PinentrySession} {lines more : List QString}

def output (s : PinentrySession) : QString := s.trace.reverse.flatMap PinentryEffect.output

-- From `s` to `t` these lines are printed, and the stream stays open.
structure Prints (s t : PinentrySession) (lines : List QString) : Prop where
  output : t.output = s.output ++ lineText lines
  closed : t.closed = s.closed

theorem prints_same (same : t.trace = s.trace) (closed : t.closed = s.closed) : Prints s t [] := by
  refine ⟨?_,closed⟩
  unfold PinentrySession.output
  rw [same]
  exact (List.append_nil _).symm

theorem Prints.trans (first : Prints s m lines) (later : Prints m t more) : Prints s t (lines ++ more) := by
  refine ⟨?_,later.closed.trans first.closed⟩
  unfold lineText
  rw [later.output,first.output,List.flatMap_append,List.append_assoc]
  rfl

theorem prints_log (s : PinentrySession) (effect : PinentryEffect) (said : effect.output = lineText lines) :
    Prints s (s.log effect) lines := by
  refine ⟨?_,rfl⟩
  unfold PinentrySession.output log
  rw [List.reverse_cons,List.flatMap_append,List.flatMap_singleton,said]

theorem silent_log (s : PinentrySession) (effect : PinentryEffect) (said : effect.output = []) : Prints s (s.log effect) [] :=
  prints_log s effect said

def okLine (comment : QString) : QString := if comment.isEmpty then text "OK" else text "OK " ++ comment

theorem prints_sendOk (s : PinentrySession) (comment : QString) : Prints s (s.sendOk comment) [okLine comment] := by
  apply prints_log
  unfold PinentryEffect.output okLine
  cases comment with
  | nil => rfl
  | cons c rest =>
    simp only [List.isEmpty_cons,Bool.false_eq_true,if_false]
    exact (lineText_singleton _).symm

theorem prints_sendData (s : PinentrySession) (data : QString) :
    Prints s (s.sendData data) [text "D " ++ assuanEncode data] := by
  apply prints_log
  exact (lineText_singleton _).symm

theorem prints_operationCancelled (s : PinentrySession) :
    Prints s s.operationCancelled [text "ERR 83886179 Operation cancelled"] := by
  apply prints_log
  decide

-- From `s` to `t` one answer is printed.
def Answers (s t : PinentrySession) : Prop := ∃ block, Reply block ∧ Prints s t block

theorem Answers.after (silent : Prints s m []) (answers : Answers m t) : Answers s t := by
  obtain ⟨block,reply,prints⟩ := answers
  exact ⟨block,reply,silent.trans prints⟩

theorem Answers.before (answers : Answers s m) (silent : Prints m t []) : Answers s t := by
  obtain ⟨block,reply,prints⟩ := answers
  have ended := prints.trans silent
  rw [List.append_nil] at ended
  exact ⟨block,reply,ended⟩

theorem Answers.clearError (answers : Answers s m) : Answers s m.clearError := answers.before (prints_same rfl rfl)

theorem final_okLine (comment : QString) : Final (okLine comment) := by
  unfold okLine
  split
  · exact .inl (List.prefix_refl _)
  · exact .inl ⟨text " " ++ comment,rfl⟩

theorem answers_sendOk (s : PinentrySession) (whole : Whole comment) : Answers s (s.sendOk comment) := by
  refine ⟨_,⟨⟨none,_,rfl,nofun,final_okLine comment⟩,?_⟩,prints_sendOk s comment⟩
  intro line present
  rw [List.mem_singleton.mp present]
  unfold okLine
  split
  · decide
  · exact Whole.append (by decide) whole

theorem answers_acknowledged (s : PinentrySession) : Answers s (s.sendOk []) := answers_sendOk s (by decide)

theorem answers_operationCancelled (s : PinentrySession) : Answers s s.operationCancelled :=
  ⟨_,⟨⟨none,_,rfl,nofun,.inr (by decide)⟩,by decide⟩,prints_operationCancelled s⟩

theorem answers_sendData (s : PinentrySession) (data : QString) : Answers s ((s.sendData data).sendOk []) := by
  refine ⟨_,⟨⟨some (text "D " ++ assuanEncode data),okLine [],rfl,?_,final_okLine []⟩,?_⟩,
    (prints_sendData s data).trans (prints_sendOk _ [])⟩
  · intro line present
    cases present
    exact List.prefix_append _ _
  · intro line present
    rcases List.mem_cons.mp present with rfl | last
    · exact Whole.append (by decide) (assuanEncode_whole data)
    · rw [List.mem_singleton.mp last]
      decide

theorem silent_reportTerminalResult (s : PinentrySession) (result error : QString) :
    Prints s (s.reportTerminalResult result error) [] := by
  unfold reportTerminalResult
  split
  · exact prints_same rfl rfl
  · have reported := silent_log s (.reported s.flowCookie result (resultRequest s.flowCookie result error)) rfl
    simp only
    split
    · exact reported.trans (prints_same rfl rfl)
    · exact reported.trans (prints_same rfl rfl)

theorem silent_finalizeOnStreamClose (s : PinentrySession) : Prints s s.finalizeOnStreamClose [] := by
  unfold finalizeOnStreamClose
  split
  · split
    · exact silent_reportTerminalResult s _ _
    · exact silent_reportTerminalResult s _ _
  split
  · exact prints_same rfl rfl
  split
  · exact silent_reportTerminalResult s _ _
  · exact silent_reportTerminalResult s _ _

theorem silent_ask (s : PinentrySession) (env : PinentryEnv) (request : PinentryState → QString → QJsonObject) (wanted : QString) :
    Prints s (s.ask env request wanted).1 [] := by
  have named : Prints s (s.ensureFlowCookie env) [] := by
    unfold ensureFlowCookie
    split
    · exact prints_same rfl rfl
    · exact prints_same rfl rfl
  have asked := named.trans (silent_log (s.ensureFlowCookie env)
    (.requested (s.ensureFlowCookie env).flowCookie (request (s.ensureFlowCookie env).state (s.ensureFlowCookie env).flowCookie)) rfl)
  unfold ask
  simp only
  split
  · exact asked.trans (prints_same rfl rfl)
  · exact asked.trans (prints_same rfl rfl)

theorem answers_handleGetInfo (s : PinentrySession) (env : PinentryEnv) (arg : QString) : Answers s (s.handleGetInfo env arg) := by
  unfold handleGetInfo
  simp only
  split
  · exact answers_sendData s _
  split
  · exact answers_sendData s _
  split
  · exact answers_sendData s _
  split
  · exact answers_sendData s _
  · exact answers_acknowledged s

-- A retry may be reported first. Then the daemon is asked, and whatever it says
-- there is one answer.
theorem answers_handleGetPin (s : PinentrySession) (env : PinentryEnv) : Answers s (s.handleGetPin env) := by
  have retried : Prints s (if s.awaitingTerminalResult then
      s.reportTerminalResult (text "retry") (orElse s.state.error (text "Authentication failed")) else s) [] := by
    split
    · exact silent_reportTerminalResult s _ _
    · exact prints_same rfl rfl
  unfold handleGetPin requestPasswordFromDaemon
  simp only
  generalize (if s.awaitingTerminalResult then
      s.reportTerminalResult (text "retry") (orElse s.state.error (text "Authentication failed")) else s) = m at retried
  apply Answers.clearError
  apply Answers.after (retried.trans (silent_ask m env passwordRequest (text "ok")))
  generalize m.ask env passwordRequest (text "ok") = asked
  obtain ⟨t,success⟩ := asked
  cases success with
  | false => exact answers_operationCancelled t
  | true =>
    simp only [if_true]
    split
    · exact answers_operationCancelled t
    · exact answers_sendData t _

theorem answers_handleConfirm (s : PinentrySession) (env : PinentryEnv) : Answers s (s.handleConfirm env) := by
  unfold handleConfirm requestConfirmFromDaemon
  simp only
  apply Answers.clearError
  apply Answers.after (silent_ask s env confirmRequest (text "confirmed"))
  split
  · exact answers_acknowledged _
  · exact answers_operationCancelled _

theorem answers_dispatch (s : PinentrySession) (env : PinentryEnv) (cmd arg : QString) : Answers s (s.dispatch env cmd arg).1 := by
  unfold dispatch
  split
  · exact (answers_sendOk _ (by decide)).after (silent_finalizeOnStreamClose s)
  split
  · exact answers_handleGetInfo s env arg
  split
  · exact answers_handleGetPin s env
  split
  · exact answers_handleConfirm s env
  · have assigned : Prints s {s with state:=assign s.state cmd arg} [] := prints_same rfl rfl
    exact (answers_acknowledged _).after assigned

theorem dispatch_more (s : PinentrySession) (env : PinentryEnv) (cmd arg : QString) :
    (s.dispatch env cmd arg).2 = !decide (cmd = text "BYE") := by
  unfold dispatch
  split
  · next bye => rw [decide_eq_true bye]; rfl
  · next other =>
    rw [decide_eq_false other]
    split
    · rfl
    split
    · rfl
    split
    · rfl
    · rfl

section

variable (toUpper : QString → QString)

-- The loop of run over the lines that getline reads, each with what surrounds
-- its handling.
def serve (s : PinentrySession) : List (PinentryEnv × QString) → PinentrySession
  | [] => s.step toUpper .endOfInput
  | (env,read) :: rest =>
    let s := s.step toUpper (.line env read)
    if s.closed then s else serve s rest

-- The commands of the lines that are not empty, up to and including BYE.
def commands : List (PinentryEnv × QString) → List (QString × QString)
  | [] => []
  | (env,read) :: rest =>
    match (PinentryInput.line env read).command toUpper with
    | none => commands rest
    | some (_,cmd,arg) => (cmd,arg) :: if cmd = text "BYE" then [] else commands rest

variable {toUpper} {env : PinentryEnv} {read cmd arg : QString}

theorem step_command (s : PinentrySession) (given : (PinentryInput.line env read).command toUpper = some (env,cmd,arg)) :
    (∃ block, Reply block ∧ (s.step toUpper (.line env read)).output = s.output ++ lineText block) ∧
      (s.step toUpper (.line env read)).closed = (decide (cmd = text "BYE") || s.closed) := by
  have more := dispatch_more (s.log (.received cmd arg)) env cmd arg
  obtain ⟨block,reply,prints⟩ := (answers_dispatch (s.log (.received cmd arg)) env cmd arg).after (silent_log s (.received cmd arg) rfl)
  unfold step handleCommand
  rw [given]
  simp only
  rw [more]
  by_cases bye : cmd = text "BYE"
  · have finished := prints.trans (silent_finalizeOnStreamClose _)
    rw [List.append_nil] at finished
    simp only [bye,decide_true,Bool.not_true,Bool.false_eq_true,if_false,Bool.true_or]
    rw [bye] at finished
    exact ⟨⟨block,reply,finished.output⟩,rfl⟩
  · simp only [bye,decide_false,Bool.not_false,if_true,Bool.false_or]
    exact ⟨⟨block,reply,prints.output⟩,prints.closed⟩

theorem step_empty (s : PinentrySession) (given : (PinentryInput.line env read).command toUpper = none) :
    s.step toUpper (.line env read) = s := by
  unfold step
  rw [given]

theorem command_env {found : PinentryEnv} (given : (PinentryInput.line env read).command toUpper = some (found,cmd,arg)) :
    found = env := by
  unfold PinentryInput.command at given
  simp only at given
  split at given
  · cases given
  · exact (Prod.mk.inj (Option.some.inj given)).1.symm

theorem serve_prints (lines : List (PinentryEnv × QString)) (s : PinentrySession) (still : s.closed = false) :
    ∃ blocks : List (List QString), blocks.length = (commands toUpper lines).length ∧ (∀ block ∈ blocks, Reply block) ∧
      (serve toUpper s lines).output = s.output ++ lineText blocks.flatten := by
  induction lines generalizing s with
  | nil => exact ⟨[],rfl,nofun,(silent_finalizeOnStreamClose s).output⟩
  | cons line rest ih =>
    obtain ⟨env,read⟩ := line
    unfold serve commands
    cases given : (PinentryInput.line env read).command toUpper with
    | none =>
      simp only
      rw [step_empty s given,still]
      exact ih s still
    | some command =>
      obtain ⟨found,cmd,arg⟩ := command
      cases command_env given
      obtain ⟨⟨block,reply,prints⟩,closed⟩ := step_command s given
      rw [still,Bool.or_false] at closed
      simp only
      rw [closed]
      by_cases bye : cmd = text "BYE"
      · simp only [bye,decide_true,if_true]
        refine ⟨[block],rfl,?_,?_⟩
        · intro other present
          exact List.mem_singleton.mp present ▸ reply
        · rw [List.flatten_singleton]
          exact prints
      · rw [decide_eq_false bye] at closed
        simp only [bye,decide_false,Bool.false_eq_true,if_false]
        obtain ⟨blocks,count,replies,printed⟩ := ih _ closed
        refine ⟨block :: blocks,by rw [List.length_cons,List.length_cons,count],List.forall_mem_cons.mpr ⟨reply,replies⟩,?_⟩
        rw [printed,prints,List.flatten_cons,List.append_assoc]
        unfold lineText
        rw [List.flatMap_append]

variable (toUpper)

-- The loop makes a run of the machine.
theorem serve_reached (lines : List (PinentryEnv × QString)) {s : PinentrySession} (path : (pinentry toUpper).Reached s)
    (still : s.closed = false) : (pinentry toUpper).Reached (serve toUpper s lines) := by
  induction lines generalizing s with
  | nil =>
    have allowed : (pinentry toUpper).enabled s .endOfInput := still
    exact path.step allowed
  | cons line rest ih =>
    have allowed : (pinentry toUpper).enabled s (.line line.1 line.2) := still
    have next : (pinentry toUpper).Reached (s.step toUpper (.line line.1 line.2)) := path.step allowed
    unfold serve
    simp only
    split
    · exact next
    · next more => exact ih next (Bool.eq_false_iff.mpr more)

def greeting : QString := text "OK BB Auth Pinentry"

-- The lines of the output, with nothing behind the last of them.
theorem output_framed (lines : List (PinentryEnv × QString)) :
    ∃ blocks : List (List QString), blocks.length = (commands toUpper lines).length ∧ (∀ block ∈ blocks, Reply block) ∧
      carve lineFeed (serve toUpper .initial lines).output = (greeting :: blocks.flatten,[]) := by
  obtain ⟨blocks,count,replies,printed⟩ := serve_prints lines .initial rfl
  refine ⟨blocks,count,replies,?_⟩
  have greeted : initial.output = lineText [greeting] := by decide
  have whole : ∀ line ∈ greeting :: blocks.flatten, Whole line := by
    intro line listed
    rcases List.mem_cons.mp listed with rfl | present
    · decide
    obtain ⟨block,among,inside⟩ := List.mem_flatten.mp present
    exact (replies block among).whole line inside
  rw [← carve_lineText whole,printed,greeted]
  unfold lineText
  rw [← List.flatMap_append]
  rfl

end

end PinentrySession

end BbAuth
