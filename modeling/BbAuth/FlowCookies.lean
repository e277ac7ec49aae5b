import BbAuth.PinentryMode

open Library
namespace BbAuth

-- What the program sends to the daemon, each over a connection of its own, and
-- the answer, unless the daemon cannot be reached or says nothing.
inductive Dealing where
  | request (cookie : QString) (reply : Option QJsonObject)
  | report (cookie result : QString) (reply : Option QJsonObject)

namespace Dealing

def cookie : Dealing → QString
  | .request cookie _ => cookie
  | .report cookie _ _ => cookie

def terminal : Dealing → Bool
  | .request .. => false
  | .report _ result _ => result = text "success" || result = text "cancelled" || result = text "error"

-- The daemon answered a result, with anything but ok or confirmed.
def refused : Option QJsonObject → Bool
  | none => false
  | some response =>
    (response.value (text "type")).toString ≠ text "ok" && (response.value (text "type")).toString ≠ text "confirmed"

-- A request without an answer counts as declined, as it does for the program.
def declined : Dealing → Bool
  | .request _ reply =>
    PinentrySession.responseResult reply ≠ some (text "ok") && PinentrySession.responseResult reply ≠ some (text "confirmed")
  | .report _ _ reply => refused reply

def ends (dealing : Dealing) : Bool := dealing.terminal || dealing.declined

theorem ends_iff (dealing : Dealing) : dealing.ends = true ↔ dealing.terminal = true ∨ dealing.declined = true :=
  Bool.or_eq_true_iff

def ofEffect (reply acknowledged : Option QJsonObject) : PinentryEffect → Option Dealing
  | .requested cookie _ => some (.request cookie reply)
  | .reported cookie result _ => some (.report cookie result acknowledged)
  | .received .. | .printed _ => none

end Dealing

def PinentryInput.reply : PinentryInput → Option QJsonObject
  | .line env _ => env.reply
  | .endOfInput => none

-- An input with the daemon's answer to the result that the program reports
-- while it handles it; there is at most one.
structure PinentryTurn where
  input : PinentryInput
  acknowledged : Option QJsonObject := none

-- The program with its dealings so far, the latest first.
structure PinentryTalk where
  session : PinentrySession := .initial
  dealings : List Dealing := []

namespace PinentryTalk

def step (toUpper : QString → QString) (t : PinentryTalk) (turn : PinentryTurn) : PinentryTalk :=
  let session := t.session.step toUpper turn.input
  let effects := session.trace.take (session.trace.length - t.session.trace.length)
  ⟨session,effects.filterMap (Dealing.ofEffect turn.input.reply turn.acknowledged) ++ t.dealings⟩

-- QUuid creates no identifier that was the cookie of an earlier flow.
def distinct (t : PinentryTalk) (input : PinentryInput) : Prop :=
  match input with
  | .line env _ => ∀ dealing ∈ t.dealings, dealing.cookie ≠ env.uuid
  | .endOfInput => True

def enabled (t : PinentryTalk) (turn : PinentryTurn) : Prop := t.session.closed = false ∧ t.distinct turn.input

end PinentryTalk

def pinentryTalk (toUpper : QString → QString) : Machine PinentryTalk PinentryTurn where
  initial := {}
  enabled := PinentryTalk.enabled
  step := PinentryTalk.step toUpper

namespace PinentrySession

variable {s m t : PinentrySession} {ds es fs : List Dealing} {reply acknowledged : Option QJsonObject} {env : PinentryEnv}
  {ended : Dealing → Bool}

-- The dealings, after `ds`, that some steps of the program amount to.
def Deals (reply acknowledged : Option QJsonObject) (s : PinentrySession) (ds : List Dealing) (t : PinentrySession)
    (es : List Dealing) : Prop :=
  ∃ effects, t.trace = effects ++ s.trace ∧ es = effects.filterMap (Dealing.ofEffect reply acknowledged) ++ ds

theorem Deals.trans (first : Deals reply acknowledged s ds m es) (second : Deals reply acknowledged m es t fs) :
    Deals reply acknowledged s ds t fs := by
  obtain ⟨before,reached,dealt⟩ := first
  obtain ⟨after,ends,later⟩ := second
  refine ⟨after ++ before,?_,?_⟩
  · rw [ends,reached,List.append_assoc]
  · rw [later,dealt,List.filterMap_append,List.append_assoc]

structure Quiet (s t : PinentrySession) : Prop where
  cookie : t.flowCookie = s.flowCookie
  awaiting : t.awaitingTerminalResult = s.awaitingTerminalResult
  dealt : ∀ reply acknowledged ds, Deals reply acknowledged s ds t ds

theorem quiet_same (cookie : t.flowCookie = s.flowCookie) (awaiting : t.awaitingTerminalResult = s.awaitingTerminalResult)
    (trace : t.trace = s.trace) : Quiet s t := ⟨cookie,awaiting,fun _ _ _ => ⟨[],trace,rfl⟩⟩

theorem Quiet.trans (first : Quiet s m) (second : Quiet m t) : Quiet s t where
  cookie := second.cookie.trans first.cookie
  awaiting := second.awaiting.trans first.awaiting
  dealt reply acknowledged ds := (first.dealt reply acknowledged ds).trans (second.dealt reply acknowledged ds)

theorem quiet_received (s : PinentrySession) (cmd arg : QString) : Quiet s (s.log (.received cmd arg)) :=
  ⟨rfl,rfl,fun _ _ _ => ⟨[.received cmd arg],rfl,rfl⟩⟩

theorem quiet_printed (s : PinentrySession) (line : QString) : Quiet s (s.log (.printed line)) :=
  ⟨rfl,rfl,fun _ _ _ => ⟨[.printed line],rfl,rfl⟩⟩

theorem quiet_handleGetInfo (s : PinentrySession) (env : PinentryEnv) (arg : QString) : Quiet s (s.handleGetInfo env arg) := by
  have data (line : QString) : Quiet s ((s.sendData line).sendOk []) := (quiet_printed s _).trans (quiet_printed _ _)
  unfold handleGetInfo
  simp only
  split
  · exact data _
  · split
    · exact data _
    · split
      · exact data _
      · split
        · exact data _
        · exact quiet_printed s _

-- Nothing was sent under a cookie after what ended it, and the flow that is on has
-- not ended.
structure Continuous (ended : Dealing → Bool) (s : PinentrySession) (ds : List Dealing) : Prop where
  silent : ds.Pairwise (fun later earlier => ended earlier = true → later.cookie ≠ earlier.cookie)
  going : s.flowCookie ≠ [] → ∀ dealing ∈ ds, dealing.cookie = s.flowCookie → ended dealing = false

def Tied (s : PinentrySession) : Prop := s.flowCookie ≠ [] ↔ s.awaitingTerminalResult = true

theorem Quiet.continuous (quiet : Quiet s t) (continuous : Continuous ended s ds) : Continuous ended t ds := by
  refine ⟨continuous.silent,?_⟩
  rw [quiet.cookie]
  exact continuous.going

theorem Quiet.tied (quiet : Quiet s t) (tied : Tied s) : Tied t := by
  unfold Tied
  rw [quiet.cookie,quiet.awaiting]
  exact tied

theorem filled_iff (s : PinentrySession) : s.flowCookie.isEmpty = false ↔ s.flowCookie ≠ [] := List.isEmpty_eq_false_iff

theorem Continuous.deal (continuous : Continuous ended s ds) (named : s.flowCookie ≠ []) {dealing : Dealing}
    (own : dealing.cookie = s.flowCookie)
    (outcome : t.flowCookie = s.flowCookie ∧ ended dealing = false ∨ t.flowCookie = []) : Continuous ended t (dealing :: ds) := by
  constructor
  · refine List.pairwise_cons.mpr ⟨?_,continuous.silent⟩
    intro earlier present last same
    have going := continuous.going named earlier present (same.symm.trans own)
    rw [going] at last
    cases last
  · intro on other present same
    rcases outcome with ⟨kept,lasting⟩ | gone
    · rw [kept] at same
      rcases List.mem_cons.mp present with new | old
      · rw [new]
        exact lasting
      · exact continuous.going named other old same
    · exact absurd gone on

theorem report_deals (named : s.flowCookie ≠ []) (reply acknowledged : Option QJsonObject) (ds : List Dealing)
    (result error : QString) :
    let t := s.reportTerminalResult result error
    Deals reply acknowledged s ds t (.report s.flowCookie result acknowledged :: ds) ∧ t.awaitingTerminalResult = false ∧
      t.flowCookie = if result = text "retry" then s.flowCookie else [] := by
  intro t
  have reported : t = if result = text "retry" then
      (s.log (.reported s.flowCookie result (resultRequest s.flowCookie result error))).clearSubmitState
      else (s.log (.reported s.flowCookie result (resultRequest s.flowCookie result error))).resetFlow := by
    change s.reportTerminalResult result error = _
    unfold reportTerminalResult
    simp only [(filled_iff s).mpr named,Bool.false_eq_true,if_false]
  have trace : t.trace = [.reported s.flowCookie result (resultRequest s.flowCookie result error)] ++ s.trace := by
    rw [reported]
    split <;> rfl
  refine ⟨⟨_,trace,rfl⟩,?_,?_⟩
  · rw [reported]
    split <;> rfl
  · rw [reported]
    split <;> rfl

def Follows (ended : Dealing → Bool) (reply acknowledged : Option QJsonObject) (s : PinentrySession) (ds : List Dealing)
    (t : PinentrySession) : Prop :=
  ∃ es, Deals reply acknowledged s ds t es ∧ Continuous ended t es ∧ Tied t

theorem Quiet.follows (quiet : Quiet s t) (continuous : Continuous ended s ds) (tied : Tied s) :
    Follows ended reply acknowledged s ds t :=
  ⟨ds,quiet.dealt reply acknowledged ds,quiet.continuous continuous,quiet.tied tied⟩

theorem Follows.quiet (follows : Follows ended reply acknowledged s ds m) (quiet : Quiet m t) :
    Follows ended reply acknowledged s ds t := by
  obtain ⟨es,deals,continuous,tied⟩ := follows
  exact ⟨es,deals.trans (quiet.dealt reply acknowledged es),quiet.continuous continuous,quiet.tied tied⟩

theorem Follows.after (deals : Deals reply acknowledged s ds m es) (follows : Follows ended reply acknowledged m es t) :
    Follows ended reply acknowledged s ds t := by
  obtain ⟨fs,later,continuous,tied⟩ := follows
  exact ⟨fs,deals.trans later,continuous,tied⟩

theorem ensure_continuous (continuous : Continuous ended s ds)
    (fresh : s.flowCookie = [] → ∀ dealing ∈ ds, dealing.cookie ≠ env.uuid) :
    (s.ensureFlowCookie env).flowCookie ≠ [] ∧ Continuous ended (s.ensureFlowCookie env) ds := by
  unfold ensureFlowCookie
  split
  · next none =>
    refine ⟨env.uuid_nonempty,continuous.silent,?_⟩
    intro _ dealing present same
    exact absurd same (fresh (List.isEmpty_iff.mp none) dealing present)
  · next named => exact ⟨(filled_iff s).mp (Bool.eq_false_iff.mpr named),continuous⟩

theorem ensure_trace (s : PinentrySession) (env : PinentryEnv) : (s.ensureFlowCookie env).trace = s.trace := by
  unfold ensureFlowCookie
  split <;> rfl

theorem ask_deals (s : PinentrySession) (env : PinentryEnv) (acknowledged : Option QJsonObject) (ds : List Dealing)
    (request : PinentryState → QString → QJsonObject) (wanted : QString) :
    Deals env.reply acknowledged s ds (s.ask env request wanted).1 (.request (s.ensureFlowCookie env).flowCookie env.reply :: ds) := by
  refine ⟨[.requested (s.ensureFlowCookie env).flowCookie
    (request (s.ensureFlowCookie env).state (s.ensureFlowCookie env).flowCookie)],?_,rfl⟩
  rw [← ensure_trace s env]
  unfold ask
  simp only
  split <;> rfl

def Grants (ended : Dealing → Bool) : Prop :=
  ∀ cookie reply wanted, wanted = text "ok" ∨ wanted = text "confirmed" → responseResult reply = some wanted →
    ended (.request cookie reply) = false

theorem grants_terminal : Grants Dealing.terminal := fun _ _ _ _ _ => rfl

theorem grants_ends : Grants Dealing.ends := by
  intro cookie reply wanted known granted
  change (_ && _) = false
  rw [granted]
  rcases known with ok | confirmed
  · rw [ok]
    decide +kernel
  · rw [confirmed]
    decide +kernel

theorem ask_follows (grants : Grants ended) (continuous : Continuous ended s ds)
    (fresh : s.flowCookie = [] → ∀ dealing ∈ ds, dealing.cookie ≠ env.uuid)
    (request : PinentryState → QString → QJsonObject) {wanted : QString}
    (known : wanted = text "ok" ∨ wanted = text "confirmed") :
    Follows ended env.reply acknowledged s ds (s.ask env request wanted).1 := by
  obtain ⟨named,begun⟩ := ensure_continuous continuous fresh
  refine ⟨_,ask_deals s env acknowledged ds request wanted,?_⟩
  unfold ask
  generalize s.ensureFlowCookie env = m at named begun
  by_cases granted : responseResult env.reply = some wanted
  · simp only [granted,if_true]
    exact ⟨begun.deal named rfl (.inl ⟨rfl,grants _ _ wanted known granted⟩),fun _ => rfl,fun _ => named⟩
  · simp only [granted,if_false]
    exact ⟨begun.deal named rfl (.inr rfl),fun on => absurd rfl on,nofun⟩

theorem Quiet.clearError (quiet : Quiet s t) : Quiet s t.clearError := quiet.trans (quiet_same rfl rfl rfl)

theorem handleConfirm_follows (grants : Grants ended) (continuous : Continuous ended s ds)
    (fresh : ∀ dealing ∈ ds, dealing.cookie ≠ env.uuid) : Follows ended env.reply acknowledged s ds (s.handleConfirm env) := by
  have asked : Follows ended env.reply acknowledged s ds (s.ask env confirmRequest (text "confirmed")).1 :=
    ask_follows grants continuous (fun _ => fresh) confirmRequest (.inr rfl)
  unfold handleConfirm requestConfirmFromDaemon
  revert asked
  generalize s.ask env confirmRequest (text "confirmed") = answer
  intro asked
  obtain ⟨m,confirmed⟩ := answer
  apply asked.quiet
  cases confirmed with
  | true => exact (quiet_printed m _).clearError
  | false => exact (quiet_printed m _).clearError

-- What GETPIN does before it asks: a second one of a flow reports the retry.
def retried (s : PinentrySession) : PinentrySession :=
  if s.awaitingTerminalResult then s.reportTerminalResult (text "retry") (orElse s.state.error (text "Authentication failed"))
  else s

theorem retried_if (s : PinentrySession) : (if s.awaitingTerminalResult = true then
    s.reportTerminalResult (text "retry") (orElse s.state.error (text "Authentication failed")) else s) = s.retried := rfl

theorem handleGetPin_quiet (s : PinentrySession) (env : PinentryEnv) :
    Quiet (s.retried.ask env passwordRequest (text "ok")).1 (s.handleGetPin env) := by
  unfold handleGetPin requestPasswordFromDaemon
  simp only
  rw [retried_if]
  generalize s.retried.ask env passwordRequest (text "ok") = answer
  obtain ⟨p,granted⟩ := answer
  cases granted with
  | true =>
    simp only [if_true]
    apply Quiet.clearError
    split
    · exact quiet_printed p _
    · exact (quiet_printed p _).trans (quiet_printed _ _)
  | false => exact (quiet_printed p _).clearError

-- The request goes out under the cookie of the retry, whatever answered that.
theorem handleGetPin_deals (awaiting : s.awaitingTerminalResult = true) (named : s.flowCookie ≠ [])
    (acknowledged : Option QJsonObject) (ds : List Dealing) :
    Deals env.reply acknowledged s ds (s.handleGetPin env)
      (.request s.flowCookie env.reply :: .report s.flowCookie (text "retry") acknowledged :: ds) := by
  obtain ⟨deals,_,cookie⟩ := report_deals named env.reply acknowledged ds (text "retry")
    (orElse s.state.error (text "Authentication failed"))
  rw [if_pos rfl] at cookie
  have reports : s.retried = s.reportTerminalResult (text "retry") (orElse s.state.error (text "Authentication failed")) :=
    if_pos awaiting
  rw [← reports] at deals cookie
  have kept : (s.retried.ensureFlowCookie env).flowCookie = s.flowCookie := by
    unfold ensureFlowCookie
    rw [if_neg (Bool.eq_false_iff.mp ((filled_iff _).mpr (cookie ▸ named)))]
    exact cookie
  have asked := ask_deals s.retried env acknowledged (.report s.flowCookie (text "retry") acknowledged :: ds)
    passwordRequest (text "ok")
  rw [kept] at asked
  exact (deals.trans asked).trans ((handleGetPin_quiet s env).dealt _ _ _)

theorem handleGetPin_follows (grants : Grants ended) (continuous : Continuous ended s ds) (tied : Tied s)
    (fresh : ∀ dealing ∈ ds, dealing.cookie ≠ env.uuid)
    (lasts : s.awaitingTerminalResult = true → ∀ cookie, ended (.report cookie (text "retry") acknowledged) = false) :
    Follows ended env.reply acknowledged s ds (s.handleGetPin env) := by
  have begun : ∃ es, Deals env.reply acknowledged s ds s.retried es ∧ Continuous ended s.retried es ∧
      (s.retried.flowCookie = [] → ∀ dealing ∈ es, dealing.cookie ≠ env.uuid) := by
    unfold retried
    split
    · next awaiting =>
      have named := tied.mpr awaiting
      obtain ⟨deals,_,cookie⟩ := report_deals named env.reply acknowledged ds (text "retry")
        (orElse s.state.error (text "Authentication failed"))
      rw [if_pos rfl] at cookie
      exact ⟨_,deals,continuous.deal named rfl (.inl ⟨cookie,lasts awaiting _⟩),fun none => absurd (cookie.symm.trans none) named⟩
    · exact ⟨ds,(quiet_same rfl rfl rfl).dealt _ _ _,continuous,fun _ => fresh⟩
  obtain ⟨es,deals,continuous,fresh⟩ := begun
  apply Follows.after deals
  exact (ask_follows grants continuous fresh passwordRequest (.inl rfl)).quiet (handleGetPin_quiet s env)

theorem finalize_follows (continuous : Continuous ended s ds) (tied : Tied s) (reply acknowledged : Option QJsonObject) :
    Follows ended reply acknowledged s ds s.finalizeOnStreamClose := by
  have reports (result error : QString) (named : s.flowCookie ≠ []) (other : result ≠ text "retry") :
      Follows ended reply acknowledged s ds (s.reportTerminalResult result error) := by
    obtain ⟨deals,idle,cookie⟩ := report_deals named reply acknowledged ds result error
    rw [if_neg other] at cookie
    exact ⟨_,deals,continuous.deal named rfl (.inr cookie),fun on => absurd cookie on,
      fun awaiting => nomatch idle.symm.trans awaiting⟩
  unfold finalizeOnStreamClose
  split
  · next awaiting =>
    split
    · exact reports _ _ (tied.mpr awaiting) (by decide)
    · exact reports _ _ (tied.mpr awaiting) (by decide)
  · split
    · exact (quiet_same rfl rfl rfl).follows continuous tied
    · next named =>
      have named : s.flowCookie ≠ [] := fun none => named (List.isEmpty_iff.mpr none)
      split
      · exact reports _ _ named (by decide)
      · exact reports _ _ named (by decide)

theorem close_follows (continuous : Continuous ended s ds) (tied : Tied s) (reply acknowledged : Option QJsonObject) :
    Follows ended reply acknowledged s ds s.close :=
  (finalize_follows continuous tied reply acknowledged).quiet (quiet_same rfl rfl rfl)

theorem handleCommand_follows (grants : Grants ended) (continuous : Continuous ended s ds) (tied : Tied s)
    (fresh : ∀ dealing ∈ ds, dealing.cookie ≠ env.uuid) (cmd arg : QString)
    (lasts : s.awaitingTerminalResult = true → cmd = text "GETPIN" →
      ∀ cookie, ended (.report cookie (text "retry") acknowledged) = false) :
    Follows ended env.reply acknowledged s ds (s.handleCommand env cmd arg).1 := by
  unfold handleCommand
  have received := quiet_received s cmd arg
  apply Follows.after (received.dealt _ _ ds)
  rw [← received.awaiting] at lasts
  replace continuous := received.continuous continuous
  replace tied := received.tied tied
  generalize s.log (.received cmd arg) = s at continuous tied lasts
  unfold dispatch
  split
  · exact (finalize_follows continuous tied _ _).quiet (quiet_printed _ _)
  · split
    · exact (quiet_handleGetInfo s env arg).follows continuous tied
    · split
      · next getPin => exact handleGetPin_follows grants continuous tied fresh (fun awaiting => lasts awaiting getPin)
      · split
        · exact handleConfirm_follows grants continuous fresh
        · have assigned : Quiet s {s with state:=assign s.state cmd arg} := quiet_same rfl rfl rfl
          exact (assigned.trans (quiet_printed _ _)).follows continuous tied

end PinentrySession

namespace PinentryTalk

variable {t : PinentryTalk} {turn : PinentryTurn} {dealings : List Dealing}

-- The daemon turns down the retry that the next GETPIN reports first.
def refusesRetry (toUpper : QString → QString) (t : PinentryTalk) (turn : PinentryTurn) : Bool :=
  t.session.awaitingTerminalResult && (turn.input.command toUpper).any (fun read => read.2.1 = text "GETPIN") &&
    Dealing.refused turn.acknowledged

open PinentrySession in
theorem step_follows (toUpper : QString → QString) {ended : Dealing → Bool} (grants : Grants ended)
    (continuous : Continuous ended t.session t.dealings) (tied : Tied t.session) (fresh : t.distinct turn.input)
    (lasts : t.session.awaitingTerminalResult = true →
      (turn.input.command toUpper).any (fun read => read.2.1 = text "GETPIN") = true →
      ∀ cookie, ended (.report cookie (text "retry") turn.acknowledged) = false) :
    Follows ended turn.input.reply turn.acknowledged t.session t.dealings (t.session.step toUpper turn.input) := by
  obtain ⟨input,acknowledged⟩ := turn
  cases input with
  | endOfInput => exact close_follows continuous tied none acknowledged
  | line env read =>
    unfold PinentryInput.command at lasts
    unfold PinentrySession.step PinentryInput.command
    simp only at lasts ⊢
    by_cases blank : read.isEmpty
    · rw [if_pos blank]
      exact (quiet_same rfl rfl rfl).follows continuous tied
    · rw [if_neg blank] at lasts ⊢
      simp only at lasts ⊢
      have handled := handleCommand_follows grants continuous tied fresh (splitCommand toUpper (dropReturn read)).1
        (splitCommand toUpper (dropReturn read)).2 (fun awaiting getPin => lasts awaiting (decide_eq_true getPin))
      revert handled
      generalize t.session.handleCommand env _ _ = answer
      obtain ⟨m,more⟩ := answer
      intro handled
      cases more with
      | true => exact handled
      | false =>
        obtain ⟨es,deals,continuous,tied⟩ := handled
        exact .after deals (close_follows continuous tied _ _)

open PinentrySession in
theorem step_dealings (toUpper : QString → QString) {es : List Dealing}
    (deals : Deals turn.input.reply turn.acknowledged t.session t.dealings (t.session.step toUpper turn.input) es) :
    (t.step toUpper turn).dealings = es := by
  obtain ⟨effects,trace,rfl⟩ := deals
  unfold step
  simp only [trace,List.length_append,Nat.add_sub_cancel,List.take_left]

-- There is a flow exactly while a terminal result is awaited, and each has at most
-- one terminal result.
structure Booked (t : PinentryTalk) : Prop where
  tied : t.session.flowCookie ≠ [] ↔ t.session.awaitingTerminalResult = true
  once : ∀ cookie, t.dealings.countP (fun dealing => dealing.cookie = cookie && dealing.terminal) ≤ 1

-- All that is said of the flows: nothing is sent under a cookie after its terminal
-- result, either, or after the daemon declined.
structure Kept (t : PinentryTalk) : Prop extends Booked t where
  silent : ∀ later dealing earlier, t.dealings = later ++ dealing :: earlier →
    dealing.terminal = true ∨ dealing.declined = true → ∀ other ∈ later, other.cookie ≠ dealing.cookie

theorem terminal_once
    (silent : dealings.Pairwise (fun later earlier => earlier.terminal = true → later.cookie ≠ earlier.cookie))
    (cookie : QString) : dealings.countP (fun dealing => dealing.cookie = cookie && dealing.terminal) ≤ 1 := by
  induction dealings with
  | nil => exact Nat.zero_le 1
  | cons dealing rest ih =>
    obtain ⟨new,old⟩ := List.pairwise_cons.mp silent
    rw [List.countP_cons]
    split
    · next last =>
      obtain ⟨own,last⟩ := (Bool.and_eq_true _ _).mp last
      have none : rest.countP (fun dealing => dealing.cookie = cookie && dealing.terminal) = 0 := by
        refine List.countP_eq_zero.mpr ?_
        intro earlier present both
        obtain ⟨same,ended⟩ := (Bool.and_eq_true _ _).mp both
        exact new earlier present ended ((of_decide_eq_true own).trans (of_decide_eq_true same).symm)
      omega
    · exact ih old

open PinentrySession in
theorem booked_of_continuous (continuous : Continuous Dealing.terminal t.session t.dealings) (tied : Tied t.session) :
    Booked t := ⟨tied,terminal_once continuous.silent⟩

open PinentrySession in
theorem kept_of_continuous (continuous : Continuous Dealing.ends t.session t.dealings) (booked : Booked t) : Kept t := by
  refine ⟨booked,?_⟩
  intro later dealing earlier split ended other present
  have silent := continuous.silent
  rw [split] at silent
  exact (List.pairwise_append.mp silent).2.2 other present dealing List.mem_cons_self (dealing.ends_iff.mpr ended)

open PinentrySession in
theorem step_booked (toUpper : QString → QString) (continuous : Continuous Dealing.terminal t.session t.dealings)
    (tied : Tied t.session) (fresh : t.distinct turn.input) :
    Continuous Dealing.terminal (t.step toUpper turn).session (t.step toUpper turn).dealings ∧
      Tied (t.step toUpper turn).session := by
  have other : Dealing.terminal (.report [] (text "retry") none) = false := by decide +kernel
  obtain ⟨es,deals,continuous,tied⟩ := step_follows toUpper grants_terminal continuous tied fresh (fun _ _ _ => other)
  rw [step_dealings toUpper deals]
  exact ⟨continuous,tied⟩

open PinentrySession in
theorem step_continuous (toUpper : QString → QString) (continuous : Continuous Dealing.ends t.session t.dealings)
    (tied : Tied t.session) (fresh : t.distinct turn.input) (accepts : refusesRetry toUpper t turn = false) :
    Continuous Dealing.ends (t.step toUpper turn).session (t.step toUpper turn).dealings := by
  have lasts (awaiting : t.session.awaitingTerminalResult = true)
      (getPin : (turn.input.command toUpper).any (fun read => read.2.1 = text "GETPIN") = true) (cookie : QString) :
      Dealing.ends (.report cookie (text "retry") turn.acknowledged) = false := by
    have other : Dealing.terminal (.report cookie (text "retry") turn.acknowledged) = false := by
      change Dealing.terminal (.report [] (text "retry") none) = false
      decide +kernel
    unfold refusesRetry at accepts
    rw [awaiting,getPin,Bool.true_and,Bool.true_and] at accepts
    unfold Dealing.ends
    rw [other,Bool.false_or]
    exact accepts
  obtain ⟨es,deals,continuous,_⟩ := step_follows toUpper grants_ends continuous tied fresh lasts
  rw [step_dealings toUpper deals]
  exact continuous

-- The program asks on, under the cookie of the flow that the daemon turned down.
open PinentrySession in
theorem step_refused (toUpper : QString → QString) (tied : Tied t.session) (refuses : refusesRetry toUpper t turn = true) :
    ¬Kept (t.step toUpper turn) := by
  intro kept
  obtain ⟨both,refused⟩ := Bool.and_eq_true_iff.mp refuses
  obtain ⟨awaiting,getPin⟩ := Bool.and_eq_true_iff.mp both
  have named := tied.mpr awaiting
  obtain ⟨⟨env,cmd,arg⟩,command,same⟩ := (Option.any_eq_true _ _).mp getPin
  have same : cmd = text "GETPIN" := of_decide_eq_true same
  subst same
  have deals : Deals turn.input.reply turn.acknowledged t.session t.dealings (t.session.step toUpper turn.input)
      (.request t.session.flowCookie turn.input.reply ::
        .report t.session.flowCookie (text "retry") turn.acknowledged :: t.dealings) := by
    obtain ⟨input,acknowledged⟩ := turn
    cases input with
    | endOfInput => cases command
    | line own read =>
      have same : own = env := by
        by_cases blank : read.isEmpty
        · rw [show PinentryInput.command toUpper (.line own read) = none from if_pos blank] at command
          cases command
        · rw [show PinentryInput.command toUpper (.line own read) = _ from if_neg blank] at command
          exact congrArg Prod.fst (Option.some.inj command)
      subst same
      have stepped : t.session.step toUpper (.line own read) = (t.session.log (.received (text "GETPIN") arg)).handleGetPin own := by
        unfold PinentrySession.step
        simp only [command]
        rfl
      rw [stepped]
      have received := quiet_received t.session (text "GETPIN") arg
      have waits : (t.session.log (.received (text "GETPIN") arg)).awaitingTerminalResult = true := awaiting
      exact (received.dealt _ _ _).trans (handleGetPin_deals waits named acknowledged t.dealings)
  have dealings := step_dealings toUpper deals
  exact kept.silent [_] _ _ dealings (.inr refused) _ List.mem_cons_self rfl

-- However gpg-agent drives the program and however the daemon replies, the books
-- are right, and all is kept as long as the daemon turns down no retry.
open PinentrySession in
theorem flows_kept_iff (toUpper : QString → QString) (turns : List PinentryTurn)
    (admitted : (pinentryTalk toUpper).Admits turns) :
    (pinentryTalk toUpper).Always Booked turns ∧
      ((pinentryTalk toUpper).Always Kept turns ↔
        (pinentryTalk toUpper).Every (fun t turn => refusesRetry toUpper t turn = false) turns) := by
  have every : (pinentryTalk toUpper).Every (fun _ _ => True) turns := .of_all (fun _ _ => trivial)
  have start {ended : Dealing → Bool} : Continuous ended .initial [] := ⟨List.Pairwise.nil,fun on => absurd rfl on⟩
  have idle : Tied .initial := ⟨fun on => absurd rfl on,nofun⟩
  constructor
  · refine Machine.AlwaysFrom.of_kept (P := fun t => Continuous Dealing.terminal t.session t.dealings ∧ Tied t.session)
      ?_ (fun t kept => booked_of_continuous kept.1 kept.2) admitted every ⟨start,idle⟩
    intro t turn kept allowed _
    exact step_booked toUpper kept.1 kept.2 allowed.2
  · refine Machine.carried_iff (P := fun t => (Continuous Dealing.terminal t.session t.dealings ∧ Tied t.session) ∧
      (Kept t → Continuous Dealing.ends t.session t.dealings)) ?_ ⟨⟨start,idle⟩,fun _ => start⟩
      (kept_of_continuous start (booked_of_continuous start idle)) admitted
    intro t turn carried kept allowed
    obtain ⟨⟨continuous,tied⟩,going⟩ := carried
    have booked := step_booked toUpper continuous tied allowed.2
    cases refuses : refusesRetry toUpper t turn with
    | false =>
      have later := step_continuous toUpper (going kept) tied allowed.2 refuses
      exact ⟨⟨booked,fun _ => later⟩,fun _ => rfl,fun _ => kept_of_continuous later (booked_of_continuous booked.1 booked.2)⟩
    | true =>
      have broken := step_refused toUpper tied refuses
      exact ⟨⟨booked,fun kept => absurd kept broken⟩,fun kept => absurd kept broken,nofun⟩

def replyOf (reply : List (String × String)) : QJsonObject :=
  .ofList (reply.map (fun field => (text field.1,.string (text field.2))))

def sayFresh (uuid line : String) (nonempty : text uuid ≠ []) (reply : List (String × String))
    (acknowledged : Option QJsonObject) : PinentryTurn :=
  ⟨.line {uuid:=text uuid,uuid_nonempty:=nonempty,reply:=some (replyOf reply),pid:=1} (text line),acknowledged⟩

-- A retry, a refusal that ends the flow, and a flow that is cut off.
def threeFlows : List PinentryTurn :=
  [sayFresh "1" "GETPIN" (by decide) [("type","pinentry_response"),("result","ok"),("password","1234")] none,
   sayFresh "2" "SETERROR Bad PIN" (by decide) [] none,
   sayFresh "2" "GETPIN" (by decide) [("type","pinentry_response"),("result","cancelled")] (some (replyOf [("type","ok")])),
   sayFresh "3" "CONFIRM" (by decide) [("type","pinentry_response"),("result","confirmed")] none,
   ⟨.endOfInput,none⟩]

instance (t : PinentryTalk) (input : PinentryInput) : Decidable (t.distinct input) :=
  match input with
  | .line env _ => inferInstanceAs (Decidable (∀ dealing ∈ t.dealings, dealing.cookie ≠ env.uuid))
  | .endOfInput => isTrue trivial

instance (toUpper : QString → QString) (t : PinentryTalk) (turn : PinentryTurn) :
    Decidable ((pinentryTalk toUpper).enabled t turn) := inferInstanceAs (Decidable (_ ∧ _))

instance (toUpper : QString → QString) (turns : List PinentryTurn) : Decidable ((pinentryTalk toUpper).Admits turns) :=
  inferInstanceAs (Decidable ((pinentryTalk toUpper).Every (pinentryTalk toUpper).enabled turns))

theorem threeFlows_kept : (pinentryTalk id).Always Kept threeFlows :=
  (flows_kept_iff id threeFlows (by decide +kernel)).2.mpr (by decide +kernel)

-- The daemon has closed the flow that it got no outcome for in time, so that it
-- turns down the retry; the request goes out all the same.
def lateRetry : List PinentryTurn :=
  [sayFresh "1" "GETPIN" (by decide) [("type","pinentry_response"),("result","ok"),("password","1234")] none,
   sayFresh "2" "SETERROR Bad PIN" (by decide) [] none,
   sayFresh "2" "GETPIN" (by decide) [("type","pinentry_response"),("result","cancelled")]
     (some (replyOf [("type","error"),("message","Unknown pinentry session")]))]

open PinentrySession in
theorem lateRetry_silent : (pinentryTalk id).Admits lateRetry ∧ ¬(pinentryTalk id).Always Kept lateRetry := by
  refine ⟨by decide +kernel,?_⟩
  intro always
  have tied : Tied ((pinentryTalk id).run (lateRetry.take 2)).session := by
    unfold Tied
    decide +kernel
  exact step_refused id tied (by decide +kernel) always.finish

end PinentryTalk

end BbAuth
