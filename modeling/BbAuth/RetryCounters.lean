import BbAuth.RetryBooks

open Library
namespace BbAuth

namespace Daemon

open PinentryManager (given enterFlow matchAttempts ownedByOther)

def enters (d : Daemon) (input : Input) : Option PinentryRequest :=
  match d.action input with
  | .pinentryRequest request _ =>
    if ownedByOther d.pinentryManager request.cookie request.peerPid then none else some request
  | _ => none

def announces (d : Daemon) (input : Input) (event : SessionEvent) : Prop :=
  ∃ new, (daemon.step d input).trace = new ++ d.trace ∧ .emitted event ∈ new

def closings (d : Daemon) (input : Input) : List QString := d.core.records.closings (d.action input)

variable {d : Daemon} {input : Input} {request : PinentryRequest}

theorem enters_asked (entered : d.enters input = some request) : ∃ actor, d.action input = .pinentryRequest request actor := by
  unfold enters at entered
  split at entered
  · next asked actor same =>
    split at entered
    · cases entered
    · cases entered
      exact ⟨actor,same⟩
  · cases entered

theorem announced_given {id : QString} {source : Source} {ctx : ContextJson} (allowed : daemon.enabled d input)
    (enters : d.enters input = some request) (announced : d.announces input (.created id source ctx)) :
    ctx.curRetry = some (enterFlow d.pinentryManager request).1.1 ∧ ctx.maxRetries = some (enterFlow d.pinentryManager request).1.2 := by
  have acts := acts_step d input allowed
  obtain ⟨actor,asked⟩ := enters_asked enters
  rw [asked] at acts
  obtain ⟨logged,history,counts⟩ : Grown (Core.Counts (enterFlow d.pinentryManager request).1) d.core.history
      (daemon.step d input).core.history := by
    generalize (daemon.step d input).core = e at acts
    cases acts with
    | pinentryRequest known peer named => exact Core.counts_pinentryRequest d.core request actor
  obtain ⟨new,trace,emitted⟩ := announced
  have both : new.filter (fun effect => !effect.routine) ++ d.core.history = logged ++ d.core.history := by
    rw [← history]
    unfold core
    simp only
    rw [trace,List.filter_append]
  have kept : new.filter (fun effect => !effect.routine) = logged := List.append_cancel_right both
  apply counts (.emitted (.created id source ctx)) _ id source ctx rfl
  rw [← kept]
  exact List.mem_filter.mpr ⟨emitted,rfl⟩

end Daemon

-- The daemon with the keyinfos that the requests of every open flow have used
-- since it was opened.
structure Usage where
  daemon : Daemon
  used : QString → List QString

namespace Usage

open PinentryManager (given enterFlow matchAttempts ownedByOther counters Counters)

def manager (s : Usage) : PinentryManager := s.daemon.pinentryManager

def isOpen (s : Usage) (cookie : QString) : Bool := s.manager.flowOwners.contains cookie

-- The keyinfos of a flow after it made a request, or none.
def uses (request : Option PinentryRequest) (cookie : QString) (used : List QString) : List QString :=
  match request with
  | none => used
  | some request => if request.cookie = cookie ∧ request.keyinfo ≠ [] then request.keyinfo :: used else used

def step (s : Usage) (input : Input) : Usage :=
  let d := BbAuth.daemon.step s.daemon input
  ⟨d,fun cookie => if d.pinentryManager.flowOwners.contains cookie then uses (s.daemon.enters input) cookie (s.used cookie) else []⟩

end Usage

def usage : Machine Usage Input where
  initial := ⟨.initial,fun _ => []⟩
  enabled s input := daemon.enabled s.daemon input
  step := Usage.step

instance (s : Usage) (input : Input) : Decidable (usage.enabled s input) :=
  inferInstanceAs (Decidable (daemon.enabled s.daemon input))

instance (inputs : List Input) : Decidable (usage.Admits inputs) :=
  inferInstanceAs (Decidable (usage.Every usage.enabled inputs))

namespace Usage

open PinentryManager (given enterFlow matchAttempts ownedByOther counters Counters)

-- No request of an open flow has used it.
def Unused (s : Usage) (keyinfo : QString) : Prop := ∀ cookie, keyinfo ∉ s.used cookie

-- A request that opens a flow under an unused keyinfo starts at the first of
-- three attempts, unless its description says otherwise.
def Ready (s : Usage) : Prop :=
  ∀ request, s.isOpen request.cookie = false → matchAttempts request.description = none → s.Unused request.keyinfo →
    (enterFlow s.manager request).1 = (0,3)

structure CountersKept (s : Usage) (input : Input) : Prop where
  created : ∀ request, s.daemon.enters input = some request → s.isOpen request.cookie = false →
    matchAttempts request.description = none → s.Unused request.keyinfo →
    ∀ id source ctx, s.daemon.announces input (.created id source ctx) → ctx.curRetry = some 0 ∧ ctx.maxRetries = some 3
  ready : (s.step input).Ready
  spared : ∀ closed, s.isOpen closed = true → (s.step input).isOpen closed = false →
    ∀ request, (s.step input).isOpen request.cookie = true → request.keyinfo ∈ s.used request.cookie →
      (enterFlow (s.step input).manager request).1 = (enterFlow s.manager request).1

-- When flows are closed, the counters are still those of a new flow under a last
-- keyinfo that a flow which stays open has used, too, and under a keyinfo that
-- goes out of use without being the last one of its flow.
structure Tidy (s : Usage) (input : Input) : Prop where
  shared : ∀ closed ∈ s.daemon.closings input, ∀ keyinfo, s.manager.flowKeyinfos.find closed = some keyinfo →
    (∃ other, other ∉ s.daemon.closings input ∧ keyinfo ∈ s.used other) → given s.manager keyinfo = (0,3)
  changed : ∀ closed ∈ s.daemon.closings input, ∀ keyinfo ∈ s.used closed,
    (∀ other, other ∉ s.daemon.closings input → keyinfo ∉ s.used other) →
    (∀ last ∈ s.daemon.closings input, s.manager.flowKeyinfos.find last ≠ some keyinfo) → given s.manager keyinfo = (0,3)

structure Sound (s : Usage) : Prop where
  last : ∀ cookie keyinfo, s.manager.flowKeyinfos.find cookie = some keyinfo → keyinfo ∈ s.used cookie
  named : ∀ cookie, [] ∉ s.used cookie
  opened : ∀ cookie keyinfo, keyinfo ∈ s.used cookie → s.isOpen cookie = true

inductive Turn (s : Usage) (input : Input) : Prop where
  | entered (request : PinentryRequest) (enters : s.daemon.enters input = some request)
      (quiet : s.daemon.closings input = [])
      (books : counters (s.step input).manager = counters (enterFlow s.manager request).2)
  | closed (nobody : s.daemon.enters input = none)
      (books : counters (s.step input).manager = (s.daemon.closings input).foldl Counters.forget (counters s.manager))

theorem turns (s : Usage) (input : Input) (allowed : usage.enabled s input) : Turn s input := by
  have acts := Daemon.acts_step s.daemon input allowed
  have records := congrArg Records.pinentryManager (Core.acts_records acts)
  have manager : (s.step input).manager = (s.daemon.core.records.act (s.daemon.action input)).pinentryManager := records
  rcases s.daemon.core.records.act_counters (s.daemon.action input) with ⟨request,actor,asked,mine,books⟩ | ⟨refused,books⟩
  · apply Turn.entered request
    · unfold Daemon.enters
      rw [asked]
      exact if_neg (Bool.eq_false_iff.mp mine)
    · unfold Daemon.closings
      rw [asked]
      rfl
    · rw [manager]
      exact books
  · apply Turn.closed
    · unfold Daemon.enters
      split
      · next request actor asked => exact if_pos (refused request actor asked)
      · rfl
    · rw [manager]
      exact books

variable {s : Usage} {input : Input}

theorem isOpen_owner (s : Usage) (cookie : QString) : s.isOpen cookie = ((counters s.manager).owner cookie).isSome := rfl

theorem given_same {m n : PinentryManager} (same : (counters n).info keyinfo = (counters m).info keyinfo) : given n keyinfo = given m keyinfo := by
  have same : n.retryInfo.find keyinfo = m.retryInfo.find keyinfo := same
  unfold given
  rw [same]

theorem used_closed (sound : Sound s) (nobody : s.daemon.enters input = none)
    (books : counters (s.step input).manager = (s.daemon.closings input).foldl Counters.forget (counters s.manager)) (cookie : QString) :
    (s.step input).isOpen cookie = (!decide (cookie ∈ s.daemon.closings input) && s.isOpen cookie) ∧
    (s.step input).used cookie = if cookie ∈ s.daemon.closings input then [] else s.used cookie := by
  have opens : (s.step input).isOpen cookie = (!decide (cookie ∈ s.daemon.closings input) && s.isOpen cookie) := by
    rw [isOpen_owner,books,PinentryManager.forgets_owner]
    split
    · next gone => simp [gone]
    · next kept => simp [kept,isOpen_owner]
  refine ⟨opens,?_⟩
  have used : (s.step input).used cookie =
      if (s.step input).isOpen cookie then uses (s.daemon.enters input) cookie (s.used cookie) else [] := rfl
  rw [used,opens,nobody]
  by_cases gone : cookie ∈ s.daemon.closings input
  · simp [gone]
  · cases unused : s.used cookie with
    | nil => simp [gone,uses]
    | cons keyinfo rest =>
      have on := sound.opened cookie keyinfo (unused ▸ List.mem_cons_self)
      simp [gone,on,uses]

theorem used_entered (sound : Sound s) (enters : s.daemon.enters input = some request)
    (books : counters (s.step input).manager = counters (enterFlow s.manager request).2) (cookie : QString) :
    (s.step input).isOpen cookie = (decide (cookie = request.cookie) || s.isOpen cookie) ∧
    ∀ keyinfo, keyinfo ∈ (s.step input).used cookie ↔
      keyinfo ∈ s.used cookie ∨ (cookie = request.cookie ∧ keyinfo = request.keyinfo ∧ keyinfo ≠ []) := by
  have opens : (s.step input).isOpen cookie = (decide (cookie = request.cookie) || s.isOpen cookie) := by
    rw [isOpen_owner,books,PinentryManager.enterFlow_owner]
    split
    · next same => simp [same]
    · next other => simp [other,isOpen_owner]
  refine ⟨opens,?_⟩
  intro keyinfo
  have used : (s.step input).used cookie =
      if (s.step input).isOpen cookie then uses (s.daemon.enters input) cookie (s.used cookie) else [] := rfl
  rw [used,opens,enters]
  unfold uses
  by_cases same : cookie = request.cookie
  · subst same
    cases named : request.keyinfo with
    | nil =>
      have foreign : ¬(keyinfo = [] ∧ keyinfo ≠ []) := fun both => both.2 both.1
      simp [named,foreign]
    | cons c rest =>
      have filled : keyinfo = c :: rest → keyinfo ≠ [] := fun equal => equal ▸ List.cons_ne_nil c rest
      simp only [named,decide_true,Bool.true_or,if_true,true_and,ne_eq,reduceCtorEq,not_false_eq_true,List.mem_cons]
      rw [or_comm,and_iff_left_of_imp filled]
  · have apart : request.cookie ≠ cookie := Ne.symm same
    cases on : s.isOpen cookie with
    | true => simp [same,apart]
    | false =>
      have unused : keyinfo ∉ s.used cookie := fun present => Bool.false_ne_true (on.symm.trans (sound.opened cookie keyinfo present))
      simp [same,unused]

theorem sound_initial : Sound usage.initial := ⟨nofun,nofun,nofun⟩

theorem sound_step (sound : Sound s) (allowed : usage.enabled s input) : Sound (s.step input) := by
  cases turns s input allowed with
  | entered request enters quiet books =>
    have after := used_entered sound enters books
    refine ⟨?_,?_,?_⟩
    · intro cookie keyinfo found
      have found : (counters (s.step input).manager).keyinfo cookie = some keyinfo := found
      rw [books,PinentryManager.enterFlow_keyinfo] at found
      apply ((after cookie).2 keyinfo).mpr
      split at found
      · next own =>
        cases found
        exact .inr ⟨own.1,rfl,own.2⟩
      · exact .inl (sound.last cookie keyinfo found)
    · intro cookie present
      rcases ((after cookie).2 []).mp present with before | ⟨_,_,named⟩
      · exact sound.named cookie before
      · exact named rfl
    · intro cookie keyinfo present
      rw [(after cookie).1,Bool.or_eq_true_iff,decide_eq_true_iff]
      rcases ((after cookie).2 keyinfo).mp present with before | ⟨own,_⟩
      · exact .inr (sound.opened cookie keyinfo before)
      · exact .inl own
  | closed nobody books =>
    have after := used_closed sound nobody books
    refine ⟨?_,?_,?_⟩
    · intro cookie keyinfo found
      have found : (counters (s.step input).manager).keyinfo cookie = some keyinfo := found
      rw [books,PinentryManager.forgets_keyinfo] at found
      rw [(after cookie).2]
      split at found
      · cases found
      · next stays =>
        rw [if_neg stays]
        exact sound.last cookie keyinfo found
    · intro cookie present
      rw [(after cookie).2] at present
      split at present
      · cases present
      · exact sound.named cookie present
    · intro cookie keyinfo present
      rw [(after cookie).2] at present
      split at present
      · cases present
      · next stays =>
        rw [(after cookie).1,sound.opened cookie keyinfo present,decide_eq_false stays]
        rfl

-- An unmarked request under a keyinfo, for the flow of a cookie.
def asking (cookie keyinfo : QString) : PinentryRequest :=
  ⟨cookie,0,0,[],[],[],keyinfo,false,false⟩

theorem given_asking (m : PinentryManager) (cookie : QString) (named : keyinfo ≠ []) :
    (enterFlow m (asking cookie keyinfo)).1 = given m keyinfo := by
  rw [PinentryManager.enterFlow_given m (asking cookie keyinfo) rfl]
  apply if_neg
  intro empty
  exact named (List.isEmpty_iff.mp empty)

theorem ready_iff (s : Usage) : s.Ready ↔ ∀ keyinfo, keyinfo ≠ [] → s.Unused keyinfo → given s.manager keyinfo = (0,3) := by
  constructor
  · intro ready keyinfo named unused
    obtain ⟨cookie,absent⟩ := s.manager.flowOwners.exists_absent
    have fresh : s.isOpen cookie = false := by
      unfold isOpen Table.contains
      rw [absent]
      rfl
    rw [← given_asking s.manager cookie named]
    exact ready (asking cookie keyinfo) fresh rfl unused
  · intro every request _ unmarked unused
    rw [PinentryManager.enterFlow_given _ request unmarked]
    split
    · rfl
    · next named => exact every _ (fun empty => named (List.isEmpty_iff.mpr empty)) unused

theorem ready_closed_iff (sound : Sound s) (ready : s.Ready) (nobody : s.daemon.enters input = none)
    (books : counters (s.step input).manager = (s.daemon.closings input).foldl Counters.forget (counters s.manager)) :
    (s.step input).Ready ↔ ∀ closed ∈ s.daemon.closings input, ∀ keyinfo ∈ s.used closed,
      (∀ other, other ∉ s.daemon.closings input → keyinfo ∉ s.used other) →
      (∀ last ∈ s.daemon.closings input, s.manager.flowKeyinfos.find last ≠ some keyinfo) → given s.manager keyinfo = (0,3) := by
  have after := used_closed sound nobody books
  have kept (keyinfo : QString) (other : ∀ last ∈ s.daemon.closings input, s.manager.flowKeyinfos.find last ≠ some keyinfo) :
      given (s.step input).manager keyinfo = given s.manager keyinfo := by
    apply given_same
    rw [books]
    exact PinentryManager.forgets_info_kept _ _ _ other
  rw [ready_iff]
  rw [ready_iff] at ready
  constructor
  · intro later closed closes keyinfo used alone stale
    have named : keyinfo ≠ [] := fun empty => sound.named closed (empty ▸ used)
    rw [← kept keyinfo stale]
    apply later keyinfo named
    intro cookie present
    rw [(after cookie).2] at present
    split at present
    · cases present
    · next stays => exact alone cookie stays present
  · intro changed keyinfo named unused
    by_cases last : ∃ closed ∈ s.daemon.closings input, s.manager.flowKeyinfos.find closed = some keyinfo
    · obtain ⟨closed,closes,keyed⟩ := last
      have gone : (counters (s.step input).manager).info keyinfo = none := by
        rw [books]
        exact PinentryManager.forgets_info_none _ _ named closes keyed
      exact PinentryManager.given_none gone
    · have stale : ∀ last ∈ s.daemon.closings input, s.manager.flowKeyinfos.find last ≠ some keyinfo :=
        fun closed closes keyed => last ⟨closed,closes,keyed⟩
      rw [kept keyinfo stale]
      have alone (other : QString) (stays : other ∉ s.daemon.closings input) : keyinfo ∉ s.used other := by
        have absent := unused other
        rwa [(after other).2,if_neg stays] at absent
      by_cases somewhere : ∃ closed, keyinfo ∈ s.used closed
      · obtain ⟨closed,used⟩ := somewhere
        have closes : closed ∈ s.daemon.closings input := by
          by_contra stays
          exact alone closed stays used
        exact changed closed closes keyinfo used alone stale
      · exact ready keyinfo named (fun cookie used => somewhere ⟨cookie,used⟩)

theorem spared_closed_iff (sound : Sound s) (nobody : s.daemon.enters input = none)
    (books : counters (s.step input).manager = (s.daemon.closings input).foldl Counters.forget (counters s.manager)) :
    (∀ closed, s.isOpen closed = true → (s.step input).isOpen closed = false →
      ∀ request, (s.step input).isOpen request.cookie = true → request.keyinfo ∈ s.used request.cookie →
        (enterFlow (s.step input).manager request).1 = (enterFlow s.manager request).1) ↔
    ∀ closed ∈ s.daemon.closings input, ∀ keyinfo, s.manager.flowKeyinfos.find closed = some keyinfo →
      (∃ other, other ∉ s.daemon.closings input ∧ keyinfo ∈ s.used other) → given s.manager keyinfo = (0,3) := by
  have after := used_closed sound nobody books
  constructor
  · intro spared closed closes keyinfo keyed shared
    obtain ⟨other,stays,used⟩ := shared
    have own := sound.last closed keyinfo keyed
    have named : keyinfo ≠ [] := fun empty => sound.named closed (empty ▸ own)
    have gone : (s.step input).isOpen closed = false := by
      rw [(after closed).1,decide_eq_true closes]
      rfl
    have stillOpen : (s.step input).isOpen other = true := by
      rw [(after other).1,decide_eq_false stays,sound.opened other keyinfo used]
      rfl
    have same := spared closed (sound.opened closed keyinfo own) gone (asking other keyinfo) stillOpen used
    rw [given_asking _ _ named,given_asking _ _ named] at same
    rw [← same]
    apply PinentryManager.given_none
    change (counters (s.step input).manager).info keyinfo = none
    rw [books]
    exact PinentryManager.forgets_info_none _ _ named closes keyed
  · intro shared _ _ _ request stillOpen used
    have stays : request.cookie ∉ s.daemon.closings input := by
      intro closes
      rw [(after request.cookie).1,decide_eq_true closes] at stillOpen
      cases stillOpen
    have named : request.keyinfo ≠ [] := fun empty => sound.named request.cookie (empty ▸ used)
    cases marked : matchAttempts request.description with
    | some counts => exact PinentryManager.enterFlow_marked _ _ request marked
    | none =>
      rw [PinentryManager.enterFlow_given _ request marked,PinentryManager.enterFlow_given _ request marked]
      by_cases last : ∃ closed ∈ s.daemon.closings input, s.manager.flowKeyinfos.find closed = some request.keyinfo
      · obtain ⟨closed,closes,keyed⟩ := last
        have gone : (counters (s.step input).manager).info request.keyinfo = none := by
          rw [books]
          exact PinentryManager.forgets_info_none _ _ named closes keyed
        rw [PinentryManager.given_none gone,shared closed closes _ keyed ⟨request.cookie,stays,used⟩]
      · have kept : given (s.step input).manager request.keyinfo = given s.manager request.keyinfo := by
          apply given_same
          rw [books]
          exact PinentryManager.forgets_info_kept _ _ _ (fun closed closes keyed => last ⟨closed,closes,keyed⟩)
        rw [kept]

theorem entered_kept (sound : Sound s) (ready : s.Ready) (allowed : usage.enabled s input) (enters : s.daemon.enters input = some request)
    (books : counters (s.step input).manager = counters (enterFlow s.manager request).2) : CountersKept s input := by
  have after := used_entered sound enters books
  refine ⟨?_,?_,?_⟩
  · intro asked given fresh unmarked unused id source ctx announced
    cases enters.symm.trans given
    have told := Daemon.announced_given allowed enters announced
    rw [show enterFlow s.daemon.pinentryManager request = enterFlow s.manager request from rfl,
      ready request fresh unmarked unused] at told
    exact told
  · rw [ready_iff] at ready ⊢
    intro keyinfo named unused
    have other : keyinfo ≠ request.keyinfo := by
      intro same
      exact unused request.cookie (((after request.cookie).2 keyinfo).mpr (.inr ⟨rfl,same,named⟩))
    have kept : given (s.step input).manager keyinfo = given s.manager keyinfo := by
      apply given_same
      rw [books]
      exact PinentryManager.enterFlow_info _ _ other
    rw [kept]
    exact ready keyinfo named (fun cookie used => unused cookie (((after cookie).2 keyinfo).mpr (.inl used)))
  · intro closed on gone
    rw [(after closed).1,on,Bool.or_true] at gone
    cases gone

theorem kept_iff (sound : Sound s) (ready : s.Ready) (allowed : usage.enabled s input) : CountersKept s input ↔ Tidy s input := by
  cases turns s input allowed with
  | entered request enters quiet books =>
    have kept := entered_kept sound ready allowed enters books
    refine ⟨fun _ => ⟨?_,?_⟩,fun _ => kept⟩
    · rw [quiet]
      nofun
    · rw [quiet]
      nofun
  | closed nobody books =>
    have readies := ready_closed_iff sound ready nobody books
    have spares := spared_closed_iff sound nobody books
    constructor
    · rintro ⟨_,later,spared⟩
      exact ⟨spares.mp spared,readies.mp later⟩
    · rintro ⟨shared,changed⟩
      refine ⟨?_,readies.mpr changed,spares.mpr shared⟩
      intro request enters
      cases nobody.symm.trans enters

-- In every run, the counters are the open flows' own exactly when every step
-- that closes flows is tidy.
theorem counters_kept_iff (inputs : List Input) (admitted : usage.Admits inputs) :
    usage.Every CountersKept inputs ↔ usage.Every Tidy inputs := by
  apply Machine.carried_every_iff (P := fun s => Sound s ∧ s.Ready)
  · rintro s input ⟨sound,ready⟩ allowed
    exact kept_iff sound ready allowed
  · rintro s input ⟨sound,_⟩ allowed kept
    exact ⟨sound_step sound allowed,kept.ready⟩
  · refine ⟨sound_initial,?_⟩
    intro request _ unmarked _
    rw [PinentryManager.enterFlow_given _ request unmarked]
    split
    · rfl
    · rfl
  · exact admitted

-- The daemon of a run with its usage is the daemon of the run.
theorem usage_daemon (inputs : List Input) : (usage.run inputs).daemon = BbAuth.daemon.run inputs := by
  induction inputs using List.reverseRecOn with
  | nil => rfl
  | append_singleton before last ih =>
    have step : usage.run (before ++ [last]) = usage.step (usage.run before) last := Machine.runFrom_append _ _ _
    have same : BbAuth.daemon.run (before ++ [last]) = BbAuth.daemon.step (BbAuth.daemon.run before) last := Machine.runFrom_append _ _ _
    rw [step,same,← ih]
    rfl

-- A flow that kept to one keyinfo which no other open flow has used closes tidily.
theorem tidy_of_own (sound : Sound s) (own : ∀ closed ∈ s.daemon.closings input, ∀ keyinfo ∈ s.used closed,
    s.manager.flowKeyinfos.find closed = some keyinfo ∧
      ∀ other ∈ s.manager.flowOwners.keys, other ∈ s.daemon.closings input ∨ keyinfo ∉ s.used other) : Tidy s input := by
  constructor
  · rintro closed closes keyinfo keyed ⟨other,stays,used⟩
    have listed := (Table.mem_keys _ _).mpr (sound.opened other keyinfo used)
    rcases (own closed closes keyinfo (sound.last closed keyinfo keyed)).2 other listed with closes | unused
    · exact absurd closes stays
    · exact absurd used unused
  · intro closed closes keyinfo used _ stale
    exact absurd (own closed closes keyinfo used).1 (stale closed closes)

theorem reached_sound (path : usage.Reached s) : Sound s := by
  apply path.invariant (P := Sound)
  · exact sound_initial
  · intro s input _ sound allowed
    exact sound_step sound allowed

-- A flow that fails twice under its one keyinfo and is closed.
def ownKeyinfo : List Input :=
  [.quiet (.connected 7),
   .say 0 "pinentry_request" [("cookie","a"),("keyinfo","k"),("description","Unlock (2 of 3 attempts)")],
   .say 0 "pinentry_result" [("id","a"),("result","success")],
   .say 0 "pinentry_request" [("cookie","b"),("keyinfo","k")]]

theorem ownKeyinfo_kept : usage.Every CountersKept ownKeyinfo := by
  have admitted : usage.Admits ownKeyinfo := by decide +kernel
  apply (counters_kept_iff ownKeyinfo admitted).mpr
  have each : usage.Every (fun s input => ∀ closed ∈ s.daemon.closings input, ∀ keyinfo ∈ s.used closed,
      s.manager.flowKeyinfos.find closed = some keyinfo ∧
        ∀ other ∈ s.manager.flowOwners.keys, other ∈ s.daemon.closings input ∨ keyinfo ∉ s.used other) ownKeyinfo := by
    decide +kernel
  exact Machine.EveryFrom.imp .initial (fun s input path _ own => tidy_of_own (reached_sound path) own) admitted each

-- The flow goes over to another keyinfo before it is closed. A new flow under the
-- first one starts at its second attempt.
def changedKeyinfo : List Input :=
  [.quiet (.connected 7),
   .say 0 "pinentry_request" [("cookie","a"),("keyinfo","k"),("description","Unlock (2 of 3 attempts)")],
   .say 0 "pinentry_request" [("cookie","a"),("keyinfo","m")],
   .say 0 "pinentry_result" [("id","a"),("result","success")]]

def nextFlow : Input := .say 0 "pinentry_request" [("cookie","b"),("keyinfo","k")]

def nextContext : ContextJson where
  message := text "Enter passphrase:"
  requestor := ⟨[],[],[],none,some 7⟩
  keyinfo := some (text "k")
  curRetry := some 2
  maxRetries := some 3
  confirmOnly := some false
  repeated := some false

theorem changedKeyinfo_leaks :
    usage.Admits (changedKeyinfo ++ [nextFlow]) ∧ ¬usage.Every CountersKept (changedKeyinfo ++ [nextFlow]) := by
  have before : usage.Admits changedKeyinfo := by decide +kernel
  refine ⟨by decide +kernel,?_⟩
  intro every
  obtain ⟨_,kept,_⟩ := (Machine.everyFrom_append _ changedKeyinfo [nextFlow]).mp every
  change CountersKept (usage.run changedKeyinfo) nextFlow at kept
  have sound := reached_sound before.reached
  have nobody : (usage.run changedKeyinfo).manager.flowOwners.isEmpty = true := by decide +kernel
  have unused : (usage.run changedKeyinfo).Unused (text "k") := by
    intro cookie used
    have on := sound.opened cookie _ used
    rw [isOpen,Table.contains,(Table.isEmpty_iff _).mp nobody cookie] at on
    cases on
  have announced : Daemon.announces (usage.run changedKeyinfo).daemon nextFlow (.created (text "b") .pinentry nextContext) := by
    refine ⟨(BbAuth.daemon.step (usage.run changedKeyinfo).daemon nextFlow).trace.take 4,?_,?_⟩
    · decide +kernel
    · decide +kernel
  have told := kept.created {asking (text "b") (text "k") with peerPid:=7,prompt:=text "Enter passphrase:"} (by decide +kernel)
    (by decide +kernel) rfl unused _ _ _ announced
  cases told.1

end Usage

end BbAuth
