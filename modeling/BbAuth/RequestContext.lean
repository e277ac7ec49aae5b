import BbAuth.Daemon
import BbAuth.Library.Ascent
import Mathlib.Data.List.DropRight

open Library Library.Ascent
namespace BbAuth

namespace RequestContext

structure ProcInfo where
  pid : Pid := 0
  ppid : Pid := 0
  uid : Int := 0
  name : QString := []
  exe : QString := []
  cmdline : QString := []
  deriving DecidableEq, Repr

structure DesktopInfo where
  desktopId : QString := []
  name : QString := []
  iconName : QString := []
  exec : QString := []
  tryExec : QString := []
  deriving DecidableEq, Repr

def DesktopInfo.isValid (d : DesktopInfo) : Bool := !d.desktopId.isEmpty

-- The daemon hands on what is displayed of it.
structure ActorInfo extends BbAuth.ActorInfo where
  proc : ProcInfo := {}
  desktop : DesktopInfo := {}
  confidence : QString := []
  deriving DecidableEq, Repr

-- QString::toLower, QChar::toUpper, and what texts are folded to where case does
-- not matter.
structure Letters where
  lower : QString → QString
  upper : QChar → QChar
  folded : QString → QString

def fileName (path : QString) : QString := path.rtakeWhile (fun c => decide (c ≠ 0x2F))

def baseName (path : QString) : QString := (fileName path).takeWhile (fun c => decide (c ≠ 0x2E))

-- What /proc says while a requestor is resolved.
def readProc (processes : Table Pid ProcInfo) (pid : Pid) : Option ProcInfo :=
  (processes.find pid).map (fun info => {info with pid:=pid})

-- The loops of findDesktopForExe, one after the other.
def passes (letters : Letters) (base : QString) : List (DesktopInfo → Bool) :=
  [fun d => decide (d.desktopId = base ++ text ".desktop"),
    fun d => decide (letters.folded d.desktopId = letters.folded (base ++ text ".desktop")),
    fun d => !d.exec.isEmpty && decide (fileName d.exec = base),
    fun d => !d.tryExec.isEmpty && decide (fileName d.tryExec = base),
    fun d => decide (letters.folded d.name = letters.folded base)]

def findDesktopForExe (letters : Letters) (desktopIndex : List DesktopInfo) (exePath : QString) : DesktopInfo :=
  if exePath.isEmpty then {}
  else ((passes letters (fileName exePath)).findSome? desktopIndex.find?).getD {}

def isBridge (info : ProcInfo) : Bool :=
  decide (info.name = text "pkexec") || decide (info.name = text "sudo") || decide (info.name = text "doas")

section

variable (letters : Letters) (findDesktop : QString → DesktopInfo) (processes : Table Pid ProcInfo) (agentUid : Int)

def desktopOf (info : ProcInfo) : DesktopInfo :=
  let d := if !info.exe.isEmpty then findDesktop info.exe else {}
  if !d.isValid && !info.name.isEmpty then findDesktop info.name else d

-- A process of the user is kept to fall back on.
def noted (info : ProcInfo) (actor : ActorInfo) : ActorInfo :=
  if !isBridge info && decide (info.uid = agentUid) then {actor with proc:=info} else actor

def matched (info : ProcInfo) (actor : ActorInfo) : ActorInfo :=
  {actor with proc:=info,desktop:=desktopOf findDesktop info,confidence:=text "desktop"}

-- The loop of resolveRequestorFromSubject with the turns that are left, and the
-- processes it reads.
def climb : Nat → Pid → ActorInfo → ActorInfo × List Pid
  | 0,_,actor => (actor,[])
  | hops + 1,currPid,actor =>
    if currPid > 1 then
      match readProc processes currPid with
      | none => (actor,[currPid])
      | some info =>
        if info.uid ≠ agentUid ∧ agentUid ≠ 0 ∧ !isBridge info then (actor,[currPid])
        else
          let actor := noted agentUid info actor
          if (desktopOf findDesktop info).isValid then (matched findDesktop info actor,[currPid])
          else if info.ppid ≤ 1 ∨ info.ppid = currPid then (actor,[currPid])
          else
            let (actor,read) := climb hops info.ppid actor
            (actor,currPid :: read)
    else (actor,[])

def confident (actor : ActorInfo) : ActorInfo :=
  if actor.desktop.isValid then actor
  else
    {actor with
      confidence:=
        if actor.proc.exe.isEmpty then (if actor.proc.name.isEmpty then text "unknown" else text "name-only")
        else text "exe-only"}

def named (actor : ActorInfo) : ActorInfo :=
  if actor.desktop.isValid then {actor with displayName:=actor.desktop.name,iconName:=actor.desktop.iconName}
  else if !actor.proc.exe.isEmpty then
    {actor with
      displayName:=fileName actor.proc.exe
      iconName:=if actor.iconName.isEmpty then letters.lower (baseName actor.proc.exe) else actor.iconName}
  else if !actor.proc.name.isEmpty then
    {actor with
      displayName:=actor.proc.name
      iconName:=if actor.iconName.isEmpty then letters.lower actor.proc.name else actor.iconName}
  else {actor with displayName:=text "Unknown"}

def lettered (actor : ActorInfo) : ActorInfo :=
  {actor with
    fallbackLetter:=
      match actor.displayName with
      | [] => actor.fallbackLetter
      | c :: _ => [letters.upper c]
    fallbackKey:=if actor.desktop.isValid then actor.desktop.desktopId else letters.lower actor.displayName}

def climbed (subject : ProcInfo) : ActorInfo × List Pid :=
  climb findDesktop processes agentUid 16 subject.pid {proc:=subject}

def resolveRequestorFromSubject (subject : ProcInfo) : ActorInfo :=
  lettered letters (named letters (confident (climbed findDesktop processes agentUid subject).1))

def readByResolve (subject : ProcInfo) : List Pid := (climbed findDesktop processes agentUid subject).2

def parent (info : ProcInfo) : Option ProcInfo := readProc processes info.ppid

def trusted (info : ProcInfo) : Bool := decide (info.uid = agentUid) || isBridge info

-- The walk stops below the first process of all.
def reachable (info : ProcInfo) : Bool := decide (info.pid > 1) && trusted agentUid info

def fits (info : ProcInfo) : Bool := (desktopOf findDesktop info).isValid

def spare (info : ProcInfo) : Bool := !isBridge info

-- The places on the parent chain up to which all are trusted.
def Placed (subject : ProcInfo) (n : Nat) (info : ProcInfo) : Prop :=
  Above (parent processes) (trusted agentUid) subject n info

-- Of these the first sixteen, below the first process of all.
def Within (subject : ProcInfo) (n : Nat) (info : ProcInfo) : Prop :=
  n < 16 ∧ Above (parent processes) (reachable agentUid) subject n info

-- The nearest process with a desktop entry is displayed, or the last that is no
-- bridge, or the subject.
structure Rightful (place : Nat → ProcInfo → Prop) (subject : ProcInfo) (actor : ActorInfo) : Prop where
  chosen : Chosen place (fun info => fits findDesktop info = true) (fun info => spare info = true) subject actor.proc
  entry : (∃ n info, place n info ∧ fits findDesktop info = true) → actor.desktop = desktopOf findDesktop actor.proc
  unmatched : (∀ n info, place n info → ¬fits findDesktop info = true) → actor.desktop = {}

end

variable {letters : Letters} {findDesktop : QString → DesktopInfo} {processes : Table Pid ProcInfo} {agentUid : Int}
  {subject info : ProcInfo} {actor : ActorInfo}

def path (processes : Table Pid ProcInfo) (agentUid : Int) (hops : Nat) (pid : Pid) : List ProcInfo :=
  match readProc processes pid with
  | none => []
  | some info => ascent (parent processes) (reachable agentUid) hops info

def settled (findDesktop : QString → DesktopInfo) (walked : List ProcInfo) (actor : ActorInfo) : ActorInfo :=
  let chosen := choose (fits findDesktop) spare actor.proc walked
  if walked.any (fits findDesktop) then matched findDesktop chosen actor else {actor with proc:=chosen}

theorem readProc_pid (found : readProc processes pid = some info) : info.pid = pid := by
  obtain ⟨entry,_,same⟩ := Option.map_eq_some_iff.mp found
  rw [← same]

theorem reachable_iff (info : ProcInfo) : reachable agentUid info = true ↔ info.pid > 1 ∧ trusted agentUid info = true := by
  unfold reachable
  rw [Bool.and_eq_true,decide_eq_true_iff]

theorem stopped_iff (user : agentUid ≠ 0) (info : ProcInfo) :
    (info.uid ≠ agentUid ∧ agentUid ≠ 0 ∧ (!isBridge info) = true) ↔ trusted agentUid info = false := by
  unfold trusted
  simp only [ne_eq,user,not_false_eq_true,true_and,Bool.not_eq_true',Bool.or_eq_false_iff,decide_eq_false_iff_not]

theorem noted_trusted (safe : trusted agentUid info = true) (actor : ActorInfo) :
    noted agentUid info actor = if spare info then {actor with proc:=info} else actor := by
  unfold trusted at safe
  unfold noted spare
  cases bridge : isBridge info with
  | true => rfl
  | false =>
    rw [bridge,Bool.or_false] at safe
    rw [safe]
    rfl

theorem matched_noted (info : ProcInfo) (actor : ActorInfo) :
    matched findDesktop info (noted agentUid info actor) = matched findDesktop info actor := by
  unfold noted
  split
  · rfl
  · rfl

theorem settled_matched (valid : fits findDesktop info = true) (rest : List ProcInfo) (actor : ActorInfo) :
    settled findDesktop (info :: rest) actor = matched findDesktop info actor := by
  unfold settled
  rw [List.any_cons,choose_cons,valid]
  rfl

theorem settled_passed (invalid : fits findDesktop info = false) (safe : trusted agentUid info = true) (rest : List ProcInfo)
    (actor : ActorInfo) : settled findDesktop (info :: rest) actor = settled findDesktop rest (noted agentUid info actor) := by
  rw [noted_trusted safe]
  unfold settled
  rw [List.any_cons,choose_cons,invalid]
  cases spare info with
  | true => rfl
  | false => rfl

theorem path_unread (unread : readProc processes pid = none) (hops : Nat) : path processes agentUid hops pid = [] := by
  unfold path
  rw [unread]

theorem path_stopped (found : readProc processes pid = some info) (beyond : reachable agentUid info = false) (hops : Nat) :
    path processes agentUid hops pid = [] := by
  unfold path
  rw [found]
  exact ascent_distrusted hops beyond

theorem path_low (low : ¬pid > 1) (hops : Nat) : path processes agentUid hops pid = [] := by
  cases found : readProc processes pid with
  | none => exact path_unread found hops
  | some info =>
    apply path_stopped found
    rw [← Bool.not_eq_true,reachable_iff,readProc_pid found]
    exact fun both => low both.1

theorem path_trusted (found : readProc processes pid = some info) (safe : reachable agentUid info = true) (hops : Nat) :
    path processes agentUid (hops + 1) pid = info :: path processes agentUid hops info.ppid := by
  unfold path
  rw [found]
  simp only [ascent,safe,if_true]
  have link : parent processes info = readProc processes info.ppid := rfl
  rw [link]
  cases readProc processes info.ppid with
  | none => rfl
  | some above => rfl

-- One that is its own parent is walked up to again and again.
theorem path_own_parent (found : readProc processes pid = some info) (own : info.ppid = pid) (hops : Nat) :
    ∀ other ∈ path processes agentUid hops info.ppid, other = info := by
  have link : parent processes info = some info := by
    unfold parent
    rw [own,found]
  unfold path
  rw [own,found]
  exact ascent_fixed link hops

theorem settled_repeated (invalid : fits findDesktop info = false) (safe : trusted agentUid info = true) {rest : List ProcInfo}
    (same : ∀ other ∈ rest, other = info) (actor : ActorInfo) :
    settled findDesktop rest (noted agentUid info actor) = noted agentUid info actor := by
  induction rest with
  | nil => rfl
  | cons other rest ih =>
    obtain ⟨here,others⟩ := List.forall_mem_cons.mp same
    subst here
    rw [settled_passed invalid safe]
    have again : noted agentUid other (noted agentUid other actor) = noted agentUid other actor := by
      rw [noted_trusted safe,noted_trusted safe]
      split
      · rfl
      · rfl
    rw [again,ih others]

-- The loop walks up the trusted processes, and no further turn would change what
-- it leaves where it stops at the top.
theorem climb_settled (user : agentUid ≠ 0) (hops : Nat) (pid : Pid) (actor : ActorInfo) :
    (climb findDesktop processes agentUid hops pid actor).1 = settled findDesktop (path processes agentUid hops pid) actor := by
  induction hops generalizing pid actor with
  | zero =>
    unfold path
    split
    · rfl
    · rfl
  | succ hops ih =>
    unfold climb
    split
    · next high =>
      cases found : readProc processes pid with
      | none =>
        rw [path_unread found]
        rfl
      | some info =>
        simp only
        split
        · next stopped =>
          have beyond : reachable agentUid info = false := by
            unfold reachable
            rw [(stopped_iff user info).mp stopped,Bool.and_false]
          rw [path_stopped found beyond]
          rfl
        · next going =>
          have safe : trusted agentUid info = true := Bool.of_not_eq_false (mt (stopped_iff user info).mpr going)
          have above : reachable agentUid info = true := (reachable_iff info).mpr ⟨readProc_pid found ▸ high,safe⟩
          rw [path_trusted found above]
          split
          · next valid => rw [settled_matched valid,matched_noted]
          · next invalid =>
            have passed : fits findDesktop info = false := Bool.eq_false_iff.mpr invalid
            rw [settled_passed passed safe]
            split
            · next top =>
              rcases top with low | own
              · rw [path_low (Int.not_lt.mpr low)]
                rfl
              · exact (settled_repeated passed safe (path_own_parent found own hops) actor).symm
            · exact ih info.ppid (noted agentUid info actor)
    · next low =>
      rw [path_low low]
      rfl

theorem climb_reads (hops : Nat) (pid : Pid) (actor : ActorInfo) : (climb findDesktop processes agentUid hops pid actor).2.length ≤ hops := by
  induction hops generalizing pid actor with
  | zero => exact Nat.le_refl 0
  | succ hops ih =>
    have one : [pid].length ≤ hops + 1 := Nat.succ_le_succ (Nat.zero_le hops)
    unfold climb
    split
    · split
      · exact one
      · split
        · exact one
        · simp only
          split
          · exact one
          · split
            · exact one
            · exact Nat.succ_le_succ (ih _ _)
    · exact Nat.zero_le _

theorem mem_path (present : readProc processes subject.pid = some subject) (n : Nat) (info : ProcInfo) :
    (path processes agentUid 16 subject.pid)[n]? = some info ↔ Within processes agentUid subject n info := by
  unfold path
  rw [present]
  exact mem_ascent

theorem any_path (present : readProc processes subject.pid = some subject) :
    (path processes agentUid 16 subject.pid).any (fits findDesktop) = true ↔
      ∃ n info, Within processes agentUid subject n info ∧ fits findDesktop info = true := by
  rw [List.any_eq_true]
  constructor
  · intro ⟨info,walked,fit⟩
    obtain ⟨n,at_place⟩ := List.mem_iff_getElem?.mp walked
    exact ⟨n,info,(mem_path present n info).mp at_place,fit⟩
  · intro ⟨n,info,place,fit⟩
    exact ⟨info,List.mem_of_getElem? ((mem_path present n info).mpr place),fit⟩

theorem settled_proc (walked : List ProcInfo) (actor : ActorInfo) :
    (settled findDesktop walked actor).proc = choose (fits findDesktop) spare actor.proc walked := by
  unfold settled
  simp only
  split
  · rfl
  · rfl

theorem settled_desktop (walked : List ProcInfo) (actor : ActorInfo) : (settled findDesktop walked actor).desktop =
    if walked.any (fits findDesktop) then desktopOf findDesktop (settled findDesktop walked actor).proc else actor.desktop := by
  rw [settled_proc]
  unfold settled
  simp only
  split
  · rfl
  · rfl

theorem resolve_proc (subject : ProcInfo) : (resolveRequestorFromSubject letters findDesktop processes agentUid subject).proc =
    (climbed findDesktop processes agentUid subject).1.proc := by
  unfold resolveRequestorFromSubject lettered named confident
  simp only [apply_ite ActorInfo.proc,ite_self]

theorem resolve_desktop (subject : ProcInfo) : (resolveRequestorFromSubject letters findDesktop processes agentUid subject).desktop =
    (climbed findDesktop processes agentUid subject).1.desktop := by
  unfold resolveRequestorFromSubject lettered named confident
  simp only [apply_ite ActorInfo.desktop,ite_self]

theorem rightful_of_present (letters : Letters) (user : agentUid ≠ 0) (present : readProc processes subject.pid = some subject) :
    Rightful findDesktop (Within processes agentUid subject) subject
      (resolveRequestorFromSubject letters findDesktop processes agentUid subject) := by
  have walked : (climbed findDesktop processes agentUid subject).1 =
      settled findDesktop (path processes agentUid 16 subject.pid) {proc:=subject} := climb_settled user 16 subject.pid _
  constructor
  · rw [resolve_proc,walked,settled_proc]
    exact (choose_chosen _ _ _ _).congr (mem_path present)
  · intro some_fit
    rw [resolve_desktop,resolve_proc,walked,settled_desktop,if_pos ((any_path present).mpr some_fit)]
  · intro none_fits
    have unfit : ¬(path processes agentUid 16 subject.pid).any (fits findDesktop) = true := by
      intro any_fit
      obtain ⟨n,info,place,fit⟩ := (any_path present).mp any_fit
      exact none_fits n info place fit
    rw [resolve_desktop,walked,settled_desktop,if_neg unfit]

theorem findDesktopForExe_listed (letters : Letters) (desktopIndex : List DesktopInfo) (exePath : QString)
    (valid : (findDesktopForExe letters desktopIndex exePath).isValid = true) : findDesktopForExe letters desktopIndex exePath ∈ desktopIndex := by
  unfold findDesktopForExe at valid ⊢
  split at valid
  · cases valid
  · next filled =>
    rw [if_neg filled]
    cases found : (passes letters (fileName exePath)).findSome? desktopIndex.find? with
    | none =>
      rw [found] at valid
      cases valid
    | some d =>
      obtain ⟨pass,_,first⟩ := List.exists_of_findSome?_eq_some found
      exact List.mem_of_find?_eq_some first

theorem desktopOf_cases (findDesktop : QString → DesktopInfo) (info : ProcInfo) : desktopOf findDesktop info = {} ∨
    desktopOf findDesktop info = findDesktop info.exe ∨ desktopOf findDesktop info = findDesktop info.name := by
  unfold desktopOf
  simp only
  split
  · split
    · exact .inr (.inr rfl)
    · exact .inr (.inl rfl)
  · split
    · exact .inr (.inr rfl)
    · exact .inl rfl

theorem desktopOf_listed {desktopIndex : List DesktopInfo} (fit : fits (findDesktopForExe letters desktopIndex) info = true) :
    desktopOf (findDesktopForExe letters desktopIndex) info ∈ desktopIndex := by
  unfold fits at fit
  rcases desktopOf_cases (findDesktopForExe letters desktopIndex) info with none_at_all | by_exe | by_name
  · rw [none_at_all] at fit
    cases fit
  · rw [by_exe] at fit ⊢
    exact findDesktopForExe_listed letters desktopIndex info.exe fit
  · rw [by_name] at fit ⊢
    exact findDesktopForExe_listed letters desktopIndex info.name fit

-- No desktop entry is displayed that is not in the index.
theorem resolve_listed {desktopIndex : List DesktopInfo} (user : agentUid ≠ 0) (present : readProc processes subject.pid = some subject) :
    (resolveRequestorFromSubject letters (findDesktopForExe letters desktopIndex) processes agentUid subject).desktop = {} ∨
      (resolveRequestorFromSubject letters (findDesktopForExe letters desktopIndex) processes agentUid subject).desktop ∈ desktopIndex := by
  have rightful : Rightful (findDesktopForExe letters desktopIndex) _ _ _ := rightful_of_present letters user present
  by_cases some_fit : ∃ n info, Within processes agentUid subject n info ∧ fits (findDesktopForExe letters desktopIndex) info = true
  · rw [rightful.entry some_fit]
    obtain ⟨n,info,place,fit⟩ := some_fit
    obtain ⟨_,_,_,displayed,_⟩ := rightful.chosen.nearest n info place fit
    exact .inr (desktopOf_listed displayed)
  · exact .inl (rightful.unmatched (fun n info place fit => some_fit ⟨n,info,place,fit⟩))

-- What the surroundings answer for the pid of a peer.
def readActor (letters : Letters) (findDesktop : QString → DesktopInfo) (processes : Table Pid ProcInfo) (agentUid : Int) (pid : Pid) :
    Option BbAuth.ActorInfo :=
  (readProc processes pid).map (fun subject => (resolveRequestorFromSubject letters findDesktop processes agentUid subject).toActorInfo)

-- The daemon displays the peer or one of its trusted ancestors.
theorem resolveActorForPid_rightful {env : Env} (user : agentUid ≠ 0) (answers : env.readActor = readActor letters findDesktop processes agentUid)
    (peer : readProc processes peerPid = some subject) : ∃ actor : ActorInfo, env.resolveActorForPid peerPid = actor.toActorInfo ∧
      Rightful findDesktop (Within processes agentUid subject) subject actor := by
  refine ⟨resolveRequestorFromSubject letters findDesktop processes agentUid subject,?_,?_⟩
  · unfold Env.resolveActorForPid
    rw [answers,readActor,peer]
    rfl
  · apply rightful_of_present letters user
    rwa [readProc_pid peer]

-- The displayed requestor is the subject or one of its trusted ancestors, and at
-- most sixteen processes are read to find it.
theorem resolve_rightful (letters : Letters) (findDesktop : QString → DesktopInfo) (processes : Table Pid ProcInfo) (agentUid : Int)
    (subject : ProcInfo) (user : agentUid ≠ 0) (present : readProc processes subject.pid = some subject) :
    (readByResolve findDesktop processes agentUid subject).length ≤ 16 ∧
    Rightful findDesktop (Within processes agentUid subject) subject
      (resolveRequestorFromSubject letters findDesktop processes agentUid subject) :=
  ⟨climb_reads 16 subject.pid _,rightful_of_present letters user present⟩

def plain : Letters := ⟨toLower,fun c => ((toUpper [c]).head?).getD c,toLower⟩

def appIndex : List DesktopInfo := [{desktopId:=text "app.desktop",name:=text "App",iconName:=text "app",exec:=text "/usr/bin/app"}]

def elevated : Table Pid ProcInfo :=
  ((Table.empty.insert 30 {ppid:=20,uid:=1000,name:=text "sh",exe:=text "/bin/sh"}).insert 20
    {ppid:=10,uid:=0,name:=text "sudo"}).insert 10 {ppid:=1,uid:=1000,name:=text "app",exe:=text "/opt/app"}

def shell : ProcInfo := {pid:=30,ppid:=20,uid:=1000,name:=text "sh",exe:=text "/bin/sh"}

theorem resolve_rightful_elevated :
    Rightful (findDesktopForExe plain appIndex) (Within elevated 1000 shell) shell
      (resolveRequestorFromSubject plain (findDesktopForExe plain appIndex) elevated 1000 shell) :=
  (resolve_rightful plain (findDesktopForExe plain appIndex) elevated 1000 shell (by decide) (by decide)).2

def descent : Table Pid ProcInfo :=
  (List.range 16).foldr (fun n processes => processes.insert (n + 2) {ppid:=n + 3,uid:=1000,name:=text "sh"})
    (Table.empty.insert 18 {uid:=1000,name:=text "app"})

def contained : Table Pid ProcInfo :=
  (Table.empty.insert 2 {ppid:=1,uid:=1000,name:=text "sh"}).insert 1 {uid:=1000,name:=text "app"}

def lowest (ppid : Pid) : ProcInfo := {pid:=2,ppid:=ppid,uid:=1000,name:=text "sh"}

-- The walk ends after sixteen processes and does not get to the first of all.
theorem resolve_short :
    (readProc descent 2 = some (lowest 3) ∧ ¬Rightful (findDesktopForExe plain appIndex) (Placed descent 1000 (lowest 3)) (lowest 3)
      (resolveRequestorFromSubject plain (findDesktopForExe plain appIndex) descent 1000 (lowest 3))) ∧
    readProc contained 2 = some (lowest 1) ∧ ¬Rightful (findDesktopForExe plain appIndex) (Placed contained 1000 (lowest 1)) (lowest 1)
      (resolveRequestorFromSubject plain (findDesktopForExe plain appIndex) contained 1000 (lowest 1)) := by
  have unfit {processes : Table Pid ProcInfo} {subject app : ProcInfo} {n : Nat}
      (place : (ascent (parent processes) (trusted 1000) (n + 1) subject)[n]? = some app)
      (fit : fits (findDesktopForExe plain appIndex) app = true)
      (other : fits (findDesktopForExe plain appIndex) (resolveRequestorFromSubject plain (findDesktopForExe plain appIndex) processes 1000 subject).proc = false) :
      ¬Rightful (findDesktopForExe plain appIndex) (Placed processes 1000 subject) subject
        (resolveRequestorFromSubject plain (findDesktopForExe plain appIndex) processes 1000 subject) := by
    intro rightful
    obtain ⟨_,_,_,displayed,_⟩ := rightful.chosen.nearest n app (mem_ascent.mp place).2 fit
    rw [other] at displayed
    cases displayed
  have far : (ascent (parent descent) (trusted 1000) 17 (lowest 3))[16]? = some {pid:=18,uid:=1000,name:=text "app"} := by decide +kernel
  have first : (ascent (parent contained) (trusted 1000) 2 (lowest 1))[1]? = some {pid:=1,uid:=1000,name:=text "app"} := by decide +kernel
  exact ⟨⟨by decide +kernel,unfit far (by decide +kernel) (by decide +kernel)⟩,by decide +kernel,unfit first (by decide +kernel) (by decide +kernel)⟩

end RequestContext

end BbAuth
