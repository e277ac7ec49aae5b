import BbAuth.FallbackClient
import BbAuth.Framing

open Library Library.Lines
namespace BbAuth

open IpcServer (newline trimmed)

inductive SocketSignal where
  | connected
  | disconnected
  | readyRead (bytes : QByteArray)

def SocketSignal.bytes : SocketSignal → QByteArray
  | .readyRead bytes => bytes
  | .connected | .disconnected => []

-- A FallbackClient with its m_buffer, the messages that were passed to
-- handleMessage and the signals that were emitted, the latest last.
structure ClientReader where
  client : FallbackClient := {}
  buffer : QByteArray := []
  handled : List QJsonObject := []
  signals : List ClientSignal := []

namespace ClientReader

-- QJsonDocument::fromJson: nothing where it reports an error or where what it
-- read is no object.
variable (fromJson : QByteArray → Option QJsonObject)

-- One turn of the readyRead loop, after the line was removed from the buffer.
def onLine (r : ClientReader) (line : QByteArray) : ClientReader :=
  let line := trimmed line
  if line.isEmpty then r
  else
    match fromJson line with
    | none => {r with signals:=r.signals ++ [.statusMessage (text "Invalid daemon payload")]}
    | some obj =>
      let (client,signals) := r.client.handleMessage obj
      {r with client,handled:=r.handled ++ [obj],signals:=r.signals ++ signals}

theorem onLine_buffer (r : ClientReader) (line : QByteArray) : (r.onLine fromJson line).buffer = r.buffer := by
  unfold onLine
  simp only
  split
  · rfl
  split
  · rfl
  · rfl

def readLines (r : ClientReader) : ClientReader :=
  match _found : r.buffer.idxOf? newline with
  | none => r
  | some idx => readLines (onLine fromJson {r with buffer:=r.buffer.drop (idx + 1)} (r.buffer.take idx))
termination_by r.buffer.length
decreasing_by
  obtain ⟨within,_⟩ := List.idxOf?_eq_some_iff.mp _found
  rw [onLine_buffer]
  simp only [List.length_drop]
  omega

-- The handlers of the socket. The one of connected resets the flags of the last
-- connection, and neither touches the buffer.
def step (r : ClientReader) (signal : SocketSignal) : ClientReader :=
  match signal with
  | .connected =>
    let (client,signals) := r.client.onConnected
    {r with client,signals:=r.signals ++ signals}
  | .disconnected =>
    let (client,signals) := r.client.onDisconnected
    {r with client,signals:=r.signals ++ signals}
  | .readyRead bytes => readLines fromJson {r with buffer:=r.buffer ++ bytes}

def run (r : ClientReader) (signals : List SocketSignal) : ClientReader := signals.foldl (step fromJson) r

def messages (before : List SocketSignal) (chunks : List QByteArray) : List QJsonObject :=
  let connected := run fromJson {} (before ++ [.disconnected,.connected])
  (run fromJson connected (chunks.map .readyRead)).handled.drop connected.handled.length

-- What a line is taken for, without its newline.
def reading (line : QByteArray) : Option QJsonObject :=
  if (trimmed line).isEmpty then none else fromJson (trimmed line)

-- What follows the last newline of all that came before.
def leftover (before : List SocketSignal) : QByteArray := (carve newline (before.flatMap SocketSignal.bytes)).2

variable {fromJson}

theorem onLine_handled (r : ClientReader) (line : QByteArray) :
    (r.onLine fromJson line).handled = r.handled ++ (reading fromJson line).toList := by
  unfold onLine reading
  simp only
  split
  · exact (List.append_nil _).symm
  · cases fromJson (trimmed line) with
    | none => exact (List.append_nil _).symm
    | some obj => rfl

theorem filterMap_toList {α β : Type} (f : α → Option β) (x : α) (rest : List α) :
    (x :: rest).filterMap f = (f x).toList ++ rest.filterMap f := by
  rw [List.filterMap_cons]
  cases f x with
  | none => rfl
  | some y => rfl

theorem readLines_carve (r : ClientReader) :
    (r.readLines fromJson).buffer = (carve newline r.buffer).2 ∧
    (r.readLines fromJson).handled = r.handled ++ (carve newline r.buffer).1.filterMap (reading fromJson) := by
  fun_induction readLines fromJson r with
  | case1 r absent =>
    rw [carve_plain (List.idxOf?_eq_none_iff.mp absent)]
    exact ⟨rfl,(List.append_nil _).symm⟩
  | case2 r idx found ih =>
    obtain ⟨buffer,handled⟩ := ih
    rw [buffer,handled,onLine_buffer,onLine_handled,carve_found found,filterMap_toList,List.append_assoc]
    exact ⟨rfl,rfl⟩

-- What the reader has made of the bytes so far, in however many pieces and
-- connections they came.
structure Holds (fromJson : QByteArray → Option QJsonObject) (r : ClientReader) (stream : QByteArray) : Prop where
  buffer : r.buffer = (carve newline stream).2
  handled : r.handled = (carve newline stream).1.filterMap (reading fromJson)

theorem holds_step (holds : Holds fromJson r stream) (signal : SocketSignal) :
    Holds fromJson (r.step fromJson signal) (stream ++ signal.bytes) := by
  cases signal with
  | connected | disconnected =>
    unfold SocketSignal.bytes
    rw [List.append_nil]
    exact ⟨holds.buffer,holds.handled⟩
  | readyRead bytes =>
    have carved : carve newline (stream ++ bytes) = _ := carve_append stream bytes
    have read : (r.step fromJson (.readyRead bytes)).buffer = (carve newline (r.buffer ++ bytes)).2 ∧
        (r.step fromJson (.readyRead bytes)).handled =
          r.handled ++ (carve newline (r.buffer ++ bytes)).1.filterMap (reading fromJson) := readLines_carve _
    rw [holds.buffer,holds.handled,← List.filterMap_append] at read
    change Holds fromJson _ (stream ++ bytes)
    constructor
    · rw [carved]
      exact read.1
    · rw [carved]
      exact read.2

theorem holds_run (holds : Holds fromJson r stream) (signals : List SocketSignal) :
    Holds fromJson (r.run fromJson signals) (stream ++ signals.flatMap SocketSignal.bytes) := by
  induction signals generalizing r stream with
  | nil =>
    rw [List.flatMap_nil,List.append_nil]
    exact holds
  | cons signal rest ih =>
    rw [List.flatMap_cons,← List.append_assoc]
    exact ih (holds_step holds signal)

-- The messages of a new connection: its lines, the first of them behind what
-- was left over.
theorem messages_carve (before : List SocketSignal) (chunks : List QByteArray) : messages fromJson before chunks =
    (carve newline (leftover before ++ chunks.flatten)).1.filterMap (reading fromJson) := by
  have start : Holds fromJson {} [] := ⟨rfl,rfl⟩
  have connected := holds_run start (before ++ [.disconnected,.connected])
  have finished := holds_run connected (chunks.map .readyRead)
  have silent : (before ++ [SocketSignal.disconnected,.connected]).flatMap SocketSignal.bytes = before.flatMap SocketSignal.bytes := by
    rw [List.flatMap_append]
    exact List.append_nil _
  have whole : (chunks.map SocketSignal.readyRead).flatMap SocketSignal.bytes = chunks.flatten := by
    rw [List.flatMap_map]
    exact List.flatMap_id
  rw [List.nil_append,silent] at connected finished
  rw [whole] at finished
  unfold messages
  simp only
  rw [finished.handled,carve_append,List.filterMap_append,← connected.handled]
  exact List.drop_left

theorem messages_first (before : List SocketSignal) (chunks : List QByteArray) : messages fromJson before chunks =
    match (carve newline chunks.flatten).1 with
    | [] => []
    | first :: more => (reading fromJson (leftover before ++ first)).toList ++ more.filterMap (reading fromJson) := by
  have free : newline ∉ leftover before := (carve_free _).2
  rw [messages_carve,carve_front free]
  cases (carve newline chunks.flatten).1 with
  | nil => rfl
  | cons first more => exact filterMap_toList _ _ _

-- Two histories and two deliveries of the same bytes bring the same messages
-- exactly when the first line is taken for the same behind both.
theorem messages_alike_iff (before earlier : List SocketSignal) (chunks others : List QByteArray)
    (same : chunks.flatten = others.flatten) :
    messages fromJson before chunks = messages fromJson earlier others ↔
      ∀ first ∈ (carve newline chunks.flatten).1.head?,
        reading fromJson (leftover before ++ first) = reading fromJson (leftover earlier ++ first) := by
  rw [messages_first,messages_first,same]
  cases (carve newline others.flatten).1 with
  | nil => exact ⟨nofun,fun _ => rfl⟩
  | cons first more =>
    simp only [List.head?_cons,Option.mem_some_iff,forall_eq']
    rw [List.append_left_inj]
    constructor
    · intro equal
      have heads := congrArg List.head? equal
      rwa [Option.head?_toList,Option.head?_toList] at heads
    · exact congrArg Option.toList

-- A connection that ended behind a whole line, or brought nothing.
def Whole (chunks : List QByteArray) : Prop := ∀ last ∈ chunks.flatten.getLast?, last = newline

def connection (chunks : List QByteArray) : List SocketSignal := .connected :: chunks.map .readyRead ++ [.disconnected]

theorem whole_flatten {connections : List (List QByteArray)} (whole : ∀ chunks ∈ connections, Whole chunks) :
    Whole connections.flatten := by
  unfold Whole at *
  induction connections with
  | nil => exact nofun
  | cons chunks rest ih =>
    obtain ⟨first,others⟩ := List.forall_mem_cons.mp whole
    rw [List.flatten_cons,List.flatten_append,List.getLast?_append]
    have later := ih others
    revert later
    cases rest.flatten.flatten.getLast? with
    | none => exact fun _ => first
    | some last => exact id

theorem leftover_whole {connections : List (List QByteArray)} (whole : ∀ chunks ∈ connections, Whole chunks) :
    leftover (connections.flatMap connection) = [] := by
  have bytes : (connections.flatMap connection).flatMap SocketSignal.bytes = connections.flatten.flatten := by
    induction connections with
    | nil => rfl
    | cons chunks rest ih =>
      have own : (connection chunks).flatMap SocketSignal.bytes = chunks.flatten := by
        unfold connection
        rw [List.cons_append,List.flatMap_cons,List.flatMap_append,List.flatMap_map]
        exact (List.append_nil _).trans List.flatMap_id
      rw [List.flatMap_cons,List.flatMap_append,own,ih (fun chunks listed => whole chunks (List.mem_cons_of_mem _ listed)),
        List.flatten_cons,List.flatten_append]
  unfold leftover
  rw [bytes]
  have ended := whole_flatten whole
  unfold Whole at ended
  rcases List.eq_nil_or_concat connections.flatten.flatten with none | ⟨front,last,split⟩
  · rw [none]
    rfl
  · rw [List.concat_eq_append] at split
    rw [split,List.getLast?_concat] at ended
    rw [split,ended last rfl,carve_append,carve_line (carve_free front).2 []]
    rfl

-- Behind connections that all ended with a whole line, and over any cuttings, the
-- same bytes bring the same messages.
theorem messages_alike {earlier other : List (List QByteArray)} (whole : ∀ chunks ∈ earlier, Whole chunks)
    (entire : ∀ chunks ∈ other, Whole chunks) (chunks others : List QByteArray) (same : chunks.flatten = others.flatten) :
    messages fromJson (earlier.flatMap connection) chunks = messages fromJson (other.flatMap connection) others := by
  rw [messages_first,messages_first,leftover_whole whole,leftover_whole entire,same]

def line (s : String) : QByteArray := (text s).map UInt16.toUInt8

def pongLine : QByteArray := line "\x7b\"type\":\"pong\"\x7d"

def readsPong (bytes : QByteArray) : Option QJsonObject :=
  if bytes = pongLine then some (.ofList [(text "type",.string (text "pong"))]) else none

-- The earlier connection ended behind a whole line, and the pong comes in two pieces.
theorem wholeLines_alike :
    messages readsPong [.connected,.readyRead (pongLine ++ [newline])] [pongLine,[newline]] =
      messages readsPong [] [pongLine ++ [newline]] := by
  have nothing : leftover [.connected,.readyRead (pongLine ++ [newline])] = leftover [] := by decide +kernel
  apply (messages_alike_iff _ _ _ _ (by decide)).mpr
  intro first _
  rw [nothing]

-- The earlier connection ended within a line.
theorem cutLine_differs :
    messages readsPong [.connected,.readyRead (line "\x7b\"type\":")] [pongLine ++ [newline]] ≠
      messages readsPong [] [pongLine ++ [newline]] := by
  intro same
  rw [messages_first,messages_first] at same
  have counts := congrArg List.length same
  revert counts
  decide +kernel

end ClientReader

end BbAuth
