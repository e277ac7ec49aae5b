import Mathlib.Data.List.TakeWhile
import BbAuth.Library.Lines
import BbAuth.Routing

open Library Library.Lines
namespace BbAuth

abbrev QByteArray := List UInt8

namespace IpcServer

def maxMessageSize : Nat := 64 * 1024

def newline : UInt8 := 0x0A

-- isspace in the C locale.
def isSpace (byte : UInt8) : Bool := (0x09 ≤ byte && byte ≤ 0x0D) || byte = 0x20

def trimmed (line : QByteArray) : QByteArray := ((line.dropWhile isSpace).reverse.dropWhile isSpace).reverse

-- A call of the message handler, or an error that is written to the socket.
inductive Effect where
  | handled (type : QString) (obj : QJsonObject)
  | sent (message : Message)

-- A socket the server reads from, with its entry of m_buffers and what its
-- lines have led to. A dropped connection keeps the buffer that was too long,
-- so that whatever would still be read is refused as well.
structure Connection where
  buffer : QByteArray := []
  dropped : Bool := false
  effects : List Effect := []

-- QJsonDocument::fromJson: nothing where it reports an error or where what it
-- read is no object. CAgent sets the handler before the server listens.
variable (fromJson : QByteArray → Option QJsonObject)

def handleLine (line : QByteArray) : List Effect :=
  match fromJson line with
  | none => [.sent (.error (text "Invalid JSON"))]
  | some obj =>
    let type := (obj.value (text "type")).toString
    if type.isEmpty then [.sent (.error (text "Missing type field"))] else [.handled type obj]

-- The loop of onReadyRead: what the complete lines lead to and what is left.
def readLines (buffer : QByteArray) : List Effect × QByteArray :=
  match _found : buffer.idxOf? newline with
  | none => ([],buffer)
  | some idx =>
    let line := trimmed (buffer.take idx)
    let later := readLines (buffer.drop (idx + 1))
    ((if line.isEmpty then [] else handleLine fromJson line) ++ later.1,later.2)
termination_by buffer.length
decreasing_by
  obtain ⟨within,_⟩ := List.idxOf?_eq_some_iff.mp _found
  simp only [List.length_drop]
  omega

def onReadyRead (c : Connection) (chunk : QByteArray) : Connection :=
  let buffer := c.buffer ++ chunk
  if buffer.length > maxMessageSize then {c with buffer:=buffer,dropped:=true}
  else
    let (effects,buffer) := readLines fromJson buffer
    {c with buffer:=buffer,effects:=c.effects ++ effects}

def receive (chunks : List QByteArray) : Connection := chunks.foldl (onReadyRead fromJson) {}

-- What one line leads to, without its newline.
def lineEffects (line : QByteArray) : List Effect :=
  if (trimmed line).isEmpty then [] else handleLine fromJson (trimmed line)

theorem readLines_carve (buffer : QByteArray) : readLines fromJson buffer =
    ((carve newline buffer).1.flatMap (lineEffects fromJson),(carve newline buffer).2) := by
  fun_induction readLines fromJson buffer with
  | case1 buffer absent =>
    rw [carve_plain (List.idxOf?_eq_none_iff.mp absent)]
    rfl
  | case2 buffer idx found line later ih =>
    have after : later = _ := ih
    rw [carve_found found,List.flatMap_cons,after]
    rfl

theorem onReadyRead_refused (c : Connection) (chunk : QByteArray)
    (large : maxMessageSize < c.buffer.length + chunk.length) :
    onReadyRead fromJson c chunk = {c with buffer:=c.buffer ++ chunk,dropped:=true} := by
  rw [← List.length_append] at large
  exact if_pos large

theorem onReadyRead_read (c : Connection) (chunk : QByteArray)
    (fits : c.buffer.length + chunk.length ≤ maxMessageSize) :
    onReadyRead fromJson c chunk = {c with
      buffer:=(carve newline (c.buffer ++ chunk)).2,
      effects:=c.effects ++ (carve newline (c.buffer ++ chunk)).1.flatMap (lineEffects fromJson)} := by
  have small : ¬(c.buffer ++ chunk).length > maxMessageSize := by
    rw [List.length_append]
    omega
  have opened : onReadyRead fromJson c chunk = {c with
      buffer:=(readLines fromJson (c.buffer ++ chunk)).2,
      effects:=c.effects ++ (readLines fromJson (c.buffer ++ chunk)).1} := if_neg small
  rw [opened,readLines_carve]

structure Reads (c : Connection) (stream : QByteArray) : Prop where
  buffer : c.buffer = (carve newline stream).2
  effects : c.effects = (carve newline stream).1.flatMap (lineEffects fromJson)
  dropped : c.dropped = false

variable {fromJson}

theorem reads_more (reads : Reads fromJson c stream) (fits : c.buffer.length + chunk.length ≤ maxMessageSize) :
    Reads fromJson (onReadyRead fromJson c chunk) (stream ++ chunk) := by
  rw [onReadyRead_read fromJson c chunk fits,reads.buffer,reads.effects]
  constructor
  · rw [carve_append stream chunk]
  · rw [carve_append stream chunk,List.flatMap_append]
  · exact reads.dropped

theorem reads_short {chunks : List QByteArray} (reads : Reads fromJson c stream)
    (short : stream.length + chunks.flatten.length ≤ maxMessageSize) :
    Reads fromJson (chunks.foldl (onReadyRead fromJson) c) (stream ++ chunks.flatten) := by
  induction chunks generalizing c stream with
  | nil =>
    rw [List.flatten_nil,List.append_nil]
    exact reads
  | cons chunk chunks ih =>
    rw [List.flatten_cons,List.length_append] at short
    have held : c.buffer.length ≤ stream.length := by
      rw [reads.buffer]
      exact carve_rest_length stream
    have next : Reads fromJson (onReadyRead fromJson c chunk) (stream ++ chunk) := reads_more reads (by omega)
    rw [List.foldl_cons,List.flatten_cons,← List.append_assoc]
    apply ih next
    rw [List.length_append]
    omega

-- A line that is white space only leads to nothing, any other to one effect.
def blank (line : QByteArray) : Prop := ∀ byte ∈ line, isSpace byte = true

theorem dropWhile_nil (line : QByteArray) : line.dropWhile isSpace = [] ↔ blank line := List.dropWhile_eq_nil_iff

theorem trimmed_nil (line : QByteArray) : trimmed line = [] ↔ blank line := by
  constructor
  · intro nothing
    have tail : blank (line.dropWhile isSpace).reverse := (dropWhile_nil _).mp (List.reverse_eq_nil_iff.mp nothing)
    cases kept : line.dropWhile isSpace with
    | nil => exact (dropWhile_nil line).mp kept
    | cons byte rest =>
      have spare := List.head?_dropWhile_not isSpace line
      rw [kept] at spare tail
      have space := tail byte (List.mem_reverse.mpr List.mem_cons_self)
      simp only [List.head?_cons,space] at spare
      cases spare
  · intro spaces
    rw [trimmed,(dropWhile_nil line).mpr spaces]
    rfl

theorem lineEffects_nil (line : QByteArray) : lineEffects fromJson line = [] ↔ blank line := by
  rw [← trimmed_nil]
  unfold lineEffects handleLine
  cases kept : trimmed line with
  | nil => exact ⟨fun _ => rfl,fun _ => rfl⟩
  | cons byte rest =>
    refine ⟨fun nothing => ?_,fun nothing => absurd nothing (List.cons_ne_nil byte rest)⟩
    exfalso
    revert nothing
    simp only [List.isEmpty_cons,Bool.false_eq_true,if_false]
    cases fromJson (byte :: rest) with
    | none => exact List.cons_ne_nil _ _
    | some obj =>
      simp only
      split <;> exact List.cons_ne_nil _ _

theorem reads_lines {before : List QByteArray} (reads : Reads fromJson c stream) (empty : c.buffer = [])
    (ended : ∀ line ∈ before, ∃ body, newline ∉ body ∧ line = body ++ [newline])
    (fits : ∀ line ∈ before, line.length ≤ maxMessageSize) :
    Reads fromJson (before.foldl (onReadyRead fromJson) c) (stream ++ before.flatten) := by
  induction before generalizing c stream with
  | nil =>
    rw [List.flatten_nil,List.append_nil]
    exact reads
  | cons line before ih =>
    obtain ⟨⟨body,free,rfl⟩,others⟩ := List.forall_mem_cons.mp ended
    obtain ⟨small,smaller⟩ := List.forall_mem_cons.mp fits
    have within : c.buffer.length + (body ++ [newline]).length ≤ maxMessageSize := by
      rw [empty]
      simpa using small
    have stepped := onReadyRead_read fromJson c (body ++ [newline]) within
    rw [empty,List.nil_append,carve_line free []] at stepped
    rw [List.foldl_cons,List.flatten_cons,← List.append_assoc]
    exact ih (reads_more reads within) (congrArg Connection.buffer stepped) others smaller

-- The first line above the limit has only blank lines before it.
def LargeFirst (stream : QByteArray) : Prop :=
  ∃ before line after, lines newline stream = before ++ line :: after ∧ (∀ other ∈ before, blank other) ∧
    maxMessageSize < line.length

-- The connection is read the same however the stream is cut, and dropped
-- exactly for a line above the limit. A line counts with its newline.
def FramedAlike (fromJson : QByteArray → Option QJsonObject) (stream : QByteArray) : Prop :=
  (∀ first second : List QByteArray, first.flatten = stream → second.flatten = stream →
    (receive fromJson first).effects = (receive fromJson second).effects ∧
      (receive fromJson first).dropped = (receive fromJson second).dropped) ∧
  ∀ chunks : List QByteArray, chunks.flatten = stream →
    ((receive fromJson chunks).dropped = true ↔ ∃ line ∈ lines newline stream, maxMessageSize < line.length)

theorem reads_start : Reads fromJson {} [] := ⟨rfl,rfl,rfl⟩

theorem receive_whole (fromJson : QByteArray → Option QJsonObject) (stream : QByteArray) (large : maxMessageSize < stream.length) :
    (receive fromJson [stream]).dropped = true ∧ (receive fromJson [stream]).effects = [] := by
  have refused := onReadyRead_refused fromJson {} stream (by simpa using large)
  have once : receive fromJson [stream] = onReadyRead fromJson {} stream := rfl
  rw [once,refused]
  exact ⟨rfl,rfl⟩

theorem line_length (present : line ∈ lines newline stream) : line.length ≤ stream.length := by
  have whole := lines_flatten newline stream
  exact whole ▸ (List.sublist_flatten_of_mem present).length_le

theorem first_large {all : List QByteArray} (listed : line ∈ all) (large : maxMessageSize < line.length) :
    ∃ before line after, all = before ++ line :: after ∧
      (∀ other ∈ before, other.length ≤ maxMessageSize) ∧ maxMessageSize < line.length := by
  induction all with
  | nil => exact absurd listed List.not_mem_nil
  | cons head rest ih =>
    by_cases small : head.length ≤ maxMessageSize
    · have later : line ∈ rest := by
        rcases List.mem_cons.mp listed with rfl | later
        · omega
        · exact later
      obtain ⟨before,line,after,split,fits,large⟩ := ih later
      exact ⟨head :: before,line,after,congrArg (head :: ·) split,List.forall_mem_cons.mpr ⟨small,fits⟩,large⟩
    · exact ⟨[],head,rest,rfl,fun _ absent => absurd absent List.not_mem_nil,by omega⟩

-- A connection that was dropped before it handled anything, or that has read
-- no more than a bound.
def Held (fromJson : QByteArray → Option QJsonObject) (bound : QByteArray) (c : Connection) (stream : QByteArray) : Prop :=
  (c.dropped = true ∧ maxMessageSize < c.buffer.length ∧ c.effects = []) ∨ (Reads fromJson c stream ∧ stream <+: bound)

theorem held_step (silent : ∀ line ∈ (carve newline bound).1, blank line)
    (full : (carve newline bound).2.length = maxMessageSize) (within : bound <+: whole)
    (held : Held fromJson bound c stream) (later : stream ++ chunk <+: whole) :
    Held fromJson bound (onReadyRead fromJson c chunk) (stream ++ chunk) := by
  rcases held with ⟨dropped,large,nothing⟩ | ⟨reads,tail,rfl⟩
  · left
    rw [onReadyRead_refused fromJson c chunk (by omega)]
    refine ⟨rfl,?_,nothing⟩
    rw [List.length_append]
    omega
  · obtain ⟨carved,far⟩ := carve_prefix newline stream tail rfl
    by_cases fits : c.buffer.length + chunk.length ≤ maxMessageSize
    · right
      refine ⟨reads_more reads fits,List.prefix_of_prefix_length_le later within ?_⟩
      have whole_bound := congrArg List.length (lines_flatten newline (stream ++ tail))
      simp only [lines,List.flatten_append,List.length_append,List.flatten_singleton] at whole_bound
      rw [reads.buffer] at fits
      simp only [List.length_append] at *
      omega
    · left
      rw [onReadyRead_refused fromJson c chunk (by omega)]
      refine ⟨rfl,?_,?_⟩
      · rw [List.length_append]
        omega
      · rw [reads.effects,List.flatMap_eq_nil_iff]
        exact fun line present => (lineEffects_nil line).mpr (silent line (carved.subset present))

theorem held_run (silent : ∀ line ∈ (carve newline bound).1, blank line)
    (full : (carve newline bound).2.length = maxMessageSize) (within : bound <+: whole) {chunks : List QByteArray}
    (held : Held fromJson bound c stream) (later : stream ++ chunks.flatten <+: whole) :
    Held fromJson bound (chunks.foldl (onReadyRead fromJson) c) (stream ++ chunks.flatten) := by
  induction chunks generalizing c stream with
  | nil =>
    rw [List.flatten_nil,List.append_nil]
    exact held
  | cons chunk chunks ih =>
    rw [List.flatten_cons,← List.append_assoc] at later ⊢
    exact ih (held_step silent full within held ((List.prefix_append _ _).trans later)) later

-- Nothing of such a stream is handled and its connection is dropped, wherever
-- the chunk that makes the buffer too long ends.
theorem receive_large (fromJson : QByteArray → Option QJsonObject) (first : LargeFirst stream) {chunks : List QByteArray} (cut : chunks.flatten = stream) :
    (receive fromJson chunks).dropped = true ∧ (receive fromJson chunks).effects = [] := by
  obtain ⟨before,line,after,split,blanks,large⟩ := first
  have whole : before.flatten ++ (line ++ after.flatten) = stream := by
    rw [← lines_flatten newline stream,split,List.flatten_append,List.flatten_cons]
  have listed : line ∈ lines newline stream := by
    rw [split]
    exact List.mem_append_right _ List.mem_cons_self
  have plain : newline ∉ line.take maxMessageSize := by
    have inside : line.take maxMessageSize <+: line.dropLast := by
      apply List.prefix_of_prefix_length_le (List.take_prefix _ _) (List.dropLast_prefix _)
      rw [List.length_take,List.length_dropLast]
      omega
    exact fun present => lines_free listed (inside.subset present)
  have carved := carve_ended (lines_before split) (line.take maxMessageSize)
  rw [carve_plain plain,List.append_nil] at carved
  have full : (line.take maxMessageSize).length = maxMessageSize := List.length_take_of_le (by omega)
  have within : before.flatten ++ line.take maxMessageSize <+: stream := by
    rw [← whole]
    exact (List.prefix_append_right_inj _).mpr ((List.take_prefix _ _).trans (List.prefix_append _ _))
  have silent : ∀ other ∈ (carve newline (before.flatten ++ line.take maxMessageSize)).1, blank other := by
    rw [carved]
    intro shortened present
    obtain ⟨other,earlier,rfl⟩ := List.mem_map.mp present
    exact fun byte inside => blanks other earlier byte (List.dropLast_subset _ inside)
  have held : Held fromJson (before.flatten ++ line.take maxMessageSize) (chunks.foldl (onReadyRead fromJson) {})
      ([] ++ chunks.flatten) := held_run silent
    (by rw [carved]; exact full) within (.inr ⟨reads_start,List.nil_prefix⟩) (by rw [cut]; exact List.prefix_rfl)
  rw [List.nil_append,cut] at held
  rcases held with ⟨dropped,_,nothing⟩ | ⟨_,short⟩
  · exact ⟨dropped,nothing⟩
  · exfalso
    have bound := short.length_le
    rw [← whole] at bound
    simp only [List.length_append,full] at bound
    omega

-- A stream that is too long for one chunk is dropped there, so that only a line
-- that is too long may follow what is handled in smaller chunks.
theorem framed_large (framed : FramedAlike fromJson stream) (long : maxMessageSize < stream.length) : LargeFirst stream := by
  obtain ⟨alike,limited⟩ := framed
  obtain ⟨dropped,silent⟩ := receive_whole fromJson stream long
  obtain ⟨exceeding,listed,exceeds⟩ := (limited [stream] List.flatten_singleton).mp dropped
  obtain ⟨before,line,after,split,small,large⟩ := first_large listed exceeds
  have ended := lines_before split
  have whole : (before ++ [line ++ after.flatten]).flatten = stream := by
    rw [← lines_flatten newline stream,split,List.flatten_append,List.flatten_append,List.flatten_singleton,
      List.flatten_cons]
  have reads := reads_lines (reads_start : Reads fromJson {} []) rfl ended small
  have carved := carve_ended ended []
  rw [List.append_nil] at carved
  rw [List.nil_append] at reads
  refine ⟨before,line,after,split,?_,large⟩
  have cut : receive fromJson (before ++ [line ++ after.flatten]) =
      onReadyRead fromJson (receive fromJson before) (line ++ after.flatten) := List.foldl_append
  have refused := onReadyRead_refused fromJson (receive fromJson before) (line ++ after.flatten)
    (by rw [List.length_append]; omega)
  have same := (alike _ [stream] whole List.flatten_singleton).1
  rw [silent,cut,refused] at same
  have bodies : (carve newline before.flatten).1 = before.map List.dropLast :=
    (congrArg Prod.fst carved).trans (List.append_nil _)
  have nothing : (before.map List.dropLast).flatMap (lineEffects fromJson) = [] := by
    rw [← bodies]
    exact reads.effects.symm.trans same
  intro other present
  obtain ⟨body,free,rfl⟩ := ended other present
  have bare := List.flatMap_eq_nil_iff.mp nothing (body ++ [newline]).dropLast (List.mem_map_of_mem present)
  rw [List.dropLast_concat] at bare
  exact List.forall_mem_append.mpr ⟨(lineEffects_nil body).mp bare,List.forall_mem_singleton.mpr rfl⟩

theorem framed_short (fromJson : QByteArray → Option QJsonObject) (short : stream.length ≤ maxMessageSize) :
    FramedAlike fromJson stream := by
  have read (chunks : List QByteArray) (cut : chunks.flatten = stream) : Reads fromJson (receive fromJson chunks) stream := by
    have reads : Reads fromJson (chunks.foldl (onReadyRead fromJson) {}) ([] ++ chunks.flatten) :=
      reads_short reads_start (by rw [cut]; simpa using short)
    rw [cut] at reads
    exact reads
  constructor
  · intro first second cut_first cut_second
    have one := read first cut_first
    have two := read second cut_second
    exact ⟨one.effects.trans two.effects.symm,one.dropped.trans two.dropped.symm⟩
  · intro chunks cut
    have kept := (read chunks cut).dropped
    constructor
    · intro dropped
      exact absurd (kept.symm.trans dropped) Bool.false_ne_true
    · rintro ⟨line,listed,large⟩
      have bound := line_length listed
      omega

theorem framed_first (fromJson : QByteArray → Option QJsonObject) (first : LargeFirst stream) :
    FramedAlike fromJson stream := by
  obtain ⟨before,line,after,split,_,large⟩ := id first
  have listed : line ∈ lines newline stream := by
    rw [split]
    exact List.mem_append_right _ List.mem_cons_self
  constructor
  · intro one two cut_one cut_two
    obtain ⟨dropped_one,silent_one⟩ := receive_large fromJson first cut_one
    obtain ⟨dropped_two,silent_two⟩ := receive_large fromJson first cut_two
    exact ⟨silent_one.trans silent_two.symm,dropped_one.trans dropped_two.symm⟩
  · intro chunks cut
    exact ⟨fun _ => ⟨line,listed,large⟩,fun _ => (receive_large fromJson first cut).1⟩

theorem framed_iff (fromJson : QByteArray → Option QJsonObject) (stream : QByteArray) :
    FramedAlike fromJson stream ↔ stream.length ≤ maxMessageSize ∨ LargeFirst stream := by
  constructor
  · intro framed
    by_cases short : stream.length ≤ maxMessageSize
    · exact .inl short
    · exact .inr (framed_large framed (by omega))
  · intro cause
    rcases cause with short | first
    · exact framed_short fromJson short
    · exact framed_first fromJson first

def longLine : QByteArray := List.replicate 40000 0x78 ++ [newline]

-- Two pipelined lines pass one by one, together they drop the connection.
theorem pipelined_lines_differ : ¬FramedAlike (fun _ => none) (longLine ++ longLine) := by
  rintro ⟨alike,_⟩
  have length : longLine.length = 40001 := by
    rw [longLine,List.length_append,List.length_replicate]
    rfl
  have free : newline ∉ List.replicate 40000 (0x78 : UInt8) := by
    intro present
    have same := List.eq_of_mem_replicate present
    revert same
    decide
  have ended : ∀ line ∈ [longLine,longLine], ∃ body, newline ∉ body ∧ line = body ++ [newline] := by
    intro line present
    have same : line = longLine := by simpa using present
    exact ⟨_,free,same⟩
  have fits : ∀ line ∈ [longLine,longLine], line.length ≤ maxMessageSize := by
    intro line present
    have same : line = longLine := by simpa using present
    rw [same,length]
    decide
  have kept := (reads_lines (reads_start : Reads (fun _ => none) {} []) rfl ended fits).dropped
  have large : maxMessageSize < (longLine ++ longLine).length := by
    rw [List.length_append,length]
    decide
  have dropped := (receive_whole (fun _ => none) (longLine ++ longLine) large).1
  have joined : [longLine,longLine].flatten = longLine ++ longLine := by
    rw [List.flatten_cons,List.flatten_singleton]
  have same := (alike [longLine,longLine] [longLine ++ longLine] joined List.flatten_singleton).2
  exact absurd (kept.symm.trans (same.trans dropped)) Bool.false_ne_true

end IpcServer

end BbAuth
