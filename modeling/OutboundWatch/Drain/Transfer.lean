import OutboundWatch.Time.Span

/-!
# Transfers

A transfer forwards everything that a source has left to a sink, piece by piece and in order. It ends
at the end of the source or at the first error of either side, and it may have to wait in between.
-/

namespace OutboundWatch

/-- An input or output error: the name of its kind and its text. -/
structure IoError where
  kind : String
  text : String
  deriving DecidableEq

/-- The error of a sink that takes no more bytes and gives no reason. -/
def IoError.writeZero : IoError := ⟨"WriteZero", "write zero byte into writer"⟩

/-- A part of what a source does. A source is a list of parts, and it is at its end when they are used
up. -/
inductive SourcePart where
  | data (bytes : List UInt8)
  | pause (length : Span)
  | failure (error : IoError)
  | hang
  deriving DecidableEq

/-- Where the bytes of a transfer go. -/
structure Sink where
  perWrite : Option Nat
  budget : Option Nat
  /-- The error with which it then refuses; without one it takes nothing and stays silent. -/
  refusal : Option IoError
  keeps : Bool
  /-- The bytes of each write, the latest first. -/
  writes : List (List UInt8)
  deriving DecidableEq

namespace Sink

def discard : Sink := ⟨none, none, none, false, []⟩

def keepAll : Sink := ⟨none, none, none, true, []⟩

/-- All bytes kept so far, in order. -/
def received (s : Sink) : List UInt8 := s.writes.reverse.flatten

/-- How many of `n` offered bytes the next write takes. -/
def room (s : Sink) (n : Nat) : Nat :=
  min (min n (s.perWrite.getD n)) (s.budget.getD n)

def take (s : Sink) (bytes : List UInt8) : Sink :=
  { s with
    budget := s.budget.map (· - bytes.length)
    writes := if s.keeps then bytes :: s.writes else s.writes }

/-- Write all of `bytes`, in as many writes as it takes, or up to the write that fails. -/
def writeAll (s : Sink) (bytes : List UInt8) : Sink × Option IoError :=
  if bytes.isEmpty then (s, none)
  else
    let n := s.room bytes.length
    if _h : n = 0 then (s, some (s.refusal.getD IoError.writeZero))
    else writeAll (s.take (bytes.take n)) (bytes.drop n)
termination_by bytes.length
decreasing_by
  have hlen : 0 < bytes.length := by
    cases bytes with
    | nil => simp_all
    | cons _ _ => simp
  simp only [List.length_drop]
  omega

end Sink

/-- A transfer under way: what the source still does, where the bytes go, how many have gone. -/
structure Transfer where
  source : List SourcePart
  sink : Sink
  copied : Nat
  resumeAt : Option Moment
  deriving DecidableEq

/-- What a turn of a transfer leads to. -/
inductive Transfer.Turn where
  /-- It has to wait, for ever if it has no moment to resume at. -/
  | waits (transfer : Transfer)
  | ends (sink : Sink) (copied : Nat)
  | fails (sink : Sink) (error : IoError)

namespace Transfer

def start (source : List SourcePart) (sink : Sink) : Transfer := ⟨source, sink, 0, none⟩

/-- Forward everything that is there at `now`. -/
def run (now : Moment) (sink : Sink) (copied : Nat) : List SourcePart → Turn
  | [] => .ends sink copied
  | .data bytes :: rest =>
    match sink.writeAll bytes with
    | (sink', none) => run now sink' (copied + bytes.length) rest
    | (sink', some error) => .fails sink' error
  | .pause length :: rest =>
    if length.isZero then run now sink copied rest
    else .waits ⟨rest, sink, copied, some (now + length.nanos)⟩
  | .failure error :: _ => .fails sink error
  | .hang :: rest => .waits ⟨.hang :: rest, sink, copied, none⟩

/-- Whether a turn at `now` would get anywhere. -/
def isDue (t : Transfer) (now : Moment) : Bool :=
  match t.resumeAt with
  | some moment => decide (moment ≤ now)
  | none => t.source.head? != some .hang

/-- A turn at `now`. -/
def turn (t : Transfer) (now : Moment) : Turn :=
  if t.isDue now then run now t.sink t.copied t.source else .waits t

end Transfer

end OutboundWatch
