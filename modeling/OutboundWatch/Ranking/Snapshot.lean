import OutboundWatch.Ranking.Status

/-!
# Ranking snapshots

A snapshot is the whole ranking at one version, best candidate first.
-/

namespace OutboundWatch

/-- Whether any candidate can carry traffic, and how many can. -/
inductive Availability where
  | available (usable : Nat)
  | noneUsable
  deriving DecidableEq

/-- A ranking, best candidate first. -/
structure Snapshot where
  version : Nat
  entries : List Status
  deriving DecidableEq

namespace Snapshot

def empty : Snapshot := ⟨0, []⟩

/-- The ranking of some statuses, in whatever order they come. -/
def build (version : Nat) (statuses : List Status) : Snapshot :=
  ⟨version, statuses.mergeSort Status.rankLe⟩

def size (s : Snapshot) : Nat := s.entries.length

def isEmpty (s : Snapshot) : Bool := s.entries.isEmpty

def first? (s : Snapshot) : Option Status := s.entries.head?

/-- The best `n` candidates, all of them if there are fewer. -/
def top (s : Snapshot) (n : Nat) : List Status := s.entries.take n

def get? (s : Snapshot) (tag : String) : Option Status := s.entries.find? fun c => c.tag == tag

/-- The place of a tag, counted from zero. -/
def position? (s : Snapshot) (tag : String) : Option Nat :=
  s.entries.findIdx? fun c => c.tag == tag

def availability (s : Snapshot) : Availability :=
  let usable := s.entries.countP Status.isUsable
  if usable = 0 then .noneUsable else .available usable

def usable (s : Snapshot) : Nat :=
  match s.availability with
  | .available n => n
  | .noneUsable => 0

end Snapshot

end OutboundWatch
