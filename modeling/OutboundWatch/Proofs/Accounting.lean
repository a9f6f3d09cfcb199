import OutboundWatch.Proofs.Bookkeeping
import OutboundWatch.Proofs.Quiescence

/-!
# What becomes of opened connections

A drain under way can take a turn at any time: it waits on, or its copy has ended and so has the drain. The
force-close signal ends it too, and it can be dropped. With each of these ends one connection leaves the tracker,
and a counter of its tag rises by the bytes of a completed drain or by one error.
-/

namespace OutboundWatch

namespace DrainTracker

/-- A turn of the drain of `c` from `source` to `sink`: it has to wait for a later time, or the copy ends. -/
inductive TurnsDrain (s : DrainTracker) (c : Connection) (acknowledged : UInt64) (source : List SourcePart)
    (sink : Sink) (now : Moment) : DrainTracker → List Record → Prop where
  | waits {waiting : Transfer} (later : waiting.isDue now = false) (forwarded : waiting.Forwarded source sink) :
    s.TurnsDrain c acknowledged source sink now (s.modify c.id fun d => { d with transfer := some waiting }) []
  | completes {drained : Nat} {last : Sink} {t : DrainTracker} {records : List Record}
    (copied : CopyEnds source sink (.ok drained) last)
    (ended : s.EndsDrain c (.ok ⟨acknowledged, drained⟩) last t records) :
    s.TurnsDrain c acknowledged source sink now t records
  | fails {error : IoError} {last : Sink} {t : DrainTracker} {records : List Record}
    (copied : CopyEnds source sink (.error error) last)
    (ended : s.EndsDrain c (.error (.io error)) last t records) :
    s.TurnsDrain c acknowledged source sink now t records

variable {s t : DrainTracker}

/-- The turn of a drain under way. -/
lemma turnsDrain_turnDrain (hids : (s.opened.map Connection.id).Nodup) {c : Connection} (hc : c ∈ s.opened)
    {transfer : Transfer} (htransfer : c.transfer = some transfer) {source : List SourcePart} {sink : Sink}
    (hforwarded : transfer.Forwarded source sink) (now : Moment) :
    s.TurnsDrain c c.acknowledged source sink now (s.turnDrain now c.id).1 (s.turnDrain now c.id).2 := by
  rw [turnDrain_eq (get?_eq hids hc) htransfer]
  have hgoes := Transfer.goes_turn hforwarded now
  cases hturn : transfer.turn now with
  | waits waiting =>
    rw [hturn] at hgoes
    exact .waits (Transfer.isDue_of_turn hturn) hgoes
  | ends last copied =>
    rw [hturn] at hgoes
    exact .completes hgoes (s.endsDrain_conclude c _ last)
  | fails last error =>
    rw [hturn] at hgoes
    exact .fails hgoes (s.endsDrain_conclude c _ last)

/-- After any events: each connection that was opened is either open or has ended with one report or was dropped
once. A report stands for the only drain of its connection. If the drain was completed, the sink got the bytes of
the source in order and the report has their number and the sum of the acknowledged bytes; if it failed, the report
has the error of the copy, and every drain that was not completed left its connection force-closed. A drain under
way can always take a turn and be interrupted: it waits on, or it ends with such a report, and it is interrupted
exactly if the force-close signal was given. A connection can always be dropped, before its drain or during it. With
the end of a drain and with a drop one connection leaves the tracker and nothing else changes in it. The end of a
drain raises one counter of its tag, by the drained bytes or by one error, and nothing else raises a counter. -/
theorem drains_accounted {grace : Span} {events : List DrainEvent}
    (h : events.foldlM perform? (create grace) = some t) :
    ((t.opened.map Connection.id ++ (t.reports.map DrainReport.id ++ droppedIn events)).Perm
        (List.range' 1 (openingsIn events)) ∧
      t.openCount + (t.reports.length + (droppedIn events).length) = openingsIn events) ∧
      (∀ report ∈ t.reports, ∃ source sink, drainsIn report.id events = [(source, sink)] ∧
        report.Tells (acknowledgedIn report.id events) source sink) ∧
      (∀ c ∈ t.opened, ∀ transfer, c.transfer = some transfer → ∃ source sink,
        drainsIn c.id events = [(source, sink)] ∧
        (∀ now, ∃ u records, t.act? (.move (.turn now c.id)) = some (u, records) ∧
          t.TurnsDrain c (acknowledgedIn c.id events) source sink now u records) ∧
        ∃ u records, t.act? (.move (.interrupt c.id)) = some (u, records) ∧
          (t.forceClosing = true → t.EndsDrain c (.error .forceClosed) transfer.sink u records) ∧
          (t.forceClosing = false → u = t ∧ records = [])) ∧
      (∀ c ∈ t.opened, ∃ records, t.act? (.move (.drop c.id)) =
        some ({ t with opened := t.opened.filter fun d => d.id != c.id }, records) ∧ Raise records fun _ => 0) ∧
      ∀ event u records, t.act? event = some (u, records) →
        t.perform? event = some u ∧ t.EndsOrSilent u records := by
  have hbooks := accounted_of_events h
  have hids := hbooks.ids
  refine ⟨⟨hbooks.places, ?_⟩, hbooks.reported, fun c hc transfer htransfer => ?_, fun c hc => ?_,
    fun event u records happens => ⟨?_, (books_act? hids happens).counted⟩⟩
  · have hlength := hbooks.places.length_eq
    simpa only [List.length_append, List.length_map, List.length_range', openCount] using hlength
  · have hget := get?_eq hids hc
    obtain ⟨hacknowledged, source, sink, hdrains, hforwarded⟩ := (hbooks.booked c hc).drain htransfer
    have hturn : ∀ now, t.act? (.move (.turn now c.id)) =
        some ((t.turnDrain now c.id).1, (t.turnDrain now c.id).2) := fun now => by simp [act?, move?, hget]
    have hinterrupt : t.act? (.move (.interrupt c.id)) =
        some ((t.interruptDrain c.id).1, (t.interruptDrain c.id).2) := by simp [act?, move?, hget]
    refine ⟨source, sink, hdrains, fun now => ⟨_, _, hturn now, ?_⟩, _, _, hinterrupt, fun hforce => ?_,
      fun hnone => ?_⟩
    · rw [← hacknowledged]
      exact turnsDrain_turnDrain hids hc htransfer hforwarded now
    · exact endsDrain_interruptDrain hids hc htransfer hforce
    · simp [interruptDrain, hnone]
  · refine ⟨(t.release c.id).2, ?_, raise_nothing (t.measurements_release c.id)⟩
    simp [act?, move?, get?_eq hids hc, ← fst_release]
  · rw [← map_fst_act?, happens]
    rfl

/-- Of three connections one is drained in two pieces and several writes, one is dropped, and the source of one
fails. -/
theorem three_accounted :
    let failure : IoError := ⟨"ConnectionReset", "reset by peer"⟩
    let source := [.data [1, 2], .pause ⟨5000000, by decide⟩, .data [3]]
    let sink : Sink := ⟨some 1, none, none, true, []⟩
    let events : List DrainEvent := [.openConnection "a", .openConnection "b", .openConnection "a",
      .move (.acknowledge 1 18446744073709551615), .move (.beginDrain 3 [.failure failure] Sink.discard),
      .move (.acknowledge 1 3), .move (.beginDrain 1 source sink), .move (.turn 0 1), .move (.drop 2),
      .move (.turn 0 3), .move (.turn 5000000 1)]
    ∃ t first second, events.foldlM perform? (create Span.zero) = some t ∧ t.reports = [first, second] ∧
      t.openCount = 0 ∧
      (first.id, first.result, first.phase) = (3, .error (.io failure), .forceClosed) ∧
      (second.id, second.result, second.phase) = (1, .ok ⟨2, 3⟩, .active) ∧ second.sink.received = [1, 2, 3] := by
  intro failure source sink events
  have hlast : (events.foldlM perform? (create Span.zero)).map (fun t =>
        t.reports.map fun report => (report.id, report.result, report.phase)) =
      some [(3, .error (.io failure), .forceClosed), (1, .ok ⟨2, 3⟩, .active)] := by decide +kernel
  obtain ⟨t, hplay, hreports⟩ := Option.map_eq_some_iff.mp hlast
  obtain ⟨first, rest, hfirst, hfirstresult, hrest⟩ := List.map_eq_cons_iff.mp hreports
  obtain ⟨second, last, rfl, hsecondresult, hnil⟩ := List.map_eq_cons_iff.mp hrest
  obtain rfl := List.map_eq_nil_iff.mp hnil
  obtain ⟨⟨-, hcount⟩, htells, -⟩ := drains_accounted hplay
  obtain ⟨hid, hresult⟩ := Prod.mk.inj hsecondresult
  obtain ⟨begun, taker, hbegun, hright⟩ := htells second (by simp [hfirst])
  rw [hid] at hbegun
  cases hbegun
  rw [DrainReport.Tells, (Prod.mk.inj hresult).1] at hright
  obtain ⟨-, hcopied⟩ := hright
  refine ⟨t, first, second, hplay, hfirst, ?_, hfirstresult, hsecondresult, ?_⟩
  · rw [hfirst] at hcount
    have hthree : t.openCount + 3 = 3 := hcount
    omega
  · cases hcopied with
    | complete passed taken => exact taken.received

end DrainTracker

end OutboundWatch
