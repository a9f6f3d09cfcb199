import OutboundWatch.Admin.Server
import OutboundWatch.Proofs.Finality
import OutboundWatch.Proofs.Refusals

/-!
# Who sees the shutdown signal

The channel of the signal keeps no state that a later receiver could see. What a receiver gets depends only on
how many signals were given since it subscribed, through whichever handle. A stop gives one signal, and only
the first stop does. So whoever subscribes before it sees the signal, and whoever subscribes after it waits for
ever, the admin server like all others.
-/

namespace OutboundWatch

/-- A call of the channel: a signal is given through one of its handles, or a receiver does something. -/
inductive SignalCall where
  | trigger
  | move (move : SignalMove)
  deriving DecidableEq

/-- Whether a call has nothing to do with a receiver. -/
def SignalCall.spares (id : Nat) : SignalCall → Bool
  | .trigger => true
  | .move .subscribe => true
  | .move (.receive other) => decide (other ≠ id)
  | .move (.drop other) => decide (other ≠ id)

/-- What a receiver gets when so many signals were given since it last looked. -/
def Reception.ofCount : Nat → Reception
  | 0 => .empty
  | 1 => .signal
  | lost + 2 => .lagged (lost + 1)

namespace Signal

def call (s : Signal) : SignalCall → Signal
  | .trigger => s.trigger
  | .move move => s.move move

/-- No receiver has the number that the next one will get. -/
def Fresh (s : Signal) : Prop := ∀ r ∈ s.receivers, r.1 < s.nextReceiver

variable {s : Signal} {id seen : Nat}

lemma lookup_of_fresh (h : s.Fresh) : s.receivers.lookup s.nextReceiver = none := by
  rw [List.lookup_eq_none_iff]
  intro r hr
  exact bne_iff_ne.mpr (Nat.ne_of_gt (h r hr))

lemma fresh_call (h : s.Fresh) (c : SignalCall) : (s.call c).Fresh := by
  cases c with
  | trigger =>
    simp only [call, trigger]
    split
    · exact h
    · exact h
  | move move =>
    cases move with
    | subscribe =>
      intro r hr
      rcases List.mem_append.mp hr with hold | hnew
      · exact Nat.lt_succ_of_lt (h r hold)
      · rw [List.mem_singleton.mp hnew]
        exact Nat.lt_succ_self _
    | receive other =>
      have hset : ∀ count, (s.setSeen other count).Fresh := by
        intro count r hr
        obtain ⟨q, hq, rfl⟩ := List.mem_map.mp hr
        split
        · rename_i hid
          exact hid ▸ h q hq
        · exact h q hq
      simp only [call, Signal.move, receive]
      split
      · exact h
      · split
        · exact h
        · split
          · exact hset _
          · exact hset _
    | drop other => exact fun r hr => h r (List.mem_of_mem_filter hr)

/-- A call that has nothing to do with a receiver leaves it what it has seen, and a signal that is given while
there is a receiver counts. -/
lemma call_spares (hseen : s.receivers.lookup id = some seen) {c : SignalCall} (hspares : c.spares id = true) :
    (s.call c).receivers.lookup id = some seen ∧
      (s.call c).given = s.given + if c == .trigger then 1 else 0 := by
  cases c with
  | trigger =>
    have hsome : s.receivers.isEmpty = false := by
      cases hnone : s.receivers with
      | nil => simp [hnone] at hseen
      | cons r rest => rfl
    simp [call, trigger, hsome, hseen]
  | move move =>
    cases move with
    | subscribe => simp [call, Signal.move, subscribe, List.lookup_append, hseen]
    | receive other =>
      have hother : other ≠ id := of_decide_eq_true hspares
      have hset : ∀ count, (s.setSeen other count).receivers.lookup id = some seen := by
        intro count
        have hreplaced : (s.setSeen other count).receivers = TagMap.replaceIn other count s.receivers := rfl
        rw [hreplaced, TagMap.lookup_replaceIn, if_neg hother.symm, hseen]
      simp only [call, Signal.move, receive]
      split
      · exact ⟨hseen, rfl⟩
      · split
        · exact ⟨hseen, rfl⟩
        · split
          · exact ⟨hset _, rfl⟩
          · exact ⟨hset _, rfl⟩
    | drop other =>
      have hother : other ≠ id := of_decide_eq_true hspares
      have hkept := TagMap.lookup_filter (· != other) id s.receivers
      rw [if_pos (bne_iff_ne.mpr hother.symm)] at hkept
      exact ⟨hkept.trans hseen, rfl⟩

lemma receive_of_lookup (hseen : s.receivers.lookup id = some seen) {count : Nat}
    (hcount : s.given = seen + count) : (s.receive id).2 = .ofCount count := by
  rw [receive, hseen]
  match count with
  | 0 => simp [hcount, Reception.ofCount]
  | 1 => simp [hcount, Reception.ofCount]
  | lost + 2 => simp [hcount, Reception.ofCount]

/-- A receiver that has not looked yet gets what was given since it subscribed. -/
theorem receive_of_calls (h : s.Fresh) {calls : List SignalCall}
    (hspares : ∀ c ∈ calls, c.spares s.nextReceiver = true) :
    ((calls.foldl call s.subscribe.1).receive s.subscribe.2).2 = .ofCount (calls.count .trigger) := by
  have hseen : s.subscribe.1.receivers.lookup s.nextReceiver = some s.given := by
    simp [subscribe, List.lookup_append, lookup_of_fresh h]
  have hafter : ∀ t : Signal, t.receivers.lookup s.nextReceiver = some s.given →
      (calls.foldl call t).receivers.lookup s.nextReceiver = some s.given ∧
        (calls.foldl call t).given = t.given + calls.count .trigger := by
    induction calls with
    | nil => exact fun t ht => ⟨ht, rfl⟩
    | cons c rest ih =>
      intro t ht
      obtain ⟨hfirst, hrest⟩ := List.forall_mem_cons.mp hspares
      obtain ⟨hkept, hgiven⟩ := call_spares ht hfirst
      obtain ⟨hlast, hcount⟩ := ih hrest _ hkept
      refine ⟨hlast, ?_⟩
      rw [List.foldl_cons, hcount, hgiven, List.count_cons, Nat.add_right_comm, Nat.add_assoc]
  obtain ⟨hlast, hgiven⟩ := hafter _ hseen
  exact receive_of_lookup hlast hgiven

end Signal

/-- What a step does with the channel of the shutdown signal. -/
def Step.signalCalls (s : Step) : List SignalCall :=
  match s.event with
  | .signal move => [.move move]
  | .stop => if s.before.isStopped then [] else [.trigger]
  | _ => []

lemma Registrations.signal_eq {o p : Observatory} (h : Registrations o p) : p.signal = o.signal := by
  refine h.invariant (P := fun q => q.signal = o.signal) (fun q event r records hevent hq happens => ?_) rfl
  cases event with
  | registerConfigured candidate =>
    rw [Observatory.eq_of_perform?_effect happens]
    exact q.registerConfigured_keeps (P := fun r => r.signal = o.signal) candidate hq fun _ _ _ => hq
  | unregister tag =>
    rw [Observatory.eq_of_perform?_effect happens]
    exact q.unregister_keeps (P := fun r => r.signal = o.signal) tag hq fun _ _ => hq
  | _ => exact hevent.elim

lemma Registrations.keeps_channel {o p : Observatory} (h : Registrations o p) :
    p.signal = o.signal ∧ p.isStopped = (o.isStopped || false) :=
  ⟨h.signal_eq, h.isStopped_eq.trans (Bool.or_false _).symm⟩

namespace Observatory

variable {o p : Observatory}

/-- Whether a step calls the channel and whether it stops the observatory is up to its event. -/
lemma signal_perform? {event : Event} {records : List Record} (happens : o.perform? event = some (p, records)) :
    p.signal = (Step.signalCalls ⟨o, event, p, records⟩).foldl Signal.call o.signal ∧
      p.isStopped = (o.isStopped || Step.isStop ⟨o, event, p, records⟩) := by
  cases event with
  | register tag target =>
    rw [eq_of_perform?_effect happens]
    exact o.register_keeps (P := fun q => q.signal = o.signal ∧ q.isStopped = (o.isStopped || false)) tag target
      none ⟨rfl, (Bool.or_false _).symm⟩ fun _ _ => ⟨rfl, (Bool.or_false _).symm⟩
  | registerConfigured candidate =>
    rw [eq_of_perform?_effect happens]
    exact (Registrations.registerConfigured o candidate).keeps_channel
  | unregister tag =>
    rw [eq_of_perform?_effect happens]
    exact (Registrations.unregister o tag).keeps_channel
  | reconcile desired => exact (registrations_of_reconcile happens).keeps_channel
  | selectBest =>
    cases happens
    rcases o.selectBest_cases with hsame | ⟨chosen, -, -, hselected⟩
    · rw [hsame]
      exact ⟨rfl, (Bool.or_false _).symm⟩
    · rw [hselected]
      exact ⟨rfl, (Bool.or_false _).symm⟩
  | openConnection tag =>
    rw [eq_of_perform?_effect happens]
    rcases o.openConnection_cases tag with ⟨e, hrefused⟩ | ⟨-, -, hopened, -⟩
    · rw [hrefused]
      exact ⟨rfl, (Bool.or_false _).symm⟩
    · rw [hopened]
      exact ⟨rfl, (Bool.or_false _).symm⟩
  | stop =>
    cases happens
    rcases o.stop_cases with ⟨hstopped, hsame⟩ | ⟨hgoing, hstops⟩
    · rw [hsame]
      simp [Step.signalCalls, Step.isStop, hstopped]
    · have hgiven : Step.signalCalls ⟨o, .stop, o.stop.1, o.stop.2.2⟩ = [.trigger] := by
        simp [Step.signalCalls, hgoing]
      rw [hgiven, hstops]
      exact ⟨rfl, (Bool.or_true _).symm⟩
  | cycle now id move =>
    obtain ⟨scheduler, -, rfl⟩ := perform?_cycle happens
    exact ⟨rfl, (Bool.or_false _).symm⟩
  | deliver now id =>
    obtain ⟨c, status, -, -, hdeliver⟩ := perform?_deliver happens
    rcases deliver?_cases hdeliver with ⟨feed, -, rfl⟩ | ⟨-, rfl⟩
    · exact ⟨rfl, (Bool.or_false _).symm⟩
    · exact ⟨rfl, (Bool.or_false _).symm⟩
  | publisher move =>
    obtain ⟨publisher, table, -, rfl⟩ := perform?_publisher happens
    exact ⟨rfl, (Bool.or_false _).symm⟩
  | connection move =>
    obtain ⟨drains, -, rfl⟩ := perform?_connection happens
    exact ⟨rfl, (Bool.or_false _).symm⟩
  | signal move =>
    cases happens
    exact ⟨rfl, (Bool.or_false _).symm⟩
  | proceedStop now =>
    obtain ⟨hstopped, drains, stage, -, -, -, hstage, rfl⟩ := proceedStop?_cases happens
    refine ⟨rfl, ?_⟩
    rw [hstopped, Bool.true_or]
    exact decide_eq_true hstage

end Observatory

namespace Run

variable {o p : Observatory} {steps : List Step}

lemma isStopped_eq (run : Run o steps p) : p.isStopped = (o.isStopped || steps.any Step.isStop) := by
  induction run with
  | refl => simp
  | step run happens ih => simp [(Observatory.signal_perform? happens).2, ih, Bool.or_assoc]

lemma signal_eq (run : Run o steps p) :
    p.signal = (steps.flatMap Step.signalCalls).foldl Signal.call o.signal := by
  induction run with
  | refl => rfl
  | step run happens ih => simp [(Observatory.signal_perform? happens).1, ih]

/-- A run gives the signal once if it stops the observatory, and otherwise not at all. -/
lemma count_trigger (run : Run o steps p) :
    (steps.flatMap Step.signalCalls).count .trigger =
      if o.isStopped = false ∧ steps.any Step.isStop = true then 1 else 0 := by
  induction run with
  | refl => simp
  | @step steps q r event records run happens ih =>
    have hq := run.isStopped_eq
    rw [List.flatMap_append, List.count_append, ih, List.any_append]
    cases event with
    | stop =>
      cases ho : o.isStopped <;> cases hsteps : steps.any Step.isStop <;>
        simp [Step.signalCalls, Step.isStop, hq, ho, hsteps]
    | _ => simp [Step.signalCalls, Step.isStop]

end Run

/-- The channel of an observatory has come about by calls. -/
lemma Reachable.fresh_signal {o : Observatory} (ho : Reachable o) : o.signal.Fresh := by
  obtain ⟨config, world, started, made, steps, hstart, run⟩ := ho
  have hcreated : started.signal = Signal.create := (Observatory.registrations_of_start hstart).signal_eq
  have hcalls : ∀ calls : List SignalCall, ∀ s : Signal, s.Fresh → (calls.foldl Signal.call s).Fresh := by
    intro calls
    induction calls with
    | nil => exact fun _ hs => hs
    | cons c rest ih => exact fun s hs => ih _ (Signal.fresh_call hs c)
  rw [run.signal_eq, hcreated]
  exact hcalls _ _ fun r hr => by cases hr

lemma Admin.Server.isSome_finish? (s : Server) (o : Observatory) :
    (s.finish? o).isSome = decide ((o.signal.receive s.receiver).2 ≠ .empty) := by
  unfold finish?
  split <;> simp_all

/-- A receiver of the shutdown signal that looks for the first time sees it if the stop was called after it
subscribed and not before, and otherwise has nothing to receive, however long it waits. An admin server that
has started with this receiver can end in the first case and never in the other ones. -/
theorem shutdown_signal_seen {config : Config} {world : World} {started o : Observatory} {records : List Record}
    (hstart : Observatory.start config world = .ok (started, records)) {earlier later : List Step} {s : Step}
    (run : Run started (earlier ++ s :: later) o) (hsubscribes : s.event = .signal .subscribe)
    (hspares : ∀ t ∈ later, ∀ c ∈ t.signalCalls, c.spares s.before.signal.subscribe.2 = true) :
    let stoppedSince := !earlier.any Step.isStop && later.any Step.isStop
    (o.signal.receive s.before.signal.subscribe.2).2 = (if stoppedSince then .signal else .empty) ∧
      ∀ address, (Admin.Server.start s.before address).1 = s.after ∧
        ((Admin.Server.start s.before address).2.1.finish? o).isSome = stoppedSince := by
  intro stoppedSince
  have hstarted : Reachable started := ⟨config, world, started, records, [], hstart, .refl⟩
  have hgoing : started.isStopped = false :=
    (Observatory.registrations_of_start hstart).isStopped_eq
  obtain ⟨hbefore, happens, hafter⟩ := run.around
  have hsame : s.after = (Admin.Server.start s.before "").1 := by
    rw [hsubscribes] at happens
    exact (congrArg Prod.fst (Option.some.inj happens)).symm
  have hstopped : s.after.isStopped = earlier.any Step.isStop := by
    rw [hsame]
    exact hbefore.isStopped_eq.trans (by rw [hgoing, Bool.false_or])
  have hcalls : ∀ c ∈ later.flatMap Step.signalCalls, c.spares s.before.signal.nextReceiver = true := by
    intro c hc
    obtain ⟨t, ht, hc⟩ := List.mem_flatMap.mp hc
    exact hspares t ht c hc
  have hreception : (o.signal.receive s.before.signal.subscribe.2).2 =
      (if stoppedSince then .signal else .empty) := by
    have hgets := Signal.receive_of_calls (hstarted.run hbefore).fresh_signal hcalls
    have hsignal : s.after.signal = s.before.signal.subscribe.1 := by rw [hsame]; rfl
    rw [← hsignal, ← hafter.signal_eq, hafter.count_trigger, hstopped] at hgets
    rw [hgets]
    cases hearlier : earlier.any Step.isStop <;> cases hlater : later.any Step.isStop <;>
      simp [stoppedSince, hearlier, hlater, Reception.ofCount]
  refine ⟨hreception, fun address => ⟨hsame.symm, ?_⟩⟩
  have hreceiver : (Admin.Server.start s.before address).2.1.receiver = s.before.signal.subscribe.2 := rfl
  rw [Admin.Server.isSome_finish?, hreceiver, hreception]
  cases stoppedSince <;> rfl

/-- A receiver that subscribed before the stop sees the signal although another one has subscribed and gone, and
a server that has started with it can end. -/
theorem signal_seen_before_stop :
    let o := Observatory.create Config.bare World.desert
    let p := (Admin.Server.start o "127.0.0.1:8081").1
    let q := (Admin.Server.start p.stop.1 "127.0.0.1:8082").1
    (q.signal.receive 0).2 = .signal ∧
      ((Admin.Server.start o "127.0.0.1:8081").2.1.finish? q).isSome = true := by
  intro o p q
  obtain ⟨records, hstart⟩ := start_bare
  have run : Run o ([] ++ ⟨o, .signal .subscribe, p, []⟩ ::
      [⟨p, .stop, p.stop.1, p.stop.2.2⟩, ⟨p.stop.1, .signal .subscribe, q, []⟩]) q :=
    ((Run.refl.step rfl).step rfl).step rfl
  obtain ⟨hreception, hserver⟩ := shutdown_signal_seen hstart run rfl (by decide)
  exact ⟨hreception, (hserver "127.0.0.1:8081").2⟩

/-- A receiver that subscribes after a stop has nothing to receive, and a server that starts then cannot end. -/
theorem signal_missed_after_stop :
    let stopped := (Observatory.create Config.bare World.desert).stop.1
    let o := (Admin.Server.start stopped "127.0.0.1:8081").1
    Reachable o ∧ o.isStopped = true ∧ (o.signal.receive stopped.signal.subscribe.2).2 = .empty ∧
      (Admin.Server.start stopped "127.0.0.1:8081").2.1.finish? o = none := by
  intro stopped o
  have hstops : (Observatory.create Config.bare World.desert).perform? .stop = some (stopped, _) := rfl
  have hsubscribes : stopped.perform? (.signal .subscribe) = some (o, []) := rfl
  exact ⟨(reachable_bare.step hstops).step hsubscribes, rfl, rfl, rfl⟩

end OutboundWatch
