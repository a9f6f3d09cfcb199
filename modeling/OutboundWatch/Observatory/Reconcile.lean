import OutboundWatch.Observatory.State

/-!
# Reconciliation

The configured candidates are brought in line with a list of wanted ones. Candidates that were registered
in another way stay, unless the list names them. The list is checked before anything is changed.
-/

namespace OutboundWatch

/-- What a reconciliation has changed. -/
structure ReconcileReport where
  added : List String
  removed : List String
  replaced : List String
  deriving DecidableEq

namespace ReconcileReport

def empty : ReconcileReport := ⟨[], [], []⟩

def isEmpty (r : ReconcileReport) : Bool :=
  r.added.isEmpty && r.removed.isEmpty && r.replaced.isEmpty

end ReconcileReport

namespace Observatory

/-- The first wanted candidate whose target fails its check. -/
def firstInvalid? : List CandidateConfig → Option ObservatoryError
  | [] => none
  | candidate :: rest =>
    match candidate.target.check with
    | .error reason => some (.invalidTarget candidate.tag reason)
    | .ok () => firstInvalid? rest

/-- The definition wanted for a tag; the last one counts. -/
def wantedFor (desired : List CandidateConfig) (tag : String) : Option CandidateConfig :=
  desired.reverse.find? fun candidate => candidate.tag == tag

/-- Remove the candidates that are no longer wanted and replace those that are wanted with another
target. -/
def reconcileTags (o : Observatory) (desired : List CandidateConfig) (report : ReconcileReport) :
    List String → Effect ReconcileReport
  | [] => ⟨o, [], .ok report⟩
  | tag :: rest =>
    match o.registry.get? tag with
    | none => o.reconcileTags desired report rest
    | some current =>
      match wantedFor desired tag with
      | none =>
        if current.source.isSome then
          let removal := o.unregister tag
          let others := removal.after.reconcileTags desired
            { report with removed := report.removed ++ [tag] } rest
          { others with records := removal.records ++ others.records }
        else o.reconcileTags desired report rest
      | some next =>
        if current.source = some next.target then o.reconcileTags desired report rest
        else
          let removal := o.unregister tag
          let renewal := removal.after.registerConfigured next
          match renewal.result with
          | .error e => ⟨renewal.after, removal.records ++ renewal.records, .error e⟩
          | .ok _ =>
            let others := renewal.after.reconcileTags desired
              { report with replaced := report.replaced ++ [tag] } rest
            { others with records := removal.records ++ renewal.records ++ others.records }

def addMissing (o : Observatory) (report : ReconcileReport) :
    List CandidateConfig → Effect ReconcileReport
  | [] => ⟨o, [], .ok report⟩
  | candidate :: rest =>
    if o.registry.contains candidate.tag then o.addMissing report rest
    else
      let addition := o.registerConfigured candidate
      match addition.result with
      | .error e => ⟨addition.after, addition.records, .error e⟩
      | .ok _ =>
        let others := addition.after.addMissing
          { report with added := report.added ++ [candidate.tag] } rest
        { others with records := addition.records ++ others.records }

/-- Bring the configured candidates in line with `desired`. -/
def reconcile (o : Observatory) (desired : List CandidateConfig) : Effect ReconcileReport :=
  if o.isStopped then ⟨o, [], .error .stopped⟩
  else
    match firstInvalid? desired with
    | some e => ⟨o, [], .error e⟩
    | none =>
      let kept := o.reconcileTags desired ReconcileReport.empty o.registry.tags
      match kept.result with
      | .error _ => kept
      | .ok report =>
        let filled := kept.after.addMissing report desired
        match filled.result with
        | .error _ => { filled with records := kept.records ++ filled.records }
        | .ok report =>
          let notices := if report.isEmpty then []
            else [Record.notice (.candidatesReconciled report.added report.removed report.replaced)]
          { filled with records := kept.records ++ filled.records ++ notices }

end Observatory

end OutboundWatch
