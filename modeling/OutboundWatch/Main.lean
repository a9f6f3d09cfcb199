import OutboundWatch.Config.Load
import OutboundWatch.Observatory.State

/-!
# Command line

Reads a configuration from standard input, starts an observatory with it and lists its candidates in the
order of their ranking. What is wrong with the configuration goes to standard error.
-/

namespace OutboundWatch

def readAll (input : IO.FS.Stream) : IO String := do
  let mut text := ""
  repeat
    let line ← input.getLine
    if line.isEmpty then break
    text := text ++ line
  return text

def rankingLines (o : Observatory) : List String :=
  o.ranking.entries.map fun c => c.tag ++ " " ++ c.label.name

end OutboundWatch

open OutboundWatch

def main : IO UInt32 := do
  match Config.parse (← readAll (← IO.getStdin)) with
  | .error reason =>
    IO.eprintln ("Error: " ++ reason.headline?.getD "the configuration cannot be parsed")
    return 1
  | .ok config =>
    match Observatory.start config ⟨0, fun _ => Binary64.zero, .unreachable⟩ with
    | .error reason =>
      IO.eprintln ("Error: " ++ reason.message)
      return 1
    | .ok (o, _) =>
      (rankingLines o).forM IO.println
      return 0
