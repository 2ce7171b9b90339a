import TokenAcquisition.Text.Characters

/-!
Counts of completed commands, by lane and outcome, and of completions that found no command.
-/

namespace TokenAcquisition.Dispatch

structure Metrics where
  /-- The lane and the outcome of each completed command. -/
  commands : List (String × String) := []
  orphans : Nat := 0

namespace Metrics

def record (m : Metrics) (lane outcome : String) : Metrics :=
  { m with commands := m.commands ++ [(lane, outcome)] }

def recordOrphan (m : Metrics) : Metrics :=
  { m with orphans := m.orphans + 1 }

def count (m : Metrics) (lane outcome : String) : Nat :=
  m.commands.count (lane, outcome)

@[simp]
theorem count_record_self (m : Metrics) (lane outcome : String) :
    (m.record lane outcome).count lane outcome = m.count lane outcome + 1 := by
  simp [record, count]

/-- A text between quotes: line ends, quotes and backslashes are escaped, while a pair of
backslashes and a quote behind a backslash are escaped already.  `held` tells whether a backslash
is waiting for what follows it. -/
private def escaped (held : Bool) : List Char → List Char
  | [] => if held then ['\\', '\\'] else []
  | '\n' :: rest => '\\' :: 'n' :: escaped held rest
  | '"' :: rest => '\\' :: '"' :: escaped false rest
  | '\\' :: rest => if held then '\\' :: '\\' :: escaped false rest else escaped true rest
  | c :: rest =>
      if held then '\\' :: '\\' :: c :: escaped false rest else c :: escaped false rest

private def quoted (s : String) : String :=
  "\"" ++ String.ofList (escaped false s.toList) ++ "\""

private def countLine (m : Metrics) (pair : String × String) : String :=
  "identity_commands_total\x7blane=" ++ quoted pair.1 ++ ",outcome=" ++ quoted pair.2 ++
    "\x7d " ++ toString (m.count pair.1 pair.2)

private def durationLine (m : Metrics) (lane : String) : String :=
  "identity_command_duration_seconds_count\x7blane=" ++ quoted lane ++ "\x7d " ++
    toString (m.commands.countP fun pair => pair.1 == lane)

/-- One line for each count that is not zero, in ascending order. -/
def render (m : Metrics) : List String :=
  let counts := m.commands.eraseDups.map (countLine m)
  let durations := (m.commands.map Prod.fst).eraseDups.map (durationLine m)
  let orphans :=
    if m.orphans = 0 then [] else ["identity_orphan_completions_total " ++ toString m.orphans]
  (counts ++ durations ++ orphans).mergeSort Text.precedes

end Metrics

end TokenAcquisition.Dispatch
