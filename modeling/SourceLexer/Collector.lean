import SourceLexer.Failure

/-!
# Collectors

A collector keeps the diagnostics that lexers report, in the order of the reports.  Several lexers
may share one.  A collector can have a limit: the report that reaches it is still kept, and then
the call that made it fails.
-/

namespace SourceLexer

/-- Diagnostics in the order in which they were reported. -/
structure Collector where
  entries : Array Diagnostic := #[]
  /-- The count at which a report fails. -/
  limit : Option Nat := none
  deriving DecidableEq, Repr

namespace Collector

/-- An empty collector.  A limit below one is refused. -/
def ofLimit? : Option Int → Except Failure Collector
  | none => .ok {}
  | some limit => if limit < 1 then .error (.limitNotPositive limit) else .ok ⟨#[], limit.toNat⟩

/-- The diagnostics that are held. -/
def toList (collector : Collector) : List Diagnostic :=
  collector.entries.toList

/-- The number of diagnostics that are held. -/
def size (collector : Collector) : Nat :=
  collector.entries.size

/-- Keeps one more diagnostic. -/
def push (collector : Collector) (diagnostic : Diagnostic) : Collector :=
  { collector with entries := collector.entries.push diagnostic }

/-- Forgets every diagnostic; the limit stays. -/
def clear (collector : Collector) : Collector :=
  { collector with entries := #[] }

/-- The limit, if as many diagnostics are held as it allows. -/
def reached? (collector : Collector) : Option Nat :=
  collector.limit.filter (· ≤ collector.size)

/-- Keeps one more diagnostic, and fails if the limit is now reached. -/
def report (collector : Collector) (diagnostic : Diagnostic) :
    Except Failure Unit × Collector :=
  let collector := collector.push diagnostic
  match collector.reached? with
  | some limit => (.error (.limitReached limit), collector)
  | none => (.ok (), collector)

/-- Every diagnostic followed by an empty line, and then their number. -/
def summary (collector : Collector) : String :=
  let noun := if collector.size = 1 then "error" else "errors"
  "\n".intercalate
    (collector.toList.flatMap (fun diagnostic => [diagnostic.render, ""])
      ++ [s!"{collector.size} {noun}"])

@[simp] theorem toList_push (collector : Collector) (diagnostic : Diagnostic) :
    (collector.push diagnostic).toList = collector.toList ++ [diagnostic] := by
  simp [push, toList]

@[simp] theorem toList_clear (collector : Collector) : collector.clear.toList = [] := rfl

@[simp] theorem limit_push (collector : Collector) (diagnostic : Diagnostic) :
    (collector.push diagnostic).limit = collector.limit := rfl

@[simp] theorem length_toList (collector : Collector) :
    collector.toList.length = collector.size := by
  simp [toList, size]

end Collector
end SourceLexer
