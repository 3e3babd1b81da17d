import LayoutRecovery.Addend
import LayoutRecovery.Directive
import LayoutRecovery.LineKind
import LayoutRecovery.Reconciliation

/-!
# Reconstruction context

Everything that is known while the lines of one input are read: the tally of declared members, what
the directives have set, and what the next line has to know about the lines before it.
-/

namespace LayoutRecovery

/-- A switch that changes how lines are read or reported. -/
inductive Heuristic where
  /-- A zero write behind a string copy is its terminator. -/
  | skipTerminators
  /-- Calls that change the case of a string declare nothing. -/
  | skipCaseCalls
  /-- The accumulated size is reported behind every member. -/
  | reportSizes
  /-- A gap behind a string counts as part of it. -/
  | absorbSlack
  deriving DecidableEq

/-- Which heuristics are on. -/
@[ext]
structure Heuristics where
  /-- A zero write behind a string copy is its terminator. -/
  skipTerminators : Bool := true
  /-- Calls that change the case of a string declare nothing. -/
  skipCaseCalls : Bool := true
  /-- The accumulated size is reported behind every member. -/
  reportSizes : Bool := false
  /-- A gap behind a string counts as part of it. -/
  absorbSlack : Bool := false
  deriving DecidableEq, Inhabited

namespace Heuristics

/-- Whether a heuristic is on. -/
def isOn (heuristics : Heuristics) : Heuristic → Bool
  | .skipTerminators => heuristics.skipTerminators
  | .skipCaseCalls => heuristics.skipCaseCalls
  | .reportSizes => heuristics.reportSizes
  | .absorbSlack => heuristics.absorbSlack

/-- Switches a heuristic on or off. -/
def set (heuristics : Heuristics) (heuristic : Heuristic) (on : Bool) : Heuristics :=
  match heuristic with
  | .skipTerminators => { heuristics with skipTerminators := on }
  | .skipCaseCalls => { heuristics with skipCaseCalls := on }
  | .reportSizes => { heuristics with reportSizes := on }
  | .absorbSlack => { heuristics with absorbSlack := on }

end Heuristics

/-- The declared subroutines, each name once, in the order of their first declaration. -/
abbrev SubroutineTable := List Subroutine

namespace SubroutineTable

/-- Declares a subroutine; one of the same name keeps its place and gets the new type and size. -/
def register (table : SubroutineTable) (subroutine : Subroutine) : SubroutineTable :=
  if table.any fun known => known.name == subroutine.name then
    table.map fun known => if known.name == subroutine.name then subroutine else known
  else table ++ [subroutine]

/-- The first subroutine whose name occurs in a line. -/
def find? (table : SubroutineTable) (line : List Char) : Option Subroutine :=
  List.find? (fun subroutine => Text.occursIn subroutine.name.toList line) table

end SubroutineTable

/-- The state of one reconstruction. -/
@[ext]
structure Context where
  /-- The cursor and the accumulated size. -/
  tally : Tally
  /-- The declared subroutines. -/
  subroutines : SubroutineTable
  /-- Which heuristics are on. -/
  heuristics : Heuristics
  /-- The declared size of the structure. -/
  declaredSize : Option Size
  /-- The declared name of the class. -/
  className : Option String
  /-- How the names of decoded members start. -/
  memberStem : String
  /-- The last line that declared members. -/
  previousLine : Option String
  /-- Whether the next line is a string terminator. -/
  suppressesNext : Bool
  deriving DecidableEq

/-- What became of the directives of an input. -/
structure DirectiveRun where
  /-- The context after the directives that were applied. -/
  context : Context
  /-- How many there were, or the first malformed one. -/
  result : Except MalformedDirective Nat
  /-- The log records. -/
  log : List LogRecord

namespace Context

/-- The context before anything is read. -/
def initial (heuristics : Heuristics) (memberStem : String) : Context where
  tally := Tally.start
  subroutines := []
  heuristics := heuristics
  declaredSize := none
  className := none
  memberStem := memberStem
  previousLine := none
  suppressesNext := false

/-- Whether the last line that declared members copied a string. -/
def afterString (context : Context) : Bool :=
  context.previousLine.any fun line => LineKind.isCopy line.toList

/-- Switches a heuristic on or off. -/
def setHeuristic (context : Context) (heuristic : Heuristic) (on : Bool) : Context :=
  { context with heuristics := context.heuristics.set heuristic on }

/-- Declares a subroutine. -/
def register (context : Context) (subroutine : Subroutine) : Context :=
  { context with subroutines := context.subroutines.register subroutine }

/-- Carries out a directive. -/
def apply (context : Context) : Directive → Context
  | .subroutine subroutine => context.register subroutine
  | .className name => { context with className := some name }
  | .keepTerminators => context.setHeuristic .skipTerminators false
  | .keepCaseCalls => context.setHeuristic .skipCaseCalls false
  | .totalSize size => { context with declaredSize := some size }
  | .reportSizes => context.setHeuristic .reportSizes true
  | .absorbSlack => context.setHeuristic .absorbSlack true

/-- Carries out all directives of an input up to the first malformed one. -/
def applyDirectives (context : Context) : List SourceLine → DirectiveRun
  | [] => { context, result := .ok 0, log := [] }
  | line :: rest =>
      match Directive.parse line with
      | .error error => { context, result := .error error, log := [] }
      | .ok none => context.applyDirectives rest
      | .ok (some directive) =>
          let run := (context.apply directive).applyDirectives rest
          { context := run.context
            result := run.result.map (· + 1)
            log := directive.record line :: run.log }

/-- What is known about the last member. -/
def hints (context : Context) : Hints where
  afterString := context.afterString
  absorbsSlack := context.heuristics.absorbSlack && context.heuristics.skipTerminators

/-- What has to be said before a member at `offset`. -/
def reconcile (context : Context) (offset : Offset) : Reconciliation :=
  context.tally.reconcile context.hints offset

/-- The context after a member at `offset`. -/
def moveTo (context : Context) (offset : Offset) (size : Size) : Context :=
  { context with tally := context.tally.place offset size context.hints }

/-- The name of a member with the given start at an addend. -/
def memberName (stem : String) (addend : Addend) : String :=
  stem ++ addend.suffix

end Context
end LayoutRecovery
