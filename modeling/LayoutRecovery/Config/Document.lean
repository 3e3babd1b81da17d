import LayoutRecovery.Config.Basic
import LayoutRecovery.Json.Value

/-!
# Configuration documents

A configuration is written as a JSON object, or as an array of its values in a fixed order.  What is
missing keeps its default, unknown keys are passed over, and a repeated key or a value of the wrong
type makes the document unreadable.
-/

namespace LayoutRecovery

namespace Json

/-- The values of a record by key, as a function of the key. -/
abbrev Fields := String → Option Json

/-- The keys of the entries of an object; none if a key is not text. -/
def keys? (entries : List (List Nat × Json)) : Option (List (String × Json)) :=
  entries.mapM fun (units, value) => (text? (string units)).map fun key => (key, value)

/-- The values of a record with the given keys. -/
def fields? (keys : List String) : Json → Option Fields
  | object entries =>
      (keys? entries).bind fun known =>
        let repeated := keys.any fun key => decide (1 < known.countP fun entry => entry.1 == key)
        if repeated then none else some fun key => known.lookup key
  | array values =>
      if keys.length < values.length then none else some fun key => (keys.zip values).lookup key
  | _ => none

/-- The decoded value of a key, or a default if the record does not have it. -/
def field? {α : Type} (fields : Fields) (key : String) (default : α) (decode : Json → Option α) :
    Option α :=
  match fields key with
  | some value => decode value
  | none => some default

/-- The truth value of a JSON value. -/
def boolean? : Json → Option Bool
  | boolean value => some value
  | _ => none

/-- The unsigned 64-bit number of a JSON value. -/
def word? : Json → Option Nat
  | natural value => if value < UInt64.size then some value else none
  | _ => none

end Json

namespace Heuristic

/-- All heuristics, in the order in which configurations write them. -/
def all : List Heuristic :=
  [skipTerminators, skipCaseCalls, reportSizes, absorbSlack]

/-- The heuristic as configurations write it. -/
def key : Heuristic → String
  | skipTerminators => "skip_string_null"
  | skipCaseCalls => "skip_case_normalization"
  | reportSizes => "log_accumulated_size"
  | absorbSlack => "string_null_fixup"

end Heuristic

namespace Style

/-- Reads a style. -/
def ofJson? (json : Json) : Option Style := do
  let fields ← Json.fields? (StyleName.all.map StyleName.key) json
  let default : Style := {}
  let name (chosen : StyleName) : Option String :=
    Json.field? fields chosen.key (chosen.value default) Json.text?
  return {
    namespaceName := ← name .namespaceName
    baseClass := ← name .baseClass
    classStem := ← name .classStem
    memberStem := ← name .memberStem }

end Style

namespace Config

/-- The keys of a configuration in the order of the array form. -/
def keys : List String :=
  ["output_suffix", "style"] ++ Heuristic.all.map Heuristic.key ++ ["parallel", "max_threads"]

/-- Reads a configuration. -/
def ofJson? (json : Json) : Option Config := do
  let fields ← Json.fields? keys json
  let default : Config := {}
  let heuristic (chosen : Heuristic) : Option Bool :=
    Json.field? fields chosen.key (default.heuristics.isOn chosen) Json.boolean?
  return {
    outputSuffix := ← Json.field? fields "output_suffix" default.outputSuffix Json.text?
    style := ← Json.field? fields "style" default.style Style.ofJson?
    heuristics := {
      skipTerminators := ← heuristic .skipTerminators
      skipCaseCalls := ← heuristic .skipCaseCalls
      reportSizes := ← heuristic .reportSizes
      absorbSlack := ← heuristic .absorbSlack }
    parallel := ← Json.field? fields "parallel" default.parallel Json.boolean?
    maxThreads := ← Json.field? fields "max_threads" default.maxThreads fun value =>
      (Json.word? value).map some }

/-- Reads a configuration from its text. -/
def parse? (text : String) : Option Config :=
  (Json.parse? text).bind ofJson?

end Config
end LayoutRecovery
