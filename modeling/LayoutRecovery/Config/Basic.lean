import LayoutRecovery.Stub
import LayoutRecovery.Text.Quoted

/-!
# Configurations

What a run can be told besides its inputs, and the conditions that a configuration has to meet.
-/

namespace LayoutRecovery

/-- The settings of a run. -/
@[ext]
structure Config where
  /-- What is appended to the name of an input to name its output. -/
  outputSuffix : String := ".cs"
  /-- The names around and in front of what is reconstructed. -/
  style : Style := {}
  /-- The heuristics that are on before any directive. -/
  heuristics : Heuristics := {}
  /-- Whether inputs may be processed at the same time. -/
  parallel : Bool := true
  /-- How many inputs at most; without a number, as many as the machine can. -/
  maxThreads : Option Nat := none
  deriving DecidableEq, Inhabited

/-- A name that a configuration chooses. -/
inductive StyleName where
  /-- Namespace of the class. -/
  | namespaceName
  /-- Base class of the class. -/
  | baseClass
  /-- Start of a class name made from a fingerprint. -/
  | classStem
  /-- Start of the names of decoded members. -/
  | memberStem
  deriving DecidableEq

/-- What is wrong with a configuration. -/
inductive ConfigFault where
  /-- Outputs would be named as their inputs. -/
  | emptySuffix
  /-- No input could be processed. -/
  | noThreads
  /-- A name is not made of identifiers. -/
  | notIdentifier (name : StyleName) (value : String)
  deriving DecidableEq

namespace StyleName

/-- The name as configurations write it. -/
def key : StyleName → String
  | namespaceName => "namespace"
  | baseClass => "base_class"
  | classStem => "class_prefix"
  | memberStem => "field_prefix"

/-- All names, in the order in which they are checked. -/
def all : List StyleName :=
  [namespaceName, baseClass, classStem, memberStem]

/-- The value of a name in a style. -/
def value (style : Style) : StyleName → String
  | namespaceName => style.namespaceName
  | baseClass => style.baseClass
  | classStem => style.classStem
  | memberStem => style.memberStem

end StyleName

namespace ConfigFault

/-- The fault in words. -/
def message : ConfigFault → String
  | emptySuffix => "output_suffix must not be empty"
  | noThreads => "max_threads must be greater than 0"
  | notIdentifier name value =>
      name.key ++ " must be a valid identifier, got " ++ Text.quoted value

end ConfigFault

namespace Config

/-- Whether a text is an ASCII identifier. -/
def isIdentifier : List Char → Bool
  | [] => false
  | first :: rest => Text.isIdentifierStart first && rest.all Text.isIdentifierCharacter

/-- Whether a text is made of identifiers with points between them. -/
def isIdentifierPath (text : List Char) : Bool :=
  (text.splitOn '.').all isIdentifier

/-- The first fault of a configuration. -/
def fault? (config : Config) : Option ConfigFault :=
  if config.outputSuffix.isEmpty then some .emptySuffix
  else if config.maxThreads = some 0 then some .noThreads
  else
    (StyleName.all.find? fun name => !isIdentifierPath (name.value config.style).toList).map
      fun name => .notIdentifier name (name.value config.style)

/-- Reconstructs the class of an input under a configuration. -/
def reconstruct (config : Config) (lines : List SourceLine) : Reconstruction :=
  LayoutRecovery.reconstruct config.style config.heuristics Fingerprint.ofText lines

end Config
end LayoutRecovery
