import LayoutRecovery.Fingerprint
import LayoutRecovery.Transcript

/-!
# Class stubs

The class that is reconstructed from one input: a header with the fingerprints of the input, the
transcript of the lines after the signature, and a summary that compares the accumulated size with
the declared one.
-/

namespace LayoutRecovery

/-- The names around and in front of what is reconstructed. -/
@[ext]
structure Style where
  /-- Namespace of the class. -/
  namespaceName : String := "MBINCompiler.Models.Structs"
  /-- Base class of the class. -/
  baseClass : String := "NMSTemplate"
  /-- Start of a class name made from a fingerprint. -/
  classStem : String := "UnknownTemplate"
  /-- Start of the names of decoded members. -/
  memberStem : String := "Unknown"
  deriving DecidableEq, Inhabited

/-- What stands above the members of a class. -/
structure Header where
  /-- The signature of the subroutine. -/
  signature : String
  /-- The fingerprint of the signature. -/
  signatureHash : UInt32
  /-- The fingerprint of the whole input. -/
  inputHash : UInt32
  /-- Namespace of the class. -/
  namespaceName : String
  /-- Name of the class. -/
  className : String
  /-- Base class of the class. -/
  baseClass : String
  /-- The declared size of the structure. -/
  declaredSize : Option Size
  deriving DecidableEq

/-- A reconstructed class. -/
structure Stub where
  /-- What stands above the members. -/
  header : Header
  /-- The members with their remarks. -/
  body : List Item
  /-- How many lines declared members. -/
  parsedLines : Nat
  /-- The size of everything declared before the end padding. -/
  accumulated : Size
  deriving DecidableEq

/-- The outcome of a reconstruction and the log records made on the way. -/
structure Reconstruction where
  /-- The class, nothing for lack of a signature, or the malformed directive that ended the run. -/
  result : Except MalformedDirective (Option Stub)
  /-- The log records in order. -/
  log : List LogRecord

namespace Header

/-- The header of a class in a context. -/
def make (style : Style) (fingerprint : String → UInt32) (context : Context)
    (lines : List SourceLine) (signature : SourceLine) : Header :=
  let signatureHash := fingerprint signature.text
  { signature := signature.text
    signatureHash
    inputHash := fingerprint (String.intercalate "\n" (lines.map SourceLine.text))
    namespaceName := style.namespaceName
    className := context.className.getD (style.classStem ++ Numeral.word32Hex signatureHash)
    baseClass := style.baseClass
    declaredSize := context.declaredSize }

/-- The text of a header. -/
def render (header : Header) : String :=
  "// generated output for subroutine:\n// " ++ header.signature ++ " -----> hash: "
    ++ Numeral.word32Hex header.signatureHash ++ "\n// hash of whole input: "
    ++ Numeral.word32Hex header.inputHash ++ "\n\nnamespace " ++ header.namespaceName
    ++ "\n\x7b\n\tpublic class " ++ header.className ++ " : " ++ header.baseClass
    ++ (match header.declaredSize with
      | some size => "\t\t// total size: " ++ size.hex
      | none => "")
    ++ "\n\t\x7b\n"

end Header

namespace Context

/-- The member that fills the structure up to its declared size. -/
def endPadding (context : Context) (declared : Size) : Member :=
  let accumulated := context.tally.accumulated
  let offset := Offset.wrap accumulated.toNat
  let missing := declared.toNat - accumulated.toNat
  { name := "EndPadding" ++ offset.suffix
    offset
    type := .bytes
    size := Size.clamp missing
    ignored := true
    notes := ["missing " ++ toString missing ++ " bytes at the end of the structure"]
    detail := some "comment: auto end padding" }

/-- The pieces that compare the accumulated size with the declared one. -/
def closing (context : Context) : List Item :=
  let accumulated := context.tally.accumulated
  match context.declaredSize with
  | none => [.blank, .remark .sizeUndeclared]
  | some declared =>
      if accumulated.toNat < declared.toNat then
        [.blank, .member (context.endPadding declared), .remark (.sizeReached declared)]
      else if declared.toNat < accumulated.toNat then
        [.blank, .remark (.sizeExceeded accumulated declared)]
      else [.blank, .remark .sizeExact]

/-- The log records about the accumulated size. -/
def closingLog (context : Context) : List LogRecord :=
  let accumulated := context.tally.accumulated
  match context.declaredSize with
  | none => []
  | some declared =>
      if declared.toNat < accumulated.toNat then
        [LogRecord.warning ("accumulated size " ++ accumulated.text ++ " exceeds declared size "
          ++ declared.text)]
      else []

end Context

namespace Stub

/-- The text of a class. -/
def render (stub : Stub) : String :=
  stub.header.render ++ Item.renderAll stub.body ++ "\t\x7d\n\x7d\n"

/-- The lines from the first signature on. -/
def fromSignature (lines : List SourceLine) : List SourceLine :=
  lines.dropWhile fun line => !LineKind.isSignature line.characters

/-- The class of an input whose directives have been carried out. -/
def ofTranscript (header : Header) (transcript : Transcript) : Stub :=
  let context := transcript.context
  { header
    body := transcript.items ++ context.closing ++
      [.remark (.accumulated context.tally.accumulated),
        .remark (.parsedLines transcript.parsedLines)]
    parsedLines := transcript.parsedLines
    accumulated := context.tally.accumulated }

end Stub

/-- Reconstructs the class of an input. -/
def reconstruct (style : Style) (heuristics : Heuristics) (fingerprint : String → UInt32)
    (lines : List SourceLine) : Reconstruction :=
  let run := (Context.initial heuristics style.memberStem).applyDirectives lines
  match run.result with
  | .error error => { result := .error error, log := run.log }
  | .ok applied =>
      let log := run.log ++ [LogRecord.debug ("applied " ++ toString applied ++ " directive(s)")]
      match Stub.fromSignature lines with
      | [] =>
          { result := .ok none
            log := log ++ [LogRecord.warning "no subroutine signature found, nothing to parse"] }
      | signature :: body =>
          let header := Header.make style fingerprint run.context lines signature
          let transcript := run.context.transcribe body
          { result := .ok (some (Stub.ofTranscript header transcript))
            log := log ++ transcript.log ++ transcript.context.closingLog
              ++ [LogRecord.info
                ("number of fields parsed: " ++ toString transcript.parsedLines)] }

end LayoutRecovery
