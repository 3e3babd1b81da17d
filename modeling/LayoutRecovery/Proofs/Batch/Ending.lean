import LayoutRecovery.Proofs.Batch.Workspace
import LayoutRecovery.Proofs.Text.Lines
import LayoutRecovery.Proofs.Transcript.Outcome

/-!
# Line endings

The lines of an input can be told from its text however each of them ends, with a line feed or with
a carriage return and a line feed.  So the same lines are loaded, from memory or from a file, and
the same class comes of them.
-/

namespace LayoutRecovery

namespace SourceLine

/-- A line that a text can hold without being cut or shortened. -/
structure Plain (line : String) : Prop where
  unbroken : Text.Unbroken line
  returnless : line.toList.getLast? ≠ some '\r'

instance (line : String) : Decidable (Plain line) :=
  decidable_of_iff (Text.Unbroken line ∧ line.toList.getLast? ≠ some '\r')
    ⟨fun ⟨unbroken, returnless⟩ => ⟨unbroken, returnless⟩,
      fun ⟨unbroken, returnless⟩ => ⟨unbroken, returnless⟩⟩

/-- A text of lines that each end in a line feed or in a carriage return and a line feed.  The end
of the last line may be missing, unless this line is empty. -/
inductive Spells : List String → String → Prop
  | nil : Spells [] ""
  | unended {line : String} (filled : line ≠ "") : Spells [line] line
  | feed {line : String} {rest : List String} {text : String} (spelled : Spells rest text) :
      Spells (line :: rest) (line ++ "\n" ++ text)
  | returnFeed {line : String} {rest : List String} {text : String} (spelled : Spells rest text) :
      Spells (line :: rest) (line ++ "\r\n" ++ text)

/-! ## Cutting a text -/

/-- The lines of a text, without their numbers. -/
def cut (text : List Char) : List (List Char) :=
  ofPieces (text.splitOn '\n')

theorem ofText_eq_cut (text : String) :
    ofText text = ofTexts ((cut text.toList).map String.ofList) :=
  rfl

theorem cut_of_unbroken {text : List Char} (filled : text ≠ []) (unbroken : '\n' ∉ text) :
    cut text = [text] := by
  rw [cut, List.splitOn_eq_singleton unbroken]
  exact if_neg (by simpa using filled)

theorem cut_append_cons {piece : List Char} (unbroken : '\n' ∉ piece) (text : List Char) :
    cut (piece ++ '\n' :: text) = dropReturn piece :: cut text := by
  obtain ⟨first, others, pieces⟩ := List.exists_cons_of_ne_nil (List.splitOn_ne_nil '\n' text)
  rw [cut, cut, List.splitOn_append_cons_self_of_not_mem unbroken, pieces]
  rfl

theorem dropReturn_of_returnless {line : List Char} (returnless : line.getLast? ≠ some '\r') :
    dropReturn line = line :=
  if_neg returnless

theorem dropReturn_concat (line : List Char) : dropReturn (line ++ ['\r']) = line := by
  rw [dropReturn, List.getLast?_concat, if_pos rfl, List.dropLast_concat]

/-- A text is cut into the lines that it is spelled with. -/
theorem Spells.cut_eq {lines : List String} {text : String} (spelled : Spells lines text)
    (plain : ∀ line ∈ lines, Plain line) : cut text.toList = lines.map String.toList := by
  induction spelled with
  | nil => rfl
  | @unended line filled =>
      exact cut_of_unbroken (by simpa using filled) (plain line (by simp)).unbroken
  | @feed line rest text _ ih =>
      obtain ⟨⟨unbroken, returnless⟩, others⟩ := List.forall_mem_cons.mp plain
      have whole : (line ++ "\n" ++ text).toList = line.toList ++ '\n' :: text.toList := by simp
      rw [whole, cut_append_cons unbroken, dropReturn_of_returnless returnless, ih others,
        List.map_cons]
  | @returnFeed line rest text _ ih =>
      obtain ⟨⟨unbroken, -⟩, others⟩ := List.forall_mem_cons.mp plain
      have whole : (line ++ "\r\n" ++ text).toList =
          (line.toList ++ ['\r']) ++ '\n' :: text.toList := by simp
      have piece : '\n' ∉ line.toList ++ ['\r'] := by
        simpa [Text.Unbroken] using unbroken
      rw [whole, cut_append_cons piece, dropReturn_concat, ih others, List.map_cons]

theorem Spells.ofText_eq {lines : List String} {text : String} (spelled : Spells lines text)
    (plain : ∀ line ∈ lines, Plain line) : ofText text = ofTexts lines := by
  rw [ofText_eq_cut, spelled.cut_eq plain, List.map_map]
  simp [Function.comp_def]

theorem spells_ofLines (lines : List String) : Spells lines (Text.ofLines lines) := by
  induction lines with
  | nil => exact .nil
  | cons line rest ih =>
      rw [Text.ofLines_cons]
      exact .feed ih

theorem map_number_ofTexts (texts : List String) :
    (ofTexts texts).map number = List.range' 1 texts.length := by
  calc
    (ofTexts texts).map number = (texts.zipIdx.map Prod.snd).map fun index => 1 + index := by
      simp only [ofTexts, List.map_map, Function.comp_def, number, Nat.add_comm]
    _ = List.range' 1 texts.length := by
      rw [List.zipIdx_map_snd, List.map_add_range']

end SourceLine

theorem inputHash_of_reconstruct {style : Style} {heuristics : Heuristics}
    {fingerprint : String → UInt32} {lines : List SourceLine} {stub : Stub}
    (returns : (reconstruct style heuristics fingerprint lines).result = .ok (some stub)) :
    stub.header.inputHash =
      fingerprint (String.intercalate "\n" (lines.map SourceLine.text)) := by
  obtain ⟨-, line, body, -, rfl⟩ := result_reconstruct_eq_some_iff.mp returns
  rfl

namespace CommandLine
namespace Workspace

theorem run_load_source {workspace : Workspace} {path text : String}
    (read : workspace.tree.read path = .ok text.toUTF8) :
    (host.source path).load.run workspace = (.ok (SourceLine.ofText text), workspace) := by
  have bytes : (host.readFile path).run workspace = (.ok text.toUTF8, workspace) :=
    Prod.ext read rfl
  have texts : (host.readText path).run workspace = (.ok text, workspace) := by
    rw [Host.readText, run_bind_eq bytes]
    simp only [fromUTF8?_toUTF8]
    rfl
  rw [Host.source, run_bind_eq texts]
  rfl

end Workspace
end CommandLine

open CommandLine SourceLine

/--
The lines of an input do not depend on how they end.  They are loaded from memory and from a file,
numbered from one, and every spelling of them gives the same class, with the fingerprint of the
lines with line feeds between them.  Written with line feeds they are the same lines again.
-/
theorem load_of_spells {lines : List String} (plain : ∀ line ∈ lines, Plain line) {text : String}
    (spelled : Spells lines text) :
    ∃ loaded : List SourceLine,
      loaded.map SourceLine.text = lines ∧
      loaded.map SourceLine.number = List.range' 1 lines.length ∧
      (∀ (m : Type → Type) [Monad m] name,
        (Source.ofText name text : Source m).load = return .ok loaded) ∧
      (∀ (workspace : Workspace) path, workspace.tree.read path = .ok text.toUTF8 →
        (Workspace.host.source path).load.run workspace = (.ok loaded, workspace)) ∧
      (∀ other, Spells lines other → ∀ style heuristics fingerprint,
        reconstruct style heuristics fingerprint (ofText other) =
            reconstruct style heuristics fingerprint loaded ∧
          ∀ stub, (reconstruct style heuristics fingerprint loaded).result = .ok (some stub) →
            stub.header.inputHash = fingerprint (String.intercalate "\n" lines)) ∧
      ofText (Text.ofLines (loaded.map SourceLine.text)) = loaded := by
  have cut := spelled.ofText_eq plain
  have texts := map_text_ofTexts lines
  refine ⟨ofTexts lines, texts, map_number_ofTexts lines, fun m _ name => ?_,
    fun workspace path read => ?_, fun other others style heuristics fingerprint => ⟨?_, ?_⟩, ?_⟩
  · rw [Source.ofText, cut]
  · rw [Workspace.run_load_source read, cut]
  · rw [others.ofText_eq plain]
  · intro stub returns
    rw [inputHash_of_reconstruct returns, texts]
  · rw [texts, (spells_ofLines lines).ofText_eq plain]

/-- Lines with both ends, one of them empty and one with a carriage return inside. -/
theorem load_of_spells_mixed :
    let lines := ["f(a1)", "x\ry", ""]
    let text := "f(a1)\r\nx\ry\n\r\n"
    let other := "f(a1)\nx\ry\r\n\n"
    let workspace := Workspace.ofTree ⟨[(["input"], .file text.toUTF8)]⟩
    Spells lines text ∧ Spells lines other ∧ ∃ loaded stub,
      (Workspace.host.source "input").load.run workspace = (.ok loaded, workspace) ∧
        loaded.map SourceLine.text = lines ∧ loaded.map SourceLine.number = [1, 2, 3] ∧
          (reconstruct {} {} Fingerprint.ofText (ofText other)).result = .ok (some stub) ∧
            stub.header.inputHash = Fingerprint.ofText "f(a1)\nx\ry\n" := by
  intro lines text other workspace
  have plain : ∀ line ∈ lines, Plain line := by decide
  have spelled : Spells lines text := .returnFeed (.feed (.returnFeed .nil))
  have others : Spells lines other := .feed (.returnFeed (.feed .nil))
  have read : workspace.tree.read "input" = .ok text.toUTF8 := by rfl
  obtain ⟨loaded, texts, numbers, -, files, same, -⟩ := load_of_spells plain spelled
  obtain ⟨alike, hash⟩ := same other others {} {} Fingerprint.ofText
  have returned :
      (reconstruct {} {} Fingerprint.ofText (ofText other)).result.toOption.join.isSome = true := by
    decide +kernel
  obtain ⟨stub, found⟩ := Option.isSome_iff_exists.mp returned
  have returns := eq_ok_of_toOption found
  exact ⟨spelled, others, loaded, stub, files workspace "input" read, texts, numbers, returns,
    hash stub (alike ▸ returns)⟩

end LayoutRecovery
