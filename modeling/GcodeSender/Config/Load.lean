/-
# `GcodeSender.Config.Load` — reading a configuration file

    file                          configuration      log
    there is none                 empty              that there is none
    an empty document             empty              the configuration
    a mapping                     its entries        the configuration
    anything else, or no document refused

A refusal names the file; where the document is at fault it also names the
place, with lines and columns counted from zero, or it repeats what was said
about the text as a whole.
-/
import GcodeSender.Journal
import GcodeSender.Yaml.Document

namespace GcodeSender.Config

open Yaml (Problem Mark)

/-- Why a configuration file is refused. -/
inductive Refusal where
  | document (problem : Yaml.Problem)
  | notMapping
  deriving DecidableEq, Repr

namespace Refusal

/-- A place as it is named in a text about the whole document, where counting begins with one. -/
def placeText (path : String) (m : Mark) : String :=
  "\n  in \"" ++ path ++ "\", line " ++ toString (m.line + 1) ++ ", column " ++
    toString (m.column + 1)

/-- Is the refusal reported to the user as a mistake in the configuration? -/
def isReported : Refusal → Bool
  | .document (.badNumber _) | .document (.badTruth _) | .document .nestedKey => false
  | _ => true

/-- The text of a refusal of the file at a path. -/
def message (path : String) : Refusal → String
  | .document (.misplaced _ m) =>
    "Problem in configuration file " ++ path ++ "  line: " ++ toString m.line ++ "  column: " ++
      toString m.column
  | .document (.unprintable c position) =>
    "Problem in configuration file " ++ path ++ ": unacceptable character #x" ++
      String.ofList (Text.Literal.hex (if c.toNat < 0x10000 then 4 else 6) c.toNat) ++
      ": special characters are not allowed\n  in \"" ++ path ++ "\", position " ++
      toString position
  | .document (.narrowStart m) =>
    "Problem in configuration file " ++ path ++
      ": more indented follow up line than first in a block scalar" ++ placeText path m
  | .document (.badNumber reason) => reason
  | .document (.badTruth text) => Text.quoted (text.toList.map Char.toLower)
  | .document .nestedKey => ""
  | .notMapping => "Configuration file " ++ path ++ " must contain a mapping."

end Refusal

/-- A configuration and what is logged about it. -/
structure Loaded (α : Type) where
  entries : List (Value × Value)
  entry : LogEntry α

/-- The configuration in the text of the file at a path, or that of no file. -/
def load {α : Type} (path : String) : Option String → Except Refusal (Loaded α)
  | none => .ok ⟨[], ⟨.info, .text ("No config file at " ++ path)⟩⟩
  | some text =>
    let loaded := fun (entries : List (Value × Value)) =>
      (⟨entries, ⟨.debug, .configuration (Value.map entries).shown⟩⟩ : Loaded α)
    match Yaml.read text.toList with
    | .error problem => .error (.document problem)
    | .ok .null => .ok (loaded [])
    | .ok (.map entries) => .ok (loaded entries)
    | .ok _ => .error .notMapping

end GcodeSender.Config
