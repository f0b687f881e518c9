import SegmentBench.Config.Decode
import SegmentBench.Config.Placeholder
import SegmentBench.Document.Outline
import SegmentBench.Validation

/-!
# Reading configurations

A configuration is read from a text, whose placeholders are replaced first, or from
a file.
-/

namespace SegmentBench.Config

def ofText (environment : Environment) (text : List Char) : Except Failure Config :=
  match Document.read (Placeholder.substitute environment text) with
  | .error fault => .error (.badDocument (.syntactic fault))
  | .ok value =>
      match Decode.config value with
      | .error fault => .error (.badDocument (.mismatch fault))
      | .ok config => .ok config

def ofFile (environment : Environment) (path : Path) (text : Except IoFault (List Char)) :
    Except Failure Config :=
  match text with
  | .error fault =>
      .error (.configuration ("cannot read " ++ path.display ++ ": " ++ fault.message))
  | .ok text => ofText environment text

def pathField : String := "input.path"

def validate (config : Config) : Except Failure Unit :=
  match config.inputPath with
  | none => .ok ()
  | some path => do
      Validation.checkPath pathField path
      Validation.checkNoPlaceholder pathField path.display

end SegmentBench.Config
