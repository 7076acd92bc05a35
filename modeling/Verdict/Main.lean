import Std.Time
import Verdict.Command.Run
import Verdict.Document.Reader

/-! The program: it reads the words of the command line, the environment and the context
file, and writes the report. -/

namespace Verdict.Main

/-- The variables of the environment that settings are read from. -/
def settingNames : List String := ["ENV", "LOG_LEVEL", "COMPARISON_OPTION",
  "COERCE_NUMERIC_STRINGS", "COERCE_BOOLEAN_STRINGS", "ABSENT_EQUALS_ABSENT",
  "REGISTER_BUILTIN_TRANSFORMS"].map ("CONDITION_ENGINE_" ++ ·)

def environment : IO (List (Text × Text)) := do
  let found ← settingNames.mapM fun name => do
    return (← IO.getEnv name).map fun value => (.ofString name, .ofString value)
  return found.filterMap id

/-- The file of assignments, if there is one. -/
def assignments : IO Text := do
  try IO.FS.readFile ".env" catch _ => return ""

/-- What the system says, by the number of an error. -/
def systemTexts : List (Nat × String) := [
  (1, "Operation not permitted"), (2, "No such file or directory"), (5, "Input/output error"),
  (13, "Permission denied"), (20, "Not a directory"), (21, "Is a directory"),
  (36, "File name too long"), (40, "Too many levels of symbolic links")]

/-- An error by its number, which may come with its sign turned. -/
def systemError (number : UInt32) (text : String) : SystemError :=
  let n := if number < 0x80000000 then number.toNat else (0 - number).toNat
  ⟨n, (systemTexts.lookup n).getD text⟩

def errorOf : IO.Error → SystemError
  | .noFileOrDirectory _ n text | .inappropriateType _ n text | .permissionDenied _ n text
  | .invalidArgument _ n text | .noSuchThing _ n text | .hardwareFault n text
  | .otherError n text => systemError n text
  | _ => systemError 5 ""

/-- What a path leads to. One that leads to a place which cannot be read has a real path. -/
def targetAt (name : String) : IO Target := do
  try
    return .found (.ok (← IO.FS.readBinFile name).toList)
  catch e =>
    try
      let _ ← IO.FS.realPath name
      return .found (.error (errorOf e))
    catch _ => return .failed (errorOf e)

/-- The levels that are left to the decoding of an operand, of a thousand in all. -/
def levels : Nat := 993

/-- The time of day, as log lines show it. -/
def clock : IO Text := do
  try return (← Std.Time.PlainDateTime.now).format "uuuu-MM-dd HH:mm:ss,SSS" catch _ => return ""

/-- The target of the context file that a command line asks for. -/
def contextTarget (words : List Text) : IO Target :=
  match Command.Request.ofWords words with
  | .ok { context := some text, .. } =>
    match (Path.ofText text).text.toString? with
    | some name => targetAt name
    | none => return .failed (systemError 2 "")
  | _ => return .failed (systemError 2 "")

/-- A text with an escape for each point that is no character. -/
def escaped (t : Text) : String :=
  String.join (t.toList.map fun p => match p with
    | .char c => c.toString
    | .surrogate _ => "\\u" ++ String.ofList (Nat.toDigits 16 p.toNat))

def fail (f : Fault) : IO UInt32 := do
  IO.eprintln (escaped (Log.Exception.lineOf f.title f.message))
  return 1

/-- What comes of a text that the output cannot hold: its first points that are no characters. -/
def encodeFault (t : Text) : Fault :=
  let start := (t.toList.takeWhile (·.char?.isSome)).length
  let points := (t.toList.drop start).takeWhile (·.char?.isNone)
  let place : String := match points with
    | [p] => "character '" ++ escaped (.singleton p) ++ "' in position " ++ toString start
    | _ => "characters in position " ++ toString start ++ "-" ++
      toString (start + points.length - 1)
  .raised "UnicodeEncodeError" ("'utf-8' codec can't encode " ++ place ++
    ": surrogates not allowed" : String)

end Verdict.Main

open Verdict in
def main (arguments : List String) : IO UInt32 := do
  let words := arguments.map Text.ofString
  match Settings.load [] (← Main.environment) (← Main.assignments) with
  | .error f => Main.fail f
  | .ok settings =>
    let found ← Main.contextTarget words
    let surroundings : Command.Surroundings := {
      settings, time := ← Main.clock, target := fun _ => found, reader := Document.reader
      levels := Main.levels }
    match Command.run words surroundings with
    | .error f => Main.fail f
    | .ok report =>
      IO.eprint (Main.escaped report.errors)
      match report.output.toString? with
      | some output =>
        IO.print output
        return report.status.toUInt32
      | none => Main.fail (Main.encodeFault report.output)
