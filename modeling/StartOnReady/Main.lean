import StartOnReady.Startup

/-!
# The command

Starts with the environment and the files of the process, prints the lines of the start and ends
with its exit code.  Nothing here serves events, so a start that gets as far as that ends there.
-/

namespace StartOnReady.Command

/-- The parts of a block of bytes between zeros. -/
def zeroParts : List UInt8 → List (List UInt8)
  | [] => [[]]
  | b :: bs =>
    if b = 0 then [] :: zeroParts bs
    else
      match zeroParts bs with
      | [] => [[b]]
      | part :: rest => (b :: part) :: rest

/-- A variable from its name, the sign of equality and its text. -/
def variableOf? (bytes : List UInt8) : Option (String × String) := do
  let text ← String.fromUTF8? ⟨bytes.toArray⟩
  let name := text.toList.takeWhile (· ≠ '=')
  if name.isEmpty then none
  else some (String.ofList name, String.ofList (text.toList.drop (name.length + 1)))

/-- The variables of an environment block, in the order of their names. -/
def variablesOf (block : ByteArray) : List (String × String) :=
  Keyed.ofList ((zeroParts block.data.toList).filterMap variableOf?)

/-- The content of a file, or nothing where there is none. -/
def contentOf? (path : String) : IO (Option ByteArray) := do
  match ← (IO.FS.readBinFile path).toBaseIO with
  | .ok content => return some content
  | .error _ => return none

/-- Looks for the file of a path, upwards from the working directory if it is not one. -/
def locate (path : String) : IO Files.Located := do
  let here := Files.Tree.plainNames (Files.Tree.namesOf (← IO.currentDir).toString)
  match ← (IO.FS.Handle.mk path .read).toBaseIO with
  | .error _ => return .missing
  | .ok _ =>
    let climbs := if Text.startsWith "/" path then 1 else here.length + 1
    for climb in List.range climbs do
      let candidate := String.join (List.replicate climb "../") ++ path
      if let some content ← contentOf? candidate then
        return .file (Files.Tree.shown here candidate) content
    return .noFile

/-- What the process finds. -/
def surroundings : IO Surroundings := do
  let environment := variablesOf (← IO.FS.readBinFile "/proc/self/environ")
  let found ←
    match Keyed.find? pathVariable environment with
    | some path => locate path
    | none => pure .missing
  return ⟨environment, fun _ => found⟩

end StartOnReady.Command

def main : IO UInt32 := do
  let start := (← StartOnReady.Command.surroundings).start (.error "no events can be received")
  for line in start.lines do
    IO.println line
  return start.exitCode.toUInt32
