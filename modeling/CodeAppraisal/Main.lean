import CodeAppraisal.CommandLine.Run

/-!
The program: a run in the working directory, with the variables and the input of the process.
-/
namespace CodeAppraisal

partial def readAll (stream : IO.FS.Stream) (done : ByteArray) : IO ByteArray := do
  let bytes ← stream.read 65536
  if bytes.isEmpty then return done else readAll stream (done ++ bytes)

def readEntry (path : String) : IO Entry := do
  try return .file (← IO.FS.readBinFile path)
  catch
    | .noFileOrDirectory .. => return .missing
    | _ => return .directory

def writeEntry (path contents : String) : IO Bool := do
  try
    IO.FS.writeFile path contents
    return true
  catch _ => return false

def processSurroundings : IO (Surroundings IO) := do
  let known ← ["PORT", "PYREVIEW_HOST"].filterMapM fun name => do
    return (← IO.getEnv name).map (name, ·)
  return {
    read := readEntry
    write := writeEntry
    lookup := (known.lookup ·)
    input := do readAll (← IO.getStdin) .empty }

def showOutcome : CommandLine.Outcome → IO UInt32
  | .printed text => do
    IO.print text
    return 0
  | .failed message cause => do
    IO.eprintln s!"Error: {message}"
    if let some cause := cause then IO.eprintln s!"\nCaused by:\n    {cause.message}"
    return 1
  | .stopped .version => do
    IO.println "pyreview 0.1.0"
    return 0
  | .stopped stop => do
    let usage := "Usage: pyreview [OPTIONS] <serve|analyze|init>"
    if stop = .help then IO.println usage else IO.eprintln usage
    return stop.exitCode.toUInt32
  | .serving config => do
    IO.eprintln s!"Error: Failed to bind {config.server.bindAddress}"
    return 1

end CodeAppraisal

def main (args : List String) : IO UInt32 := do
  let surroundings ← CodeAppraisal.processSurroundings
  CodeAppraisal.showOutcome
    (← CodeAppraisal.CommandLine.run surroundings CodeAppraisal.Classifier.builtinClassifier.get
      args)
