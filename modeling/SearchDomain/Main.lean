import SearchDomain.Json.Writer
import SearchDomain.Program
/-!
# Main — the programs at a terminal

The first argument names the program. It is set up from the environment and a file `.env` in the working directory,
and then handles the event texts on standard input, one a line, with nobody answering its calls.
-/
namespace SearchDomain

/-- The variables that a program may be told. -/
def variableNames : List String :=
  [ "DOMAIN_ENDPOINT", "DOMAIN_NAME", "AWS_REGION", "PIPELINE_ROLE_ARN", "ADMIN_SECRET_ARN", "USER_SECRET_ARN",
    "EXCLUDE_CHARACTERS", "SECRETS_MANAGER_ENDPOINT", Settings.timeoutName ]

def readEnvironment : IO Settings.Environment := do
  let mut found := []
  for name in variableNames do
    if let some value ← IO.getEnv name then found := (name, .text value) :: found
  return .ofTable (Table.ofList found)

def readFile? (path : String) : IO (Option String) :=
  try return some (← IO.FS.readFile path) catch _ => return none

/-- Connections on which nothing is answered. -/
def offline : Connections Unit where
  domain := Http.Network.unreachable
  services := Aws.Service.unreachable
  moment := fun s => ({ time := ⟨0⟩ }, s)

/-- Handle the lines of standard input. -/
partial def handleLines (p : Program) (input : IO.FS.Stream) : IO Unit := do
  let line ← input.getLine
  if line.isEmpty then return
  match (p.handle offline line ()).1 with
  | .ok response => IO.println response.render
  | .error message => IO.eprintln message
  handleLines p input

def readCredentials : IO Signature.CredentialSource := do
  match ← IO.getEnv "AWS_ACCESS_KEY_ID", ← IO.getEnv "AWS_SECRET_ACCESS_KEY" with
  | some accessKey, some secretKey =>
    return .fixed { accessKey, secretKey, sessionToken := ← IO.getEnv "AWS_SESSION_TOKEN" }
  | _, _ => return .failing "the credential provider was not enabled"

/-- Set up the program that is named, and handle events with it. -/
def runProgram (arguments : List String) : IO UInt32 := do
  let env := Settings.withFile (← readFile? ".env") (← readEnvironment)
  let credentials ← readCredentials
  let program := match arguments with
    | ["bootstrap"] => Program.bootstrap env credentials
    | _ => Program.rotation env credentials
  match program with
  | .error fault =>
    IO.eprintln fault.report
    return 1
  | .ok program =>
    handleLines program (← IO.getStdin)
    return 0

end SearchDomain

def main (arguments : List String) : IO UInt32 := SearchDomain.runProgram arguments
