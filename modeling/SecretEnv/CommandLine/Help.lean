/-!
# Help

**What the program says about itself**, as a whole and command by command. A text ends without a
line break; the one who prints it adds that.
-/

namespace SecretEnv.CommandLine.Help

/-- About the program. -/
def onProgram : String :=
  "Load EnvKey secrets into the environment\n\n" ++
  "Usage: envkey <COMMAND>\n\n" ++
  "Commands:\n" ++
  "  fetch   Fetch secrets and print them as JSON\n" ++
  "  exec    Load secrets into the environment, then run a command\n" ++
  "  locate  Print the resolver path for this platform\n" ++
  "  help    Print this message or the help of the given subcommand(s)\n\n" ++
  "Options:\n" ++
  "  -h, --help     Print help\n" ++
  "  -V, --version  Print version"

/-- About `fetch`. -/
def onFetch : String :=
  "Fetch secrets and print them as JSON\n\n" ++
  "Usage: envkey fetch [OPTIONS]\n\n" ++
  "Options:\n" ++
  "      --envkey <ENVKEY>        Credential to use instead of ENVKEY\n" ++
  "      --cache                  Let the resolver use its local cache\n" ++
  "      --no-cache               Never use the resolver's local cache, " ++
  "even if ENVKEY_SHOULD_CACHE is set\n" ++
  "      --mem-cache              Let the resolver use its in-memory cache\n" ++
  "      --env-file <PATH>        Dotenv file with local overrides (may hold ENVKEY itself)\n" ++
  "      --permitted <PERMITTED>  Only print these variables (comma separated)\n" ++
  "  -h, --help                   Print help"

/-- About `exec`. -/
def onExec : String :=
  "Load secrets into the environment, then run a command\n\n" ++
  "Usage: envkey exec [OPTIONS] <COMMAND> [ARGS]...\n\n" ++
  "Arguments:\n" ++
  "  <COMMAND>  Command to run\n" ++
  "  [ARGS]...  Arguments for the command\n\n" ++
  "Options:\n" ++
  "      --cache            Let the resolver use its local cache\n" ++
  "      --env-file <PATH>  Dotenv file with local overrides (may hold ENVKEY itself)\n" ++
  "  -h, --help             Print help"

/-- About `locate`. -/
def onLocate : String :=
  "Print the resolver path for this platform\n\n" ++
  "Usage: envkey locate\n\n" ++
  "Options:\n" ++
  "  -h, --help  Print help"

/-- About `help`. -/
def onHelp : String :=
  "Print this message or the help of the given subcommand(s)\n\n" ++
  "Usage: envkey help [COMMAND]...\n\n" ++
  "Arguments:\n" ++
  "  [COMMAND]...  Print help for the subcommand(s)"

end SecretEnv.CommandLine.Help
