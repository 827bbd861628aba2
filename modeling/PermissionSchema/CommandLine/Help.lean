import PermissionSchema.CommandLine.Options

/-!
# Help

The texts by which the program explains itself.
-/

namespace PermissionSchema.Help

/-- The version of the program, under its own name or under that of a command. -/
def version : Option CommandName → String
  | none => "oplt 0.1.0\n"
  | some .lex => "oplt-lex 0.1.0\n"
  | some .check => "oplt-check 0.1.0\n"

private def everywhere : String :=
  "  -v, --verbose          Enable verbose output [env: OPLT_VERBOSE=]\n" ++
  "  -c, --config <CONFIG>  Path to configuration file [env: OPLT_CONFIG=]\n" ++
  "      --no-color         Disable color output [env: OPLT_NO_COLOR=]\n" ++
  "  -h, --help             Print help\n" ++
  "  -V, --version          Print version\n"

def text : Option CommandName → String
  | none =>
    "Tools for permission schema files\n\n" ++
    "Usage: oplt [OPTIONS] <COMMAND>\n\n" ++
    "Commands:\n" ++
    "  lex    Print the tokens of a schema file\n" ++
    "  check  Check schema files for lexical errors\n" ++
    "  help   Print this message or the help of the given subcommand(s)\n\n" ++
    "Options:\n" ++ everywhere
  | some .lex =>
    "Print the tokens of a schema file\n\n" ++
    "Usage: oplt lex [OPTIONS] <FILE>\n\n" ++
    "Arguments:\n" ++
    "  <FILE>  Schema file to lex\n\n" ++
    "Options:\n" ++
    "  -F, --format <FORMAT>  Output format (default: from config, else text)\n" ++
    "      --skip-comments    Leave comments out of the output\n" ++
    "  -p, --positions        Prefix each token with its line and column\n" ++ everywhere
  | some .check =>
    "Check schema files for lexical errors\n\n" ++
    "Usage: oplt check [OPTIONS] <FILES>...\n\n" ++
    "Arguments:\n" ++
    "  <FILES>...  Schema files to check\n\n" ++
    "Options:\n" ++
    "  -j, --jobs <JOBS>      Number of parallel jobs (default: from config, else CPU count)\n" ++
    everywhere

/-- What is printed when the arguments make no sense. -/
def usage : String :=
  "error: the arguments were not understood\n\n" ++
  "Usage: oplt [OPTIONS] <COMMAND>\n\n" ++
  "For more information, try '--help'.\n"

end PermissionSchema.Help
