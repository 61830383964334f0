/-!
# Help texts

The program explains itself in a short text and in a long one.
-/
namespace AstView.CommandLine

/-- The short text. -/
def shortHelp : String :=
  String.join ([
    "Render an animagus AST file as a Graphviz digraph",
    "",
    "Usage: animagus-dot [OPTIONS] [input] [output]",
    "",
    "Arguments:",
    "  [input]   Path to the serialized AST",
    "  [output]  Path of the file to write",
    "",
    "Options:",
    "      --to <to>        Output format (detected from the output extension if not specified)",
    "      --config <PATH>  Path to an animagus-dot.toml configuration file",
    "      --list-formats   List available output formats",
    "  -h, --help           Print help (see more with '--help')",
    "  -V, --version        Print version"].map (· ++ "\n"))

/-- The long text. -/
def longHelp : String :=
  String.join ([
    "animagus-dot reads a compiled animagus AST (protobuf) and writes a",
    "Graphviz description of its calls, streams and value trees.",
    "",
    "The graph root is labeled with the input file name, extension removed.",
    "",
    "Extra Parameters:",
    "  Use --extra-<name> [value] to pass format-specific options.",
    "  Boolean flags can omit the value (defaults to 'true').",
    "",
    "Examples:",
    "  animagus-dot ast.bin ast.dot                        # Graphviz output",
    "  animagus-dot ast.bin ast.dot --extra-escape-labels  # Escape quotes in labels",
    "  animagus-dot ast.bin ast.tree                       # Tree view (by extension)",
    "  animagus-dot ast.bin out.txt --to json              # Decoded document as JSON",
    "  dot -Tsvg ast.dot -o ast.svg                        # Render with Graphviz",
    "",
    "Usage: animagus-dot [OPTIONS] [input] [output]",
    "",
    "Arguments:",
    "  [input]",
    "          Path to the serialized AST",
    "",
    "  [output]",
    "          Path of the file to write",
    "",
    "Options:",
    "      --to <to>",
    "          Output format to write.",
    "          ",
    "          If not specified, the format is detected from the output file extension",
    "          (.dot/.gv, .tree/.treeviz, .json), falling back to the configured default.",
    "          Use --list-formats to see all options.",
    "",
    "      --config <PATH>",
    "          Path to an animagus-dot.toml configuration file",
    "",
    "      --list-formats",
    "          List available output formats",
    "",
    "  -h, --help",
    "          Print help (see a summary with '-h')",
    "",
    "  -V, --version",
    "          Print version"].map (· ++ "\n"))

/-- The name and the version of the program. -/
def versionText : String := "animagus-dot 0.1.0\n"

/-- Where a message about wrong usage points to. -/
def usageHint : String :=
  "\n\nUsage: animagus-dot [OPTIONS] [input] [output]\n\nFor more information, try '--help'.\n"

end AstView.CommandLine
