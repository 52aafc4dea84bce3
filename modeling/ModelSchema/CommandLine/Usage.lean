import ModelSchema.CommandLine.Reader
import ModelSchema.Output.Writer

/-!
The commands of the program, their options and their texts of help.
-/

namespace ModelSchema

/-- The commands. -/
inductive Command where
  | generate
  | validate
  deriving DecidableEq, Repr, Inhabited

def Command.all : List Command := [.generate, .validate]

def Command.name : Command → String
  | .generate => "generate"
  | .validate => "validate"

/-- The name of the program. -/
def programName : String := "polyschema"

/-! ### Options -/

def helpOption : OptionSpec := ⟨"help", ["-h", "--help"], .help, [], false⟩

def verboseOption : OptionSpec := ⟨"verbose", ["-v", "--verbose"], .setFlag, [], false⟩

/-- The options in front of the command. -/
def programOptions : List OptionSpec :=
  [helpOption, ⟨"version", ["--version"], .version, [], false⟩]

/-- The options of a command. -/
def Command.options : Command → List OptionSpec
  | .generate =>
    [helpOption, ⟨"echo_only", ["-e", "--echo-only"], .setFlag, [], false⟩,
      ⟨"output_directory", ["-o", "--output-directory"], .store, [], true⟩,
      ⟨"output_directory_strategy", ["--output-directory-strategy"], .store,
        LocationStrategy.all.map LocationStrategy.name, false⟩,
      ⟨"type_scanning_allowed_modules", ["--type-scanning-allowed-module"], .append, [], false⟩,
      ⟨"type_scanning_allowed_packages", ["--type-scanning-allowed-package"], .append, [], false⟩,
      ⟨"subtype_scanning_allowed_modules", ["--subtype-scanning-allowed-module"], .append, [],
        false⟩,
      ⟨"subtype_scanning_allowed_packages", ["--subtype-scanning-allowed-package"], .append, [],
        false⟩,
      verboseOption, ⟨"log_file", ["--log-file"], .store, [], false⟩]
  | .validate =>
    [helpOption, ⟨"schema", ["--schema"], .store, [], true⟩,
      ⟨"input_path", ["--input"], .store, [], false⟩, verboseOption]

/-! ### Usage -/

/-- Lines with line ends. -/
def linesText (lines : List String) : String := String.join (lines.map (· ++ "\n"))

def programUsage : String :=
  "usage: polyschema [-h] [--version] \x7bgenerate,validate\x7d ...\n"

def Command.usage : Command → String
  | .generate => linesText
    ["usage: polyschema generate [-h] -o OUTPUT_DIRECTORY",
      "                           [--output-directory-strategy "
        ++ "\x7bdirectoryTree,flatDirectory\x7d]",
      "                           [--type-scanning-allowed-module TYPE_SCANNING_ALLOWED_MODULES]",
      "                           [--type-scanning-allowed-package TYPE_SCANNING_ALLOWED_PACKAGES]",
      "                           [--subtype-scanning-allowed-module "
        ++ "SUBTYPE_SCANNING_ALLOWED_MODULES]",
      "                           [--subtype-scanning-allowed-package "
        ++ "SUBTYPE_SCANNING_ALLOWED_PACKAGES]",
      "                           [-v] [--log-file LOG_FILE]"]
  | .validate =>
    "usage: polyschema validate [-h] --schema SCHEMA [--input INPUT_PATH] [-v]\n"

/-! ### Help -/

def programHelp : String :=
  programUsage ++ linesText
    ["",
      "polyschema CLI for schema generation and validation",
      "",
      "positional arguments:",
      "  \x7bgenerate,validate\x7d  Available commands",
      "    generate           Generate schema documents",
      "    validate           Validate a JSON payload against a generated schema",
      "",
      "options:",
      "  -h, --help           show this help message and exit",
      "  --version            show program's version number and exit",
      "",
      "Examples:",
      "  # Generate schemas for every @generates_schema model in a package",
      "  polyschema generate -o build/schemas --type-scanning-allowed-package acme.model",
      "",
      "  # One flat directory of files, subtypes limited to acme.*",
      "  polyschema generate -o build/schemas --output-directory-strategy flatDirectory \\",
      "      --type-scanning-allowed-package acme.model "
        ++ "--subtype-scanning-allowed-package 'acme.*'",
      "",
      "  # Validate a payload from stdin",
      "  cat shape.json | polyschema validate --schema build/schemas/acme/model/Shape.yml "
        ++ "--input -",
      "        "]

/-- The explanations of the options of a command. -/
def Command.explanations : Command → List String
  | .generate =>
    ["  -h, --help            show this help message and exit",
      "  -o OUTPUT_DIRECTORY, --output-directory OUTPUT_DIRECTORY",
      "                        The directory the schemas will be written to.",
      "  --output-directory-strategy \x7bdirectoryTree,flatDirectory\x7d",
      "                        How schema files are laid out under the output",
      "                        directory (default: directoryTree).",
      "  --type-scanning-allowed-module TYPE_SCANNING_ALLOWED_MODULES",
      "                        Limit the types to generate schemas for to modules",
      "                        matching this glob. Repeatable.",
      "  --type-scanning-allowed-package TYPE_SCANNING_ALLOWED_PACKAGES",
      "                        Limit the types to generate schemas for to packages",
      "                        matching this glob. Repeatable.",
      "  --subtype-scanning-allowed-module SUBTYPE_SCANNING_ALLOWED_MODULES",
      "                        Limit the subtypes included in schemas to modules",
      "                        matching this glob. Repeatable.",
      "  --subtype-scanning-allowed-package SUBTYPE_SCANNING_ALLOWED_PACKAGES",
      "                        Limit the subtypes included in schemas to packages",
      "                        matching this glob. Repeatable.",
      "  -v, --verbose         Verbose output",
      "  --log-file LOG_FILE   Also log to this file"]
  | .validate =>
    ["  -h, --help          show this help message and exit",
      "  --schema SCHEMA     Generated schema document (.yml)",
      "  --input INPUT_PATH  Input file path or '-' for stdin (default: stdin)",
      "  -v, --verbose       Verbose output"]

def Command.help (command : Command) : String :=
  command.usage ++ linesText (["", "options:"] ++ command.explanations)

end ModelSchema
