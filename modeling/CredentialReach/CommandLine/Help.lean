import CredentialReach.CommandLine.Reader

/-! What a user is told whose words make no command. -/

namespace CredentialReach.CommandLine

def usage : String := "\n".intercalate [
  "keyreach — find out what a leaked credential can reach",
  "",
  "Usage: keyreach [-v] analyze [OPTIONS] --token <TOKEN> <figma|launchdarkly>",
  "       keyreach [-v] grants [OPTIONS] <SNAPSHOT>",
  "",
  "Options of analyze:",
  "      --token <TOKEN>    The API token to analyze",
  "  -c, --config <CONFIG>  Path to a TOML configuration file",
  "  -f, --format <FORMAT>  Output format: text, json or yaml",
  "",
  "Options of grants:",
  "      --dsn <DSN>        Connection string the snapshot was taken with",
  "  -f, --format <FORMAT>  Output format: text, json or yaml"]

def UsageFault.message : UsageFault → String
  | help | nothing => usage
  | version => s!"keyreach {CredentialReach.version}"
  | missingCommand => "error: a subcommand is required"
  | unknownCommand => "error: unrecognized subcommand"
  | unknownArgument => "error: unexpected argument"
  | missingArgument => "error: a required argument was not provided"
  | invalidValue => "error: invalid or missing value of an argument"
  | needlessValue => "error: unexpected value of a flag"
  | repeated => "error: an argument cannot be used multiple times"

end CredentialReach.CommandLine
