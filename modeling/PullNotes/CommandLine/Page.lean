import PullNotes.Text.Basic

/-!
# Commands and their help pages

The commands of the program, the options that each of them takes, and the page of help about it.
-/

namespace PullNotes

namespace CommandLine

/-- The commands; two of them only lead to others. -/
inductive Page where
  | main
  | review
  | scan
  | config
  | configShow
  | configSet
deriving DecidableEq, Repr

/-- What an option is about. -/
inductive Key where
  | help
  | version
  | path
  | base
  | repo
  | number
  | modified
  | created
  | dryRun
  | verbose
  | markdown
  | strict
deriving DecidableEq, Repr

/-- An option: its long name, the letter of its short name if it has one, and whether a value
follows it. -/
structure Switch where
  key : Key
  long : String
  short : Option Char := none
  takesValue : Bool := false
deriving DecidableEq, Repr

/-- The option that shows the help page of a command. -/
def helpSwitch : Switch := { key := .help, long := "--help" }

/-- The option for the checkout. -/
def pathSwitch : Switch := { key := .path, long := "--path", short := some 'p', takesValue := true }

namespace Page

/-- The words that lead to a command. -/
def words : Page → String
  | main => "main"
  | review => "main review"
  | scan => "main scan"
  | config => "main config"
  | configShow => "main config show"
  | configSet => "main config set"

/-- What may follow the words that lead to a command. -/
def pattern : Page → String
  | main => "[OPTIONS] COMMAND [ARGS]..."
  | review => "[OPTIONS]"
  | scan => "[OPTIONS] FILES..."
  | config => "[OPTIONS] COMMAND [ARGS]..."
  | configShow => "[OPTIONS]"
  | configSet => "[OPTIONS] KEY VALUE"

/-- The line on how a command is used. -/
def usage (p : Page) : Text := .concat ["Usage: ", p.words, " ", p.pattern, "\n"]

/-- The options of a command. -/
def switches : Page → List Switch
  | main => [{ key := .version, long := "--version" }, helpSwitch]
  | review => [
    pathSwitch,
    { key := .base, long := "--base", short := some 'b', takesValue := true },
    { key := .repo, long := "--repo", takesValue := true },
    { key := .number, long := "--pr", takesValue := true },
    { key := .modified, long := "--modified", short := some 'm', takesValue := true },
    { key := .created, long := "--created", short := some 'c', takesValue := true },
    { key := .dryRun, long := "--dry-run" },
    { key := .verbose, long := "--verbose", short := some 'v' },
    helpSwitch]
  | scan => [
    { key := .markdown, long := "--markdown" }, { key := .strict, long := "--strict" }, helpSwitch]
  | config => [helpSwitch]
  | configShow => [pathSwitch, helpSwitch]
  | configSet => [pathSwitch, helpSwitch]

/-- The commands that a command leads to, by name. -/
def commands : Page → List (String × Page)
  | main => [("config", config), ("review", review), ("scan", scan)]
  | config => [("set", configSet), ("show", configShow)]
  | _ => []

/-- What the help page of a command says after the line on how it is used. -/
def explanation : Page → String
  | main => "
  review-bot - summarize scripts and handlers touched by a pull request.

Options:
  --version  Show the version and exit.
  --help     Show this message and exit.

Commands:
  config  View or modify review-bot configuration.
  review  Post or update the review comment on the current pull request.
  scan    Classify local files and show their scripts and functions.
"
  | review => "
  Post or update the review comment on the current pull request.

  Changed files are taken from --modified/--created when given, otherwise from
  `git diff --name-status <base>...HEAD`.

  Examples:

      reviewbot review

      reviewbot review --dry-run --base main

      reviewbot review --repo acme/app --pr 42 -m dev/jobs.ts

Options:
  -p, --path TEXT      Path to the repository checkout.
  -b, --base TEXT      Base ref to diff against (default: config base_ref).
  --repo TEXT          Repository as owner/name (default: GITHUB_REPOSITORY).
  --pr INTEGER         Pull request number.
  -m, --modified TEXT  Modified file (can specify multiple).
  -c, --created TEXT   Created file (can specify multiple).
  --dry-run            Print the comment instead of posting it.
  -v, --verbose        Enable debug logging.
  --help               Show this message and exit.
"
  | scan => "
  Classify local files and show their scripts and functions.

Options:
  --markdown  Print the rendered comment sections.
  --strict    Fail on syntax errors.
  --help      Show this message and exit.
"
  | config => "
  View or modify review-bot configuration.

Options:
  --help  Show this message and exit.

Commands:
  set   Set a configuration value (e.g., scan.path_filter src/).
  show  Show current configuration.
"
  | configShow => "
  Show current configuration.

Options:
  -p, --path TEXT  Path to the repository checkout.
  --help           Show this message and exit.
"
  | configSet => "
  Set a configuration value (e.g., scan.path_filter src/).

Options:
  -p, --path TEXT  Path to the repository checkout.
  --help           Show this message and exit.
"

/-- The help page of a command. -/
def help (p : Page) : Text := p.usage ++ p.explanation

end Page

end CommandLine

end PullNotes
