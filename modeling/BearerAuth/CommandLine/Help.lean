import BearerAuth.CommandLine.Verb

/-!
# Pages of help

- `Page.render`: the page for the program, for a verb, or for `help` itself.
-/

namespace BearerAuth.CommandLine

/-- What help is asked for. -/
inductive Page where
  | program
  | verb (v : Verb)
  | help
  deriving DecidableEq, Repr

/-- The name under which the program is called. -/
def programName : String := "tokenward-cli"

/-- What is printed for the version. -/
def versionLine : String := "tokenward 0.1.0\n"

/-- What `help` does. -/
def helpAbout : String := "Print this message or the help of the given subcommand(s)"

/-- The text filled with spaces up to a width. -/
def padded (width : Nat) (s : String) : String :=
  s ++ String.ofList (List.replicate (width - s.length) ' ')

/-- The rows in two columns. -/
def table (rows : List (String × String)) : String :=
  let width := (rows.map (·.1.length)).foldl max 0
  rows.foldl (fun text row => text ++ "  " ++ padded width row.1 ++ "  " ++ row.2 ++ "\n") ""

/-- A page: what something does, how it is called, and what it takes. -/
def layout (about usage title : String) (rows : List (String × String)) : String :=
  about ++ "\n\nUsage: " ++ programName ++ " " ++ usage ++ "\n\n" ++ title ++ ":\n" ++ table rows

namespace OptionSpec

/-- The option with a placeholder for its value. -/
def call (o : OptionSpec) : String := "--" ++ o.name ++ " <" ++ o.placeholder ++ ">"

/-- What the option is for and what it is if it is not given. -/
def remark (o : OptionSpec) : String :=
  match o.default with
  | none => o.about
  | some value => o.about ++ " [default: " ++ value ++ "]"

end OptionSpec

namespace Verb

/-- How the verb is called: what may be left out comes first. -/
def usage (v : Verb) : String :=
  let optional := if v.options.all (·.required) then "" else " [OPTIONS]"
  v.name ++ optional ++ String.join ((v.options.filter (·.required)).map fun o => " " ++ o.call)

end Verb

namespace Page

/-- The text of the page. -/
def render : Page → String
  | program =>
    layout "Command line access to the credential store and token engine" "<COMMAND>" "Commands"
        (Verb.all.map (fun v => (v.name, v.about)) ++ [("help", helpAbout)]) ++
      "\nOptions:\n" ++ table [("-h, --help", "Print help"), ("-V, --version", "Print version")]
  | verb v =>
    layout v.about v.usage "Options"
      (v.options.map (fun o => ("    " ++ o.call, o.remark)) ++ [("-h, --help", "Print help")])
  | help =>
    layout helpAbout "help [COMMAND]..." "Arguments"
      [("[COMMAND]...", "Print help for the subcommand(s)")]

end Page

end BearerAuth.CommandLine
