import ToolGate.Options.Reading

/-!
The texts that a user gets to read when a command line is refused, and the exit codes. Help and the
version are answers and no errors; everything else counts as a misuse.
-/

namespace ToolGate.Options

open ToolGate.Text (Styled)

namespace Refusal

/-- Whether a refusal is the answer to a request. -/
def isAnswer : Refusal → Bool
  | .help | .version => true
  | _ => false

def tip (text : Styled) : Styled :=
  ("\n  " : Styled) ++ Styled.of .valid "tip:" ++ (" " : Styled) ++ text

/-- The hint how a word that looks like an option is given as a value. -/
def escapeTip (word : String) : Styled :=
  tip (Styled.join ["to pass '", Styled.of .invalid word, "' as a value, use '",
    Styled.of .valid ("-- " ++ word), "'"])

/-- What went wrong, in a sentence and hints. An answer has none. -/
def complaint : Refusal → Styled
  | .help | .version | .nothingGiven => ""
  | .missingWords places =>
    Styled.join ("the following required arguments were not provided:" ::
      places.map fun place => ("\n  " : Styled) ++ Styled.of .valid place.display)
  | .conflict first second =>
    Styled.join ["the argument '", Styled.of .invalid first.display, "' cannot be used with '",
      Styled.of .invalid second.display, "'"]
  | .repeated option =>
    Styled.join ["the argument '", Styled.of .invalid option.display,
      "' cannot be used multiple times"]
  | .missingValue option =>
    Styled.join ["a value is required for '", Styled.of .invalid option.display,
      "' but none was supplied"]
  | .unexpectedValue option value =>
    Styled.join ["unexpected value '", Styled.of .invalid value, "' for '",
      Styled.of .literal option.display, "' found; no more were expected"]
  | .unknownLong name similar =>
    let similarTip :=
      match similar with
      | some option =>
        tip (Styled.join ["a similar argument exists: '", Styled.of .valid ("--" ++ option.long),
          "'"])
      | none => ""
    Styled.join ["unexpected argument '", Styled.of .invalid ("--" ++ name), "' found\n",
      similarTip, escapeTip ("--" ++ name)]
  | .unknownShort letter =>
    let word := "-" ++ String.singleton letter
    Styled.join ["unexpected argument '", Styled.of .invalid word, "' found\n", escapeTip word]

end Refusal

namespace ParseError

/-- The usage line that goes with an error, if one does. The options on record are named, unless
the error makes them unimportant. A value too many for the first thing on the command line leaves
all words open; later on it shows all that may be given. -/
def usage? (grammar : Grammar) (error : ParseError) : Option Styled :=
  match error.refusal with
  | .help | .version | .nothingGiven | .missingValue _ => none
  | .repeated _ | .unknownShort _ => some grammar.generalUsage
  | .missingWords _ => some (grammar.usage error.onRecord)
  | .unexpectedValue option _ =>
    if error.onRecord.isEmpty && !error.wordsOnRecord then some (grammar.usage [option])
    else some (grammar.openUsage option)
  | .conflict _ _ | .unknownLong _ _ =>
    some (if error.onRecord.isEmpty then grammar.generalUsage else grammar.usage error.onRecord)

def report (grammar : Grammar) (error : ParseError) : Styled :=
  match error.refusal with
  | .help | .nothingGiven => grammar.help
  | .version => grammar.versionText
  | refusal =>
    let usage :=
      match error.usage? grammar with
      | some line => line ++ ("\n\n" : Styled)
      | none => ""
    Styled.join [Styled.of .error "error:", " ", refusal.complaint, "\n\n", usage,
      "For more information, try '", Styled.of .literal "--help", "'.\n"]

def message (grammar : Grammar) (error : ParseError) : String :=
  (error.report grammar).bare

def exitCode (error : ParseError) : Nat :=
  if error.refusal.isAnswer then 0 else 2

end ParseError

end ToolGate.Options
