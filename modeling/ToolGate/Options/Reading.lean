import ToolGate.Options.Grammar
import ToolGate.Options.Word
import ToolGate.Text.Similarity

/-!
Reading a command line by a grammar. Words are read from left to right. An option that takes a
value keeps waiting until the value has come, and it is put on record when the next option or word
shows that nothing more belongs to it. Where the trailing place is next, a word that looks like an
option but is none counts as an ordinary word.
-/

namespace ToolGate.Options

structure Given where
  option : OptionSpec
  values : List String
  deriving DecidableEq, Repr

/-- Why a command line was not accepted, requests for help and the version among the reasons. -/
inductive Refusal where
  | help
  | version
  /-- Nothing was given at all. -/
  | nothingGiven
  /-- Places that need a word have none. -/
  | missingWords (places : List WordSpec)
  /-- Two options exclude each other. -/
  | conflict (first second : OptionSpec)
  /-- An option was given once too often. -/
  | repeated (option : OptionSpec)
  /-- An option has no value, or an empty one. -/
  | missingValue (option : OptionSpec)
  /-- A switch has a value. -/
  | unexpectedValue (option : OptionSpec) (value : String)
  /-- There is no option with this long name; another one has a similar name. -/
  | unknownLong (name : String) (similar : Option OptionSpec)
  /-- There is no option with this letter. -/
  | unknownShort (letter : Char)
  deriving DecidableEq, Repr

/-- A refusal together with what had been put on record by then. -/
structure ParseError where
  refusal : Refusal
  /-- The options on record, for the usage line. -/
  onRecord : List OptionSpec := []
  /-- Whether a word was on record. -/
  wordsOnRecord : Bool := false
  deriving DecidableEq, Repr

/-- A command line that was accepted. -/
structure Reading where
  given : List Given
  leading : List String
  trailing : List String
  deriving DecidableEq, Repr

namespace Reading

def has (reading : Reading) (long : String) : Bool :=
  reading.given.any (·.option.long == long)

def values (reading : Reading) (long : String) : List String :=
  (reading.given.filter (·.option.long == long)).flatMap (·.values)

end Reading

/-- What has been read but not put on record. -/
inductive Pending where
  | nothing
  /-- An option, with its value if it has come. -/
  | option (option : OptionSpec) (value : Option String)
  /-- A leading word. -/
  | word (text : String)
  deriving DecidableEq, Repr

/-- How far a reading has come: the options on record in the order in which they were first given,
the leading words on record, and what waits to be put on record. -/
structure Progress where
  given : List Given
  words : List String
  pending : Pending
  deriving DecidableEq, Repr

/-- A list of options that names one more option, unless it is named already. -/
def naming (options : List OptionSpec) (option : OptionSpec) : List OptionSpec :=
  if options.contains option then options else options ++ [option]

namespace Progress

/-- Nothing has been read yet. -/
def start : Progress := ⟨[], [], .nothing⟩

def has (progress : Progress) (option : OptionSpec) : Bool :=
  progress.given.any (·.option == option)

def options (progress : Progress) : List OptionSpec :=
  progress.given.map (·.option)

def wordCount (progress : Progress) : Nat :=
  match progress.pending with
  | .word _ => progress.words.length + 1
  | _ => progress.words.length

/-- Puts an option on record. The values of an option that is there already are collected at its
place. -/
def record (option : OptionSpec) (values : List String) : List Given → List Given
  | [] => [⟨option, values⟩]
  | first :: rest =>
    if first.option = option then ⟨option, first.values ++ values⟩ :: rest
    else first :: record option values rest

def fault? (progress : Progress) : Option Refusal :=
  match progress.pending with
  | .nothing | .word _ => none
  | .option option none => some (.missingValue option)
  | .option option (some value) =>
    if !option.isRepeatable && progress.has option then some (.repeated option)
    else if value.isEmpty && !option.allowsEmpty then some (.missingValue option)
    else none

/-- The progress when nothing waits any more. An option that must not be given again is taken off
the record. -/
def settled (progress : Progress) : Progress :=
  match progress.pending with
  | .option option (some value) =>
    if !option.isRepeatable && progress.has option then
      { progress with
        given := progress.given.filter (·.option != option)
        pending := .nothing }
    else
      { progress with
        given := record option [value] progress.given
        pending := .nothing }
  | .word text => { progress with words := progress.words ++ [text], pending := .nothing }
  | _ => { progress with pending := .nothing }

/-- Puts what waits on record, unless something is wrong with it. -/
def settle (progress : Progress) : Except ParseError Progress :=
  match progress.fault? with
  | some refusal => .error { refusal, onRecord := progress.settled.options }
  | none => .ok progress.settled

/-- Takes one occurrence of an option, with the value that is attached to it by an equals sign.
Such a value is complete; without one, an option that needs a value waits for the next word. -/
def give (progress : Progress) (option : OptionSpec) (attached : Option String) :
    Except ParseError Progress :=
  match option.kind, attached with
  | .value _ _ _, _ => do
    let progress ← progress.settle
    let waiting := { progress with pending := .option option attached }
    if attached.isSome then waiting.settle else return waiting
  | _, some value =>
    .error
      { refusal := .unexpectedValue option value
        onRecord := progress.options
        wordsOnRecord := !progress.words.isEmpty }
  | kind, none => do
    let progress ← progress.settle
    match kind with
    | .help => .error { refusal := .help }
    | .version => .error { refusal := .version }
    | _ =>
      if progress.has option then .error { refusal := .repeated option }
      else return { progress with given := record option [] progress.given }

end Progress

namespace Grammar

/-- How alike an option's name must be to be suggested for a name that is not known. -/
def suggestionBound : Rat := 7 / 10

/-- Picks the likelier of two options, the later one of two that are equally likely. -/
def likelier (name : List Char) (best : Option OptionSpec) (option : OptionSpec) :
    Option OptionSpec :=
  let score := Text.similarity name option.long.toList
  if score < suggestionBound then best
  else
    match best with
    | some old => if score < Text.similarity name old.long.toList then best else some option
    | none => some option

/-- The option whose long name is most like a name that is not known, if any is like it. -/
def suggestion? (grammar : Grammar) (name : List Char) : Option OptionSpec :=
  grammar.options.foldl (likelier name) none

/-- What a word means where it stands. -/
inductive Meaning where
  /-- No options follow. -/
  | escape
  /-- An option by its long name. -/
  | long (option : OptionSpec) (value : Option String)
  /-- A long name that no option has. -/
  | unknown (name : List Char)
  /-- Letters, of which not all need to be known. -/
  | letters (letters : List Char)
  /-- A word, or the value that an option waits for. -/
  | word
  deriving DecidableEq, Repr

/-- The meaning of a word. `verbatim` says that the trailing place is next, where only known
options are options. -/
def meaning (grammar : Grammar) (verbatim : Bool) (text : String) : Meaning :=
  match Word.read text.toList with
  | .escape => .escape
  | .long name value =>
    match grammar.findLong? name with
    | some option => .long option (value.map String.ofList)
    | none => if verbatim then .word else .unknown name
  | .short first rest =>
    if verbatim && !(first :: rest).all fun letter => (grammar.findShort? letter).isSome then .word
    else .letters (first :: rest)
  | .plain => .word

/-- Takes the options that letters stand for, up to the first unknown one. -/
def giveLetters (grammar : Grammar) : Progress → List Char → Except ParseError Progress
  | progress, [] => .ok progress
  | progress, letter :: rest =>
    match grammar.findShort? letter with
    | some option => do
      let progress ← progress.give option none
      grammar.giveLetters progress rest
    | none => .error { refusal := .unknownShort letter }

def excludes (grammar : Grammar) (a b : OptionSpec) : Bool :=
  grammar.conflicts.any fun pair =>
    pair == (a.long, b.long) || pair == (b.long, a.long)

/-- The first option in a list that excludes another one of the list, and that other one. -/
def conflict? (grammar : Grammar) (options : List OptionSpec) : Option (OptionSpec × OptionSpec) :=
  options.findSome? fun a => (options.find? (grammar.excludes a)).map (a, ·)

/-- The places that need a word and have none. -/
def missing (grammar : Grammar) (leading trailing : List String) : List WordSpec :=
  (grammar.leading.drop leading.length).filter (·.required) ++
    if grammar.trailing.required && trailing.isEmpty then [grammar.trailing] else []

/-- Ends a reading at which nothing waits, with the words of the trailing place. -/
def finish (grammar : Grammar) (progress : Progress) (trailing : List String) :
    Except ParseError Reading :=
  let options := progress.options
  let missing := grammar.missing progress.words trailing
  if grammar.helpWhenEmpty && options.isEmpty && progress.words.isEmpty && trailing.isEmpty then
    .error { refusal := .nothingGiven }
  else
    match grammar.conflict? options with
    | some (first, second) =>
      .error
        { refusal := .conflict first second
          onRecord := options.filter (!grammar.excludes first ·) }
    | none =>
      if missing.isEmpty then .ok ⟨progress.given, progress.words, trailing⟩
      else .error { refusal := .missingWords missing, onRecord := options }

/-- Reads the words of a command line from some progress on. -/
def readFrom (grammar : Grammar) (progress : Progress) : List String → Except ParseError Reading
  | [] => do
    let progress ← progress.settle
    grammar.finish progress []
  | text :: rest =>
    let free := grammar.leading.length - progress.wordCount
    match grammar.meaning (free == 0) text with
    | .escape => do
      let progress ← progress.settle
      grammar.finish { progress with words := progress.words ++ rest.take free } (rest.drop free)
    | .long option value => do
      let progress ← progress.give option value
      grammar.readFrom progress rest
    | .unknown name =>
      let similar := grammar.suggestion? name
      .error
        { refusal := .unknownLong (String.ofList name) similar
          onRecord := similar.toList.foldl naming progress.settled.options }
    | .letters letters => do
      let progress ← grammar.giveLetters progress letters
      grammar.readFrom progress rest
    | .word =>
      match progress.pending with
      | .option option none =>
        grammar.readFrom { progress with pending := .option option (some text) } rest
      | _ => do
        let progress ← progress.settle
        if free == 0 then grammar.finish progress (text :: rest)
        else grammar.readFrom { progress with pending := .word text } rest

def read (grammar : Grammar) (words : List String) : Except ParseError Reading :=
  grammar.readFrom .start words

end Grammar

end ToolGate.Options
