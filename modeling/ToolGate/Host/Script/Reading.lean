import ToolGate.Host.Script.Token

/-!
Reading scripts. A script is read one complete command at a time, so that what comes before a
mistake still runs. The fuel of the readers grows with the length of the text, since every nested
construct takes at least one character.
-/

namespace ToolGate.Host.Script

open CommandLine (isName isNamePart startsName)
open Reader

/-- What a token may be besides a plain word: newlines before it can be skipped, keywords can be
told from words, and aliases can take the place of words. -/
structure Expecting where
  newlines : Bool := false
  keywords : Bool := false
  aliases : Bool := false

namespace Expecting

def words : Expecting := {}

def command : Expecting := { keywords := true, aliases := true }

/-- A command, perhaps after newlines. -/
def anyCommand : Expecting := { newlines := true, keywords := true, aliases := true }

end Expecting

inductive Quotes where
  /-- A string, which may stand within braces that are quoted themselves. -/
  | string (inBraces : Bool)
  | braces
  | document
  deriving DecidableEq

def Quotes.ends : Quotes → Char → Bool
  | .string _, c => c = '"'
  | .braces, c => c = '\x7d'
  | .document, _ => false

/-- Whether a backslash takes the meaning of a character away. Before any other one it stands for
itself. -/
def Quotes.protects (quotes : Quotes) (c : Char) : Bool :=
  c = '\\' || c = '$' || c = '\x60' || (c = '"' && quotes != .document) ||
    (c = '\x7d' && (quotes = .braces || quotes = .string true))

/-- Takes the text of a script up to the closing backquote. A backslash protects a backquote, a
dollar sign, another backslash and, between double quotes, a double quote. -/
def takeBackquoted : Nat → Bool → List Char → Reader (List Char)
  | 0, _, _ => stop .unterminatedSubstitution
  | fuel + 1, quoted, taken => do
    match (← get).rest with
    | [] => stop .unterminatedSubstitution
    | '\x60' :: _ => skip 1; return taken.reverse
    | '\\' :: '\n' :: _ => skip 2; takeBackquoted fuel quoted taken
    | '\\' :: c :: _ =>
      skip 2
      let isProtected := c = '\x60' || c = '$' || c = '\\' || (quoted && c = '"')
      takeBackquoted fuel quoted (if isProtected then c :: taken else c :: '\\' :: taken)
    | c :: _ => skip 1; takeBackquoted fuel quoted (c :: taken)

/-- The changes of parameters by their signs. Where none is named the parameter is broken. -/
def takeChange : Reader (Option (Change × Bool)) := do
  match (← get).rest with
  | ':' :: '-' :: _ => skip 2; return some (.orElse, true)
  | ':' :: '=' :: _ => skip 2; return some (.assign, true)
  | ':' :: '?' :: _ => skip 2; return some (.complain, true)
  | ':' :: '+' :: _ => skip 2; return some (.instead, true)
  | '-' :: _ => skip 1; return some (.orElse, false)
  | '=' :: _ => skip 1; return some (.assign, false)
  | '?' :: _ => skip 1; return some (.complain, false)
  | '+' :: _ => skip 1; return some (.instead, false)
  | '#' :: '#' :: _ => skip 2; return some (.dropFront true, false)
  | '#' :: _ => skip 1; return some (.dropFront false, false)
  | '%' :: '%' :: _ => skip 2; return some (.dropBack true, false)
  | '%' :: _ => skip 1; return some (.dropBack false, false)
  | _ => return none

def takeParameter? : Reader (Option String) := do
  match (← get).rest with
  | c :: _ =>
    if startsName c then return some (String.ofList (← takeWhile isNamePart))
    else if c.isDigit then return some (String.ofList (← takeWhile Char.isDigit))
    else if specialParameters.contains c then
      skip 1
      return some (String.singleton c)
    else return none
  | [] => return none

/-- Takes the name of a parameter whose length is asked for, after the sign for that. -/
def takeMeasured? : Reader (Option String) := do
  match (← get).rest with
  | c :: after =>
    if startsName c then return some (String.ofList (← takeWhile isNamePart))
    else if c.isDigit || (specialParameters.contains c && after.head? = some '\x7d') then
      skip 1
      return some (String.singleton c)
    else return none
  | [] => return none

/-- Takes the word that ends a document: its text, and whether any of it is quoted. -/
def takeStopLine : Nat → List Char → Bool → Reader (List Char × Bool)
  | 0, taken, quoted => return (taken, quoted)
  | fuel + 1, taken, quoted => do
    match (← get).rest with
    | [] => return (taken, quoted)
    | '\\' :: '\n' :: _ => skip 2; takeStopLine fuel taken quoted
    | '\\' :: c :: _ => skip 2; takeStopLine fuel (taken ++ [c]) true
    | '\'' :: _ | '"' :: _ =>
      let mark := (← get).rest.headD '"'
      skip 1
      let inner ← takeWhile (· != mark)
      unless ← comes (String.singleton mark) do stop .unterminatedQuote
      skip 1
      takeStopLine fuel (taken ++ inner) true
    | c :: _ =>
      if endsWord c then return (taken, quoted)
      skip 1
      takeStopLine fuel (taken ++ [c]) quoted

/-- Takes the lines of a document up to the line that ends it, out of the text that follows the
current line. -/
def takeDocument (stripTabs : Bool) (stopLine : List Char) : Reader (List Char) := do
  let cursor ← get
  let line := cursor.rest.takeWhile (· != '\n')
  let lines := ((cursor.rest.drop line.length).drop 1).splitOnP (· == '\n')
  let strip (text : List Char) := if stripTabs then text.dropWhile (· == '\t') else text
  let body := lines.takeWhile fun text => strip text != stopLine
  let after := lines.drop (body.length + 1)
  let rest := if after.isEmpty then [] else '\n' :: ['\n'].intercalate after
  let taken := min (body.length + 1) lines.length
  set { cursor with rest := line ++ rest, taken := cursor.taken + taken }
  let text := ['\n'].intercalate (body.map strip)
  return if body.length < lines.length then text ++ (if body.isEmpty then [] else ['\n']) else text

def within {α : Type} (text : List Char) (line : Nat) (reader : Reader α) : Reader α := do
  match reader.run { rest := text, line, aliases := (← get).aliases } with
  | .ok (value, _) => return value
  | .error mistake => throw mistake

def fuelFor (text : List Char) : Nat := 8 * text.length + 64

mutual

/-- Reads the pieces of a word outside of quotes, up to a character that ends it. -/
def readPieces : Nat → (Char → Bool) → Word → Reader Word
  | 0, _, pieces => return pieces
  | fuel + 1, ends, pieces => do
    match (← get).rest with
    | [] => return pieces
    | '\\' :: '\n' :: _ => skip 2; readPieces fuel ends pieces
    | '\\' :: c :: _ => skip 2; readPieces fuel ends (addText pieces true [c])
    | ['\\'] => skip 1; return addText pieces true ['\\']
    | '\'' :: _ =>
      skip 1
      let inner ← takeWhile (· != '\'')
      unless ← comes "'" do stop .unterminatedQuote
      skip 1
      readPieces fuel ends (addText pieces true inner)
    | '"' :: _ =>
      skip 1
      let inner ← readString fuel false
      readPieces fuel ends (pieces ++ inner)
    | '$' :: _ =>
      skip 1
      let piece ← readDollar fuel false
      readPieces fuel ends (joinPiece pieces piece)
    | '\x60' :: _ =>
      skip 1
      let piece ← readBackquoted fuel false
      readPieces fuel ends (pieces ++ [piece])
    | c :: rest =>
      if ends c then return pieces
      let more := rest.takeWhile fun d => !ends d && !isActive d
      skip (more.length + 1)
      readPieces fuel ends (addText pieces false (c :: more))

def readString : Nat → Bool → Reader Word
  | 0, _ => return []
  | fuel + 1, inBraces => do
    let inner ← readQuoted fuel (.string inBraces) []
    unless ← comes "\"" do stop .unterminatedQuote
    skip 1
    return if inner.isEmpty then [.text true []] else inner

def readQuoted : Nat → Quotes → Word → Reader Word
  | 0, _, pieces => return pieces
  | fuel + 1, quotes, pieces => do
    match (← get).rest with
    | [] => return pieces
    | '\\' :: '\n' :: _ => skip 2; readQuoted fuel quotes pieces
    | '\\' :: c :: _ =>
      skip 2
      readQuoted fuel quotes (addText pieces true (if quotes.protects c then [c] else ['\\', c]))
    | '$' :: _ =>
      skip 1
      let piece ← readDollar fuel true
      readQuoted fuel quotes (joinPiece pieces piece)
    | '\x60' :: _ =>
      skip 1
      let piece ← readBackquoted fuel true
      readQuoted fuel quotes (pieces ++ [piece])
    | c :: rest =>
      if quotes.ends c then return pieces
      if c = '"' && quotes = .braces then
        skip 1
        let inner ← readString fuel true
        readQuoted fuel quotes (pieces ++ inner)
      else
        let more := rest.takeWhile fun d => !quotes.ends d && !isActive d
        skip (more.length + 1)
        readQuoted fuel quotes (addText pieces true (c :: more))

/-- Reads an expression up to the two closing parentheses. One that stands alone belongs to it. -/
def readArithmetic : Nat → Nat → Word → Reader Word
  | 0, _, pieces => return pieces
  | fuel + 1, depth, pieces => do
    match (← get).rest with
    | [] => stop .missingParentheses
    | '\\' :: '\n' :: _ => skip 2; readArithmetic fuel depth pieces
    | '\\' :: c :: _ =>
      skip 2
      let quotes := Quotes.string false
      readArithmetic fuel depth
        (addText pieces true (if quotes.protects c then [c] else ['\\', c]))
    | '$' :: _ =>
      skip 1
      let piece ← readDollar fuel true
      readArithmetic fuel depth (joinPiece pieces piece)
    | '\x60' :: _ =>
      skip 1
      let piece ← readBackquoted fuel true
      readArithmetic fuel depth (pieces ++ [piece])
    | '(' :: _ => skip 1; readArithmetic fuel (depth + 1) (addText pieces true ['('])
    | ')' :: rest =>
      match depth, rest with
      | depth + 1, _ => skip 1; readArithmetic fuel depth (addText pieces true [')'])
      | 0, ')' :: _ => skip 2; return pieces
      | 0, _ => skip 1; readArithmetic fuel 0 (addText pieces true [')'])
    | c :: _ => skip 1; readArithmetic fuel depth (addText pieces true [c])

def readDollar : Nat → Bool → Reader Piece
  | 0, quoted => return .text quoted ['$']
  | fuel + 1, quoted => do
    joinLines fuel
    match (← get).rest with
    | '(' :: _ =>
      skip 1
      joinLines fuel
      if ← comes "(" then
        skip 1
        return .arithmetic quoted (← readArithmetic fuel 0 [])
      else
        let body ← readList fuel true []
        expect fuel (.operator ")")
        return .command quoted body
    | '\x7b' :: _ => skip 1; readBraced fuel quoted
    | c :: _ =>
      if startsName c then
        return .parameter quoted (String.ofList (← takeWhile isNamePart))
      else if c.isDigit || specialParameters.contains c then
        skip 1
        return .parameter quoted (String.singleton c)
      else return .text quoted ['$']
    | [] => return .text quoted ['$']

def readBraced : Nat → Bool → Reader Piece
  | 0, quoted => return .text quoted ['$', '\x7b']
  | fuel + 1, quoted => do
    joinLines fuel
    let measured? ←
      match (← get).rest with
      | '#' :: c :: after =>
        if isNamePart c || (c != '\x7d' && after.head? = some '\x7d') then
          skip 1
          pure (some (← takeMeasured?))
        else pure none
      | _ => pure none
    match measured? with
    | some (some name) =>
      if ← comes "\x7d" then
        skip 1
        return .changed quoted name .count false []
      else readBroken fuel quoted
    | some none => readBroken fuel quoted
    | none =>
      match ← takeParameter? with
      | none => readBroken fuel quoted
      | some name =>
        if ← comes "\x7d" then
          skip 1
          return .parameter quoted name
        else
          match ← takeChange with
          | none => readBroken fuel quoted
          | some (change, emptyToo) =>
            let isPattern :=
              match change with
              | .dropFront _ | .dropBack _ => true
              | _ => false
            let word ← readChange fuel (quoted && !isPattern)
            return .changed quoted name change emptyToo word

def readChange : Nat → Bool → Reader Word
  | 0, _ => return []
  | fuel + 1, quoted => do
    let word ←
      if quoted then readQuoted fuel .braces []
      else readPieces fuel (· = '\x7d') []
    unless ← comes "\x7d" do
      stop (if quoted then .unterminatedQuote else .missingBrace)
    skip 1
    return word

/-- Reads what is left of a parameter that is changed in no known way. -/
def readBroken : Nat → Bool → Reader Piece
  | 0, _ => return .broken
  | fuel + 1, quoted => do
    let _ ← readChange fuel quoted
    return .broken

def readBackquoted : Nat → Bool → Reader Piece
  | 0, _ => return .broken
  | fuel + 1, quoted => do
    let source ← takeBackquoted fuel quoted []
    return .command quoted (← within source 1 (readList fuel true []))

def readPlainToken : Nat → Reader Token
  | 0 => return .finish
  | fuel + 1 => do
    skipBlanks fuel
    let rest := (← get).rest
    match rest with
    | [] => return .finish
    | '\n' :: _ => skip 1; return .newline
    | c :: after =>
      let number := if c.isDigit then some (c.toNat - '0'.toNat) else none
      let signs := if number.isSome then after else rest
      match redirectionSigns.find? fun sign => sign.toList.isPrefixOf signs,
          operators.find? fun operator => operator.toList.isPrefixOf rest with
      | some sign, _ =>
        skip (rest.length - signs.length + sign.length)
        return .redirection number sign
      | none, some operator => skip operator.length; return .operator operator
      | none, none => return .word (← readPieces fuel endsWord [])

def readToken : Nat → Expecting → Reader Token
  | 0, _ => return .finish
  | fuel + 1, expecting => do
    let before ← get
    let token ←
      match before.pushed with
      | some token =>
        set { before with pushed := none }
        pure token
      | none => readPlainToken fuel
    match token with
    | .newline => if expecting.newlines then readToken fuel expecting else return token
    | .word word =>
      match plain? word with
      | none => return token
      | some name =>
        if expecting.keywords && keywords.contains name then return .keyword name
        else if !(expecting.aliases || (← leftBlank before)) then return token
        else if ← expandAlias name then readToken fuel expecting
        else return token
    | _ => return token

def expect : Nat → Token → Reader Unit
  | 0, _ => return
  | fuel + 1, wanted => do
    let token ← readToken fuel .words
    unless token.name = wanted.name do unexpected token (some wanted.name)

def readRedirection : Nat → Option Nat → String → Reader Redirection
  | 0, _, _ => return .mk 0 .input []
  | fuel + 1, number, sign => do
    if sign = "<<" || sign = "<<-" then
      let line := (← get).line
      skipBlanks fuel
      let (stopLine, quoted) ← takeStopLine fuel [] false
      if stopLine.isEmpty && !quoted then
        let token ← readToken fuel .words
        unexpected token none
      let body ← takeDocument (sign = "<<-") stopLine
      if quoted then return .mk (number.getD 0) .document [.text true body]
      else
        let pieces ← within body (line + 1) (readQuoted fuel .document [])
        return .mk (number.getD 0) .document pieces
    else
      match ← readToken fuel .words with
      | .word word =>
        match sign with
        | "<" => return .mk (number.getD 0) .input word
        | ">" => return .mk (number.getD 1) (.output false) word
        | ">|" => return .mk (number.getD 1) (.output true) word
        | ">>" => return .mk (number.getD 1) .append word
        | "<>" => return .mk (number.getD 0) .both word
        | "<&" => return .mk (number.getD 0) .duplicate word
        | _ => return .mk (number.getD 1) .duplicate word
      | token => unexpected token none

def readRedirections : Nat → List Redirection → Reader (List Redirection)
  | 0, redirections => return redirections
  | fuel + 1, redirections => do
    match ← readToken fuel .command with
    | .redirection number sign =>
      let redirection ← readRedirection fuel number sign
      readRedirections fuel (redirections ++ [redirection])
    | token =>
      push token
      return redirections

/-- Reads the words, assignments and redirections of a simple command, or a function. -/
def readSimple : Nat → Nat → List (String × Word) → List Word → List Redirection → Reader Command
  | 0, line, assignments, words, redirections =>
    return .simple line assignments words redirections
  | fuel + 1, line, assignments, words, redirections => do
    match ← readToken fuel { aliases := words.isEmpty } with
    | .redirection number sign =>
      let redirection ← readRedirection fuel number sign
      readSimple fuel line assignments words (redirections ++ [redirection])
    | .word word =>
      match (if words.isEmpty then assignment? word else none) with
      | some assignment =>
        readSimple fuel line (assignments ++ [assignment]) words redirections
      | none => readSimple fuel line assignments (words ++ [word]) redirections
    | .operator "(" =>
      match assignments, words, redirections with
      | [], [word], [] =>
        expect fuel (.operator ")")
        match (plain? word).filter fun name =>
            isName name.toList && !specialCommands.contains name with
        | some name =>
          push (← readToken fuel .anyCommand)
          return .define name (← readCommand fuel (← get).line)
        | none => stop .badFunctionName
      | _, _, _ =>
        push (.operator "(")
        return .simple line assignments words redirections
    | token =>
      push token
      return .simple line assignments words redirections

/-- Reads commands up to a token that ends the list. Whether there may be none depends on the
construct. -/
def readList : Nat → Bool → List Command → Reader Command
  | 0, _, commands => return .sequence commands
  | fuel + 1, mayEnd, commands => do
    let token ← readToken fuel .anyCommand
    push token
    if (match token with | .finish => true | _ => false) || (mayEnd && token.endsList) then
      return .sequence commands
    else
      let command ← readAndOr fuel
      match ← readToken fuel .words with
      | .operator "&" => readList fuel true (commands ++ [.background command])
      | .operator ";" | .newline => readList fuel true (commands ++ [command])
      | token =>
        push token
        return .sequence (commands ++ [command])

/-- Reads pipelines joined by `&&` and `||`. The first token has been put back. -/
def readAndOr : Nat → Reader Command
  | 0 => return .sequence []
  | fuel + 1 => do
    let first ← readPipeline fuel (← get).line
    readMore fuel first

def readMore : Nat → Command → Reader Command
  | 0, first => return first
  | fuel + 1, first => do
    match ← readToken fuel .words with
    | .operator "&&" =>
      let line := (← get).line
      push (← readToken fuel .anyCommand)
      let second ← readPipeline fuel line
      readMore fuel (.both first second)
    | .operator "||" =>
      let line := (← get).line
      push (← readToken fuel .anyCommand)
      let second ← readPipeline fuel line
      readMore fuel (.either first second)
    | token =>
      push token
      return first

/-- Reads commands joined by bars. The first token has been put back. -/
def readPipeline : Nat → Nat → Reader Command
  | 0, _ => return .sequence []
  | fuel + 1, line => do
    match ← readToken fuel .words with
    | .keyword "!" =>
      push (← readToken fuel .command)
      let commands ← readPiped fuel [← readCommand fuel line]
      return .negated (if commands.length = 1 then commands.headD default else .pipeline commands)
    | token =>
      push token
      let commands ← readPiped fuel [← readCommand fuel line]
      return if commands.length = 1 then commands.headD default else .pipeline commands

def readPiped : Nat → List Command → Reader (List Command)
  | 0, commands => return commands
  | fuel + 1, commands => do
    match ← readToken fuel .words with
    | .operator "|" =>
      let line := (← get).line
      push (← readToken fuel .anyCommand)
      let command ← readCommand fuel line
      readPiped fuel (commands ++ [command])
    | token =>
      push token
      return commands

/-- Reads one command with its redirections. Its first token has been put back. -/
def readCommand : Nat → Nat → Reader Command
  | 0, _ => return .sequence []
  | fuel + 1, line => do
    let token ← readToken fuel .words
    match token with
    | .word _ | .redirection _ _ =>
      push token
      readSimple fuel (← get).line [] [] []
    | _ =>
      let body ← readCompound fuel line token
      match ← readRedirections fuel [] with
      | [] => return body
      | redirections => return .redirected line body redirections

def readCompound : Nat → Nat → Token → Reader Command
  | 0, _, _ => return .sequence []
  | fuel + 1, line, token => do
    match token with
    | .operator "(" =>
      let body ← readList fuel false []
      expect fuel (.operator ")")
      return .subshell line body
    | .keyword "\x7b" =>
      let body ← readList fuel false []
      expect fuel (.keyword "\x7d")
      return body
    | .keyword "if" => readConditional fuel
    | .keyword "while" => readLoop fuel false
    | .keyword "until" => readLoop fuel true
    | .keyword "for" => readEach fuel line
    | .keyword "case" =>
      match ← readToken fuel .words with
      | .word subject =>
        push (← readToken fuel .anyCommand)
        expect fuel (.keyword "in")
        let branches ← readBranches fuel []
        return .choice line subject branches
      | token => unexpected token (some "word")
    | token => unexpected token none

def readConditional : Nat → Reader Command
  | 0 => return .sequence []
  | fuel + 1 => do
    let condition ← readList fuel false []
    expect fuel (.keyword "then")
    let body ← readList fuel false []
    match ← readToken fuel .words with
    | .keyword "elif" => return .conditional condition body (some (← readConditional fuel))
    | .keyword "else" =>
      let otherwise ← readList fuel false []
      expect fuel (.keyword "fi")
      return .conditional condition body (some otherwise)
    | token =>
      push token
      expect fuel (.keyword "fi")
      return .conditional condition body none

def readLoop : Nat → Bool → Reader Command
  | 0, _ => return .sequence []
  | fuel + 1, untilHolds => do
    let condition ← readList fuel false []
    expect fuel (.keyword "do")
    let body ← readList fuel false []
    expect fuel (.keyword "done")
    return .loop untilHolds condition body

def readEach : Nat → Nat → Reader Command
  | 0, _ => return .sequence []
  | fuel + 1, line => do
    let name ←
      match ← readToken fuel .words with
      | .word word =>
        match (plain? word).filter fun name => isName name.toList with
        | some name => pure name
        | none => stop .badLoopVariable
      | _ => stop .badLoopVariable
    let words ←
      match ← readToken fuel .anyCommand with
      | .keyword "in" => pure (some (← readWords fuel []))
      | .operator ";" => pure none
      | token => push token; pure none
    push (← readToken fuel .anyCommand)
    expect fuel (.keyword "do")
    let body ← readList fuel false []
    expect fuel (.keyword "done")
    return .each line name words body

def readWords : Nat → List Word → Reader (List Word)
  | 0, words => return words
  | fuel + 1, words => do
    match ← readToken fuel .words with
    | .word word => readWords fuel (words ++ [word])
    | .newline | .operator ";" => return words
    | token => unexpected token none

def readBranches : Nat → List (List Word × Command) → Reader (List (List Word × Command))
  | 0, branches => return branches
  | fuel + 1, branches => do
    match ← readToken fuel { newlines := true, keywords := true } with
    | .keyword "esac" => return branches
    | token =>
      let first ←
        match token with
        | .operator "(" => readToken fuel .words
        | token => pure token
      let patterns ← readPatterns fuel [] first
      let body ← readList fuel true []
      let branches := branches ++ [(patterns, body)]
      match ← readToken fuel { newlines := true, keywords := true } with
      | .keyword "esac" => return branches
      | .operator ";;" => readBranches fuel branches
      | token => unexpected token (some "\";;\"")

/-- Reads the patterns of a branch, separated by bars, after the first token of the first one. -/
def readPatterns : Nat → List Word → Token → Reader (List Word)
  | 0, patterns, _ => return patterns
  | fuel + 1, patterns, token => do
    let pattern :=
      match token with
      | .word word => word
      | .keyword text => [.text false text.toList]
      | _ => []
    match ← readToken fuel { aliases := true } with
    | .operator "|" => readPatterns fuel (patterns ++ [pattern]) (← readToken fuel .words)
    | .operator ")" => return patterns ++ [pattern]
    | token => unexpected token (some "\")\"")

end

/-- The pieces of a text that is read as one between double quotes. -/
def readTemplate (text : String) : Option Word :=
  let reader := readQuoted (fuelFor text.toList) .document []
  match reader.run { rest := text.toList, line := 1 } with
  | .ok (pieces, _) => some pieces
  | .error _ => none

def readCommands (fuel : Nat) : Nat → List Command → Reader (Option Command)
  | 0, commands => return some (.sequence commands)
  | steps + 1, commands => do
    match ← readToken fuel .command with
    | .newline => return some (.sequence commands)
    | .finish => return if commands.isEmpty then none else some (.sequence commands)
    | token =>
      push token
      let command ← readAndOr fuel
      match ← readToken fuel .words with
      | .operator "&" => readCommands fuel steps (commands ++ [.background command])
      | .operator ";" => readCommands fuel steps (commands ++ [command])
      | .newline => return some (.sequence (commands ++ [command]))
      | .finish => return some (.sequence (commands ++ [command]))
      | token => unexpected token none

/-- Reads one line of commands, however many lines it takes. At the end of the script there is
none. -/
def readLine : Reader (Option Command) := do
  modify fun cursor => { cursor with pushed := none }
  let fuel := fuelFor (← get).rest
  readCommands fuel fuel []

end ToolGate.Host.Script
