/-!
Classes of characters by their names, as patterns and regular expressions speak of them. Characters
have eight bits, and only those of ASCII belong to a class.
-/

namespace ToolGate.Host.CharClass

def isSpace (c : Char) : Bool := c = ' ' || ('\t' ≤ c && c ≤ '\r')

def isGraphic (c : Char) : Bool := '!' ≤ c && c ≤ '~'

def isControl (c : Char) : Bool := c < ' ' || c = '\x7f'

def isHexDigit (c : Char) : Bool :=
  c.isDigit || ('a' ≤ c && c ≤ 'f') || ('A' ≤ c && c ≤ 'F')

def table : List (String × (Char → Bool)) := [
  ("alnum", Char.isAlphanum), ("alpha", Char.isAlpha), ("blank", fun c => c = ' ' || c = '\t'),
  ("cntrl", isControl), ("digit", Char.isDigit), ("graph", isGraphic), ("lower", Char.isLower),
  ("print", fun c => c = ' ' || isGraphic c),
  ("punct", fun c => isGraphic c && !c.isAlphanum), ("space", isSpace), ("upper", Char.isUpper),
  ("xdigit", isHexDigit)]

/-- The class at the beginning of a text that has the form `:name:]`, and what follows it. -/
def take? (text : List Char) : Option ((Char → Bool) × List Char) :=
  table.findSome? fun (name, contains) =>
    let mark := ':' :: name.toList ++ [':', ']']
    if mark.isPrefixOf text then some (contains, text.drop mark.length) else none

end ToolGate.Host.CharClass
