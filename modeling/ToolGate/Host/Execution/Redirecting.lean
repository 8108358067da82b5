import ToolGate.Host.Expansion
import ToolGate.Host.Finding

/-!
Redirections: what the words after their signs stand for, and how they change the channels of the
shell.
-/

namespace ToolGate.Host.Execution

open Script

/-- A redirection whose word has been expanded. -/
structure Redirected where
  number : Nat
  kind : RedirectionKind
  text : String

def badNumber : String := "Syntax error: Bad fd number"

/-- Expands the words of redirections. A channel that another one becomes has to be a digit. -/
def expandRedirections (substitute : Expansion.Substitute) (redirections : List Redirection) :
    Shell (List Redirected) :=
  redirections.mapM fun redirection => do
    let text ← Expansion.expandText substitute redirection.word
    if redirection.kind = .duplicate then
      match text.toList with
      | [c] => unless c = '-' || c.isDigit do Shell.refuse badNumber
      | _ => Shell.refuse badNumber
    return { number := redirection.number, kind := redirection.kind, text }

/-- The reason that a message gives for a file that cannot be opened. -/
def openReason (creating : Bool) (error : OsError) : String :=
  if error = .notFound ∨ error = .notDirectory then
    if creating then "Directory nonexistent" else "No such file"
  else Finding.reason error

def connectOpened (redirected : Redirected) (creating : Bool)
    (result : Except OsError (Channel × Machine)) : Shell Bool :=
  match result with
  | .ok (channel, machine) => do
    modify fun session => { session with machine }
    Shell.adjust (Context.connect · redirected.number channel)
    return true
  | .error error => do
    Shell.complain ("cannot " ++ (if creating then "create " else "open ") ++ redirected.text ++
      ": " ++ openReason creating error)
    return false

/-- Changes one channel. The result says whether that was possible. -/
def redirect (redirected : Redirected) : Shell Bool := do
  let session ← get
  let text := redirected.text
  let create (opening : Machine.Opening) : Shell Bool :=
    connectOpened redirected true
      (session.machine.openOut session.channels session.directory text opening)
  match redirected.kind with
  | .input =>
    connectOpened redirected false
      (session.machine.openIn session.channels session.directory text)
  | .output forced =>
    let isProtected :=
      match session.machine.files.look session.directory text false with
      | .ok (_, .file _ _) | .ok (_, .program _) => true
      | .ok (_, .link _) =>
        match session.machine.files.find session.directory text with
        | .ok (_, .file _ _) | .ok (_, .program _) | .error _ => true
        | .ok _ => false
      | _ => false
    if session.has "noclobber" && !forced && isProtected then
      connectOpened redirected true (.error .alreadyExists)
    else create .fresh
  | .append => create .append
  | .both => create .update
  | .document => connectOpened redirected false (.ok (session.machine.channel text))
  | .duplicate =>
    match text.toList with
    | [digit] =>
      let source := digit.toNat - '0'.toNat
      if digit = '-' then
        Shell.adjust (Context.disconnect · redirected.number)
        return true
      else if source = redirected.number then return true
      else
        match session.channel? source with
        | some channel =>
          Shell.adjust (Context.connect · redirected.number channel)
          return true
        | none =>
          Shell.adjust (Context.disconnect · redirected.number)
          Shell.complain (text ++ ": " ++ OsError.numberText 9)
          return false
    | _ => return false

def redirectAll : List Redirected → Shell Bool
  | [] => return true
  | redirected :: rest => do
    if ← redirect redirected then redirectAll rest else return false

end ToolGate.Host.Execution
