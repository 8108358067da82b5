import ToolGate.Host.Editing.Running
import ToolGate.Host.Utility.Lines

/-!
The program of the host that edits streams of lines by a script.
-/

namespace ToolGate.Host.Utility

def editorForms : List Form := [
  .both 'r' "regexp-extended", .short 'E', .both 'i' "in-place" .optional,
  .both 'l' "line-length" .required, .both 'z' "null-data", .long "zero-terminated",
  .both 'n' "quiet", .long "posix", .long "silent", .long "sandbox", .both 's' "separate",
  .both 'u' "unbuffered", .both 'e' "expression" .required, .both 'f' "file" .required,
  .long "debug", .long "follow-symlinks"]

def editorMisuse {α : Type} (problem : Option String) : Work α := do
  if let some text := problem then Work.complain text
  Work.write 2 (← Work.usage "sed")
  throw 1

def scriptPieces (given : List Given) (operands : List String) :
    Work (List Editing.Piece × List String) := do
  let parts := given.filter fun option => option.key = "expression" || option.key = "file"
  if parts.isEmpty then
    match operands with
    | script :: paths => return ([⟨script, none, 1⟩], paths)
    | [] => editorMisuse none
  else
    let pieces ← parts.zipIdx.mapM fun (option, index) => do
      let value := option.value.getD ""
      let number := ((parts.take (index + 1)).filter fun part => part.key = "expression").length
      if option.key = "expression" then return (⟨value, none, number⟩ : Editing.Piece)
      else
        match ← Work.contentOrInput value with
        | .ok text =>
          let text := if text.endsWith "\n" then String.ofList text.toList.dropLast else text
          return ⟨text, some value, number⟩
        | .error error =>
          Work.refuse 4 ("couldn't open file " ++ value ++ ": " ++ Work.reason error)
    return (pieces, operands)

def filesPutIn (commands : Array (Editing.Command Nat)) : List String :=
  commands.toList.filterMap fun command =>
    match command.deed with
    | .readFile path => some path
    | _ => none

def filesWritten (commands : Array (Editing.Command Nat)) : List String :=
  commands.toList.filterMap fun command =>
    match command.deed with
    | .writeFile path | .writeFirst path => some path
    | .replace replacement => replacement.target
    | _ => none

def inputLines (ending : Char) (text : String) : List Editing.InputLine :=
  (pieces ending text.toList).map fun line =>
    ⟨withoutEnd ending line, line.getLast? = some ending⟩

/-- Reads the files that are edited. One that cannot be read is complained about. -/
def editedSources (inPlace : Bool) (ending : Char) (paths : List String) :
    Work (List Editing.Source × Nat) := do
  let results ← paths.mapM fun path => do
    match ← if inPlace then Work.content path else Work.contentOrInput path with
    | .ok text => return (some ⟨path, inputLines ending text⟩, 0)
    | .error .isDirectory =>
      if inPlace then
        Work.complain ("couldn't edit " ++ path ++ ": not a regular file")
        return (none, 4)
      else
        Work.complain ("read error on " ++ path ++ ": Is a directory")
        return (none, 2)
    | .error error =>
      Work.complain ("can't read " ++ path ++ ": " ++ Work.reason error)
      return (none, 2)
  return (results.filterMap Prod.fst, (results.map Prod.snd).foldl max 0)

/-- The name of the file that keeps what was there before. A star in the suffix stands for the name
of the file. -/
def backupPath (suffix path : String) : String :=
  let name := ((FileTree.pieces path).getLastD "").toList
  let directory := path.toList.take (path.length - name.length)
  let changed := if suffix.toList.contains '*' then
    suffix.toList.flatMap fun c => if c = '*' then name else [c]
    else name ++ suffix.toList
  if suffix.toList.contains '/' then String.ofList changed
  else String.ofList (directory ++ changed)

def saveEdited (path text : String) (opening : Machine.Opening) : Work Unit := do
  if let .error error ← Work.save path text opening then
    Work.refuse 4 ("couldn't open file " ++ path ++ ": " ++ Work.reason error)

/-- Replaces a file that has been edited, and keeps what was there if there is a suffix for that. -/
def saveInPlace (suffix path text : String) : Work Unit := do
  if !suffix.isEmpty then
    if let .ok before ← Work.content path then
      saveEdited (backupPath suffix path) before .fresh
  saveEdited path text .fresh

/-- Writes what a run has written, except for the files that are edited in place. -/
def saveSheets (sheets : List Editing.Sheet) : Work Unit :=
  sheets.forM fun sheet =>
    match sheet.target with
    | .output => Work.say sheet.text
    | .errors => Work.write 2 sheet.text
    | .file path => saveEdited path sheet.text .append
    | .inPlace _ => return ()

/-- Replaces the files that have been edited in place, up to the one that was read last. -/
def saveEditedFiles (suffix : String) (sources : List Editing.Source) (state : Editing.State) :
    Work Unit :=
  (sources.take (state.file + 1)).zipIdx.forM fun (source, index) =>
    let sheet? := state.sheets.find? fun sheet => sheet.target = .inPlace index
    saveInPlace suffix source.name (sheet?.elim "" Editing.Sheet.text)

/-- Leaves the lines of the standard input that have not been read. -/
def leaveUnread (ending : Char) (before : String) (sources : List Editing.Source) : Work Unit := do
  let channel := (← Work.process).channel 0
  match sources with
  | source :: _ =>
    if source.name = "-" && Channel.keepsRest channel then
      let unread := source.lines.flatMap fun line =>
        line.text ++ (if line.ended then [ending] else [])
      if unread.isSuffixOf before.toList then
        Work.change fun machine => machine.leave channel (String.ofList unread)
  | [] => return ()

def sed : Utility := fun args => do
  let (given, operands) ←
    match readOptions (editorForms ++ commonForms) true [] [] args with
    | .ok result => pure result
    | .error misuse => editorMisuse (some misuse.message)
  let hasAny (keys : List String) : Bool := keys.any (has given)
  let (pieces, paths) ← scriptPieces given operands
  match Editing.readScript (hasAny ["regexp-extended", "E"]) pieces with
  | .error problem =>
    Work.complain problem
    return if problem.startsWith "can't find label" then 4 else 1
  | .ok script =>
    let inPlace := has given "in-place"
    let ending := if hasAny ["null-data", "zero-terminated"] then '\x00' else '\n'
    let written := (filesWritten script.commands).filter fun path =>
      path ≠ "/dev/stdout" && path ≠ "/dev/stderr"
    written.forM fun path => saveEdited path "" .fresh
    let channel := (← Work.process).channel 0
    let before ← Work.ask fun machine => machine.waiting channel
    let (sources, code) ← editedSources inPlace ending (if paths.isEmpty then ["-"] else paths)
    let contents ← (filesPutIn script.commands).filterMapM fun path => do
      match ← Work.content path with
      | .ok text => return some (path, text)
      | .error _ => return none
    let settings : Editing.Settings := {
      quiet := script.quiet || hasAny ["quiet", "silent"]
      separate := inPlace || has given "separate"
      inPlace, ending, contents
      width := (((value? given "line-length").bind count?).getD 70) }
    let halt := Editing.runScript settings script.commands sources
    saveSheets halt.state.sheets
    if inPlace then
      saveEditedFiles ((value? given "in-place").getD "") sources halt.state
    leaveUnread ending before halt.state.sources
    match halt.problem with
    | some problem =>
      Work.complain ("-e expression #1, char 0: " ++ problem)
      return halt.code
    | none => return if halt.code = 0 then code else halt.code

end ToolGate.Host.Utility
