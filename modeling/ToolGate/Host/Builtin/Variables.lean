import ToolGate.Host.Builtin
import ToolGate.Host.Quotation

/-!
The commands of the shell that mark and remove variables, set switches and arguments, and read the
options among arguments.
-/

namespace ToolGate.Host.Builtin

/-- Lists variables in the order of their names, as commands that would set them. -/
def listVariables (lead : String) (which : Variable → Bool) : Shell Nat := do
  let chosen := (← get).bindings.filter fun entry => which entry.2
  (chosen.mergeSort fun a b => a.1 ≤ b.1).forM fun (name, entry) =>
    match entry.value with
    | some value => Shell.say (lead ++ name ++ "=" ++ Quotation.inScript value)
    | none => Shell.say (lead ++ name)
  return 0

def mark (name : String) (which : Variable → Bool) (set : Variable → Variable) : Builtin :=
  fun args => do
    let (given, args) ← options "p" "" args
    if args.isEmpty || !given.isEmpty then listVariables (name ++ " ") which
    else
      args.forM fun arg => do
        let (target, value) := definition arg
        checkName target
        match value with
        | some value => Shell.assign target value
        | none => pure ()
        Shell.adjust fun context =>
          context.put target (set ((context.bindings.lookup target).getD { value := none }))
      return 0

/-- Hands variables to programs. -/
def exportMark : Builtin :=
  mark "export" Variable.exported fun entry => { entry with exported := true }

def readonly : Builtin :=
  mark "readonly" Variable.readOnly fun entry => { entry with readOnly := true }

def unset : Builtin := fun args => do
  let (given, names) ← options "vf" "" args
  let functions := (given.getLast?.map Prod.fst) = some 'f'
  names.forM fun name => do
    if functions then
      Shell.adjust fun context =>
        { context with functions := context.functions.filter fun entry => entry.1 != name }
    else
      checkName name
      match (← get).bindings.lookup name with
      | some { readOnly := true, .. } => Shell.refuse (name ++ ": is read only")
      | some _ =>
        Shell.adjust (Context.erase · name)
        Shell.notice name
      | none => pure ()
  return 0

/-- Keeps what a function replaces, so that it comes back at its end. -/
def keep (before : Context → Replaced) : Shell Unit := do
  match (← get).replaced with
  | [] => Shell.refuse "not in a function"
  | frame :: frames =>
    Shell.adjust fun context => { context with replaced := (before context :: frame) :: frames }

/-- Makes variables, or the switches, the own ones of the function that runs. -/
def own : Builtin := fun args => do
  if (← get).replaced.isEmpty then Shell.refuse "not in a function"
  args.forM fun arg => do
    if arg = "-" then keep fun context => .switches context.switches
    else
      let (target, value) := definition arg
      checkName target
      keep fun context => .variable target (context.bindings.lookup target)
      match value with
      | some value => Shell.assign target value
      | none => pure ()
  return 0

def setLetter (on : Bool) (letter : Char) : Shell Unit :=
  match switchOf? letter with
  | some name => do
    if name = "monitor" && on then
      Shell.complain "can't access tty; job control turned off"
    else Shell.adjust (Context.switch · name on)
  | none => Shell.refuse ("Illegal option -" ++ String.singleton letter)

/-- Sets a switch by its name. Without a name, shows all switches. -/
def setNamed (on : Bool) : Option String → Shell Unit
  | none => do
    if on then Shell.say "Current option settings"
    switchTable.forM fun (name, _) => do
      let isOn := (← get).has name
      if on then
        let padding := String.ofList (List.replicate (16 - name.length) ' ')
        Shell.say (name ++ padding ++ (if isOn then "on" else "off"))
      else Shell.say ("set " ++ (if isOn then "-o " else "+o ") ++ name)
  | some name =>
    if (switchTable.lookup name).isSome then Shell.adjust (Context.switch · name on)
    else Shell.refuse ("Illegal option -o " ++ name)

/-- Sets switches by the letters of one word. A letter for a name takes the next argument. The
result is what is left of the arguments. -/
def setLetters (on : Bool) : List Char → List String → Shell (List String)
  | [], rest => return rest
  | 'o' :: letters, rest => do
    setNamed on rest.head?
    setLetters on letters rest.tail
  | letter :: letters, rest => do
    setLetter on letter
    setLetters on letters rest

def setArguments (arguments : List String) : Shell Unit :=
  Shell.adjust fun context => { context with arguments, scan := {} }

/-- Sets switches, and after them the arguments of the shell. The fuel is the number of arguments
and one more. -/
def configure : Nat → List String → Shell Unit
  | 0, _ | _, [] => return
  | fuel + 1, arg :: rest =>
    match arg.toList with
    | ['-'] => do
      Shell.adjust fun context => (context.switch "xtrace" false).switch "verbose" false
      unless rest.isEmpty do setArguments rest
    | ['-', '-'] => setArguments rest
    | '-' :: letters => do configure fuel (← setLetters true letters rest)
    | '+' :: letters => do configure fuel (← setLetters false letters rest)
    | _ => setArguments (arg :: rest)

def set : Builtin := fun args => do
  if args.isEmpty then listVariables "" fun entry => entry.value.isSome
  else
    configure (args.length + 1) args
    return 0

def shift : Builtin := fun args => do
  let count ← naturalOr 1 args
  let arguments := (← get).arguments
  if arguments.length < count then Shell.refuse "can't shift that many"
  else
    setArguments (arguments.drop count)
    return 0

/-- What the next option among some arguments is. -/
inductive NextOption where
  /-- There is no option left. -/
  | finish
  | option (letter : Char) (value : Option String)
  | unknown (letter : Char)
  /-- An option that needs an argument has none. -/
  | missing (letter : Char)
  deriving DecidableEq, Repr

/-- Whether a letter is an option, and whether it has an argument: those letters have one that are
followed by a colon in the list of options. -/
def kindOf? (letter : Char) : List Char → Option Bool
  | [] => none
  | c :: rest =>
    if c = letter then some (rest.head? = some ':')
    else
      match rest with
      | ':' :: rest => kindOf? letter rest
      | rest => kindOf? letter rest

/-- The next option among some arguments, and how far they have been read after it. -/
def nextOption (optionList : List Char) (args : List String) (scan : Scan) : NextOption × Scan :=
  let current := (args[scan.position - 2]?.getD "").toList
  let left := (scan.offset.filter fun _ => 1 < scan.position).elim [] current.drop
  let next := args[scan.position - 1]?
  let goOn (letter : Char) (left : List Char) (position : Nat) : NextOption × Scan :=
    let size := (args[position - 2]?.getD "").length
    let after (left : List Char) : Scan :=
      { position, offset := if left.isEmpty then none else some (size - left.length) }
    match kindOf? letter optionList with
    | none => (.unknown letter, after left)
    | some false => (.option letter none, after left)
    | some true =>
      match left, args[position - 1]? with
      | [], none => (.missing letter, { position })
      | [], some value => (.option letter (some value), { position := position + 1 })
      | left, _ => (.option letter (some (String.ofList left)), { position })
  match left, next.map String.toList with
  | letter :: left, _ => goOn letter left scan.position
  | [], some ['-', '-'] => (.finish, { position := scan.position + 1 })
  | [], some ('-' :: letter :: left) => goOn letter left (scan.position + 1)
  | [], _ => (.finish, { position := scan.position })

/-- Reads the next option among the arguments of the shell, or others, into a variable. -/
def getopts : Builtin
  | optionList :: name :: others => do
    let session ← get
    let args := if others.isEmpty then session.arguments else others
    let scan := if args.length + 1 < session.scan.position then {} else session.scan
    let (option, scan) := nextOption optionList.toList args scan
    let silent := optionList.startsWith ":"
    let unsetValue : Shell Unit := Shell.adjust (Context.erase · "OPTARG")
    let letter ←
      match option with
      | .finish => pure '?'
      | .option letter value => do
        Shell.assign "OPTARG" (value.getD "")
        pure letter
      | .unknown letter => do
        if silent then Shell.assign "OPTARG" (String.singleton letter)
        else
          Shell.write 2 ("Illegal option -" ++ String.singleton letter ++ "\n")
          unsetValue
        pure '?'
      | .missing letter => do
        if silent then
          Shell.assign "OPTARG" (String.singleton letter)
          pure ':'
        else
          Shell.write 2 ("No arg for -" ++ String.singleton letter ++ " option\n")
          unsetValue
          pure '?'
    Shell.assign "OPTIND" (toString scan.position)
    checkName name
    Shell.assign name (String.singleton letter)
    Shell.adjust fun context => { context with scan }
    return if option = .finish then 1 else 0
  | _ => Shell.refuse "Usage: getopts optstring var [arg...]"

end ToolGate.Host.Builtin
