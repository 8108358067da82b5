/-!
The permissions of files, as numbers of nine bits and as letters, and changes of them in letters.
-/

namespace ToolGate.Host.Permission

/-- The classes of users, with the place of the lowest bit of their permissions. -/
def userClasses : List (Char × Nat) := [('u', 0o100), ('g', 0o010), ('o', 0o001), ('a', 0o111)]

def letters (mode : Nat) : String :=
  String.ofList ((if mode / 4 % 2 = 1 then ['r'] else []) ++
    (if mode / 2 % 2 = 1 then ['w'] else []) ++ (if mode % 2 = 1 then ['x'] else []))

/-- The permissions that new files may get, in letters. -/
def maskText (mask : Nat) : String :=
  let mode := 0o777 - mask % 0o1000
  "u=" ++ letters (mode / 64) ++ ",g=" ++ letters (mode / 8) ++ ",o=" ++ letters mode

/-- The permissions that a letter of a mode stands for, given all permissions before. -/
def permission (mode : Nat) : Char → Nat
  | 'r' => 4
  | 'w' => 2
  | 'x' => 1
  | 'u' => mode / 64 % 8
  | 'g' => mode / 8 % 8
  | 'o' => mode % 8
  | 'X' => if mode &&& 0o111 = 0 then 0 else 1
  | _ => 0

/-- Changes permissions by a mode in letters, `before` being those at the start. The fuel is the
length of the mode. -/
def change (before : Nat) : Nat → Nat → Nat → List Char → Option Nat
  | 0, mode, _, text => if text.isEmpty then some mode else none
  | _ + 1, mode, _, [] => some mode
  | fuel + 1, mode, classes, text =>
    let users := text.takeWhile fun c => (userClasses.lookup c).isSome
    let classes := users.foldl (fun sum c => sum ||| (userClasses.lookup c).getD 0) classes
    let classes := if classes = 0 then 0o111 else classes
    match text.drop users.length with
    | [] => some mode
    | operator :: rest =>
      if !(['=', '+', '-'].contains operator) then none
      else
        let granted := rest.takeWhile fun c => "rwxugoXs".toList.contains c
        let bits := granted.foldl (fun sum c => sum ||| permission before c) 0 * classes
        let mode :=
          match operator with
          | '-' => mode &&& (0o777 - bits)
          | '+' => mode ||| bits
          | _ => bits ||| (mode &&& (0o777 - classes * 7))
        match rest.drop granted.length with
        | ',' :: rest => change before fuel mode 0 rest
        | rest => change before fuel mode classes rest

end ToolGate.Host.Permission
