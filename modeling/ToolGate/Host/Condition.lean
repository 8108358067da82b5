import ToolGate.Host.FileTree

/-!
Conditions on texts and files, and what they look at. How such conditions are joined, and how
numbers in them are read, is for each of the commands that check them to say.
-/

namespace ToolGate.Host.Condition

/-- What conditions on files look at. -/
structure View where
  files : FileTree
  directory : Place

def View.find? (view : View) (path : String) : Option Node :=
  match view.files.find view.directory path with
  | .ok (_, node) => some node
  | .error _ => none

def View.isLink (view : View) (path : String) : Bool :=
  match view.files.look view.directory path false with
  | .ok (_, .link _) => true
  | _ => false

def View.same (view : View) (a b : String) : Bool :=
  match view.files.find view.directory a, view.files.find view.directory b with
  | .ok (first, _), .ok (second, _) => first == second
  | _, _ => false

def unary? (view : View) (operator operand : String) : Option Bool :=
  let node := view.find? operand
  match operator with
  | "-n" => some !operand.isEmpty
  | "-z" => some operand.isEmpty
  | "-e" | "-r" | "-w" | "-G" | "-O" => some node.isSome
  | "-f" => some (match node with | some (.file _ _) | some (.program _) => true | _ => false)
  | "-d" => some (node == some .directory)
  | "-c" => some (node == some .sink)
  | "-p" => some (match node with | some (.channel _) => true | _ => false)
  | "-s" => some (match node with
    | some (.file content _) => !content.isEmpty
    | some (.program _) | some .directory => true
    | _ => false)
  | "-x" => some (match node with
    | some (.file _ executable) => executable
    | some (.program _) | some .directory => true
    | _ => false)
  | "-h" | "-L" => some (view.isLink operand)
  | "-b" | "-S" | "-g" | "-u" | "-k" => some false
  | _ => none

def comparison? : String → Option (Int → Int → Bool)
  | "-eq" => some (· == ·)
  | "-ne" => some (· != ·)
  | "-lt" => some (· < ·)
  | "-le" => some (· ≤ ·)
  | "-gt" => some (· > ·)
  | "-ge" => some (· ≥ ·)
  | _ => none

def textComparison? : String → Option (String → String → Bool)
  | "=" => some (· == ·)
  | "!=" => some (· != ·)
  | "<" => some (· < ·)
  | ">" => some (· > ·)
  | _ => none

end ToolGate.Host.Condition
