import ToolGate.CommandLine.Quoting

/-! Command lines as lists of characters, the form in which they are read back. -/
namespace ToolGate.CommandLine

/-- The quoted form of the characters of an argument. -/
def quoteChars : Platform → List Char → List Char
  | .posix => quotePosix
  | .windows => quoteWindows

theorem toList_quote (platform : Platform) (arg : String) :
    (quote platform arg).toList = quoteChars platform arg.toList := by
  cases platform <;> simp [quote, quoteChars]

/-- A line is made of the quoted arguments with one space between two of them. -/
theorem toList_join (platform : Platform) (args : List String) :
    (join platform args).toList =
      [' '].intercalate (args.map fun arg => quoteChars platform arg.toList) := by
  simp [join, String.toList_intercalate, Function.comp_def, toList_quote]

end ToolGate.CommandLine
