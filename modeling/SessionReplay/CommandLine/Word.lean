/-!
# Words of a command line

* `Word` — an argument by its form: a long or a short option, the end of the options, or a plain
  word;
* `Word.ofString` — the form of an argument.
-/

namespace SessionReplay.CommandLine

/-- An argument by its form. What follows an equals sign, or a short option's letter, is its
value. -/
inductive Word where
  | long (name : String) (value : Option String)
  | short (letter : Char) (value : Option String)
  | endOfOptions
  | plain (text : String)
  deriving DecidableEq, Repr

namespace Word

/-- A long option, without its dashes. -/
def longOf (cs : List Char) : Word :=
  let name := cs.takeWhile (· != '=')
  match cs.drop name.length with
  | [] => long (String.ofList name) none
  | _ :: value => long (String.ofList name) (some (String.ofList value))

/-- A short option, without its dash. An equals sign before its value does not belong to it. -/
def shortOf (letter : Char) : List Char → Word
  | [] => short letter none
  | '=' :: value => short letter (some (String.ofList value))
  | value => short letter (some (String.ofList value))

/-- The form of an argument. A dash alone is a plain word. -/
def ofString (s : String) : Word :=
  match s.toList with
  | ['-', '-'] => endOfOptions
  | '-' :: '-' :: cs => longOf cs
  | '-' :: letter :: cs => shortOf letter cs
  | _ => plain s

end Word

end SessionReplay.CommandLine
