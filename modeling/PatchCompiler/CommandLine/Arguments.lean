import PatchCompiler.Text.Basic

/-!
# Arguments of commands

The words of a command: options with their values, and words at places. An option may be written in
full, by the start of its name, with its value after an equals sign, or several letters together.
-/

namespace PatchCompiler

inductive Taking where
  /-- Nothing: the option counts how often it occurs. -/
  | nothing
  | one
  /-- All words up to the next option, at least one. -/
  | several
  deriving DecidableEq, Repr

structure OptionSpec where
  name : String
  letter : Option String := none
  taking : Taking

structure CommandSpec where
  places : Nat
  options : List OptionSpec

structure Arguments where
  places : List String := []
  options : List (String × List String) := []

namespace Arguments

def has (arguments : Arguments) (name : String) : Bool :=
  arguments.options.any fun option => option.1 == name

def values? (arguments : Arguments) (name : String) : Option (List String) :=
  arguments.options.reverse.lookup name

def value? (arguments : Arguments) (name : String) : Option String :=
  (arguments.values? name).bind List.head?

def place (arguments : Arguments) (index : Nat) : String :=
  (arguments.places[index]?).getD ""

def add (arguments : Arguments) (spec : OptionSpec) (values : List String) : Arguments :=
  { arguments with options := arguments.options ++ [(spec.name, values)] }

end Arguments

namespace CommandSpec

def optionNamed? (command : CommandSpec) (word : String) : Option OptionSpec :=
  command.options.find? fun option => option.name == word || option.letter == some word

def optionStarting? (command : CommandSpec) (word : String) : Option OptionSpec :=
  match command.options.filter fun option => Text.startsWith word option.name with
  | [option] => some option
  | _ => none

/-- The part of a word before the first equals sign, and the part after it. -/
def divide? (word : String) : Option (String × String) :=
  let before := word.toList.takeWhile (· != '=')
  match word.toList.dropWhile (· != '=') with
  | _ :: rest => some (String.ofList before, String.ofList rest)
  | [] => none

def letters? (command : CommandSpec) : List Char → Option (List OptionSpec × Option String)
  | [] => some ([], none)
  | c :: rest => do
      let option ← command.optionNamed? (String.ofList ['-', c])
      if option.taking = .nothing then
        let (options, value) ← command.letters? rest
        return (option :: options, value)
      else return ([option], if rest.isEmpty then none else some (String.ofList rest))

def read? (command : CommandSpec) (word : String) : Option (List OptionSpec × Option String) :=
  match command.optionNamed? word with
  | some option => some ([option], none)
  | none =>
    if Text.startsWith "--" word then
      let (name, value) := match divide? word with
        | some (name, value) => (name, some value)
        | none => (word, none)
      (command.optionNamed? name <|> command.optionStarting? name).map fun option => ([option], value)
    else command.letters? (word.toList.drop 1)

/-- Whether a word is a dash and a number: digits, or a point among digits with some after it. -/
def isNegative (word : String) : Bool :=
  match word.toList with
  | '-' :: digits =>
    match digits.dropWhile Char.isDigit with
    | [] => !digits.isEmpty
    | '.' :: fraction => !fraction.isEmpty && fraction.all Char.isDigit
    | _ => false
  | _ => false

def isOption (word : String) : Bool :=
  Text.startsWith "-" word && word != "-" && !Text.hasText " " word && !isNegative word

def valueWords (words : List String) : List String :=
  words.takeWhile fun word => !isOption word

def readWords (command : CommandSpec) : Nat → Arguments → List String → Option Arguments
  | 0, _, _ => none
  | _ + 1, arguments, [] => some arguments
  | fuel + 1, arguments, word :: rest =>
    if word == "--" then some { arguments with places := arguments.places ++ rest }
    else if !isOption word then
      command.readWords fuel { arguments with places := arguments.places ++ [word] } rest
    else do
      let (options, value) ← command.read? word
      let flags := options.filter fun option => option.taking = .nothing
      let arguments := flags.foldl (fun all option => all.add option []) arguments
      match options.getLast?, value with
      | some ⟨name, letter, .one⟩, none =>
        match valueWords rest with
        | first :: _ =>
          command.readWords fuel (arguments.add ⟨name, letter, .one⟩ [first]) (rest.drop 1)
        | [] => none
      | some ⟨name, letter, .several⟩, none =>
        let words := valueWords rest
        if words.isEmpty then none
        else
          let arguments := arguments.add ⟨name, letter, .several⟩ words
          command.readWords fuel arguments (rest.drop words.length)
      | some ⟨_, _, .nothing⟩, some _ => none
      | some option, some value =>
        command.readWords fuel (arguments.add option [value]) rest
      | some ⟨_, _, .nothing⟩, none => command.readWords fuel arguments rest
      | none, _ => none

def read (command : CommandSpec) (words : List String) : Option Arguments := do
  let arguments ← command.readWords (words.length + 1) {} words
  if arguments.places.length = command.places then some arguments else none

end CommandSpec

end PatchCompiler
