import Faceted.Command

/-!
# The command line

Which command the words of a command line ask for. Options take a value, after an equals sign or as
the next word, and the last value counts where an option is given twice; two dashes end the options.
Files that are to be read have to be there under the very text that is given.

The option `--help`, which takes no value, asks for a help text instead. It comes ahead of all other
options, but only if the words are used as they should be up to where the options end.

## Termination

Reading runs over the words.
-/

namespace Faceted.Usage

open Faceted.Number

/-- The options given, with their values, whether help is asked for, and the other words. -/
structure Words where
  options : List (String × String)
  help : Bool
  others : List String
deriving Repr

/-- One more option ahead of the others. -/
def Words.give (name value : String) (words : Words) : Words :=
  { words with options := (name, value) :: words.options }

/-- A word that is an option: it begins with a dash and is not only that. -/
def isOption (word : String) : Bool := word.startsWith "-" && word ≠ "-"

/-- The name of an option, and the value after an equals sign if there is one. -/
def splitOption (word : String) : String × Option String :=
  let cs := word.toList
  let name := cs.takeWhile (· ≠ '=')
  match cs.drop name.length with
  | [] => (word, none)
  | _ :: value => (String.ofList name, some (String.ofList value))

/-- Reads words with the options `names`; none if they are misused. Unless options may come after
other words too, the first other word ends them. -/
def read (names : List String) (anywhere : Bool) : List String → Option Words
  | [] => some ⟨[], false, []⟩
  | word :: rest =>
    if word = "--" then some ⟨[], false, rest⟩
    else if word = "--help" then
      (read names anywhere rest).map fun words => { words with help := true }
    else if isOption word then
      let (name, value) := splitOption word
      if names.contains name then
        match value with
        | some value => (read names anywhere rest).map (.give name value)
        | none => match rest with
          | value :: after => (read names anywhere after).map (.give name value)
          | [] => none
      else none
    else if anywhere then
      (read names anywhere rest).map fun words => { words with others := word :: words.others }
    else some ⟨[], false, word :: rest⟩

/-- The last value of an option. -/
def Words.last? (words : Words) (name : String) : Option String :=
  (words.options.filter fun o => o.1 = name).getLast?.map Prod.snd

/-- Why a command line is refused. -/
inductive Refusal where
  /-- It is misused. -/
  | misuse
  /-- It asks for help. -/
  | help
  /-- Something went wrong when it was read. -/
  | fault (fault : Fault)
deriving Repr

/-- The path of a file that is there. -/
def file (tree : FileTree) (text : String) : Except Refusal Path :=
  match tree.lookUp text with
  | .ok (.file _) => .ok (Path.ofString text)
  | .error .unusable => .error (.fault (.file .unusable))
  | _ => .error .misuse

/-- The path of a file that is there or can be made. -/
def target (tree : FileTree) (text : String) : Except Refusal Path :=
  match tree.lookUp text with
  | .ok .dir => .error .misuse
  | .error .unusable => .error (.fault (.file .unusable))
  | _ => .ok (Path.ofString text)

/-- A whole number that is greater than zero. -/
def positive (text : String) : Except Refusal Int :=
  match readInt text.toList with
  | .ok n => if 1 ≤ n then .ok n else .error .misuse
  | .error _ => .error .misuse

/-- What the options of a command come to. -/
structure Given where
  filters : Option Path
  sort : Option String
  typed : Option String
  number : Option Int
deriving Repr

/-- One more option, with its value. -/
def Given.add (tree : FileTree) (given : Given) (name value : String) : Except Refusal Given := do
  if name = "--filters" then pure { given with filters := some (← file tree value) }
  else if name = "--sort" then pure { given with sort := some value }
  else if name = "--typed" then pure { given with typed := some value }
  else pure { given with number := some (← positive value) }

/-- Reads the options among words, each once with its last value, in the order in which they first
came. -/
def Words.given (tree : FileTree) (words : Words) : Except Refusal Given :=
  (words.options.map Prod.fst).eraseDups.foldlM
    (fun given name => given.add tree name ((words.last? name).getD "")) ⟨none, none, none, none⟩

/-- The commands by name. -/
def commands : List String := ["search", "suggest", "export", "compile"]

/-- Something that is misused where it is not there. -/
def orMisuse {α : Type} : Option α → Except Refusal α
  | some x => .ok x
  | none => .error .misuse

/-- Words that are used as they should be and do not ask for help. -/
def orHelp (words : Option Words) : Except Refusal Words := do
  let words ← orMisuse words
  if words.help then .error .help else .ok words

/-- No words are left. -/
def noMore : List String → Except Refusal Unit
  | [] => .ok ()
  | _ :: _ => .error .misuse

/-- The command with a name and the words after it. Options are looked at before the other words, and
whether there are too many of those comes last. -/
def command (tree : FileTree) (name : String) (rest : List String) : Except Refusal Command := do
  match name with
  | "suggest" =>
    let words ← orHelp (read ["--filters", "--typed", "--limit"] true rest)
    let given ← words.given tree
    let facet ← orMisuse words.others.head?
    noMore (words.others.drop 1)
    pure ⟨.suggest facet given.typed (given.number.getD Suggestion.defaultLimit), given.filters, none⟩
  | "export" =>
    let words ← orHelp (read ["--filters", "--sort"] true rest)
    let given ← words.given tree
    let output ← target tree (← orMisuse words.others.head?)
    noMore (words.others.drop 1)
    pure ⟨.save output, given.filters, given.sort⟩
  | _ =>
    let words ← orHelp (read ["--filters", "--sort", "--page"] true rest)
    let given ← words.given tree
    noMore words.others
    let page := given.number.getD 1
    pure ⟨if name = "search" then .search page else .compile page, given.filters, given.sort⟩

/-- A command line up to the command: the files with settings, the name of the command, and the words
after it. -/
structure Line where
  settings : List Path
  name : String
  rest : List String
deriving Repr

/-- Reads a command line up to the command. -/
def line (tree : FileTree) (words : List String) : Except Refusal Line := do
  let words ← orHelp (read ["--config"] false words)
  let files ← words.options.mapM fun o => file tree o.2
  match words.others with
  | name :: rest => if commands.contains name then pure ⟨files, name, rest⟩ else throw .misuse
  | [] => throw .misuse

end Faceted.Usage
