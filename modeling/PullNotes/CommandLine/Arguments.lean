import PullNotes.CommandLine.Complaint
import PullNotes.CommandLine.Similar

/-!
# Options and arguments

The words after a command fall into options with their values and arguments.  A long option has its
value after an equals sign or in the next word.  Short options may be put together, and the last one
of them has its value right behind it or in the next word.  After two dashes all words are
arguments.
-/

namespace PullNotes

namespace CommandLine

/-- The options given, in order with their values, and the arguments. -/
structure Arguments where
  options : List (Key × Text) := []
  words : List Text := []
deriving DecidableEq, Repr

namespace Arguments

/-- Arguments with more options in front. -/
def after (options : List (Key × Text)) (a : Arguments) : Arguments :=
  { a with options := options ++ a.options }

/-- The first option of some keys that is given. -/
def first? (a : Arguments) (keys : List Key) : Option Key :=
  (a.options.find? fun (key, _) => keys.contains key).map (·.1)

/-- The values of an option, in order. -/
def values (a : Arguments) (key : Key) : List Text :=
  (a.options.filter fun (k, _) => k = key).map (·.2)

/-- The value of an option; the last one counts. -/
def value? (a : Arguments) (key : Key) : Option Text := (a.values key).getLast?

/-- Whether an option is given. -/
def has (a : Arguments) (key : Key) : Bool := !(a.values key).isEmpty

/-! ### Reading -/

/-- The dash, with which options start. -/
def dash : CodePoint := '-'

/-- The two dashes, alone or in front of the name of an option. -/
def dashes : Text := [dash, dash]

/-- What a word of options comes to: options with their values, or options of which the last one
takes the next word, with the name by which it was given. -/
inductive Step where
  | done (options : List (Key × Text))
  | wants (options : List (Key × Text)) (key : Key) (name : Text)

/-- The option with a long name. -/
def long? (switches : List Switch) (name : Text) : Option Switch :=
  switches.find? fun s => Text.ofString s.long == name

/-- The option with a short name. -/
def short? (switches : List Switch) (letter : CodePoint) : Option Switch :=
  switches.find? fun s => s.short.any fun c => CodePoint.ofChar c = letter

/-- A long option, with the value after its equals sign if there is one. -/
def longStep (s : Switch) (name : Text) (value : Option Text) : Except Mistake Step :=
  if s.takesValue then
    match value with
    | some value => .ok (.done [(s.key, value)])
    | none => .ok (.wants [] s.key name)
  else
    match value with
    | some _ => .error (.valueRefused name)
    | none => .ok (.done [(s.key, [])])

/-- Short options that are put together. -/
def shortStep (switches : List Switch) : Text → Except Mistake Step
  | [] => .ok (.done [])
  | letter :: rest =>
    match short? switches letter with
    | none => .error (.unknownOption [dash, letter] [])
    | some s =>
      if s.takesValue then
        if rest.isEmpty then .ok (.wants [] s.key [dash, letter])
        else .ok (.done [(s.key, rest)])
      else do
        match ← shortStep switches rest with
        | .done options => .ok (.done ((s.key, []) :: options))
        | .wants options key name => .ok (.wants ((s.key, []) :: options) key name)

/-- A word of options. -/
def step (switches : List Switch) (word : Text) : Except Mistake Step :=
  let (name, value) : Text × Option Text :=
    match Text.cutAt? ('=' : Char) word with
    | some (name, value) => (name, some value)
    | none => (word, none)
  match long? switches name with
  | some s => longStep s name value
  | none =>
    if dashes.isPrefixOf word then
      .error (.unknownOption name
        (Similar.suggestions name (switches.map fun s => Text.ofString s.long)))
    else shortStep switches (word.drop 1)

/-- Whether a word is one of options. -/
def isOptions (word : Text) : Bool := word.head? = some dash && 1 < word.length

/-- Reads words; unless options may stand between arguments, the first argument ends them. -/
def read (switches : List Switch) (mixed : Bool) : List Text → Except Mistake Arguments
  | [] => .ok {}
  | word :: rest =>
    if word = dashes then .ok { words := rest }
    else if isOptions word then
      match step switches word with
      | .error e => .error e
      | .ok (.done options) =>
        match read switches mixed rest with
        | .error e => .error e
        | .ok a => .ok (a.after options)
      | .ok (.wants options key name) =>
        match rest with
        | [] => .error (.valueRequired name)
        | value :: rest =>
          match read switches mixed rest with
          | .error e => .error e
          | .ok a => .ok (a.after (options ++ [(key, value)]))
    else if mixed then
      match read switches mixed rest with
      | .error e => .error e
      | .ok a => .ok { a with words := word :: a.words }
    else .ok { words := word :: rest }

end Arguments

end CommandLine

end PullNotes
