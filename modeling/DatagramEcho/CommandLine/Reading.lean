import DatagramEcho.CommandLine.Refusal

/-!
# Reading the words of a command

The words after a command are read from the left. An option is written `--name value`,
`--name=value`, `-x value`, `-xvalue` or `-x=value`. A value that is a word of its own is kept
pending until the next option or the end, and only then checked; a word that the command does not
know is refused before that. After the word `--` nothing is an option any more.

* `Reading.settle` checks the pending value.
* `readWords` reads up to the end or up to the name of a command.
-/

namespace DatagramEcho.CommandLine

/-- An option whose value is not checked yet. -/
structure Pending where
  /-- The option. -/
  opt : Opt
  /-- Its value, once there is one. -/
  value : Option String := none
  deriving Repr

/-- What has been read of the words of a command. -/
structure Reading where
  /-- The options given, with their values, in order. -/
  given : List (String × String) := []
  /-- The option that waits for a value or a check. -/
  pending : Option Pending := none
  deriving Repr

/-- Check the value of an option. -/
def Opt.check (opt : Opt) (text : String) : Except Refusal Unit :=
  match opt.form with
  | .text => .ok ()
  | .path => if text.isEmpty then .error (.valueRequired opt) else .ok ()
  | .number =>
    match readNumber text with
    | .ok _ => .ok ()
    | .error fault => .error (.invalidNumber opt text fault)
  | .choice names =>
    if names.contains text then .ok ()
    else if text.isEmpty then .error (.valueRequired opt)
    else .error (.invalidChoice opt text)

namespace Reading

/-- Whether the next word is the value of an option. -/
def awaitsValue (reading : Reading) : Bool :=
  match reading.pending with
  | some ⟨_, none⟩ => true
  | _ => false

/-- Take a value for an option. -/
def accept (reading : Reading) (opt : Opt) (text : String) : Except Refusal Reading := do
  if !opt.repeatable && reading.given.any (·.1 == opt.long) then
    throw (.repeated opt)
  opt.check text
  return { reading with given := reading.given ++ [(opt.long, text)] }

/-- Check the pending value. -/
def settle (reading : Reading) : Except Refusal Reading :=
  match reading.pending with
  | none => .ok reading
  | some ⟨opt, none⟩ => .error (.valueRequired opt)
  | some ⟨opt, some text⟩ => { reading with pending := none }.accept opt text

/-- An option with its value in the same word. -/
def attach (reading : Reading) (opt : Opt) (text : String) : Except Refusal Reading := do
  (← reading.settle).accept opt text

/-- An option whose value is the next word. -/
def await (reading : Reading) (opt : Opt) : Except Refusal Reading := do
  return { ← reading.settle with pending := some ⟨opt, none⟩ }

/-- The value of the option that waits for one. -/
def supply (reading : Reading) (text : String) : Reading :=
  { reading with pending := reading.pending.map fun pending => { pending with value := some text } }

/-- Refuse, unless the pending value is to be refused before that. -/
def refuse (reading : Reading) (refusal : Refusal) : Except Refusal Reading := do
  let _ ← reading.settle
  throw refusal

/-- A word that starts with two dashes, without them. -/
def longWord (command : Command) (reading : Reading) (word : List Char) : Except Refusal Reading :=
  let name := String.ofList (word.takeWhile (· ≠ '='))
  let value? := match word.dropWhile (· ≠ '=') with
    | _ :: value => some (String.ofList value)
    | [] => none
  let flag (refusal : Refusal) : Except Refusal Reading :=
    match value? with
    | some value => .error (.unexpectedValue value ("--" ++ name))
    | none => reading.refuse refusal
  match command.options.find? (·.long == name) with
  | some opt =>
    match value? with
    | some value => reading.attach opt value
    | none => reading.await opt
  | none =>
    if name == "help" then flag (.help command.about)
    else if name == "version" && command.tellsVersion then flag .version
    else .error (.unknownArgument ("--" ++ name))

/-- A word that starts with one dash, as the letter after it and the rest. -/
def shortWord (command : Command) (reading : Reading) (letter : Char) (rest : List Char) :
    Except Refusal Reading :=
  match command.options.find? (·.short == some letter) with
  | some opt =>
    match rest with
    | [] => reading.await opt
    | '=' :: value => reading.attach opt (String.ofList value)
    | value => reading.attach opt (String.ofList value)
  | none =>
    if letter == 'h' then reading.refuse (.help command.about)
    else if letter == 'V' && command.tellsVersion then reading.refuse .version
    else .error (.unknownArgument (String.ofList ['-', letter]))

end Reading

/-- The refusal of a word that is no option, no value and no command. `escaped` says that it comes
after `--`. -/
def strayWord (command : Command) (escaped : Bool) (word : String) : Refusal :=
  if command.commands.isEmpty || (escaped && command.commands.contains word) then
    .unknownArgument word
  else .unknownCommand word

/-- The words of a command, read up to the end or up to the name of a command inside it. In the
second case that name and the words after it are left. -/
def readWords (command : Command) (reading : Reading) (escaped : Bool) :
    List String → Except Refusal (Reading × Option (String × List String))
  | [] => .ok (reading, none)
  | word :: words =>
    if escaped then .error (strayWord command escaped word)
    else if !reading.awaitsValue && command.commands.contains word then
      .ok (reading, some (word, words))
    else
      match word.toList with
      | ['-', '-'] => readWords command reading true words
      | '-' :: '-' :: long => do
        readWords command (← Reading.longWord command reading long) false words
      | '-' :: letter :: rest => do
        readWords command (← Reading.shortWord command reading letter rest) false words
      | _ =>
        if reading.awaitsValue then readWords command (reading.supply word) false words
        else .error (strayWord command escaped word)

end DatagramEcho.CommandLine
