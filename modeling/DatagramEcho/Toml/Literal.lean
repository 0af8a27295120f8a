import DatagramEcho.Toml.Key
import DatagramEcho.Toml.Moment
import DatagramEcho.Toml.Number
import DatagramEcho.Toml.Table

/-!
# Written values

A value is a scalar, an array or a table between braces. Arrays may break lines and end in a comma;
tables between braces do neither.
-/

namespace DatagramEcho.Toml

/-- A mistake where a text is expected, because whoever leaves out quotation marks means a text. -/
def expectingString (mistake : Mistake) : Mistake :=
  (mistake.about "string").expecting ["`\"`", "`'`"]

/-- A value that holds no other values. -/
def scalarReader : Reader Value := fun input =>
  match input with
  | [] => .error { place := [] }
  | '"' :: _ | '\x27' :: _ => (stringReader input).map fun (text, rest) => (.string text, rest)
  | 't' :: 'r' :: 'u' :: 'e' :: rest => .ok (.boolean true, rest)
  | 'f' :: 'a' :: 'l' :: 's' :: 'e' :: rest => .ok (.boolean false, rest)
  | 't' :: _ | 'f' :: _ => .error (expectingString { place := input, settled := true })
  | 'i' :: _ | 'n' :: _ => (specialReader input).mapError expectingString
  | '_' :: _ => (integerReader input).mapError (·.expecting ["leading digit"])
  | '.' :: _ => (floatReader input).mapError (·.expecting ["leading digit"])
  | c :: _ =>
    if c.isDigit || c == '+' || c == '-' then
      let moment : Reader Value := fun input =>
        (momentReader input).map fun (_, rest) => (.moment, rest)
      (moment.orElse (floatReader.orElse integerReader)) input
    else .error (expectingString { place := input })

/-- An item of an array, with space around it. -/
def itemReader (value : Reader (Located Value)) : Reader (Located Value) := fun input => do
  let (item, rest) ← value (← gap false input)
  return (item, ← gap false rest)

/-- Further items of an array after commas. A comma with no item after it is left. `value` reads one
value, the length of `fuel` bounds their number, and `items` are the items before them, the last one
first. -/
def moreItems (value : Reader (Located Value)) (fuel : List Char) (items : List (Located Value))
    (input : List Char) : Except Mistake (List (Located Value) × List Char) :=
  match fuel, input with
  | _ :: fuel, ',' :: rest =>
    match itemReader value rest with
    | .ok (item, rest) => moreItems value fuel (item :: items) rest
    | .error mistake => if mistake.settled then .error mistake else .ok (items.reverse, input)
  | _, _ => .ok (items.reverse, input)

/-- The items of an array, and perhaps a comma after them. -/
def itemsReader (value : Reader (Located Value)) : Reader (List (Located Value)) := fun input =>
  match itemReader value input with
  | .ok (item, rest) => do
    let (items, rest) ← moreItems value rest [item] rest
    let rest := match rest with
      | ',' :: rest => rest
      | rest => rest
    return (items, rest)
  | .error mistake => if mistake.settled then .error mistake else .ok ([], input)

/-- An array, after its opening bracket. -/
def arrayReader (value : Reader (Located Value)) : Reader Value := fun input => do
  let (items, rest) ← itemsReader value input
  match ← (gap false rest).mapError Mistake.settle with
  | ']' :: rest => return (.array items, rest)
  | place => throw { place, subject := some "array", expected := ["`]`"], settled := true }

/-- The equals sign after a key. -/
def equalsReader : Reader Unit := fun input =>
  (Reader.exactly ['='] input).mapError fun m => (m.expecting ["`.`", "`=`"]).settle

/-- A key, an equals sign and a value. -/
def pairReader (value : Reader (Located Value)) : Reader (Key × Located Value) := fun input => do
  let (key, rest) ← keyReader input
  let (_, rest) ← equalsReader rest
  let (value, rest) ← value.settled (skipBlanks rest)
  return ((key, value), rest)

/-- A pair between braces, with blanks after it. -/
def innerPairReader (value : Reader (Located Value)) : Reader (Key × Located Value) := fun input =>
  (pairReader value input).map fun (pair, rest) => (pair, skipBlanks rest)

/-- Further pairs of a table between braces after commas. A comma with no pair after it is left. The
length of `fuel` bounds their number, and `pairs` are the pairs before them, the last one first. -/
def morePairs (value : Reader (Located Value)) (fuel : List Char)
    (pairs : List (Key × Located Value)) (input : List Char) :
    Except Mistake (List (Key × Located Value) × List Char) :=
  match fuel, input with
  | _ :: fuel, ',' :: rest =>
    match innerPairReader value rest with
    | .ok (pair, rest) => morePairs value fuel (pair :: pairs) rest
    | .error mistake => if mistake.settled then .error mistake else .ok (pairs.reverse, input)
  | _, _ => .ok (pairs.reverse, input)

/-- The pairs of a table between braces. -/
def pairsReader (value : Reader (Located Value)) : Reader (List (Key × Located Value)) :=
  fun input =>
    match innerPairReader value input with
    | .ok (pair, rest) => morePairs value rest [pair] rest
    | .error mistake => if mistake.settled then .error mistake else .ok ([], input)

/-- A table between braces, after its opening brace. -/
def bracesReader (value : Reader (Located Value)) : Reader Value := fun input => do
  let (pairs, rest) ← pairsReader value input
  match Entries.ofPairs pairs with
  | .error cause => throw { place := input, cause := some cause, settled := true }
  | .ok entries =>
    match skipBlanks rest with
    | '\x7d' :: rest => return (.table .braces entries, rest)
    | place =>
      throw { place, subject := some "inline table", expected := ["`\x7d`"], settled := true }

/-- A value in which arrays and tables between braces are nested at most `depth` deep. -/
def valueReader : (depth : Nat) → Reader (Located Value)
  | 0 => Reader.located fun input =>
    match input with
    | '[' :: _ | '\x7b' :: _ => .error { place := input, cause := some .tooDeep, settled := true }
    | _ => scalarReader input
  | depth + 1 => Reader.located fun input =>
    match input with
    | '[' :: rest => arrayReader (valueReader depth) rest
    | '\x7b' :: rest => bracesReader (valueReader depth) rest
    | _ => scalarReader input

end DatagramEcho.Toml
