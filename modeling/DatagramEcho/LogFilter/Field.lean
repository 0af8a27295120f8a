import DatagramEcho.Pattern.Check

/-!
# Fields of spans

A field of a span is a name, perhaps with an equals sign and a value after it. A value is a number,
or a pattern for the text of the field. What follows a second equals sign does not count.
-/

namespace DatagramEcho.LogFilter

/-- A text without a sign in front. -/
def unsigned : List Char → List Char
  | '+' :: text | '-' :: text => text
  | text => text

/-- Whether a text is nothing, or an exponent. -/
def isExponent : List Char → Bool
  | [] => true
  | c :: text =>
    let digits := unsigned text
    (c == 'e' || c == 'E') && !digits.isEmpty && digits.all Char.isDigit

/-- Whether a text is a decimal number without a sign. Digits may be missing on one side of the
point. -/
def isDecimal (text : List Char) : Bool :=
  let whole := text.takeWhile Char.isDigit
  let rest := text.dropWhile Char.isDigit
  let (places, rest) := match rest with
    | '.' :: rest => (rest.takeWhile Char.isDigit, rest.dropWhile Char.isDigit)
    | rest => ([], rest)
  !(whole.isEmpty && places.isEmpty) && isExponent rest

/-- The names of numbers that have no digits. -/
def numberNames : List String :=
  ["inf", "infinity", "nan"]

/-- Whether a text is a number. -/
def isNumber (text : List Char) : Bool :=
  let text := unsigned text
  isDecimal text || numberNames.contains (String.ofList (text.map Char.toLower))

/-- The value of a field, if it has one. -/
def fieldValue? (field : List Char) : Option (List Char) :=
  match field.dropWhile (· ≠ '=') with
  | [] => none
  | _ :: rest => some (rest.takeWhile (· ≠ '='))

/-- Check the value of a field. -/
def checkField (field : List Char) : Except Pattern.Fault Unit :=
  match fieldValue? field with
  | none => .ok ()
  | some value => if isNumber value then .ok () else Pattern.check value

end DatagramEcho.LogFilter
