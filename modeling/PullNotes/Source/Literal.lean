import PullNotes.Source.Rule

/-!
# Literals

Strings and templates, which hold fragments and escape sequences one right after the other, objects
and arrays.
-/

namespace PullNotes

namespace Source

namespace Reader

/-! ### Strings and templates -/

/-- An escape sequence right after the last token. -/
def escapeSequence : Reader := adjacent "escape_sequence" true Lexeme.escape

/-- A character right after the last token. -/
def adjacentMark (text : String) : Reader := adjacent text false fun cs =>
  if text.toList.isPrefixOf cs then text.length else 0

/-- A string literal in a kind of quotes. -/
def quotedString (quote : Char) : Reader :=
  node Node.stringKind (seq [opening quote,
    many (first [adjacent "string_fragment" true (Lexeme.fragment quote), escapeSequence]),
    adjacentMark (String.singleton quote)])

/-- A string literal. -/
def stringLiteral : Reader := first [quotedString '"', quotedString '\'']

/-- An expression within a template. -/
def substitution (kind : String) (inner : Reader) : Reader :=
  node kind (seq [adjacentMark "$\x7b", within true inner, opening '\x7d'])

/-- A template of which the parts between braces are read by a reader. -/
def templateOf (kind innerKind : String) (inner : Reader) : Reader :=
  node kind (seq [opening '`',
    many (first [adjacent "string_fragment" true Lexeme.templateFragment, escapeSequence,
      substitution innerKind inner]),
    adjacentMark "`"])

/-- A template. -/
def template (rules : Rules) : Reader :=
  templateOf "template_string" "template_substitution" (rules .expressions)

/-- A regular expression. -/
def regex : Reader := token "regex" Lexeme.regex

/-! ### Objects and arrays -/

/-- An expression after three dots. -/
def spread (rules : Rules) : Reader :=
  node "spread_element" (seq [symbol "...", rules .expression])

/-- A property with a value. -/
def pair (rules : Rules) : Reader := fun ctx s =>
  match seq [propertyName rules, symbol ":", rules .expression] ctx s with
  | .ok after => gather Node.pairKind s.size keyAndValue ctx after
  | .error e => .error e

/-- The words in front of the name of a method. -/
def methodWords : List String := ["async", "get", "set", "static"]

/-- The words in front of the name of a class member in the typed dialects. -/
def memberWords : List String :=
  ["public", "private", "protected", "override", "readonly", "abstract", "declare", "accessor"]

/-- Whether what a reader reads is followed by the name of a property or by an asterisk. -/
def beforeName (p : Reader) : Reader := fun ctx s =>
  match p ctx s with
  | .ok after =>
    if atPropertyName ctx after || after.symbol == ['*'] then .ok after else .error s.stuck
  | .error e => .error e

/-- The words and the asterisk in front of the name of a member. -/
def modifiers : Reader :=
  seq [many (beforeName (first [first (methodWords.map word),
    typed (first (memberWords.map word))])), maybe (symbol "*")]

/-- A method with its body. -/
def method (rules : Rules) : Reader :=
  node "method_definition" (seq [modifiers, propertyName rules, maybe (typed (symbol "?")),
    rules .signature, within false (rules .block)])

/-- A property of an object. -/
def property (rules : Rules) : Reader :=
  first [pair rules, method rules, spread rules, shorthand]
where
  /-- A name that is both the key and the value. -/
  shorthand : Reader := fun ctx s =>
    if reservedWords.contains s.name then fail ctx s
    else anyName "shorthand_property_identifier" ctx s

/-- An object; properties may be left out between commas. -/
def object (rules : Rules) : Reader :=
  node "object" (within true (seq [symbol "\x7b", sparse (property rules), symbol "\x7d"]))

/-- An array; elements may be left out between commas. -/
def array (rules : Rules) : Reader :=
  node "array" (within true (seq [symbol "[",
    sparse (first [spread rules, rules .expression]), symbol "]"]))

/-- The arguments of a call. -/
def arguments (rules : Rules) : Reader :=
  node "arguments" (within true (seq [symbol "(",
    sparse (first [spread rules, rules .expression]), symbol ")"]))

end Reader

end Source

end PullNotes
