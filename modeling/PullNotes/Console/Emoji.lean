import PullNotes.Console.Cell
import PullNotes.Console.EmojiName
import PullNotes.Text.Blank
import PullNotes.Text.Case

/-!
# Emoji by name

In a text, a name between colons stands for an emoji; capital letters in it count as small ones.
After the name, `-emoji` and `-text` choose a style.  What is between colons and is no name stays as
it is.
-/

namespace PullNotes

namespace Emoji

/-- The endings that choose a style, and the selectors that do. -/
def styles : List (String × CodePoint) :=
  [("-emoji", CodePoint.emojiSelector), ("-text", CodePoint.textSelector)]

/-- A name without the ending that chooses a style, and the selector. -/
def nameAndStyle (content : Text) : Text × Text :=
  match styles.find? fun (ending, _) => (Text.ofString ending).isSuffixOf content with
  | some (ending, selector) => (content.take (content.length - ending.length), [selector])
  | none => (content, [])

/-- The emoji that stands between colons. -/
def between? (content : Text) : Option Text :=
  let (name, style) := nameAndStyle content
  (named? name.lower).map (· ++ style)

/-- The text up to a colon without blanks before it, and what follows the colon. -/
def upToColon? : Text → Option (Text × Text)
  | [] => none
  | c :: rest =>
    if c = colon then some ([], rest)
    else if c.isBlank then none
    else (upToColon? rest).map fun (content, after) => (c :: content, after)

/-- A text with the names replaced by their emoji, after a number of code points that are done. -/
def replaceAfter : Nat → Text → Text
  | _, [] => []
  | done + 1, _ :: rest => replaceAfter done rest
  | 0, c :: rest =>
    if c = colon then
      match upToColon? rest with
      | some (content, _) =>
        (between? content).getD (colon :: content ++ [colon]) ++ replaceAfter (content.length + 1) rest
      | none => c :: replaceAfter 0 rest
    else c :: replaceAfter 0 rest

/-- A text with the names replaced by their emoji. -/
def replace (t : Text) : Text := replaceAfter 0 t

end Emoji

end PullNotes
