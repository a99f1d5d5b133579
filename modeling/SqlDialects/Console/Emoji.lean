import SqlDialects.Console.EmojiTable
import SqlDialects.Text.Case

/-!
# Emoji codes

Pictures that are written as a name between colons.

**Rules.**
* The case of a name does not matter.
* A name may end in `-text` or `-emoji`: a selector behind the picture then asks for a plain or for
  a coloured form.
-/

namespace SqlDialects
namespace Console

/-- The picture of a name. -/
def emoji? (name : String) : Option String :=
  let name := Text.lower name
  (emojiTable.find? fun e => e.1 == name).map (·.2)

/-- The endings of names that ask for a form, with the selectors of the forms. -/
def emojiForms : List (List Char × Char) :=
  [("-emoji".toList, '\ufe0f'), ("-text".toList, '\ufe0e')]

/-- The picture of a name that may ask for a form. -/
def emojiWithForm? (name : List Char) : Option (List Char) :=
  match emojiForms.find? fun f => f.1.isSuffixOf name with
  | some (ending, selector) =>
    (emoji? (String.ofList (name.take (name.length - ending.length)))).map fun p =>
      p.toList ++ [selector]
  | none => (emoji? (String.ofList name)).map String.toList

end Console
end SqlDialects
