/-
Parts: the structured result of formatting.

Literal text stays marked as such, variables and calls leave their
values, and a reference to a message leaves the parts of that message,
so the borders between messages survive.
-/
import MessageCatalog.Value

namespace MessageCatalog

/-- A fragment of a formatted message. -/
inductive Part where
  | literal (l : Literal)
  | dynamic (v : Value)
  /-- The parts of a referenced message; none if it was not found. -/
  | message (parts : List Part)

instance : Inhabited Part := ⟨.message []⟩

namespace Part

mutual

/-- A part as text; the empty value leaves nothing behind. -/
def text : Part → String
  | .literal l => l.text
  | .dynamic v => v.textOrEmpty
  | .message parts => textOfAll parts

/-- Parts as text, one after the other. -/
def textOfAll : List Part → String
  | [] => ""
  | p :: rest => text p ++ textOfAll rest

end

/-- The parts of a message part. -/
def nested? : Part → Option (List Part)
  | .message parts => some parts
  | _ => none

end Part

end MessageCatalog
