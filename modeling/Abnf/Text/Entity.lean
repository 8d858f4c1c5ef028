import Abnf.Text.Basic

/-!
# Entities

Text that stands between tags must not open a tag or an entity of its own, and text inside a quoted
attribute must not close the quotes either.
-/

namespace Abnf.Text

/-- How a character is written between tags. -/
def entity (c : Char) : List Char :=
  if c = '&' then "&amp;".toList
  else if c = '<' then "&lt;".toList
  else if c = '>' then "&gt;".toList
  else [c]

/-- Writes a text so that it can stand between tags. -/
def escapeHtml (text : String) : String := expand entity text

/-- Writes a text so that it can stand in an attribute, within quotes of either kind. -/
def escapeAttribute (text : String) : String :=
  replaceChar '\'' "&#39;" (replaceChar '"' "&quot;" (escapeHtml text))

@[simp] theorem escapeHtml_append (a b : String) :
    escapeHtml (a ++ b) = escapeHtml a ++ escapeHtml b :=
  expand_append ..

@[simp] theorem escapeAttribute_append (a b : String) :
    escapeAttribute (a ++ b) = escapeAttribute a ++ escapeAttribute b := by
  simp only [escapeAttribute, replaceChar, escapeHtml_append, expand_append]

end Abnf.Text
