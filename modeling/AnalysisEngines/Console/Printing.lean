import AnalysisEngines.Console.Layout
import AnalysisEngines.Console.Markup

/-!
Printing: the lines that a text takes on a terminal.

A plain text shows as it is, codes of emoji apart, and is not wrapped.  Markup shows the text
between its tags.
-/

set_option autoImplicit false

namespace AnalysisEngines.Console

def printText (text : String) : List String :=
  layOut false (String.ofList (showEmoji text.toList))

def printMarkup (wraps : Bool) (markup : String) : Except MarkupFault (List String) :=
  (plainText markup).map (layOut wraps)

end AnalysisEngines.Console
