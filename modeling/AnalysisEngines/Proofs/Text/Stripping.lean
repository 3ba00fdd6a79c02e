import AnalysisEngines.Text.Blank
import Mathlib.Data.List.TakeWhile

/-!
# Texts without their ends

To strip a text takes characters from its ends and none from between them, and nothing from a text
that neither begins nor ends with one of them.
-/

set_option autoImplicit false

namespace AnalysisEngines.Text

variable {drop : Char → Bool} {text : List Char}

theorem dropEnd_isPrefixOf (drop : Char → Bool) (text : List Char) : dropEnd drop text <+: text := by
  apply List.reverse_suffix.mp
  rw [dropEnd, List.reverse_reverse]
  exact List.dropWhile_suffix drop

theorem mem_of_mem_stripChars {c : Char} (member : c ∈ stripChars drop text) : c ∈ text :=
  (List.dropWhile_suffix drop).subset ((dropEnd_isPrefixOf drop _).subset member)

theorem dropWhile_eq_self (head : ∀ c, text.head? = some c → drop c = false) :
    text.dropWhile drop = text := by
  apply List.dropWhile_eq_self_iff.mpr
  intro nonempty
  exact Bool.eq_false_iff.mp (head _ (by simp [List.head?_eq_getElem?]))

theorem stripChars_eq_self (head : ∀ c, text.head? = some c → drop c = false)
    (last : ∀ c, text.getLast? = some c → drop c = false) : stripChars drop text = text := by
  unfold stripChars dropEnd
  rw [dropWhile_eq_self head, dropWhile_eq_self, List.reverse_reverse]
  intro c isFirst
  exact last c (List.head?_reverse.symm.trans isFirst)

theorem strip_eq_self {text : String}
    (head : ∀ c, text.toList.head? = some c → isBlank c = false)
    (last : ∀ c, text.toList.getLast? = some c → isBlank c = false) : strip text = text := by
  rw [strip, stripChars_eq_self head last, String.ofList_toList]

end AnalysisEngines.Text
