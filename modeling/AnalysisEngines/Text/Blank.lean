/-!
White space, removing it from the ends of a text, and texts that say nothing.
-/

set_option autoImplicit false

namespace AnalysisEngines

/-- An empty text stands for none. -/
def given? (text : Option String) : Option String :=
  match text with
  | some "" => none
  | other => other

namespace Text

def isBlank (c : Char) : Bool :=
  let code := c.toNat
  (0x09 ≤ code && code ≤ 0x0d) || (0x1c ≤ code && code ≤ 0x20) || code == 0x85 || code == 0xa0 ||
    code == 0x1680 || (0x2000 ≤ code && code ≤ 0x200a) || code == 0x2028 || code == 0x2029 ||
    code == 0x202f || code == 0x205f || code == 0x3000

def dropEnd (drop : Char → Bool) (text : List Char) : List Char :=
  (text.reverse.dropWhile drop).reverse

def stripChars (drop : Char → Bool) (text : List Char) : List Char :=
  dropEnd drop (text.dropWhile drop)

def strip (text : String) : String := String.ofList (stripChars isBlank text.toList)

/-- The words between white space, from a text read so far. -/
def wordsFrom (word : List Char) : List Char → List String
  | [] => if word.isEmpty then [] else [String.ofList word.reverse]
  | c :: rest =>
      if !isBlank c then wordsFrom (c :: word) rest
      else if word.isEmpty then wordsFrom [] rest
      else String.ofList word.reverse :: wordsFrom [] rest

def words (text : String) : List String := wordsFrom [] text.toList

/-- Whether a text has nothing but white space in it. -/
def isBlankText (text : String) : Bool := text.toList.all isBlank

end Text

end AnalysisEngines
