import AnalysisEngines.Console.CellWidth
import AnalysisEngines.Text.Blank

/-!
Laying text out in lines of a terminal.

Tabs go to the next multiple of eight cells.  A line that is too long is broken before the word
that does not fit, and a word that fits in no line is broken where the line is full.
-/

set_option autoImplicit false

namespace AnalysisEngines.Console

def lineWidth : Nat := 80

def tabWidth : Nat := 8

/-- Bells, backspaces, vertical tabs, form feeds and carriage returns do not show. -/
def isControl (c : Char) : Bool :=
  c == '\x07' || c == '\x08' || c == '\x0b' || c == '\x0c' || c == '\r'

/-- A text with spaces in place of tabs, from a column on. -/
def expandTabs (column : Nat) : List Char → List Char
  | [] => []
  | '\t' :: rest =>
      let next := (column / tabWidth + 1) * tabWidth
      List.replicate (next - column) ' ' ++ expandTabs next rest
  | c :: rest => c :: expandTabs (column + cellWidth c) rest

/-- A word with the white space around it, and what follows. -/
def wordStart (text : List Char) : List Char × List Char :=
  let (before, rest) := text.span Text.isBlank
  let (word, rest) := rest.span (!Text.isBlank ·)
  let (behind, rest) := rest.span Text.isBlank
  (before ++ word ++ behind, rest)

/-- The words of a line, each with the white space behind it. -/
def spacedWords : Nat → List Char → List (List Char)
  | 0, _ => []
  | fuel + 1, text =>
      if text.all Text.isBlank then []
      else
        let (word, rest) := wordStart text
        word :: spacedWords fuel rest

/-- Cuts a text into lines of a width; `line` is the current one, reversed. -/
def chop (width : Nat) (line : List Char) (used : Nat) : List Char → List (List Char)
  | [] => [line.reverse]
  | c :: rest =>
      let size := cellWidth c
      if width < used + size then line.reverse :: chop width [c] size rest
      else chop width (c :: line) (used + size) rest

/-- Lines under construction: the finished ones in reverse order, the current one, and how many
of its cells are taken. -/
structure Page where
  finished : List (List Char) := []
  line : List Char := []
  used : Nat := 0

namespace Page

def isNew (page : Page) : Bool := page.finished.isEmpty && page.line.isEmpty

def add (word : List Char) (page : Page) : Page :=
  { page with line := page.line ++ word, used := page.used + cellCount word }

/-- Ends the current line, unless nothing was written at all. -/
def newLine (page : Page) : Page :=
  if page.isNew then page else { finished := page.line :: page.finished }

def addWord (width : Nat) (page : Page) (word : List Char) : Page :=
  let size := cellCount (Text.dropEnd Text.isBlank word)
  if page.used + size ≤ width then page.add word
  else if width < size then
    (chop width [] 0 word).foldl (fun page part =>
      { page.newLine with line := part, used := cellCount part }) page
  else if page.used = 0 then page.add word
  else page.newLine.add word

def lines (page : Page) : List (List Char) := (page.line :: page.finished).reverse

end Page

/-- Drops white space at the end of a line, as far as the line is too long. -/
def trimEnd (width : Nat) (line : List Char) : List Char :=
  let blanks := (line.reverse.takeWhile Text.isBlank).length
  line.take (line.length - min blanks (line.length - width))

/-- The start of a line that fills a width, with a space where half a character would fit. -/
def crop (width : Nat) : List Char → List Char
  | [] => []
  | c :: rest =>
      let size := cellWidth c
      if size ≤ width then c :: crop (width - size) rest
      else List.replicate width ' '

def fit (width : Nat) (line : List Char) : List Char :=
  let trimmed := trimEnd width line
  if width < cellCount trimmed then crop width trimmed else trimmed

def wrap (width : Nat) (line : List Char) : List (List Char) :=
  if line.all Text.isBlank then [fit width line]
  else ((spacedWords line.length line).foldl (Page.addWord width) {}).lines.map (fit width)

/-- The lines that one line of a text takes. -/
def layOutLine (wraps : Bool) (line : List Char) : List (List Char) :=
  let line := expandTabs 0 line
  if wraps then wrap lineWidth line else [line]

/-- The lines of a text as they show, each at most as wide as the terminal if they are wrapped. -/
def layOut (wraps : Bool) (text : String) : List String :=
  let shown := text.toList.filter (!isControl ·)
  ((shown.splitOn '\n').flatMap (layOutLine wraps)).map String.ofList

end AnalysisEngines.Console
