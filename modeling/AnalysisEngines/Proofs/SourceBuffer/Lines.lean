import AnalysisEngines.SourceBuffer
import Mathlib.Data.List.Basic
import Mathlib.Tactic.Common

/-!
# Lines and columns of offsets

A line starts at zero and behind each line feed.  The table of a buffer lists these starts, so that
the start at an index has just as many line feeds before it.  Halving the table finds the last start
up to an offset; the line of the offset then counts the line feeds before it, and its column counts
from that start.
-/

set_option autoImplicit false

namespace AnalysisEngines.SourceBuffer

/-! ## Halving a table -/

def IsAscending (table : Array Nat) : Prop :=
  ∀ left right earlier later : Nat, table[left]? = some earlier → table[right]? = some later →
    left ≤ right → earlier ≤ later

/-- The entries below one bound are up to a number, and those from another one on are beyond it. -/
structure Encloses (table : Array Nat) (number low high : Nat) : Prop where
  ordered : low ≤ high
  within : high ≤ table.size
  below : ∀ index entry : Nat, table[index]? = some entry → index < low → entry ≤ number
  above : ∀ index entry : Nat, table[index]? = some entry → high ≤ index → number < entry

section Halving

variable {table : Array Nat} {number low high middle entry : Nat}

theorem encloses_size (table : Array Nat) (number : Nat) : Encloses table number 0 table.size where
  ordered := Nat.zero_le _
  within := Nat.le_refl _
  below := fun _ _ _ left => absurd left (Nat.not_lt_zero _)
  above := by
    intro index entry found right
    rw [Array.getElem?_eq_none right] at found
    cases found

theorem Encloses.raise (encloses : Encloses table number low high) (ascending : IsAscending table)
    (found : table[middle]? = some entry) (inside : middle < high) (upTo : entry ≤ number) :
    Encloses table number (middle + 1) high where
  ordered := inside
  within := encloses.within
  below := by
    intro index known isKnown left
    have earlier := ascending index middle known entry isKnown found (Nat.le_of_lt_succ left)
    exact Nat.le_trans earlier upTo
  above := encloses.above

theorem Encloses.lower (encloses : Encloses table number low high) (ascending : IsAscending table)
    (found : table[middle]? = some entry) (least : low ≤ middle) (inside : middle < high)
    (beyond : number < entry) : Encloses table number low middle where
  ordered := least
  within := Nat.le_trans (Nat.le_of_lt inside) encloses.within
  below := encloses.below
  above := by
    intro index known isKnown right
    have later := ascending middle index entry known found isKnown right
    exact Nat.lt_of_lt_of_le beyond later

/-- Each halving keeps the bounds, until they meet at the count. -/
theorem encloses_countUpTo (ascending : IsAscending table)
    (encloses : Encloses table number low high) :
    Encloses table number (countUpTo table number low high)
      (countUpTo table number low high) := by
  fun_induction countUpTo table number low high with
  | case1 low high apart middle beyond ih =>
      have within := encloses.within
      have inside : middle < table.size := by omega
      rw [Array.getD_eq_getD_getElem?, Array.getElem?_eq_getElem inside] at beyond
      apply ih
      apply encloses.lower ascending (Array.getElem?_eq_getElem inside) _ _ beyond <;> omega
  | case2 low high apart middle upTo ih =>
      have within := encloses.within
      have inside : middle < table.size := by omega
      rw [Array.getD_eq_getD_getElem?, Array.getElem?_eq_getElem inside] at upTo
      apply ih
      apply encloses.raise ascending (Array.getElem?_eq_getElem inside) _ (Nat.le_of_not_lt upTo)
      omega
  | case3 low high meet =>
      have ordered := encloses.ordered
      obtain rfl : low = high := by omega
      exact encloses

end Halving

/-! ## Line feeds -/

def feedsBefore (source : List Char) (offset : Nat) : Nat := (source.take offset).count '\n'

/-- A line starts at an offset. -/
inductive Opens (source : List Char) : Nat → Prop
  | atZero : Opens source 0
  | behindFeed {position : Nat} : source[position]? = some '\n' → Opens source (position + 1)

section Feeds

variable {source : List Char} {left right offset start position : Nat}

@[simp]
theorem feedsBefore_zero (source : List Char) : feedsBefore source 0 = 0 := rfl

theorem feedsBefore_cons (c : Char) (source : List Char) (offset : Nat) :
    feedsBefore (c :: source) (offset + 1) =
      feedsBefore source offset + if c = '\n' then 1 else 0 := by
  simp [feedsBefore, List.count_cons]

theorem feedsBefore_length (source : List Char) :
    feedsBefore source source.length = source.count '\n' := by
  rw [feedsBefore, List.take_length]

theorem feedsBefore_succ (isFeed : source[position]? = some '\n') :
    feedsBefore source (position + 1) = feedsBefore source position + 1 := by
  simp [feedsBefore, List.take_add_one, isFeed]

theorem feedsBefore_mono (source : List Char) (le : left ≤ right) :
    feedsBefore source left ≤ feedsBefore source right := by
  have isPrefix : source.take left <+: source.take right := List.take_prefix_take_left le
  exact isPrefix.sublist.count_le '\n'

theorem feedsBefore_le_count (source : List Char) (offset : Nat) :
    feedsBefore source offset ≤ source.count '\n' :=
  (List.take_sublist offset source).count_le '\n'

/-- A line feed between two offsets is before the second one alone. -/
theorem feedsBefore_lt (isFeed : source[position]? = some '\n') (least : left ≤ position)
    (most : position < right) : feedsBefore source left < feedsBefore source right :=
  calc feedsBefore source left ≤ feedsBefore source position := feedsBefore_mono source least
    _ < feedsBefore source (position + 1) := by rw [feedsBefore_succ isFeed]; omega
    _ ≤ feedsBefore source right := feedsBefore_mono source most

/-- The start of a line is reached once all line feeds before it are. -/
theorem Opens.le_iff (opens : Opens source start) :
    start ≤ offset ↔ feedsBefore source start ≤ feedsBefore source offset := by
  constructor
  · exact feedsBefore_mono source
  · intro fewer
    cases opens with
    | atZero => exact Nat.zero_le offset
    | behindFeed isFeed =>
        by_contra beyond
        have after : offset < _ + 1 := Nat.lt_of_not_le beyond
        have more := feedsBefore_lt isFeed (Nat.le_of_lt_succ after) (Nat.lt_succ_self _)
        exact Nat.not_le_of_lt more fewer

theorem Opens.eq_of_feedsBefore (first : Opens source left) (second : Opens source right)
    (same : feedsBefore source left = feedsBefore source right) : left = right :=
  Nat.le_antisymm (first.le_iff.mpr (Nat.le_of_eq same))
    (second.le_iff.mpr (Nat.le_of_eq same.symm))

end Feeds

/-! ## What a place has to be -/

/-- The last start of a line up to an offset: no line feed stands between them. -/
structure IsLastStart (source : List Char) (offset start : Nat) : Prop where
  opens : Opens source start
  le : start ≤ offset
  unbroken : ∀ position, start ≤ position → position < offset → source[position]? ≠ some '\n'

/-- Where the line with a number starts. -/
structure IsStartOf (source : List Char) (line start : Nat) : Prop where
  opens : Opens source start
  number : line = feedsBefore source start + 1

/-- Line and column of an offset, as the line feeds of the text tell them. -/
structure Locates (source : List Char) (offset : Nat) (place : Place) : Prop where
  line : place.line = feedsBefore source offset + 1
  column : ∃ start, IsLastStart source offset start ∧ place.column = offset - start + 1

/-- The lexicographic order. -/
def Place.Precedes (first second : Place) : Prop :=
  first.line < second.line ∨ first.line = second.line ∧ first.column < second.column

def IsOutside (buffer : SourceBuffer) (offset : Int) : Prop :=
  offset < 0 ∨ (buffer.length : Int) < offset

instance (buffer : SourceBuffer) (offset : Int) : Decidable (buffer.IsOutside offset) :=
  inferInstanceAs (Decidable (_ ∨ _))

/-! ## The table of line starts -/

theorem length_startsFrom (base : Nat) (source : List Char) :
    (startsFrom base source).length = source.count '\n' := by
  induction source generalizing base with
  | nil => rfl
  | cons c rest ih =>
      by_cases isFeed : c = '\n'
      · simp [startsFrom, isFeed, ih]
      · simp [startsFrom, isFeed, ih]

/-- The entries are the offsets behind the line feeds, each at the number of those before it. -/
theorem getElem?_startsFrom (base : Nat) (source : List Char) (index start : Nat) :
    (startsFrom base source)[index]? = some start ↔
      ∃ position, source[position]? = some '\n' ∧ feedsBefore source position = index ∧
        start = base + position + 1 := by
  induction source generalizing base index with
  | nil => simp [startsFrom]
  | cons c rest ih =>
      -- a line feed at the front is at index zero, and counts for all that follow
      have shift (position : Nat) : base + (position + 1) + 1 = base + 1 + position + 1 := by omega
      rw [← Nat.or_exists_add_one]
      by_cases isFeed : c = '\n'
      · cases index with
        | zero => simp [startsFrom, isFeed, feedsBefore_cons, eq_comm]
        | succ index => simp [startsFrom, isFeed, feedsBefore_cons, ih, shift]
      · simp [startsFrom, isFeed, feedsBefore_cons, ih, shift]

variable {buffer : SourceBuffer}

theorem length_lineStarts (buffer : SourceBuffer) :
    buffer.lineStarts.length = buffer.source.count '\n' + 1 := by
  rw [lineStarts, List.length_cons, length_startsFrom]

/-- A start is in the table at the number of line feeds before it. -/
theorem getElem?_lineStarts {index start : Nat} :
    buffer.lineStarts[index]? = some start ↔
      Opens buffer.source start ∧ feedsBefore buffer.source start = index := by
  cases index with
  | zero =>
      constructor
      · intro found
        cases found
        exact ⟨.atZero, rfl⟩
      · rintro ⟨opens, none⟩
        have first := Opens.eq_of_feedsBefore opens .atZero none
        rw [first]
        rfl
  | succ index =>
      rw [lineStarts, List.getElem?_cons_succ, getElem?_startsFrom]
      constructor
      · rintro ⟨position, isFeed, before, rfl⟩
        rw [Nat.zero_add, feedsBefore_succ isFeed, before]
        exact ⟨.behindFeed isFeed, rfl⟩
      · rintro ⟨opens, before⟩
        cases opens with
        | atZero => cases before
        | @behindFeed position isFeed =>
            rw [feedsBefore_succ isFeed] at before
            exact ⟨position, isFeed, Nat.succ.inj before, by rw [Nat.zero_add]⟩

theorem isAscending_lineStarts (buffer : SourceBuffer) :
    IsAscending buffer.lineStarts.toArray := by
  intro left right earlier later foundLeft foundRight le
  rw [List.getElem?_toArray, getElem?_lineStarts] at foundLeft foundRight
  rw [foundLeft.1.le_iff, foundLeft.2, foundRight.2]
  exact le

/-- Up to any offset there is a last start. -/
theorem exists_opens (buffer : SourceBuffer) (offset : Nat) :
    ∃ start, Opens buffer.source start ∧
      feedsBefore buffer.source start = feedsBefore buffer.source offset := by
  have inside : feedsBefore buffer.source offset < buffer.lineStarts.length := by
    rw [length_lineStarts]
    exact Nat.lt_succ_of_le (feedsBefore_le_count buffer.source offset)
  exact ⟨_, getElem?_lineStarts.mp (List.getElem?_eq_getElem inside)⟩

/-! ## Places -/

theorem countUpTo_lineStarts (buffer : SourceBuffer) (offset : Nat) :
    countUpTo buffer.lineStarts.toArray offset 0 buffer.lineStarts.toArray.size =
      feedsBefore buffer.source offset + 1 := by
  have counts := encloses_countUpTo (isAscending_lineStarts buffer)
    (encloses_size buffer.lineStarts.toArray offset)
  generalize countUpTo buffer.lineStarts.toArray offset 0 buffer.lineStarts.toArray.size = count
    at counts
  have within : count ≤ buffer.lineStarts.length := counts.within
  have counted {index start : Nat} (found : buffer.lineStarts[index]? = some start) :
      index < count ↔ index ≤ feedsBefore buffer.source offset := by
    obtain ⟨opens, before⟩ := getElem?_lineStarts.mp found
    rw [← List.getElem?_toArray] at found
    rw [← before, ← opens.le_iff, before]
    constructor
    · exact counts.below index start found
    · intro upTo
      by_contra right
      exact Nat.not_le_of_lt (counts.above index start found (Nat.le_of_not_lt right)) upTo
  have reached : feedsBefore buffer.source offset < count := by
    obtain ⟨start, started⟩ := exists_opens buffer offset
    exact (counted (getElem?_lineStarts.mpr started)).mpr (Nat.le_refl _)
  have last : ¬ feedsBefore buffer.source offset + 1 < count := by
    intro further
    have inside := Nat.lt_of_lt_of_le further within
    exact Nat.not_succ_le_self _ ((counted (List.getElem?_eq_getElem inside)).mp further)
  omega

theorem placeOf_eq {offset start : Nat} (opens : Opens buffer.source start)
    (same : feedsBefore buffer.source start = feedsBefore buffer.source offset) :
    buffer.placeOf offset = ⟨feedsBefore buffer.source offset + 1, offset - start + 1⟩ := by
  have found : buffer.lineStarts[feedsBefore buffer.source offset]? = some start :=
    getElem?_lineStarts.mpr ⟨opens, same⟩
  simp only [placeOf, countUpTo_lineStarts, Nat.add_sub_cancel, Array.getD_eq_getD_getElem?,
    List.getElem?_toArray, found, Option.getD_some]

theorem isLastStart_of_opens {source : List Char} {offset start : Nat}
    (opens : Opens source start) (same : feedsBefore source start = feedsBefore source offset) :
    IsLastStart source offset start where
  opens := opens
  le := opens.le_iff.mpr (Nat.le_of_eq same)
  unbroken := by
    intro position least most isFeed
    exact Nat.ne_of_lt (feedsBefore_lt isFeed least most) same

theorem locates_placeOf (buffer : SourceBuffer) (offset : Nat) :
    Locates buffer.source offset (buffer.placeOf offset) := by
  obtain ⟨start, opens, same⟩ := exists_opens buffer offset
  rw [placeOf_eq opens same]
  exact ⟨rfl, start, isLastStart_of_opens opens same, rfl⟩

theorem exists_isStartOf (buffer : SourceBuffer) (offset : Nat) :
    ∃ start, IsStartOf buffer.source (buffer.placeOf offset).line start := by
  obtain ⟨start, opens, same⟩ := exists_opens buffer offset
  rw [placeOf_eq opens same]
  exact ⟨start, opens, congrArg (· + 1) same.symm⟩

/-- The start of the line and the column give the offset back. -/
theorem start_add_column {offset start : Nat}
    (starts : IsStartOf buffer.source (buffer.placeOf offset).line start) :
    (start : Int) + ((buffer.placeOf offset).column - 1) = offset := by
  have same : feedsBefore buffer.source start = feedsBefore buffer.source offset :=
    Nat.succ.inj (starts.number.symm.trans (locates_placeOf buffer offset).line)
  have le := (isLastStart_of_opens starts.opens same).le
  rw [placeOf_eq starts.opens same]
  dsimp only
  omega

theorem Place.not_precedes_self (place : Place) : ¬ place.Precedes place := by
  rintro (line | ⟨-, column⟩)
  · exact Nat.lt_irrefl _ line
  · exact Nat.lt_irrefl _ column

theorem Place.Precedes.asymm {first second : Place} (precedes : first.Precedes second) :
    ¬ second.Precedes first := by
  unfold Precedes at precedes ⊢
  omega

theorem placeOf_precedes {left right : Nat} (lt : left < right) :
    (buffer.placeOf left).Precedes (buffer.placeOf right) := by
  obtain ⟨first, opensFirst, sameFirst⟩ := exists_opens buffer left
  obtain ⟨second, opensSecond, sameSecond⟩ := exists_opens buffer right
  rw [placeOf_eq opensFirst sameFirst, placeOf_eq opensSecond sameSecond]
  rcases Nat.lt_or_eq_of_le (feedsBefore_mono buffer.source (Nat.le_of_lt lt)) with fewer | equal
  · exact .inl (Nat.succ_lt_succ fewer)
  · -- on one line both columns count from one start
    have same : first = second := by
      apply opensFirst.eq_of_feedsBefore opensSecond
      rw [sameFirst, sameSecond, equal]
    have le := (isLastStart_of_opens opensFirst sameFirst).le
    refine .inr ⟨congrArg (· + 1) equal, ?_⟩
    dsimp only
    omega

theorem placeOf_precedes_iff {left right : Nat} :
    (buffer.placeOf left).Precedes (buffer.placeOf right) ↔ left < right := by
  constructor
  · intro precedes
    rcases Nat.lt_trichotomy left right with before | rfl | after
    · exact before
    · exact absurd precedes (Place.not_precedes_self _)
    · exact absurd precedes (placeOf_precedes after).asymm
  · exact placeOf_precedes

theorem placeOf_injective {left right : Nat} (same : buffer.placeOf left = buffer.placeOf right) :
    left = right := by
  rcases Nat.lt_trichotomy left right with before | equal | after
  · exact absurd (same ▸ placeOf_precedes before) (Place.not_precedes_self _)
  · exact equal
  · exact absurd (same ▸ placeOf_precedes after) (Place.not_precedes_self _)

/-! ## Offsets that are resolved -/

theorem place_of_not_integer {offset : Value}
    (foreign : ∀ number, offset ≠ .int number) :
    buffer.place offset = .error (.notAnInteger buffer.name offset) := by
  cases offset with
  | number number =>
      cases number with
      | int number => exact absurd rfl (foreign number)
      | float => rfl
  | _ => rfl

theorem place_of_isOutside {offset : Int} (outside : buffer.IsOutside offset) :
    buffer.place (.int offset) = .error (.outside buffer.name offset buffer.length) :=
  if_pos outside

theorem place_of_inside {offset : Int} (inside : ¬ buffer.IsOutside offset) :
    buffer.place (.int offset) = .ok (buffer.placeOf offset.toNat) :=
  if_neg inside

theorem place_eq_ok_iff {offset : Int} {place : Place} :
    buffer.place (.int offset) = .ok place ↔
      ∃ number : Nat, offset = number ∧ number ≤ buffer.length ∧ place = buffer.placeOf number := by
  by_cases outside : buffer.IsOutside offset
  · rw [place_of_isOutside outside]
    unfold IsOutside at outside
    constructor
    · exact fun resolved => nomatch resolved
    · rintro ⟨number, rfl, le, -⟩
      omega
  · rw [place_of_inside outside]
    unfold IsOutside at outside
    constructor
    · rintro ⟨⟩
      exact ⟨offset.toNat, by omega, by omega, rfl⟩
    · rintro ⟨number, rfl, -, rfl⟩
      rfl

theorem place_of_opens {offset start : Nat} (opens : Opens buffer.source start)
    (same : feedsBefore buffer.source start = feedsBefore buffer.source offset)
    (inside : offset ≤ buffer.length) :
    buffer.place (.int offset) =
      .ok ⟨feedsBefore buffer.source offset + 1, offset - start + 1⟩ :=
  place_eq_ok_iff.mpr ⟨offset, rfl, inside, (placeOf_eq opens same).symm⟩

/-- An offset is resolved exactly if it is in the text, to the line and the column that the line
feeds tell.  Places are in the order of their offsets, and each gives its offset back. -/
theorem place_locates (buffer : SourceBuffer) :
    (∀ offset : Int,
      ((∃ fault, buffer.place (.int offset) = .error fault ∧
        fault.failure.kind = .invalidLocation) ↔ buffer.IsOutside offset) ∧
      (¬ buffer.IsOutside offset → ∃ place, buffer.place (.int offset) = .ok place ∧
        Locates buffer.source offset.toNat place)) ∧
    (∀ (left right : Int) (first second : Place),
      buffer.place (.int left) = .ok first → buffer.place (.int right) = .ok second →
      (first.Precedes second ↔ left < right) ∧ (first = second → left = right)) ∧
    (∀ (offset : Int) (place : Place), buffer.place (.int offset) = .ok place →
      (∃ start, IsStartOf buffer.source place.line start) ∧
      ∀ start, IsStartOf buffer.source place.line start →
        (start : Int) + (place.column - 1) = offset) := by
  refine ⟨fun offset => ⟨?_, ?_⟩, ?_, ?_⟩
  · constructor
    · rintro ⟨fault, failed, -⟩
      by_contra inside
      rw [place_of_inside inside] at failed
      cases failed
    · intro outside
      exact ⟨_, place_of_isOutside outside, rfl⟩
  · intro inside
    exact ⟨_, place_of_inside inside, locates_placeOf buffer offset.toNat⟩
  · intro left right first second isFirst isSecond
    obtain ⟨left, rfl, -, rfl⟩ := place_eq_ok_iff.mp isFirst
    obtain ⟨right, rfl, -, rfl⟩ := place_eq_ok_iff.mp isSecond
    refine ⟨placeOf_precedes_iff.trans Int.ofNat_lt.symm, ?_⟩
    intro same
    rw [placeOf_injective same]
  · intro offset place resolved
    obtain ⟨offset, rfl, -, rfl⟩ := place_eq_ok_iff.mp resolved
    exact ⟨exists_isStartOf buffer offset, fun start starts => start_add_column starts⟩

/-- A text with a line that is a line feed alone. -/
def gapped : SourceBuffer := .ofText "gapped.txt" "a\n\nb"

/-- A line feed is on the line that it ends, and the next one starts a line of its own. -/
theorem gapped_locates :
    (¬ gapped.IsOutside 2 ∧
      ∃ place, gapped.place (.int 2) = .ok place ∧ Locates gapped.source 2 place) ∧
    (gapped.IsOutside 5 ∧ ∃ fault, gapped.place (.int 5) = .error fault ∧
      fault.failure.kind = .invalidLocation) ∧
    (gapped.place (.int 1) = .ok ⟨1, 2⟩ ∧ gapped.place (.int 2) = .ok ⟨2, 1⟩ ∧
      Place.Precedes ⟨1, 2⟩ ⟨2, 1⟩) ∧
    ∃ start : Nat, IsStartOf gapped.source 2 start ∧ (start : Int) + ((1 : Nat) - 1) = 2 := by
  have first : gapped.place (.int 1) = .ok ⟨1, 2⟩ :=
    @place_of_opens _ 1 _ .atZero rfl (by decide)
  have opens : Opens gapped.source 2 := .behindFeed rfl
  have second : gapped.place (.int 2) = .ok ⟨2, 1⟩ :=
    @place_of_opens _ 2 _ opens rfl (by decide)
  have inside : ¬ gapped.IsOutside 2 := by decide
  have outside : gapped.IsOutside 5 := by decide
  obtain ⟨decides, ordered, starts⟩ := place_locates gapped
  obtain ⟨⟨start, isStart⟩, back⟩ := starts 2 _ second
  exact ⟨⟨inside, (decides 2).2 inside⟩, ⟨outside, (decides 5).1.mpr outside⟩,
    ⟨first, second, (ordered 1 2 _ _ first second).1.mpr (by decide)⟩,
    start, isStart, back start isStart⟩

end AnalysisEngines.SourceBuffer
