import AnalysisEngines.Failure
import AnalysisEngines.Proofs.Value.Entries

/-!
# What the context of a failure records

A failure takes fields call by call, and its report is to give every name's last value.  Where the
record of the context has no part of a name, it does.  A further field with the name of one of the
four stands over what that one is given later.  What is given under the name of any other part of
the record is lost, or keeps the failure from being reported: `annotateAll_records_iff`.
-/

set_option autoImplicit false

namespace AnalysisEngines

namespace Failure

/-- The value that a name has been given last. -/
def lastGiven? (name : String) : List (String × Value) → Option Value
  | [] => none
  | field :: rest => (lastGiven? name rest).or (if field.1 = name then some field.2 else none)

/-- Entries of names that have not been given anything. -/
def untouched (given : List (String × Value)) (entries : List (Value × Value)) :
    List (Value × Value) :=
  entries.filter fun entry => given.all fun field => !Value.sameKey entry.1 (.text field.1)

theorem lastGiven?_eq_none_iff {name : String} {given : List (String × Value)} :
    lastGiven? name given = none ↔ ∀ field ∈ given, field.1 ≠ name := by
  induction given with
  | nil => simp [lastGiven?]
  | cons field rest ih => simp [lastGiven?, ih, and_comm]

theorem lastGiven?_of_mem {given : List (String × Value)} {field : String × Value}
    (member : field ∈ given) : ∃ value, lastGiven? field.1 given = some value :=
  Option.ne_none_iff_exists'.mp fun absent => lastGiven?_eq_none_iff.mp absent field member rfl

theorem mem_of_lastGiven? {name : String} {value : Value} {given : List (String × Value)}
    (last : lastGiven? name given = some value) : ∃ field ∈ given, field.1 = name := by
  by_contra other
  have absent : lastGiven? name given = none :=
    lastGiven?_eq_none_iff.mpr fun field member same => other ⟨field, member, same⟩
  cases absent.symm.trans last

namespace Context

def fieldNames : List String := ["engine", "channel", "image", "path"]

/-- Names of parts of the record that are no fields of it. -/
def partNames : List String := receiverName :: summaryName :: reservedNames

/-- Names that a call cannot give a value. -/
def barredNames : List String := [receiverName, "__class__", "__dict__", "__weakref__"]

/-- Of a named field, `null` is nothing. -/
def orAbsent : Value → Option Value
  | .null => none
  | given => some given

/-- What a report has for a name with a value. -/
def shown (name : String) (value : Value) : Option Value :=
  if name ∈ fieldNames then orAbsent value else some value

def fieldValue (context : Context) (name : String) : Value :=
  if name = "engine" then context.engine
  else if name = "channel" then context.channel
  else if name = "image" then context.image
  else if name = "path" then context.path
  else .null

/-- A context as it has been made: nothing hides its summary, and no key stands twice among its
further fields. -/
structure IsIntact (context : Context) : Prop where
  visible : context.summary = none
  apart : Value.AreApart context.further

/-- Whether the last value that a name is given is the one that is reported.  No further field may
stand over a named one with something else.  What is given under the name of another part of the
record is reported only if it stands among the further fields anyway. -/
def Accepts (context : Context) (name : String) (value : Value) : Prop :=
  if name ∈ fieldNames then
    ∀ other, Value.lookup name context.further = some other → other = value ∧ value ≠ .null
  else if name ∈ partNames then
    name ∉ barredNames ∧ name ≠ summaryName ∧ Value.lookup name context.further = some value
  else True

variable {context : Context} {name other : String} {value : Value}

theorem lookup_named (name other : String) (value : Value) :
    Value.lookup name (named other value) = if other = name then orAbsent value else none := by
  by_cases same : other = name <;> cases value <;>
    simp [named, orAbsent, Value.lookup, Value.sameKey_text_iff, same]

/-- A further field stands over a named one. -/
theorem lookup_fields (apart : Value.AreApart context.further) (name : String) :
    Value.lookup name context.fields =
      (Value.lookup name context.further).or (orAbsent (context.fieldValue name)) := by
  rw [fields, Value.lookup_foldl_assign name apart]
  congr 1
  simp only [Value.lookup_append, lookup_named, fieldValue, eq_comm (b := name)]
  split_ifs <;> simp_all [orAbsent]

/-! ## What one name changes -/

/-- Names that become further fields. -/
def IsPlain (name : String) : Prop := name ∉ fieldNames ∧ name ≠ summaryName ∧ name ∉ reservedNames

instance (name : String) : Decidable (IsPlain name) := instDecidableAnd

theorem mem_fieldNames :
    name ∈ fieldNames ↔ name = "engine" ∨ name = "channel" ∨ name = "image" ∨ name = "path" := by
  simp only [fieldNames, List.mem_cons, List.not_mem_nil, or_false]

/-- A name that is no field's leaves the four fields alone. -/
theorem assign_of_not_mem (foreign : name ∉ fieldNames) (value : Value) (context : Context) :
    context.assign name value =
      { context with
        further := if IsPlain name then Value.assign (.text name) value context.further
          else context.further
        summary := if name = summaryName then some value else context.summary } := by
  obtain ⟨engine, channel, image, path⟩ :
      name ≠ "engine" ∧ name ≠ "channel" ∧ name ≠ "image" ∧ name ≠ "path" := by
    simpa only [mem_fieldNames, not_or] using foreign
  rw [assign, if_neg engine, if_neg channel, if_neg image, if_neg path]
  by_cases summary : name = summaryName
  · rw [if_pos summary, if_pos summary, if_neg fun plain => plain.2.1 summary]
  · by_cases reserved : name ∈ reservedNames
    · rw [if_neg summary, if_neg summary, if_pos (List.contains_iff_mem.mpr reserved),
        if_neg fun plain => plain.2.2 reserved]
    · rw [if_neg summary, if_neg summary, if_neg (mt List.contains_iff_mem.mp reserved),
        if_pos ⟨foreign, summary, reserved⟩]

theorem fieldValue_of_not_mem (foreign : name ∉ fieldNames) (context : Context) :
    context.fieldValue name = .null := by
  simp only [mem_fieldNames, not_or] at foreign
  simp [fieldValue, foreign]

theorem fieldValue_assign (name other : String) (value : Value) (context : Context) :
    (context.assign other value).fieldValue name =
      if other = name ∧ name ∈ fieldNames then value else context.fieldValue name := by
  by_cases own : other ∈ fieldNames
  · by_cases same : other = name
    · subst same
      rw [if_pos ⟨rfl, own⟩]
      rcases mem_fieldNames.mp own with rfl | rfl | rfl | rfl <;> rfl
    · rw [if_neg fun both => same both.1]
      rcases mem_fieldNames.mp own with rfl | rfl | rfl | rfl <;>
        simp [assign, fieldValue, Ne.symm same]
  · have foreign : ¬(other = name ∧ name ∈ fieldNames) := fun both => own (both.1 ▸ both.2)
    rw [assign_of_not_mem own, if_neg foreign]
    rfl

theorem further_assign (name : String) (value : Value) (context : Context) :
    (context.assign name value).further =
      if IsPlain name then Value.assign (.text name) value context.further
      else context.further := by
  by_cases own : name ∈ fieldNames
  · rw [if_neg fun plain => plain.1 own]
    rcases mem_fieldNames.mp own with rfl | rfl | rfl | rfl <;> rfl
  · rw [assign_of_not_mem own]

theorem summary_assign (name : String) (value : Value) (context : Context) :
    (context.assign name value).summary =
      if name = summaryName then some value else context.summary := by
  by_cases own : name ∈ fieldNames
  · rcases mem_fieldNames.mp own with rfl | rfl | rfl | rfl <;> rfl
  · rw [assign_of_not_mem own]

theorem IsIntact.assign (intact : context.IsIntact) (known : name ∈ fieldNames) (value : Value) :
    (context.assign name value).IsIntact := by
  rcases mem_fieldNames.mp known with rfl | rfl | rfl | rfl <;>
    exact ⟨intact.visible, intact.apart⟩

/-- What a context is made from leaves it intact. -/
theorem isIntact_ofFields {fields : List (String × Value)}
    (apart : ∀ entries, ("metadata", Value.map entries) ∈ fields → Value.AreApart entries)
    (made : ofFields fields = .ok context) : context.IsIntact := by
  have start : ({} : Context).IsIntact := ⟨rfl, List.Pairwise.nil⟩
  rw [ofFields] at made
  generalize ({} : Context) = before at start made
  induction fields generalizing before with
  | nil =>
      cases made
      exact start
  | cons field rest ih =>
      have later : ∀ entries, ("metadata", Value.map entries) ∈ rest → Value.AreApart entries :=
        fun entries member => apart entries (List.mem_cons_of_mem _ member)
      rw [List.foldlM_cons] at made
      split at made
      · rename_i further
        have next : { before with further }.IsIntact :=
          ⟨start.visible, apart further List.mem_cons_self⟩
        exact ih later _ next made
      · rename_i name value _
        split at made
        · rename_i known
          exact ih later _ (start.assign (List.contains_iff_mem.mp known) value) made
        · split at made <;> cases made

/-! ## What all names together change -/

variable {given : List (String × Value)}

@[simp]
theorem extend_nil (context : Context) : context.extend [] = context := rfl

theorem extend_cons (field : String × Value) (rest : List (String × Value)) (context : Context) :
    context.extend (field :: rest) = (context.assign field.1 field.2).extend rest := rfl

theorem extend_append (first second : List (String × Value)) (context : Context) :
    context.extend (first ++ second) = (context.extend first).extend second := List.foldl_append

theorem fieldValue_extend (known : name ∈ fieldNames) (context : Context) :
    (context.extend given).fieldValue name =
      (lastGiven? name given).getD (context.fieldValue name) := by
  induction given generalizing context with
  | nil => rfl
  | cons field rest ih =>
      rw [extend_cons, ih, fieldValue_assign, lastGiven?]
      cases lastGiven? name rest with
      | some value => rfl
      | none => by_cases same : field.1 = name <;> simp [same, known]

theorem summary_extend (context : Context) :
    (context.extend given).summary = (lastGiven? summaryName given).or context.summary := by
  induction given generalizing context with
  | nil => rfl
  | cons field rest ih =>
      rw [extend_cons, ih, summary_assign, lastGiven?]
      by_cases same : field.1 = summaryName <;> simp [same]

/-- A name that becomes a further field stands there with what it has been given last. -/
theorem lookup_further_extend (name : String) (context : Context) :
    Value.lookup name (context.extend given).further =
      if IsPlain name then (lastGiven? name given).or (Value.lookup name context.further)
      else Value.lookup name context.further := by
  induction given generalizing context with
  | nil => exact (ite_self _).symm
  | cons field rest ih =>
      have first : Value.lookup name (context.assign field.1 field.2).further =
          if IsPlain name ∧ field.1 = name then some field.2
          else Value.lookup name context.further := by
        rw [further_assign]
        by_cases plain : IsPlain field.1
        · rw [if_pos plain, Value.lookup_assign_text]
          by_cases same : field.1 = name
          · rw [if_pos same, if_pos ⟨same ▸ plain, same⟩]
          · have other : ¬(IsPlain name ∧ field.1 = name) := fun both => same both.2
            rw [if_neg same, if_neg other]
        · have other : ¬(IsPlain name ∧ field.1 = name) := fun both => plain (both.2 ▸ both.1)
          rw [if_neg plain, if_neg other]
      rw [extend_cons, ih, first, lastGiven?]
      by_cases plain : IsPlain name <;> by_cases same : field.1 = name <;>
        cases lastGiven? name rest <;> simp [plain, same]

theorem IsIntact.apart_extend (intact : context.IsIntact) (given : List (String × Value)) :
    Value.AreApart (context.extend given).further := by
  have apart : Value.AreApart context.further := intact.apart
  clear intact
  induction given generalizing context with
  | nil => exact apart
  | cons field rest ih =>
      apply ih
      rw [further_assign]
      split
      · exact apart.assign _ _
      · exact apart

/-- Whether a key is none of the names that have been given something. -/
def isApartFrom (given : List (String × Value)) (key : Value) : Bool :=
  given.all fun field => !Value.sameKey key (.text field.1)

theorem isApartFrom_congr (key other : Value) (same : Value.sameKey other key = true) :
    isApartFrom given other = isApartFrom given key := by
  simp only [isApartFrom, Value.sameKey_text_congr same]

theorem isApartFrom_text_iff :
    isApartFrom given (.text name) = true ↔ lastGiven? name given = none := by
  rw [lastGiven?_eq_none_iff]
  simp only [isApartFrom, List.all_eq_true, Bool.not_eq_true', Bool.eq_false_iff, ne_eq,
    Value.sameKey_text_iff, Value.text.injEq, eq_comm (a := name)]

theorem fst_of_mem_named {entry : Value × Value} (member : entry ∈ named name value) :
    entry.1 = .text name := by
  cases value with
  | null => cases member
  | _ => rw [List.mem_singleton.mp member]

theorem untouched_named (name : String) (value : Value) :
    untouched given (named name value) =
      if lastGiven? name given = none then named name value else [] := by
  split
  · rename_i absent
    apply List.filter_eq_self.mpr
    intro entry member
    rw [fst_of_mem_named member]
    exact isApartFrom_text_iff.mpr absent
  · rename_i known
    apply List.filter_eq_nil_iff.mpr
    intro entry member
    rw [fst_of_mem_named member]
    exact mt isApartFrom_text_iff.mp known

theorem untouched_named_extend (known : name ∈ fieldNames) (context : Context) :
    untouched given (named name ((context.extend given).fieldValue name)) =
      untouched given (named name (context.fieldValue name)) := by
  rw [untouched_named, untouched_named]
  split
  · rename_i absent
    rw [fieldValue_extend known, absent, Option.getD_none]
  · rfl

theorem untouched_further_extend {added : List (String × Value)} (part : added ⊆ given)
    (context : Context) :
    untouched given (context.extend added).further = untouched given context.further := by
  induction added generalizing context with
  | nil => rfl
  | cons field rest ih =>
      have member : field ∈ given := part List.mem_cons_self
      have touched : ¬isApartFrom given (.text field.1) = true := fun apart =>
        lastGiven?_eq_none_iff.mp (isApartFrom_text_iff.mp apart) field member rfl
      calc untouched given (context.extend (field :: rest)).further
          = untouched given (context.assign field.1 field.2).further :=
            ih (fun _ inRest => part (List.mem_cons_of_mem _ inRest)) _
        _ = untouched given context.further := by
            rw [further_assign]
            split
            · exact (Value.filter_assign _ _ (isApartFrom_congr _) _).trans (if_neg touched)
            · rfl

/-- What has not been given anything is reported as before, and in the same order. -/
theorem untouched_fields_extend (given : List (String × Value)) (context : Context) :
    untouched given (context.extend given).fields = untouched given context.fields := by
  have layered (context : Context) : untouched given context.fields =
      (untouched given context.further).foldl
        (fun known entry => Value.assign entry.1 entry.2 known)
        (fieldNames.flatMap fun name =>
          untouched given (named name (context.fieldValue name))) := by
    refine (Value.filter_foldl_assign isApartFrom_congr _ _).trans ?_
    simp [untouched, fieldNames, fieldValue, isApartFrom]
  rw [layered, layered, untouched_further_extend (List.Subset.refl given)]
  congr 1
  exact List.flatMap_congr fun name known => untouched_named_extend known context

/-- What is reported for a name after fields have been added. -/
theorem lookup_fields_extend (intact : context.IsIntact) (given : List (String × Value))
    (name : String) :
    Value.lookup name (context.extend given).fields =
      if name ∈ fieldNames then
        (Value.lookup name context.further).or
          (orAbsent ((lastGiven? name given).getD (context.fieldValue name)))
      else if IsPlain name then (lastGiven? name given).or (Value.lookup name context.further)
      else Value.lookup name context.further := by
  rw [lookup_fields (intact.apart_extend given), lookup_further_extend]
  by_cases known : name ∈ fieldNames
  · rw [if_pos known, if_neg fun plain => plain.1 known, fieldValue_extend known]
  · rw [if_neg known, fieldValue_of_not_mem known, orAbsent, Option.or_none]

theorem Accepts.not_barred (accepts : context.Accepts name value) : name ∉ barredNames := by
  intro barred
  have foreign : ∀ name ∈ barredNames, name ∉ fieldNames := by decide
  have part : ∀ name ∈ barredNames, name ∈ partNames := by decide
  rw [Accepts, if_neg (foreign name barred), if_pos (part name barred)] at accepts
  exact accepts.1 barred

theorem Accepts.ne_summaryName (accepts : context.Accepts name value) : name ≠ summaryName := by
  rintro rfl
  rw [Accepts, if_neg (by decide), if_pos (by decide)] at accepts
  exact accepts.2.1 rfl

/-- Where no further field has the name of one of the four, every name is accepted that is no part
of the record. -/
theorem accepts_of_unhidden
    (unhidden : ∀ name ∈ fieldNames, Value.lookup name context.further = none)
    (foreign : name ∉ partNames) (value : Value) : context.Accepts name value := by
  rw [Accepts]
  by_cases known : name ∈ fieldNames
  · rw [if_pos known, unhidden name known]
    exact fun other absent => nomatch absent
  · rw [if_neg known, if_neg foreign]
    trivial

theorem isPlain_iff (free : name ∉ barredNames) :
    IsPlain name ↔ name ∉ fieldNames ∧ name ∉ partNames := by
  have receiver : name ≠ receiverName := fun same => free (same ▸ List.mem_cons_self)
  simp [IsPlain, partNames, receiver]

/-- The last value of a name is reported if and only if the context accepts it. -/
theorem lookup_fields_extend_eq_iff (intact : context.IsIntact)
    (last : lastGiven? name given = some value) (free : name ∉ barredNames)
    (shows : name ≠ summaryName) :
    Value.lookup name (context.extend given).fields = shown name value ↔
      context.Accepts name value := by
  rw [lookup_fields_extend intact, last, shown, Accepts]
  by_cases known : name ∈ fieldNames
  · simp only [if_pos known]
    cases Value.lookup name context.further with
    | none => simp
    | some other => cases value <;> simp [orAbsent]
  · simp only [if_neg known]
    by_cases part : name ∈ partNames
    · rw [if_pos part, if_neg fun plain => ((isPlain_iff free).mp plain).2 part]
      simp only [free, shows, not_false_eq_true, ne_eq, true_and]
    · rw [if_neg part, if_pos ((isPlain_iff free).mpr ⟨known, part⟩)]
      simp only [Option.some_or]

end Context

/-! ## What is reported -/

variable {failure last : Failure} {fields given : List (String × Value)}
  {calls : List (List (String × Value))}

/-- The context of a report; an empty one is left out of it. -/
def contextOf (report : List (Value × Value)) : List (Value × Value) :=
  match Value.lookup "context" report with
  | some (.map entries) => entries
  | _ => []

theorem report_eq_ok (visible : failure.context.summary = none) :
    ∃ report, failure.report = .ok report :=
  ⟨_, by rw [report, Context.summarize, visible]; rfl⟩

theorem contextOf_report {report : List (Value × Value)} (done : failure.report = .ok report) :
    failure.context.summary = none ∧ contextOf report = failure.context.fields := by
  rw [Failure.report, Context.summarize] at done
  cases hidden : failure.context.summary with
  | some value =>
      rw [hidden] at done
      cases done
  | none =>
      rw [hidden] at done
      cases done
      refine ⟨rfl, ?_⟩
      cases failure.context.fields with
      | nil => cases failure.cause <;> simp [contextOf, Value.lookup, Value.sameKey, Value.same]
      | cons entry rest => simp [contextOf, Value.lookup, Value.sameKey, Value.same]

theorem isIntact_ofArguments (kind : Kind) (arguments : List Value) :
    (ofArguments kind arguments).context.IsIntact := by
  cases kind <;> exact ⟨rfl, List.Pairwise.nil⟩

/-! ## Calls -/

theorem refusal?_eq_none_iff {name : String} {value : Value} :
    Context.refusal? name value = none ↔
      name ≠ "__class__" ∧ name ≠ "__dict__" ∧ name ≠ "__weakref__" := by
  by_cases mapping : name = "__dict__"
  · subst mapping
    cases value <;> simp [Context.refusal?]
  · by_cases isClass : name = "__class__" <;> by_cases handle : name = "__weakref__" <;>
      simp [Context.refusal?, mapping, isClass, handle]

theorem not_mem_barredNames_iff {name : String} {value : Value} :
    name ∉ Context.barredNames ↔
      ¬(name == Context.receiverName) = true ∧ Context.refusal? name value = none := by
  simp [Context.barredNames, refusal?_eq_none_iff]

/-- A call fails by a barred name alone. -/
theorem annotate_eq_ok_iff :
    failure.annotate fields = .ok last ↔
      (∀ field ∈ fields, field.1 ∉ Context.barredNames) ∧ failure.withContext fields = last := by
  have free : (∀ field ∈ fields, field.1 ∉ Context.barredNames) ↔
      (fields.any fun field => field.1 == Context.receiverName) = false ∧
        (fields.findSome? fun field => Context.refusal? field.1 field.2) = none := by
    rw [List.any_eq_false, List.findSome?_eq_none_iff, ← forall₂_and]
    exact forall₂_congr fun field _ => not_mem_barredNames_iff
  rw [free, annotate]
  cases (fields.any fun field => field.1 == Context.receiverName) with
  | true => simp
  | false =>
      cases (fields.findSome? fun field => Context.refusal? field.1 field.2) <;> simp

theorem annotateAll_eq_ok_iff :
    failure.annotateAll calls = .ok last ↔
      (∀ field ∈ calls.flatten, field.1 ∉ Context.barredNames) ∧
        failure.withContext calls.flatten = last := by
  induction calls generalizing failure with
  | nil => simp [annotateAll, withContext, pure, Except.pure]
  | cons fields rest ih =>
      have both : failure.withContext (fields ++ rest.flatten) =
          (failure.withContext fields).withContext rest.flatten := by
        simp only [withContext, Context.extend_append]
      have step : failure.annotateAll (fields :: rest) = .ok last ↔
          ∃ middle, failure.annotate fields = .ok middle ∧ middle.annotateAll rest = .ok last := by
        rw [annotateAll, List.foldlM_cons]
        cases failure.annotate fields <;> simp [annotateAll, bind, Except.bind]
      simp only [step, annotate_eq_ok_iff, ih, List.flatten_cons, both, List.forall_mem_append]
      constructor
      · rintro ⟨_, ⟨first, rfl⟩, others, rfl⟩
        exact ⟨⟨first, others⟩, rfl⟩
      · rintro ⟨⟨first, others⟩, rfl⟩
        exact ⟨_, ⟨first, rfl⟩, others, rfl⟩

/-! ## The record -/

/-- A failure after calls that have given its context fields: nothing but its context is another,
and it can be reported.  The report has the last value of every name that has been given one, except
for `null` as the value of a named field, and what it had for all other names. -/
structure Records (last failure : Failure) (given : List (String × Value)) : Prop where
  frame : last = { failure with context := last.context }
  recorded : ∃ report, last.report = .ok report ∧
    (∀ name value, lastGiven? name given = some value →
      Value.lookup name (contextOf report) = Context.shown name value) ∧
    untouched given (contextOf report) = untouched given failure.context.fields

/-- A failure records what it is given by calls if and only if its context accepts the last value
of each name. -/
theorem annotateAll_records_iff (intact : failure.context.IsIntact) :
    (∃ last, failure.annotateAll calls = .ok last ∧ last.Records failure calls.flatten) ↔
      ∀ name value, lastGiven? name calls.flatten = some value →
        failure.context.Accepts name value := by
  constructor
  · rintro ⟨last, done, -, report, reported, recorded, -⟩ name value known
    obtain ⟨allowed, rfl⟩ := annotateAll_eq_ok_iff.mp done
    obtain ⟨visible, same⟩ := contextOf_report reported
    have free : name ∉ Context.barredNames := by
      obtain ⟨field, member, rfl⟩ := mem_of_lastGiven? known
      exact allowed field member
    have shows : name ≠ Context.summaryName := by
      rintro rfl
      have extended := @Context.summary_extend calls.flatten failure.context
      rw [known] at extended
      cases visible.symm.trans extended
    apply (Context.lookup_fields_extend_eq_iff intact known free shows).mp
    exact same ▸ recorded name value known
  · intro accepted
    have allowed : ∀ field ∈ calls.flatten, field.1 ∉ Context.barredNames := by
      intro field member
      obtain ⟨value, known⟩ := lastGiven?_of_mem member
      exact (accepted field.1 value known).not_barred
    have unhidden : lastGiven? Context.summaryName calls.flatten = none := by
      by_contra hidden
      obtain ⟨value, known⟩ := Option.ne_none_iff_exists'.mp hidden
      exact (accepted _ value known).ne_summaryName rfl
    have visible : (failure.withContext calls.flatten).context.summary = none :=
      (Context.summary_extend failure.context).trans
        (Option.or_eq_none_iff.mpr ⟨unhidden, intact.visible⟩)
    obtain ⟨report, reported⟩ := report_eq_ok visible
    have same := (contextOf_report reported).2
    refine ⟨_, annotateAll_eq_ok_iff.mpr ⟨allowed, rfl⟩, rfl, report, reported, ?_, ?_⟩
    · intro name value known
      rw [same]
      have accepts := accepted name value known
      exact (Context.lookup_fields_extend_eq_iff intact known accepts.not_barred
        accepts.ne_summaryName).mpr accepts
    · rw [same]
      exact Context.untouched_fields_extend _ _

/-- Calls that count an attempt twice and take an image back. -/
def attempts : List (List (String × Value)) :=
  [[("attempt", .int 1), ("engine", .text "lint")], [("image", .null), ("attempt", .int 2)]]

theorem attempts_areRecorded :
    (imagePull (.text "app")).context.IsIntact ∧
      ∃ last, (imagePull (.text "app")).annotateAll attempts = .ok last ∧
        last.Records (imagePull (.text "app")) attempts.flatten := by
  have intact : (imagePull (.text "app")).context.IsIntact :=
    isIntact_ofArguments .imagePull [.text "app"]
  have foreign : ∀ field ∈ attempts.flatten, field.1 ∉ Context.partNames := by decide
  refine ⟨intact, (annotateAll_records_iff intact).mpr fun name value known => ?_⟩
  obtain ⟨field, member, rfl⟩ := mem_of_lastGiven? known
  exact Context.accepts_of_unhidden (fun _ _ => rfl) (foreign field member) value

/-- A failure with a further field that stands over its engine. -/
def overridden : Failure :=
  ofKind .general "m" { engine := .text "a", further := [(.text "engine", .text "b")] }

/-- What is given under the name of the summary cannot be reported; what is given to a named field
that a further one stands over is not. -/
theorem hidden_areNotRecorded :
    (¬∃ last, (runtimeUnavailable "m").annotateAll [[(Context.summaryName, .text "x")]] = .ok last ∧
      last.Records (runtimeUnavailable "m") [(Context.summaryName, .text "x")]) ∧
    ¬∃ last, overridden.annotateAll [[("engine", .text "c")]] = .ok last ∧
      last.Records overridden [("engine", .text "c")] := by
  constructor
  · rintro ⟨last, done, -, report, reported, -⟩
    cases done
    cases reported
  · rintro ⟨last, done, -, report, reported, recorded, -⟩
    cases done
    have wrong := recorded "engine" (.text "c") rfl
    have apart : Value.AreApart [(Value.text "engine", Value.text "b")] :=
      List.pairwise_singleton _ _
    rw [(contextOf_report reported).2, Context.lookup_fields apart] at wrong
    simp [overridden, withContext, Context.extend_cons, Context.assign, ofKind, Value.lookup_cons,
      Value.sameKey_text_iff, Context.shown, Context.fieldNames, Context.orAbsent] at wrong

end Failure

end AnalysisEngines
