import ToolFlow.Log.Record
import ToolFlow.Proofs.Calendar
import ToolFlow.Proofs.Except
import ToolFlow.Proofs.Json.OneLine

/-!
# Records as lines

A record whose extras are data is written on one line, if it was made at a time within the calendar,
as it is by any clock. The line reads as an object with nothing but the parts of the record
(`Record.standsOnOneLine`). What is attached under the name of such a part is an extra like any
other: extras are shown in an object of their own.

The statement is about plain records (`Record.IsPlain`). Their parts are texts, they carry no error,
and their extras are values that are data. Of these the context is said by value: a name has a value
in it exactly when it is an extra and the value is attached under it (`IsPlain.mem_context_iff`).
What is attached under a hidden name may be anything, phases of a run and entities included, since
none of it is looked at. Names that every record has are hidden, and so are those that start with an
underscore (`IsExtra`).

## Main definitions

* `IsInCalendar`: the times that have a date, from year 1 to year 9999.
* `Record.HasMessage`: what a record says, with its arguments filled in if it has any.
* `Record.entry`: what a line reads as. The context is left out when it is empty.

## Main results

* `exists_momentOf_eq_ok_iff`: a time has a date exactly when it is in the calendar.
* `Record.IsPlain.line_eq`, `Record.IsPlain.decode?_line`: a line, and what it reads as.
* `Record.standsOnOneLine`: that a line can be had, stands on one line, and reads as the record.
* `Record.standsOnOneLine_delivery`: a record of which nearly everything needs escaping, with its
  context.
-/

namespace ToolFlow.Log

/-! ### Times -/

/-- A time from the start of year 1 to the end of year 9999, in microseconds since the start of
1970. -/
def IsInCalendar (micros : Int) : Prop :=
  -62135596800000000 ≤ micros ∧ micros < 253402300800000000

instance (micros : Int) : Decidable (IsInCalendar micros) :=
  inferInstanceAs (Decidable (_ ∧ _))

/-- Years of one to four digits can be written. -/
theorem yearProblem?_eq_none_iff {year : Int} :
    yearProblem? year = none ↔ 1 ≤ year ∧ year ≤ 9999 := by
  rw [yearProblem?]
  split_ifs with hword hyear
  · exact ⟨False.elim, fun h ↦ by omega⟩
  · exact ⟨False.elim, fun h ↦ by omega⟩
  · exact ⟨fun _ ↦ by omega, fun _ ↦ rfl⟩

/-- The year of a day has at most four digits up to the last day of year 9999. Days are counted in
cycles of four hundred years. -/
theorem year_bounds_iff {day year : Int}
    (hyear : year = (Calendar.ofDayNumber (day % daysInCycle).toNat).year +
      400 * (day / daysInCycle)) : 1 ≤ year ∧ year ≤ 9999 ↔ 0 ≤ day ∧ day < 3652059 := by
  have hdays : daysInCycle = 146097 := rfl
  rw [hdays] at hyear
  obtain ⟨hpos, hstart, hend⟩ := Calendar.daysBeforeYear_year_ofDayNumber (day % 146097).toNat
  generalize (Calendar.ofDayNumber (day % 146097).toNat).year = y at *
  have hcycle : Calendar.daysBeforeYear 401 = 146097 := by decide
  have hlast : Calendar.daysBeforeYear 400 = 145731 := by decide
  have hle : y < 401 := Calendar.daysBeforeYear_mono.reflect_lt (by omega)
  rcases Nat.lt_or_ge y 400 with hlt | hge
  · have := Calendar.daysBeforeYear_mono (show y + 1 ≤ 400 from hlt)
    omega
  · -- the last year of a cycle starts where the range ends in its last cycle
    obtain rfl : y = 400 := by omega
    omega

/-- **A time has a moment exactly when** its year has four digits. -/
theorem exists_momentOf_eq_ok_iff {micros : Int} :
    (∃ moment, momentOf micros = .ok moment) ↔ IsInCalendar micros := by
  have hday : IsInCalendar micros ↔
      0 ≤ epochDay + micros / microsPerDay ∧ epochDay + micros / microsPerDay < 3652059 := by
    have hepoch : epochDay = 719162 := by decide
    have hmicros : (microsPerDay : Int) = 86400000000 := by decide
    rw [IsInCalendar, hepoch, hmicros]
    omega
  rw [hday, ← year_bounds_iff rfl, ← yearProblem?_eq_none_iff, momentOf]
  split
  · next problem => simp [problem]
  · next problem => simp [problem]

/-! ### Extras -/

/-- A name for what a caller adds to a record: none of the names that every record has, and none
that starts with an underscore. -/
def IsExtra (name : String) : Prop :=
  name ∉ ownNames ∧ name.toList.head? ≠ some '_'

instance (name : String) : Decidable (IsExtra name) :=
  inferInstanceAs (Decidable (_ ∧ _))

/-- Extras are what is shown. -/
theorem isShown_iff {name : String} : isShown name = true ↔ IsExtra name := by
  have hunderscore : "_".isPrefixOf name = true ↔ name.toList.head? = some '_' := by
    rw [String.isPrefixOf, String.startsWith_string_iff]
    show ['_'] <+: name.toList ↔ _
    cases name.toList with
    | nil => simp
    | cons c cs => simp [List.cons_prefix_cons, eq_comm]
  have hown : ownNames.contains name = true ↔ name ∈ ownNames := by simp
  rw [isShown, Bool.and_eq_true, Bool.not_eq_true', Bool.not_eq_true', ← Bool.not_eq_true,
    ← Bool.not_eq_true, hown, hunderscore]
  rfl

namespace Record

variable {record : Record} {context : Fields}

/-- The context has the extras, each under its name, and nothing else. -/
theorem mem_context_iff (h : record.context = .ok context) {name : String} {v : Value} :
    (name, v) ∈ context ↔
      IsExtra name ∧ ∃ a, (name, a) ∈ record.attached ∧ a.data = .ok v := by
  have hfield {field : String × Attachment} :
      (field.2.data.map fun v ↦ (field.1, v)) = .ok (name, v) ↔
        field.1 = name ∧ field.2.data = .ok v := by
    rw [Except.map_eq_ok_iff]
    constructor
    · rintro ⟨w, hw, heq⟩
      obtain ⟨hname, rfl⟩ := Prod.mk.inj heq
      exact ⟨hname, hw⟩
    · rintro ⟨rfl, hv⟩
      exact ⟨v, hv, rfl⟩
  rw [Except.mem_iff_of_mapM_eq_ok h]
  constructor
  · rintro ⟨field, hmem, hv⟩
    obtain ⟨rfl, hdata⟩ := hfield.1 hv
    obtain ⟨hattached, hshown⟩ := List.mem_filter.1 hmem
    exact ⟨isShown_iff.1 hshown, field.2, hattached, hdata⟩
  · rintro ⟨hextra, a, hattached, hdata⟩
    exact ⟨(name, a), List.mem_filter.2 ⟨hattached, isShown_iff.2 hextra⟩, hfield.2 ⟨rfl, hdata⟩⟩

/-- Names that are attached once are once in the context. -/
theorem nodup_context (h : record.context = .ok context)
    (hnames : (record.attached.map Prod.fst).Nodup) : (context.map Prod.fst).Nodup := by
  have hsame : (record.attached.filter fun field ↦ isShown field.1).map Prod.fst =
      context.map Prod.fst := by
    refine Except.map_eq_map_of_mapM_eq_ok (fun field shown hshown ↦ ?_) h
    obtain ⟨v, -, rfl⟩ := Except.map_eq_ok_iff.1 hshown
    rfl
  rw [← hsame]
  exact hnames.sublist (List.filter_sublist.map Prod.fst)

/-! ### Lines -/

/-- What a record says: its message if it has no arguments, and else the message with the
arguments in their places. -/
inductive HasMessage (record : Record) : String → Prop
  | plain {message : String} (message_eq : record.message = .text message)
      (args_eq : record.args.left = []) : HasMessage record message
  | filled {template message : String} (message_eq : record.message = .text template)
      (args_ne : record.args.left ≠ []) (fill_eq : Text.fill template record.args = .ok message) :
      HasMessage record message

/-- What a record says is its text. -/
theorem HasMessage.text_eq {message : String} (h : record.HasMessage message) :
    record.text = .ok message := by
  cases h with
  | plain hmessage hargs =>
    rw [text, hargs, List.isEmpty_nil, if_pos rfl, hmessage]
    rfl
  | @filled template _ hmessage hargs hfill =>
    have hdisplay : (Value.text template).display = template := rfl
    rw [text, hmessage, hdisplay, List.isEmpty_eq_false_iff.2 hargs, if_neg Bool.false_ne_true,
      hfill]

/-- The moment at which a record was made. -/
def IsMadeAt (record : Record) (moment : Moment) : Prop :=
  ∃ micros, microseconds record.created = .ok micros ∧ momentOf micros = .ok moment

/-- A record that was made at a time within the calendar. -/
def IsDatable (record : Record) : Prop :=
  ∃ micros, microseconds record.created = .ok micros ∧ IsInCalendar micros

/-- A record has a moment exactly when its time is in the calendar. -/
theorem exists_isMadeAt_iff : (∃ moment, record.IsMadeAt moment) ↔ record.IsDatable := by
  constructor
  · rintro ⟨moment, micros, hmicros, hmoment⟩
    exact ⟨micros, hmicros, exists_momentOf_eq_ok_iff.1 ⟨moment, hmoment⟩⟩
  · rintro ⟨micros, hmicros, hcalendar⟩
    obtain ⟨moment, hmoment⟩ := exists_momentOf_eq_ok_iff.2 hcalendar
    exact ⟨moment, micros, hmicros, hmoment⟩

/-- Only what was made at some moment is written. -/
theorem exists_isMadeAt_of_line {text : String} (h : record.line = .ok text) :
    ∃ moment, record.IsMadeAt moment := by
  obtain ⟨_, hdata, -⟩ := Except.map_eq_ok_iff.1 h
  obtain ⟨micros, hmicros, hrest⟩ := Except.bind_eq_ok_iff.1 hdata
  obtain ⟨moment, hmoment, -⟩ := Except.bind_eq_ok_iff.1 hrest
  exact ⟨moment, micros, hmicros, hmoment⟩

/-- A record with texts for its parts and without an error, whose extras are values that are data.
What is attached under other names may be anything. -/
structure IsPlain (record : Record) (level logger message : String) : Prop where
  level_eq : record.level = .text level
  logger_eq : record.logger = .text logger
  hasMessage : record.HasMessage message
  error_eq : record.error = .ok none
  nodup : (record.attached.map Prod.fst).Nodup
  extras : ∀ field ∈ record.attached, IsExtra field.1 →
    ∃ v, field.2 = .value v ∧ v.IsData Number.IsBrief

/-- What the line of such a record reads as. -/
def entry (moment : Moment) (level logger message : String) (context : Fields) : Fields :=
  [("ts", .text (stamp moment)), ("level", .text level), ("logger", .text logger),
    ("message", .text message)] ++ if context = [] then [] else [("context", .object context)]

/-- An entry is data when its context is. -/
theorem isData_entry {moment : Moment} {level logger message : String}
    (h : (Value.object context).IsData Number.IsBrief) :
    (Value.object (entry moment level logger message context)).IsData Number.IsBrief := by
  rw [Value.isData_object_iff, entry]
  split
  · have hnames : ["ts", "level", "logger", "message"].Nodup := by decide
    exact ⟨hnames, by simp⟩
  · have hnames : ["ts", "level", "logger", "message", "context"].Nodup := by decide
    exact ⟨hnames, by simp [h]⟩

/-- An entry has one context. -/
theorem context_eq_of_entry_eq {moment : Moment} {level logger message : String}
    {context' : Fields} (h : entry moment level logger message context =
      entry moment level logger message context') : context = context' := by
  have hshown := List.append_cancel_left h
  split_ifs at hshown with hempty hempty' hempty'
  · rw [hempty, hempty']
  · simpa using hshown

variable {level logger message : String}

/-- **The context of such a record has the values of its extras**, each under its name, and nothing
else. -/
theorem IsPlain.mem_context_iff (h : record.IsPlain level logger message)
    (hcontext : record.context = .ok context) {name : String} {v : Value} :
    (name, v) ∈ context ↔ IsExtra name ∧ (name, Attachment.value v) ∈ record.attached := by
  rw [Record.mem_context_iff hcontext]
  constructor
  · rintro ⟨hextra, a, hattached, hdata⟩
    obtain ⟨w, rfl, -⟩ := h.extras (name, a) hattached hextra
    obtain rfl : w = v := Except.ok.inj hdata
    exact ⟨hextra, hattached⟩
  · rintro ⟨hextra, hattached⟩
    exact ⟨hextra, .value v, hattached, rfl⟩

/-- The extras of such a record come to data. -/
theorem IsPlain.exists_context_eq_ok (h : record.IsPlain level logger message) :
    ∃ context, record.context = .ok context ∧
      (Value.object context).IsData Number.IsBrief := by
  obtain ⟨context, hcontext⟩ : ∃ context, record.context = .ok context := by
    refine Except.exists_mapM_eq_ok_iff.2 fun field hfield ↦ ?_
    obtain ⟨hattached, hshown⟩ := List.mem_filter.1 hfield
    obtain ⟨v, hv, -⟩ := h.extras field hattached (isShown_iff.1 hshown)
    exact ⟨(field.1, v), Except.map_eq_ok_iff.2 ⟨v, by rw [hv]; rfl, rfl⟩⟩
  refine ⟨context, hcontext, Value.isData_object_iff.2 ⟨nodup_context hcontext h.nodup, ?_⟩⟩
  rintro ⟨name, v⟩ hmem
  obtain ⟨hextra, hattached⟩ := (h.mem_context_iff hcontext).1 hmem
  obtain ⟨w, hw, hdata⟩ := h.extras (name, .value v) hattached hextra
  obtain rfl : v = w := Attachment.value.inj hw
  exact hdata

/-- Such a record is written as its entry. -/
theorem IsPlain.line_eq (h : record.IsPlain level logger message) {moment : Moment}
    (hmoment : record.IsMadeAt moment) (hcontext : record.context = .ok context) :
    record.line =
      .ok (Json.encodeReadable none (.object (entry moment level logger message context))) := by
  obtain ⟨micros, hmicros, hmoment⟩ := hmoment
  have hdata : record.data = .ok (.object (entry moment level logger message context)) := by
    refine Except.bind_eq_ok_iff.2 ⟨micros, hmicros, ?_⟩
    refine Except.bind_eq_ok_iff.2 ⟨moment, hmoment, ?_⟩
    refine Except.bind_eq_ok_iff.2 ⟨message, h.hasMessage.text_eq, ?_⟩
    refine Except.bind_eq_ok_iff.2 ⟨context, hcontext, ?_⟩
    refine Except.bind_eq_ok_iff.2 ⟨none, h.error_eq, ?_⟩
    rw [h.level_eq, h.logger_eq, entry]
    cases context <;> rfl
  rw [line, hdata]
  rfl

/-- Such a record reads back as its entry. -/
theorem IsPlain.decode?_line (h : record.IsPlain level logger message) {moment : Moment}
    {text : String} (hmoment : record.IsMadeAt moment) (hcontext : record.context = .ok context)
    (hdata : (Value.object context).IsData Number.IsBrief) (hline : record.line = .ok text) :
    Json.decode? text = some (.object (entry moment level logger message context)) := by
  obtain rfl := Except.ok.inj ((h.line_eq hmoment hcontext).symm.trans hline)
  exact Json.decode?_write (isData_entry hdata)

/-- **Records stand on one line** that reads as an object of their parts and their extras. They are
written whenever they were made at a time within the calendar. -/
theorem standsOnOneLine (record : Record) (level logger message : String)
    (h : record.IsPlain level logger message) :
    ((∃ text, record.line = .ok text) ↔ record.IsDatable) ∧
      ∀ text, record.line = .ok text →
        '\n' ∉ text.toList ∧ '\r' ∉ text.toList ∧ ∃ moment context, record.IsMadeAt moment ∧
          Json.decode? text = some (.object (entry moment level logger message context)) ∧
          (context.map Prod.fst).Nodup ∧
          ∀ name v, (name, v) ∈ context ↔
            IsExtra name ∧ (name, Attachment.value v) ∈ record.attached := by
  obtain ⟨context, hcontext, hdata⟩ := h.exists_context_eq_ok
  rw [← exists_isMadeAt_iff]
  refine ⟨⟨fun ⟨_, hline⟩ ↦ exists_isMadeAt_of_line hline,
    fun ⟨_, hmoment⟩ ↦ ⟨_, h.line_eq hmoment hcontext⟩⟩, fun text hline ↦ ?_⟩
  obtain ⟨moment, hmoment⟩ := exists_isMadeAt_of_line hline
  have hdecoded := h.decode?_line hmoment hcontext hdata hline
  obtain rfl := Except.ok.inj ((h.line_eq hmoment hcontext).symm.trans hline)
  have hvisible : Json.HasNoControls
      (Json.encodeReadable none (.object (entry moment level logger message context))).toList :=
    Json.hasNoControls_write rfl (isData_entry hdata)
  exact ⟨hvisible.not_mem (by decide), hvisible.not_mem (by decide), moment, context, hmoment,
    hdecoded, nodup_context hcontext h.nodup, fun _ _ ↦ h.mem_context_iff hcontext⟩

/-- A record with ends of lines, marks and control codes in its message and its extras, with extras
under the names of parts of a line, and with something hidden. -/
def ofDelivery : Record where
  logger := .text "depot.\"gate\""
  level := .text "INFO"
  message := .text "first line\nsecond\r\n\tthird \\ \x00 \u2028 é"
  created := .number (.float (.ofRatio false 6816658581 4))
  attached := [("level", .value (.text "ERROR\n")), ("lineno", .value .missing),
    ("order\n\"1\"", .value (.object [("", .list [.null, .bool true, .number (.int (-12))]),
      ("\\n", .text "\n")])), ("_secret", .value (.entity 1 [])), ("_phase", .phase .starting)]

/-- What the line of the delivery has for its context. -/
def deliveryContext : Fields :=
  [("level", .text "ERROR\n"),
    ("order\n\"1\"", .object [("", .list [.null, .bool true, .number (.int (-12))]),
      ("\\n", .text "\n")])]

/-- The delivery is written on one line, and this line reads as the parts of the record, none of
them replaced, and a context of the two extras that are shown. -/
theorem standsOnOneLine_delivery :
    let message := "first line\nsecond\r\n\tthird \\ \x00 \u2028 é"
    ofDelivery.IsPlain "INFO" "depot.\"gate\"" message ∧ ofDelivery.IsDatable ∧
      ∃ text, ofDelivery.line = .ok text ∧ '\n' ∉ text.toList ∧ '\r' ∉ text.toList ∧
        ∃ moment context, ofDelivery.IsMadeAt moment ∧
          Json.decode? text =
            some (.object (entry moment "INFO" "depot.\"gate\"" message context)) ∧
          (context.map Prod.fst).Nodup ∧
          (∀ name v, (name, v) ∈ context ↔
            IsExtra name ∧ (name, Attachment.value v) ∈ ofDelivery.attached) ∧
          context = deliveryContext := by
  intro message
  have hbrief : (Number.int (-12)).IsBrief :=
    Nat.lt_of_lt_of_le (by decide : 12 < 10 ^ 2)
      (Nat.pow_le_pow_right (by decide) (by decide : 2 ≤ Text.digitLimit))
  have hlevel : (Value.text "ERROR\n").IsData Number.IsBrief := by simp
  have horder : (Value.object [("", .list [.null, .bool true, .number (.int (-12))]),
      ("\\n", .text "\n")]).IsData Number.IsBrief := by
    simp [Value.isData_object_iff, Value.isData_list_iff, hbrief]
  have hline : ¬IsExtra "lineno" := by decide +kernel
  have hsecret : ¬IsExtra "_secret" := by decide +kernel
  have hphase : ¬IsExtra "_phase" := by decide +kernel
  have hplain : ofDelivery.IsPlain "INFO" "depot.\"gate\"" message := by
    refine ⟨rfl, rfl, .plain rfl rfl, rfl, by decide +kernel, ?_⟩
    simp only [ofDelivery, List.forall_mem_cons]
    exact ⟨fun _ ↦ ⟨_, rfl, hlevel⟩, fun h ↦ absurd h hline, fun _ ↦ ⟨_, rfl, horder⟩,
      fun h ↦ absurd h hsecret, fun h ↦ absurd h hphase, by simp⟩
  have hdatable : ofDelivery.IsDatable :=
    ⟨1704164645250000, by decide +kernel, by decide⟩
  obtain ⟨hwritten, hreads⟩ := standsOnOneLine _ _ _ _ hplain
  obtain ⟨text, htext⟩ := hwritten.2 hdatable
  obtain ⟨hfeed, hreturn, moment, context, hmoment, hdecoded, hnodup, hmem⟩ := hreads text htext
  have hcontext : ofDelivery.context = .ok deliveryContext := by
    have hshown : isShown "level" = true ∧ isShown "order\n\"1\"" = true := by decide +kernel
    have hhidden : isShown "lineno" = false ∧ isShown "_secret" = false ∧
        isShown "_phase" = false := by decide +kernel
    simp only [Record.context, ofDelivery, List.filter, hshown, hhidden]
    rfl
  have hdata : (Value.object deliveryContext).IsData Number.IsBrief := by
    refine Value.isData_object_iff.2 ⟨by decide, ?_⟩
    simp only [deliveryContext, List.forall_mem_cons]
    exact ⟨hlevel, horder, by simp⟩
  have hentry := hdecoded.symm.trans (hplain.decode?_line hmoment hcontext hdata htext)
  exact ⟨hplain, hdatable, text, htext, hfeed, hreturn, moment, context, hmoment, hdecoded, hnodup,
    hmem, context_eq_of_entry_eq (Value.object.inj (Option.some.inj hentry))⟩

end Record

end ToolFlow.Log
