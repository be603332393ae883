import Flowline.Flow.State
import Flowline.Log.Line
import Flowline.Proofs.Json.RoundTrip

/-!
Records as lines of JSON. A record is one line, whatever characters its texts have, and reading the line
gives back its level, its logger, its thread, its message and its extra fields.
-/

namespace Flowline.Log

/-! ## Timestamps -/

namespace Timestamp

/-- The first second of year 1 and the last one of year 9999. -/
def firstSecond : Int := -62135596800

def lastSecond : Int := 253402300799

theorem bounds_eq : firstSecond = -62135596800 ∧ lastSecond = 253402300799 := ⟨rfl, rfl⟩

/-- A number of seconds from the start of year 1 to the last second of year 9999. -/
structure IsDated (x : Binary64) : Prop where
  finite : x.isFinite = true
  first : firstSecond * Binary64.unitsPerOne ≤ x.signedUnits
  last : x.signedUnits ≤ lastSecond * Binary64.unitsPerOne

/-- The days of the years 1 to 9999. -/
theorem civilDay_year {days : Int} (hFirst : -719162 ≤ days) (hLast : days ≤ 2932896) :
    1 ≤ (Calendar.civilDay days).1 ∧ (Calendar.civilDay days).1 ≤ 9999 := by
  have hEra : Int.fdiv (days + 719468) 146097 = (days + 719468) / 146097 :=
    Int.fdiv_eq_ediv_of_nonneg _ (by decide)
  simp only [Calendar.civilDay, hEra]
  generalize hDay : (days + 719468 - (days + 719468) / 146097 * 146097).toNat = dayOfEra
  generalize hYear : (dayOfEra - dayOfEra / 1460 + dayOfEra / 36524 - dayOfEra / 146096) / 365 =
    yearOfEra
  split <;> omega

/-- Microseconds carry at most one second. -/
theorem carried_cases (seconds microseconds : Int) :
    (carried seconds microseconds).1 = seconds ∨
      microseconds ≠ 0 ∧ ((carried seconds microseconds).1 = seconds + 1 ∨
        (carried seconds microseconds).1 = seconds - 1) := by
  rw [carried]
  split
  · rename_i hMany
    refine .inr ⟨?_, .inl rfl⟩
    rintro rfl
    exact absurd hMany (by decide)
  · split
    · rename_i hBefore
      exact .inr ⟨Int.ne_of_lt hBefore, .inr rfl⟩
    · exact .inl rfl

/-- A whole number of seconds has no microseconds. -/
theorem nearest_fraction_of_whole {x : Binary64} (h : x.units % Binary64.unitsPerOne = 0) :
    nearest (x.fraction * .ofInt microsecondsPerSecond) = 0 := by
  have hNone : ∀ negative,
      nearest (Binary64.ofUnits negative 0 1 * .ofInt microsecondsPerSecond) = 0 := by
    decide +kernel
  rw [Binary64.fraction, h]
  exact hNone _

/-- A quotient is no greater than the limit, and less than it unless the division is exact. -/
theorem div_le_and_lt {units unit limit : Nat} (h : units ≤ limit * unit) :
    units / unit ≤ limit ∧ (units % unit ≠ 0 → units / unit < limit) := by
  rw [Nat.mul_comm] at h
  refine ⟨Nat.div_le_of_le_mul h, fun hRest => Nat.lt_of_le_of_ne (Nat.div_le_of_le_mul h) ?_⟩
  intro hSame
  have hSplit := Nat.div_add_mod units unit
  rw [hSame] at hSplit
  omega

/-- The whole seconds of a time within the years of dates; only a time with a fraction can carry. -/
theorem truncate?_of_isDated {x : Binary64} (h : IsDated x) : ∃ whole,
    x.truncate? = some whole ∧ firstSecond ≤ whole ∧ whole ≤ lastSecond ∧
      (x.units % Binary64.unitsPerOne ≠ 0 → firstSecond < whole ∧ whole < lastSecond) := by
  obtain ⟨hFinite, hFirst, hLast⟩ := h
  rw [bounds_eq.1] at hFirst ⊢
  rw [bounds_eq.2] at hLast ⊢
  cases x with
  | nan => cases hFinite
  | infinite negative => cases hFinite
  | finite negative significand exponent canonical =>
      rw [Binary64.signedUnits] at hFirst hLast
      rw [Binary64.truncate?]
      generalize (Binary64.finite negative significand exponent canonical).units = units at *
      refine ⟨_, rfl, ?_⟩
      rw [← Int.natCast_ediv]
      cases negative with
      | false =>
          change (units : Int) ≤ _ at hLast
          have hUnits : units ≤ 253402300799 * Binary64.unitsPerOne := by omega
          obtain ⟨hLimit, hInside⟩ := div_le_and_lt hUnits
          rw [if_neg Bool.false_ne_true]
          generalize units / Binary64.unitsPerOne = whole at hLimit hInside ⊢
          generalize units % Binary64.unitsPerOne = part at hInside ⊢
          omega
      | true =>
          change _ ≤ -(units : Int) at hFirst
          have hUnits : units ≤ 62135596800 * Binary64.unitsPerOne := by omega
          obtain ⟨hLimit, hInside⟩ := div_le_and_lt hUnits
          rw [if_pos rfl]
          generalize units / Binary64.unitsPerOne = whole at hLimit hInside ⊢
          generalize units % Binary64.unitsPerOne = part at hInside ⊢
          omega

/-- The seconds of a time within the years of dates are within them too. -/
theorem ofReal_of_isDated {x : Binary64} (h : IsDated x) : ∃ seconds microsecond,
    ofReal x = .ok (seconds, microsecond) ∧ firstSecond ≤ seconds ∧ seconds ≤ lastSecond := by
  obtain ⟨whole, hTruncate, hFirst, hLast, hInside⟩ := truncate?_of_isDated h
  have hNumber : x.isNaN = false := by
    have hFinite := h.finite
    cases x <;> first | rfl | cases hFinite
  generalize hMicro : nearest (x.fraction * .ofInt microsecondsPerSecond) = microseconds
  have hSeconds : firstSecond ≤ (carried whole microseconds).1 ∧
      (carried whole microseconds).1 ≤ lastSecond := by
    rcases carried_cases whole microseconds with hSame | ⟨hSome, hNext⟩
    · omega
    · have hFraction : x.units % Binary64.unitsPerOne ≠ 0 := by
        intro hWhole
        exact hSome (hMicro.symm.trans (nearest_fraction_of_whole hWhole))
      have hWithin := hInside hFraction
      omega
  have hClock : isClockTime (carried whole microseconds).1 = true := by
    have hBounds := bounds_eq
    have hRange : (Number.twoTo 63 : Int) = 9223372036854775808 := rfl
    rw [isClockTime, Bool.and_eq_true, decide_eq_true_iff, decide_eq_true_iff, hRange]
    omega
  refine ⟨_, (carried whole microseconds).2, ?_, hSeconds⟩
  rw [ofReal, hNumber, hTruncate]
  dsimp only
  rw [hMicro, if_neg Bool.false_ne_true, if_pos hClock]

/-- A time within the years of dates has a text. -/
theorem text_of_isDated {x : Binary64} (h : IsDated x) : ∃ shown, text (.real x) = .ok shown := by
  obtain ⟨seconds, microsecond, hReal, hFirst, hLast⟩ := ofReal_of_isDated h
  have hBounds := bounds_eq
  have hDays : Int.fdiv seconds 86400 = seconds / 86400 :=
    Int.fdiv_eq_ediv_of_nonneg _ (by decide)
  have hFirstDay : -719162 ≤ Int.fdiv seconds 86400 := by omega
  obtain ⟨hYear, hMost⟩ := civilDay_year hFirstDay (by omega)
  have hClock : isClockYear (Calendar.civilDay (Int.fdiv seconds 86400)).1 = true := by
    have hRange : (Number.twoTo 31 : Int) = 2147483648 := rfl
    rw [isClockYear, Bool.and_eq_true, decide_eq_true_iff, decide_eq_true_iff, hRange]
    omega
  have hMoment : Calendar.Moment.ofEpoch? seconds microsecond =
      .ok (.ofEpoch seconds microsecond) := by
    rw [Calendar.Moment.ofEpoch?, if_neg]
    rw [Bool.or_eq_true, decide_eq_true_iff, decide_eq_true_iff]
    omega
  refine ⟨(Calendar.Moment.ofEpoch seconds microsecond).text "T", ?_⟩
  rw [text, ofValue, hReal]
  dsimp only [bind, Except.bind]
  rw [hClock, hMoment]
  rfl

end Timestamp

/-! ## Records -/

namespace Record

/-- A record as it is logged: its attributes have different names, it was made at a time of a clock, its
level, logger, thread and message are texts, and its extra fields are plain. -/
structure Loggable (r : Record) (level logger thread message : String) : Prop where
  distinct : (r.attributes.map Prod.fst).Nodup
  created : ∃ x, r.value "created" = .real x ∧ Timestamp.IsDated x
  level : r.value "levelname" = .text level
  logger : r.value "name" = .text logger
  thread : r.value "threadName" = .text thread
  message : r.message = .ok message
  plain : ∀ a ∈ r.extra, Json.Plain a.2

variable {r : Record} {level logger thread message timestamp : String}

theorem isExtraName_iff {name : String} :
    isExtraName name = true ↔ name ∉ standardNames ∧ name.toList.head? ≠ some '_' := by
  simp [isExtraName]

theorem mem_extra {a : String × Value} :
    a ∈ r.extra ↔ a ∈ r.attributes ∧ a.1 ∉ standardNames ∧ a.1.toList.head? ≠ some '_' := by
  rw [extra, List.mem_filter, isExtraName_iff]

theorem nodup_extra (h : (r.attributes.map Prod.fst).Nodup) : (r.extra.map Prod.fst).Nodup :=
  h.sublist (List.filter_sublist.map Prod.fst)

/-- The members of a record have different names. -/
theorem nodup_members (r : Record) (timestamp message : String) :
    ((r.members timestamp message).map Prod.fst).Nodup := by
  rw [members]
  cases r.extra.isEmpty <;> cases r.error <;> simp

theorem plain_members (h : r.Loggable level logger thread message) :
    ∀ member ∈ r.members timestamp message, Json.Plain member.2 := by
  have hExtra : Json.Plain (.map (Entries.ofFields r.extra)) := .map (nodup_extra h.distinct) h.plain
  rw [members, h.level, h.logger, h.thread]
  simp only [List.forall_mem_append, List.forall_mem_cons, List.not_mem_nil, false_imp_iff,
    implies_true, and_true]
  refine ⟨⟨⟨.text _, .text _, .text _, .text _, .text _⟩, ?_⟩, ?_⟩
  · split
    · exact List.forall_mem_nil _
    · exact List.forall_mem_singleton.mpr hExtra
  · split
    · exact List.forall_mem_singleton.mpr (.text _)
    · exact List.forall_mem_nil _

/-- What stands under the names of a record's members. -/
theorem field?_members (h : r.Loggable level logger thread message) :
    (Entries.ofFields (r.members timestamp message)).field? "level" = some (.text level) ∧
    (Entries.ofFields (r.members timestamp message)).field? "logger" = some (.text logger) ∧
    (Entries.ofFields (r.members timestamp message)).field? "thread" = some (.text thread) ∧
    (Entries.ofFields (r.members timestamp message)).field? "message" = some (.text message) ∧
    (Entries.ofFields (r.members timestamp message)).field? "extra" =
      if r.extra = [] then none else some (.map (Entries.ofFields r.extra)) := by
  rw [members, h.level, h.logger, h.thread]
  refine ⟨rfl, rfl, rfl, rfl, ?_⟩
  cases hExtra : r.extra <;> cases r.error <;> rfl

theorem jsonLineAt_eq (h : r.message = .ok message) : r.jsonLineAt timestamp =
    Json.write (.map (Entries.ofFields (r.members timestamp message))) := by
  rw [jsonLineAt, h]
  rfl

theorem jsonLine_eq {x : Value} (hCreated : r.value "created" = x)
    (hTimestamp : Timestamp.text x = .ok timestamp) : r.jsonLine = r.jsonLineAt timestamp := by
  rw [jsonLine, hCreated, hTimestamp]
  rfl

/-- No line break is visible. -/
theorem not_mem_of_visible {line : String} (h : Json.Visible line) :
    '\n' ∉ line.toList ∧ '\r' ∉ line.toList :=
  ⟨fun hMem => absurd (h _ hMem) (by decide), fun hMem => absurd (h _ hMem) (by decide)⟩

/-- A record is written as one line, without line breaks whatever characters its texts have. Reading the
line gives back an object with the level, the logger, the thread and the message of the record, and
with its extra fields if there are any: those attributes whose names are neither reserved nor begin
with a low line. -/
theorem lines_are_lossless (h : r.Loggable level logger thread message) :
    (∀ a, a ∈ r.extra ↔ a ∈ r.attributes ∧ a.1 ∉ standardNames ∧ a.1.toList.head? ≠ some '_') ∧
    ∃ line timestamp, r.jsonLine = .ok line ∧ '\n' ∉ line.toList ∧ '\r' ∉ line.toList ∧
      ∃ members : Entries, Json.read? line = some (.map members) ∧
        members = Entries.ofFields (r.members timestamp message) ∧
        members.field? "level" = some (.text level) ∧
        members.field? "logger" = some (.text logger) ∧
        members.field? "thread" = some (.text thread) ∧
        members.field? "message" = some (.text message) ∧
        members.field? "extra" =
          if r.extra = [] then none else some (.map (Entries.ofFields r.extra)) := by
  refine ⟨fun _ => mem_extra, ?_⟩
  obtain ⟨x, hCreated, hDated⟩ := h.created
  obtain ⟨timestamp, hTimestamp⟩ := Timestamp.text_of_isDated hDated
  have hPlain : Json.Plain (.map (Entries.ofFields (r.members timestamp message))) :=
    .map (nodup_members r timestamp message) (plain_members h)
  obtain ⟨line, hWrite, hVisible, hRead⟩ := hPlain.read?_write
  obtain ⟨hFeed, hReturn⟩ := not_mem_of_visible hVisible
  refine ⟨line, timestamp, ?_, hFeed, hReturn, _, hRead, rfl, field?_members h⟩
  rw [jsonLine_eq hCreated hTimestamp, jsonLineAt_eq h.message, hWrite]

/-- The state of a run that a page has been read into, as it is logged. -/
def pageState : RunState := ⟨[("page", "<p>\n\"1\"\r\n</p>")], some "\\1"⟩

/-- A record of that state, with a number and a hidden field besides. -/
def pageRecord : Record :=
  ofEntry (.real (.ofInt 1700000000)) "watch-1" ⟨.info, .interpreter, "Execution state",
    [("flow", .text "page"), ("state", pageState.snapshot), ("steps", .list [.int 2, .null]),
      ("_seen", .real .nan)], none⟩

theorem plain_pageState : Json.Plain pageState.snapshot := by
  have hVars : Json.Plain (.map (Entries.ofTexts pageState.vars)) :=
    .map (by decide) (by simp [pageState, Json.Plain.text])
  have hParts : ∀ field ∈ [("vars", Value.map (Entries.ofTexts pageState.vars)),
      ("last_output", .text "\\1")], Json.Plain field.2 := by
    simp only [List.forall_mem_cons]
    exact ⟨hVars, .text _, List.forall_mem_nil _⟩
  exact .map (by decide) hParts

theorem lines_are_lossless_page :
    pageRecord.Loggable "INFO" "m7m.flows.interpreter" "watch-1" "Execution state" ∧
      ∃ line, pageRecord.jsonLine = .ok line ∧ '\n' ∉ line.toList ∧ '\r' ∉ line.toList ∧
        ∃ members : Entries, Json.read? line = some (.map members) ∧
          members.field? "extra" = some (.map (Entries.ofFields
            [("flow", .text "page"), ("state", pageState.snapshot),
              ("steps", .list [.int 2, .null])])) := by
  have hExtra : pageRecord.extra = [("flow", .text "page"), ("state", pageState.snapshot),
      ("steps", .list [.int 2, .null])] := rfl
  have hSteps : Json.Plain (.list [.int 2, .null]) := by
    refine .list ?_
    simp only [List.forall_mem_cons]
    exact ⟨.int (by decide +kernel), .null, List.forall_mem_nil _⟩
  have hLoggable : pageRecord.Loggable "INFO" "m7m.flows.interpreter" "watch-1" "Execution state" := by
    refine ⟨by decide, ⟨_, rfl, ?_, ?_, ?_⟩, rfl, rfl, rfl, rfl, ?_⟩
    · decide +kernel
    · decide +kernel
    · decide +kernel
    · rw [hExtra]
      simp only [List.forall_mem_cons]
      exact ⟨.text _, plain_pageState, hSteps, List.forall_mem_nil _⟩
  refine ⟨hLoggable, ?_⟩
  obtain ⟨-, line, -, hLine, hFeed, hReturn, members, hRead, -, -, -, -, -, hFields⟩ :=
    lines_are_lossless hLoggable
  refine ⟨line, hLine, hFeed, hReturn, members, hRead, ?_⟩
  rw [hFields, hExtra]
  rfl

end Record

end Flowline.Log
