import LabeledSeries.CommandLine.Run
import LabeledSeries.Proofs.Fallible

/-!
# The times of dumps

A folder of dumps says in a file at which second they end.  They begin half an hour before, and a
command is evaluated at their end, in microseconds, unless it is given another time.  All of these
are integers of 64 bits.

§1 The texts that write integers, and which of them are read (`readInteger?_eq_some_iff`).  §2 What
a folder is said to begin and end at is exact (`loadTimes_eq_ok_iff`).  §3 So is the time at which a
command is evaluated (`execute_eq`).

Where exact results are no integers of 64 bits there are none, but not in the same way: a time that
has no microseconds is reported, and dumps that begin too early end the program
(`times_abort_at_earliest`).
-/

namespace LabeledSeries

/-! ## §1 Integers -/

/-- A text writes an integer: it has digits, at least one, and may have a sign in front of them. -/
inductive WritesInteger : List Char → Int → Prop where
  | unsigned {digits : List Char} (hne : digits ≠ []) (hdigits : ∀ c ∈ digits, c.isDigit = true) :
      WritesInteger digits (Nat.ofDigitChars 10 digits 0)
  | plus {digits : List Char} (hne : digits ≠ []) (hdigits : ∀ c ∈ digits, c.isDigit = true) :
      WritesInteger ('+' :: digits) (Nat.ofDigitChars 10 digits 0)
  | minus {digits : List Char} (hne : digits ≠ []) (hdigits : ∀ c ∈ digits, c.isDigit = true) :
      WritesInteger ('-' :: digits) (-(Nat.ofDigitChars 10 digits 0 : Int))

theorem Time.check_eq_some_iff {n t : Int} :
    Time.check n = some t ↔ n = t ∧ Time.inRange t = true := by
  unfold Time.check
  constructor
  · intro h
    split at h
    · rename_i hrange
      cases h
      exact ⟨rfl, hrange⟩
    · cases h
  · intro h
    obtain ⟨rfl, hrange⟩ := h
    exact if_pos hrange

/-- Whether a text begins with a minus sign, and what follows its sign. -/
def splitSign : List Char → Bool × List Char
  | '-' :: rest => (true, rest)
  | '+' :: rest => (false, rest)
  | rest => (false, rest)

theorem splitSign_of_digits {digits : List Char} (hdigits : ∀ c ∈ digits, c.isDigit = true) :
    splitSign digits = (false, digits) := by
  unfold splitSign
  -- A sign is no digit, so no digit can be taken for one.
  split
  · cases hdigits '-' (List.mem_cons_self ..)
  · cases hdigits '+' (List.mem_cons_self ..)
  · rfl

theorem readInteger?_eq (text : String) :
    readInteger? text =
      if (splitSign text.toList).2.isEmpty || !(splitSign text.toList).2.all Char.isDigit then none
      else Time.check (if (splitSign text.toList).1 then
          -(Nat.ofDigitChars 10 (splitSign text.toList).2 0 : Int)
        else Nat.ofDigitChars 10 (splitSign text.toList).2 0) :=
  rfl

/-- An integer is written by the digits behind its sign. -/
theorem writesInteger_iff {text : List Char} {n : Int} :
    WritesInteger text n ↔
      (splitSign text).2 ≠ [] ∧ (∀ c ∈ (splitSign text).2, c.isDigit = true) ∧
        n = if (splitSign text).1 then -(Nat.ofDigitChars 10 (splitSign text).2 0 : Int)
          else Nat.ofDigitChars 10 (splitSign text).2 0 := by
  constructor
  · intro h
    -- Only a text without a sign has to be told apart; the other two begin with theirs.
    cases h with
    | unsigned hne hdigits =>
      rw [splitSign_of_digits hdigits]
      exact ⟨hne, hdigits, rfl⟩
    | plus hne hdigits => exact ⟨hne, hdigits, rfl⟩
    | minus hne hdigits => exact ⟨hne, hdigits, rfl⟩
  · intro h
    obtain ⟨hne, hdigits, rfl⟩ := h
    unfold splitSign at hne hdigits ⊢
    split at hne
    · exact .minus hne hdigits
    · exact .plus hne hdigits
    · exact .unsigned hne (by simpa using hdigits)

/-- **Integers are read as they are written**, if they have 64 bits. -/
theorem readInteger?_eq_some_iff {text : String} {n : Int} :
    readInteger? text = some n ↔ WritesInteger text.toList n ∧ Time.inRange n = true := by
  rw [readInteger?_eq, writesInteger_iff]
  split
  · -- The text is read as nothing: there is no digit, or something else among them.
    rename_i hnot
    simp only [Bool.or_eq_true, Bool.not_eq_true', List.isEmpty_iff, List.all_eq_false] at hnot
    refine ⟨nofun, fun h => ?_⟩
    obtain ⟨⟨hne, hdigits, -⟩, -⟩ := h
    rcases hnot with hnil | ⟨c, hc, hno⟩
    · exact absurd hnil hne
    · exact absurd (hdigits c hc) hno
  · rename_i hdigits
    simp only [Bool.or_eq_true, Bool.not_eq_true', not_or, Bool.not_eq_false,
      List.isEmpty_iff, List.all_eq_true] at hdigits
    -- The text writes the integer that its digits have, so all that is left is the range.
    rw [Time.check_eq_some_iff]
    constructor
    · intro h
      exact ⟨⟨hdigits.1, hdigits.2, h.1.symm⟩, h.2⟩
    · intro h
      exact ⟨h.1.2.2.symm, h.2⟩

/-! ## §2 Beginnings and ends -/

theorem timesUpTo_eq (stop : Int) :
    timesUpTo stop =
      if Time.inRange (stop - dumpLength) then .ok (stop - dumpLength, stop)
      else .error .overflow := by
  rw [timesUpTo, Time.check]
  -- The second is computed in 64 bits, where the difference may not fit.
  cases Time.inRange (stop - dumpLength) <;> rfl

variable {files : Files} {present : Int} {folder text : String}

section Folder

variable (hfile : files.read? (Files.join folder timeFile) = some text)

include hfile

/-- The times of a folder with a file that holds a text. -/
theorem loadTimes_of_read :
    loadTimes files present folder =
      match readInteger? (Text.trim text) with
      | some stop => timesUpTo stop
      | none => .error (.badTime (Files.join folder timeFile)) := by
  cases hread : readInteger? (Text.trim text) <;> simp only [loadTimes, hfile, hread]

/-- The times of a folder whose file writes an integer of 64 bits. -/
theorem loadTimes_of_writes {stop : Int} (hwrites : WritesInteger (Text.trim text).toList stop)
    (hrange : Time.inRange stop = true) :
    loadTimes files present folder =
      if Time.inRange (stop - dumpLength) then .ok (stop - dumpLength, stop)
      else .error .overflow := by
  rw [loadTimes_of_read hfile, readInteger?_eq_some_iff.mpr ⟨hwrites, hrange⟩]
  exact timesUpTo_eq stop

/-- The times of a folder whose file writes none. -/
theorem loadTimes_of_not_writes
    (h : ∀ stop, WritesInteger (Text.trim text).toList stop → Time.inRange stop = false) :
    loadTimes files present folder = .error (.badTime (Files.join folder timeFile)) := by
  rw [loadTimes_of_read hfile]
  cases hread : readInteger? (Text.trim text) with
  | none => rfl
  | some stop =>
    -- What is read is written, so it has 64 bits.
    obtain ⟨hwrites, hrange⟩ := readInteger?_eq_some_iff.mp hread
    rw [h stop hwrites] at hrange
    cases hrange

/-- **Times that are loaded are exact**, and there are some if both are integers of 64 bits. -/
theorem loadTimes_eq_ok_iff {start stop : Int} :
    loadTimes files present folder = .ok (start, stop) ↔
      WritesInteger (Text.trim text).toList stop ∧ Time.inRange stop = true ∧
        start = stop - dumpLength ∧ Time.inRange start = true := by
  constructor
  · intro h
    -- Some integer was read, since otherwise there are no times.
    rw [loadTimes_of_read hfile] at h
    cases hread : readInteger? (Text.trim text) with
    | none => simp [hread] at h
    | some read =>
      obtain ⟨hwrites, hrange⟩ := readInteger?_eq_some_iff.mp hread
      simp only [hread, timesUpTo_eq] at h
      split at h
      · rename_i hstart
        cases h
        exact ⟨hwrites, hrange, rfl, hstart⟩
      · cases h
  · -- The second of the end is an integer of 64 bits, and so is the one half an hour before.
    rintro ⟨hwrites, hrange, rfl, hstart⟩
    rw [loadTimes_of_writes hfile hwrites hrange, if_pos hstart]

end Folder

/-! ## §3 Times of evaluation -/

theorem timeOfSeconds_eq (seconds : Int) :
    timeOfSeconds seconds =
      if Time.inRange (seconds * Time.second) then .ok (seconds * Time.second)
      else .error (.timeOutOfRange seconds) := by
  rw [timeOfSeconds, Time.check]
  cases Time.inRange (seconds * Time.second) <;> rfl

namespace CommandLine

/-- The engine that the options of the program ask for, over some tables. -/
def Options.engine (options : Options) (store : Store) : Engine :=
  Engine.withLookback
    { store, functions := FunctionTable.builtin, lookback := Engine.defaultLookback }
    (Time.Span.ofSeconds (options.lookback.getD defaultLookback))

/-- The second at which a command is evaluated: one that is given, or the end of the dumps. -/
inductive Options.EvaluatesAt (options : Options) (files : Files) (present : Int) : Int → Prop where
  | given {seconds : Int} (htime : options.time = some seconds) :
      EvaluatesAt options files present seconds
  | dumped {start stop : Int} (htime : options.time = none)
      (hload : loadTimes files present (options.samples.getD defaultSamples) = .ok (start, stop)) :
      EvaluatesAt options files present stop

/-- **Commands are evaluated at their second**, which is not changed on the way, or are refused. -/
theorem execute_eq {options : Options} {seconds : Int}
    (h : options.EvaluatesAt files present seconds) (command : Command) :
    execute present files options command =
      if Time.inRange (seconds * Time.second) then do
        let store ← loaded (loadStore files (options.samples.getD defaultSamples))
        command.execute files (options.engine store) (seconds * Time.second)
      else .error (.failed (LoadFault.timeOutOfRange seconds).message) := by
  have htimed : execute present files options command = (do
      let time ← loaded (timeOfSeconds seconds)
      let store ← loaded (loadStore files (options.samples.getD defaultSamples))
      command.execute files (options.engine store) time) := by
    cases h with
    | given htime =>
      -- Without a time that is given, the folder is loaded first.
      rw [execute, htime]
      rfl
    | dumped htime hload =>
      rw [execute, htime]
      simp only [hload]
      rfl
  rw [htimed, timeOfSeconds_eq]
  -- Both sides run the command at the same microsecond, or refuse it.
  split
  · rfl
  · rfl

/-- A command that is given no second is not run where the dumps begin too early. -/
theorem execute_of_overflow {options : Options} (htime : options.time = none)
    (hload : loadTimes files present (options.samples.getD defaultSamples) = .error .overflow)
    (command : Command) :
    execute present files options command = .error (.aborted LoadFault.overflow.message) := by
  rw [execute, htime]
  simp only [hload]
  rfl

end CommandLine

open CommandLine in
/-- **Times of dumps are exact or missing**: let the file of a folder hold a text.  If the text
    without the blanks at its ends writes an integer of 64 bits, then that is the second at which
    the dumps end, and they begin half an hour before.  If that is no integer of 64 bits there are
    no times, which ends every command that is given no second.  There are none either if the text
    writes no integer of 64 bits.  Seconds are made microseconds exactly or not at all, whether they
    come from the file or are given to the program, and a command is evaluated at that time. -/
theorem dump_times_exact_iff (files : Files) (present : Int) (folder : String) {text : String}
    (hfile : files.read? (Files.join folder timeFile) = some text) :
    (∀ start stop, loadTimes files present folder = .ok (start, stop) ↔
      WritesInteger (Text.trim text).toList stop ∧ Time.inRange stop = true ∧
        start = stop - dumpLength ∧ Time.inRange start = true) ∧
    (∀ start stop, loadTimes files present folder = .ok (start, stop) → start < stop) ∧
    (∀ stop, WritesInteger (Text.trim text).toList stop → Time.inRange stop = true →
      Time.inRange (stop - dumpLength) = false →
        loadTimes files present folder = .error .overflow ∧
        ∀ (options : Options) (command : Command), options.samples.getD defaultSamples = folder →
          options.time = none →
          execute present files options command = .error (.aborted LoadFault.overflow.message)) ∧
    ((∀ stop, WritesInteger (Text.trim text).toList stop → Time.inRange stop = false) →
      loadTimes files present folder = .error (.badTime (Files.join folder timeFile))) ∧
    (∀ seconds, timeOfSeconds seconds =
      if Time.inRange (seconds * Time.second) then .ok (seconds * Time.second)
      else .error (.timeOutOfRange seconds)) ∧
    (∀ (options : Options) (command : Command) (seconds : Int),
      options.samples.getD defaultSamples = folder →
      (options.time = some seconds ∨
        options.time = none ∧ WritesInteger (Text.trim text).toList seconds ∧
          Time.inRange seconds = true ∧ Time.inRange (seconds - dumpLength) = true) →
      execute present files options command =
        if Time.inRange (seconds * Time.second) then do
          let store ← loaded (loadStore files folder)
          command.execute files (options.engine store) (seconds * Time.second)
        else .error (.failed (LoadFault.timeOutOfRange seconds).message)) := by
  refine ⟨fun start stop => loadTimes_eq_ok_iff hfile, fun start stop hload => ?_,
    fun stop hwrites hrange hearly => ?_, loadTimes_of_not_writes hfile, timeOfSeconds_eq,
    fun options command seconds hfolder hseconds => ?_⟩
  · -- Half an hour is positive, so the beginning is before the end.
    obtain ⟨-, -, rfl, -⟩ := (loadTimes_eq_ok_iff hfile).mp hload
    have hpositive : 0 < dumpLength := by decide
    omega
  · have hload : loadTimes files present folder = .error .overflow := by
      rw [loadTimes_of_writes hfile hwrites hrange, hearly]
      rfl
    refine ⟨hload, fun options command hfolder htime => ?_⟩
    subst hfolder
    exact execute_of_overflow htime hload command
  · subst hfolder
    rcases hseconds with htime | ⟨htime, hwrites, hrange, hstart⟩
    · exact execute_eq (.given htime) command
    · exact execute_eq (.dumped htime
        ((loadTimes_eq_ok_iff hfile).mpr ⟨hwrites, hrange, rfl, hstart⟩)) command

/-- A folder in which there is only the file with the time, and in that a text. -/
def timedFiles (folder text : String) : Files where
  read? path := if path = Files.join folder timeFile then some text else none
  names? _ := none

theorem timedFiles_read? (folder text : String) :
    (timedFiles folder text).read? (Files.join folder timeFile) = some text := by
  simp only [timedFiles, if_true]

theorem dump_times_exact_iff_of_signed :
    loadTimes (timedFiles "dumps" " +1681713200\n") 0 "dumps" = .ok (1681711400, 1681713200) ∧
      timeOfSeconds 1681713200 = .ok 1681713200000000 := by
  -- The blanks and the sign do not count.
  have htrim : (Text.trim " +1681713200\n").toList = '+' :: "1681713200".toList := by decide
  have hdigits : "1681713200".toList.all Char.isDigit = true := by decide
  have hwrites : WritesInteger (Text.trim " +1681713200\n").toList 1681713200 := by
    rw [htrim]
    exact .plus (by decide) (List.all_eq_true.mp hdigits)
  obtain ⟨hloads, -, -, -, htime, -⟩ := dump_times_exact_iff
    (timedFiles "dumps" " +1681713200\n") 0 "dumps" (timedFiles_read? ..)
  exact ⟨(hloads _ _).mpr ⟨hwrites, by decide, by decide, by decide⟩, htime 1681713200⟩

open CommandLine in
/-- At the earliest integer dumps begin too early, which is not reported but ends the program.  The
    same second is reported where it is given to a command. -/
theorem times_abort_at_earliest :
    readInteger? (Text.trim "-9223372036854775808\n") = some Time.earliest ∧
      let files := timedFiles "" "-9223372036854775808\n"
      loadTimes files 0 "" = .error .overflow ∧
      execute 0 files { samples := some "" } .list =
        .error (.aborted "attempt to subtract with overflow") ∧
      execute 0 files { samples := some "", time := some Time.earliest } .list =
        .error (.failed "time -9223372036854775808 is out of range") := by
  have hread : readInteger? (Text.trim "-9223372036854775808\n") = some Time.earliest := by decide
  refine ⟨hread, ?_⟩
  intro files
  have hload : loadTimes files 0 "" = .error .overflow := by
    rw [loadTimes_of_read (timedFiles_read? ..), hread]
    rfl
  exact ⟨hload, execute_of_overflow rfl hload .list, rfl⟩

end LabeledSeries
