import Mathlib.Data.List.TakeWhile
import LabeledSeries.Proofs.Call.Stages
import LabeledSeries.Proofs.Instant.ParameterTexts

/-!
# Pairs of names in a text

A copy is written `source:target` and a match key `left|right`, each name with blanks around it or
not, and the second one may be left out.  One would cut such a text at its first separator
(`Text.WritesPair`), and then a text with two separators writes no pair, since the rest behind the
first one is no name.

What is read is the pair that the text before its second separator writes (`Text.ReadsPair`): the
second name ends at a second separator, and whatever stands behind it is ignored.  So the two differ
just for texts with two separators from which a pair is read.

§1 is about texts, §2 about the parameters of functions, each of which is read just if it is written
and faulted for a name otherwise, and §3 about calls.
-/

namespace LabeledSeries

namespace Text

/-! ## §1 Cuts -/

/-- A text in two parts: what is before its first separator and, if it has one, the whole rest. -/
inductive FirstCut (separator : Char) (text : String) : String → Option String → Prop where
  | uncut (habsent : separator ∉ text.toList) : FirstCut separator text text none
  | cut {first rest : String} (htext : text.toList = first.toList ++ separator :: rest.toList)
      (hfirst : separator ∉ first.toList) : FirstCut separator text first (some rest)

/-- A text cut at its first separator writes a pair of label names.  Where the rest is missing or
    blank, the first name is both of them. -/
inductive WritesPair (separator : Char) (text : String) : String × String → Prop where
  | one {first : String} {rest : Option String} (hcut : FirstCut separator text first rest)
      (hfirst : isLabelName (trim first) = true) (hrest : ∀ second ∈ rest, trim second = "") :
      WritesPair separator text (trim first, trim first)
  | two {first second : String} (hcut : FirstCut separator text first (some second))
      (hfirst : isLabelName (trim first) = true) (hsecond : isLabelName (trim second) = true) :
      WritesPair separator text (trim first, trim second)

/-- A text up to its second separator, all of it if there is none. -/
inductive BeforeSecond (separator : Char) (text : String) : String → Prop where
  | whole (hcount : text.toList.count separator ≤ 1) : BeforeSecond separator text text
  | cut {short rest : String} (htext : text.toList = short.toList ++ separator :: rest.toList)
      (hcount : short.toList.count separator = 1) : BeforeSecond separator text short

/-- The text before the second separator writes a pair. -/
def ReadsPair (separator : Char) (text : String) (names : String × String) : Prop :=
  ∃ short, BeforeSecond separator text short ∧ WritesPair separator short names

variable {separator : Char} {text first short : String} {rest : Option String}
  {names : String × String}

theorem exists_firstCut (separator : Char) (text : String) :
    ∃ first rest, FirstCut separator text first rest := by
  by_cases hmem : separator ∈ text.toList
  · obtain ⟨first, rest, htext, hfirst⟩ := List.eq_append_cons_of_mem hmem
    exact ⟨String.ofList first, some (String.ofList rest), .cut (by simpa using htext)
      (by simpa using hfirst)⟩
  · exact ⟨text, none, .uncut hmem⟩

/-- Of a text with one separator at most the rest behind it has none. -/
theorem FirstCut.not_mem_rest (h : FirstCut separator text first rest)
    (hcount : text.toList.count separator ≤ 1) :
    ∀ second ∈ rest, separator ∉ second.toList := by
  cases h with
  | uncut habsent => simp
  -- One separator is where the text was cut, so none is left.
  | cut htext hfirst =>
    rintro second ⟨⟩
    rw [htext, List.count_append, List.count_cons_self] at hcount
    exact List.count_eq_zero.mp (by omega)

theorem exists_beforeSecond (separator : Char) (text : String) :
    ∃ short, BeforeSecond separator text short := by
  by_cases hcount : text.toList.count separator ≤ 1
  · exact ⟨text, .whole hcount⟩
  · -- With two separators the rest behind the first one is cut once more.
    obtain ⟨first, rest, hcut⟩ := exists_firstCut separator text
    cases hcut with
    | uncut habsent => simp [List.count_eq_zero.mpr habsent] at hcount
    | @cut first rest htext hfirst =>
      rw [htext, List.count_append, List.count_cons_self, List.count_eq_zero.mpr hfirst] at hcount
      obtain ⟨second, others, hcut⟩ := exists_firstCut separator rest
      cases hcut with
      | uncut habsent => simp [List.count_eq_zero.mpr habsent] at hcount
      | @cut second others hrest hsecond =>
        let short := first ++ String.singleton separator ++ second
        have hwhole : text.toList = short.toList ++ separator :: others.toList := by
          simp [short, htext, hrest]
        refine ⟨short, .cut hwhole ?_⟩
        simp [short, List.count_eq_zero.mpr hfirst, List.count_eq_zero.mpr hsecond]

/-- A character that is no blank is not trimmed off. -/
theorem mem_trim {c : Char} (hc : c ∈ text.toList) (hblank : isBlank c = false) :
    c ∈ (trim text).toList := by
  -- The same is done at both ends, so it is shown of dropping at one.
  have hdrop : ∀ {chars : List Char}, c ∈ chars → c ∈ chars.dropWhile isBlank := by
    intro chars hmem
    rw [← List.takeWhile_append_dropWhile (p := isBlank) (l := chars), List.mem_append] at hmem
    rcases hmem with hblanks | hmem
    · rw [List.mem_takeWhile_imp hblanks] at hblank
      cases hblank
    · exact hmem
  rw [trim, trimChars, String.toList_ofList, List.mem_reverse]
  exact hdrop (List.mem_reverse.mpr (hdrop hc))

/-- A text that writes a pair has one separator at most. -/
theorem WritesPair.count_le_one (h : WritesPair separator text names)
    (hblank : isBlank separator = false) (hname : isNamePart separator = false) :
    text.toList.count separator ≤ 1 := by
  -- A further separator stays in the rest when that is trimmed, so the rest is no name nor empty.
  have hrest : ∀ {first rest : String}, text.toList = first.toList ++ separator :: rest.toList →
      separator ∉ first.toList → separator ∉ (trim rest).toList →
      text.toList.count separator ≤ 1 := by
    intro first rest htext hfirst htrim
    have habsent : separator ∉ rest.toList := fun hmem => htrim (mem_trim hmem hblank)
    rw [htext, List.count_append, List.count_cons_self, List.count_eq_zero.mpr hfirst,
      List.count_eq_zero.mpr habsent]
  cases h with
  | one hcut hfirst hempty =>
    -- The rest is missing, or it is blank and keeps no separator when trimmed.
    cases hcut with
    | uncut habsent => simp [List.count_eq_zero.mpr habsent]
    | cut htext hfirst =>
      refine hrest htext hfirst ?_
      rw [hempty _ rfl]
      simp
  | two hcut _ hsecond =>
    -- The rest is a name, which no separator is part of.
    cases hcut with
    | cut htext hfirst => exact hrest htext hfirst (not_mem_of_isLabelName hsecond hname)

theorem readsPair_of_writesPair (h : WritesPair separator text names)
    (hblank : isBlank separator = false) (hname : isNamePart separator = false) :
    ReadsPair separator text names :=
  ⟨text, .whole (h.count_le_one hblank hname), h⟩

theorem ReadsPair.writesPair (h : ReadsPair separator text names)
    (hcount : text.toList.count separator ≤ 1) : WritesPair separator text names := by
  obtain ⟨short, hshort, hwrites⟩ := h
  cases hshort with
  | whole => exact hwrites
  -- A second separator was cut off, but there is none.
  | cut htext hone =>
    rw [htext, List.count_append, List.count_cons_self] at hcount
    omega

end Text

/-! ## §2 Parameters -/

/-- A function is faulted for a name that is no label name. -/
def NamesNone (function : String) (fault : Fault) : Prop :=
  ∃ name, Text.isLabelName name = false ∧ fault = .invalidLabelName function name

/-- A computation for a function gives just what is written; where nothing is, it fails for a name
    that is no label name. -/
structure ReadsJust {α : Type} (function : String) (written : α → Prop)
    (computed : Except Fault α) : Prop where
  eq_ok_iff : ∀ a, computed = .ok a ↔ written a
  failsOnlyWith : FailsOnlyWith (NamesNone function) computed

namespace ReadsJust

variable {α β : Type} {function : String} {written : α → Prop} {computed : Except Fault α}

theorem congr {written' : α → Prop} (h : ReadsJust function written computed)
    (hwritten : ∀ a, written a ↔ written' a) : ReadsJust function written' computed :=
  ⟨fun a => (h.eq_ok_iff a).trans (hwritten a), h.failsOnlyWith⟩

theorem ok (a : α) : ReadsJust function (· = a) (.ok a) :=
  ⟨fun b => by rw [Except.ok.injEq, eq_comm], .ok a⟩

theorem bind {next : α → Except Fault β} {written' : α → β → Prop}
    (h : ReadsJust function written computed)
    (hnext : ∀ a, ReadsJust function (written' a) (next a)) :
    ReadsJust function (fun b => ∃ a, written a ∧ written' a b) (computed >>= next) where
  eq_ok_iff b := by
    simp only [bind_eq_ok_iff, h.eq_ok_iff, (hnext _).eq_ok_iff]
  failsOnlyWith := h.failsOnlyWith.bind fun a => (hnext a).failsOnlyWith

theorem map (h : ReadsJust function written computed) (f : α → β) :
    ReadsJust function (fun b => ∃ a, written a ∧ b = f a) (f <$> computed) where
  eq_ok_iff b := by
    rw [fmap_eq_ok_iff]
    simp only [h.eq_ok_iff, eq_comm]
  failsOnlyWith := h.failsOnlyWith.map f

end ReadsJust

namespace Parameters

open Text

variable {separator : Char} {text first short : String} {rest : Option String}

/-- The two names of a text in two parts. -/
def namesOf (first : String) (rest : Option String) : String × String :=
  if trim (rest.getD "") = "" then (trim first, trim first)
  else (trim first, trim (rest.getD ""))

theorem splitPair_eq_namesOf (hshort : BeforeSecond separator text short)
    (hcut : FirstCut separator short first rest) :
    splitPair separator text = namesOf first rest := by
  cases hcut with
  -- Where the short text has no separator, nothing was cut off behind it.
  | uncut habsent =>
    cases hshort with
    | whole =>
      rw [splitPair, pieces_name habsent]
      rfl
    | cut htext hone => simp [List.count_eq_zero.mpr habsent] at hone
  | @cut first second hcutText hfirst =>
    -- Whatever stands behind the second separator, the first two pieces are the same.
    have hpieces : ∃ others, pieces separator text = first :: second :: others := by
      cases hshort with
      | whole hcount =>
        have hsecond := (FirstCut.cut hcutText hfirst).not_mem_rest hcount second rfl
        exact ⟨[], pieces_two hcutText hfirst hsecond⟩
      | @cut _ others htext hone =>
        have hsecond := (FirstCut.cut hcutText hfirst).not_mem_rest hone.le second rfl
        refine ⟨pieces separator others, ?_⟩
        rw [hcutText] at htext
        simp [pieces, htext, List.append_assoc, piecesOfChars_append _ hfirst,
          piecesOfChars_append _ hsecond]
    obtain ⟨others, hpieces⟩ := hpieces
    rw [splitPair, hpieces]
    rfl

/-- A pair that the text before the second separator writes is the one that is split off. -/
theorem eq_splitPair_of_readsPair {names : String × String} (h : ReadsPair separator text names) :
    Text.isLabelName names.1 = true ∧ Text.isLabelName names.2 = true ∧
      names = splitPair separator text := by
  obtain ⟨short, hshort, hwrites⟩ := h
  cases hwrites with
  -- A missing or blank rest leaves the first name for both.
  | @one first rest hcut hfirst hrest =>
    refine ⟨hfirst, hfirst, ?_⟩
    rw [splitPair_eq_namesOf hshort hcut, namesOf, if_pos]
    cases rest with
    | none => rfl
    | some second => exact hrest second rfl
  -- A name is not blank, so both parts count.
  | @two first second hcut hfirst hsecond =>
    refine ⟨hfirst, hsecond, ?_⟩
    rw [splitPair_eq_namesOf hshort hcut, namesOf, Option.getD_some,
      if_neg (ne_empty_of_isLabelName hsecond)]

/-- The pair that is split off is written before the second separator, if it is one of names. -/
theorem readsPair_splitPair (hfirst : Text.isLabelName (splitPair separator text).1 = true)
    (hsecond : Text.isLabelName (splitPair separator text).2 = true) :
    ReadsPair separator text (splitPair separator text) := by
  obtain ⟨short, hshort⟩ := exists_beforeSecond separator text
  obtain ⟨first, rest, hcut⟩ := exists_firstCut separator short
  refine ⟨short, hshort, ?_⟩
  rw [splitPair_eq_namesOf hshort hcut, namesOf] at hfirst hsecond ⊢
  -- What is split off is one name twice or two names, as the rest is blank or not.
  split
  · rename_i hblank
    rw [if_pos hblank] at hfirst
    exact .one hcut hfirst (by rintro second rfl; exact hblank)
  · rename_i hfilled
    rw [if_neg hfilled] at hfirst hsecond
    cases rest with
    | none => exact absurd rfl hfilled
    | some second => exact .two hcut hfirst hsecond

theorem checkName_readsJust (function name : String) :
    ReadsJust function (fun _ => Text.isLabelName name = true) (checkName function name) := by
  cases hname : Text.isLabelName name with
  | true =>
    rw [checkName_of_isLabelName function hname]
    exact (ReadsJust.ok ()).congr fun a => by simp
  | false =>
    have hfault : checkName function name = .error (.invalidLabelName function name) := by
      simp [checkName, hname]
    rw [hfault]
    exact ⟨by simp, .error ⟨name, hname, rfl⟩⟩

theorem namePair_readsJust (function : String) (separator : Char) (text : String) :
    ReadsJust function (ReadsPair separator text) (namePair function separator text) := by
  -- Reading a pair checks its first name, then its second, and gives both.
  have hchecked := (checkName_readsJust function (splitPair separator text).1).bind fun _ =>
    (checkName_readsJust function (splitPair separator text).2).bind fun _ =>
      ReadsJust.ok (splitPair separator text)
  refine hchecked.congr fun names => ?_
  constructor
  · rintro ⟨_, hfirst, _, hsecond, rfl⟩
    exact readsPair_splitPair hfirst hsecond
  · intro h
    obtain ⟨hfirst, hsecond, rfl⟩ := eq_splitPair_of_readsPair h
    exact ⟨(), hfirst, (), hsecond, rfl⟩

theorem copySpecs_readsJust (function : String) (specs : List String) :
    ReadsJust function (List.Forall₂ (ReadsPair ':') specs) (copySpecs function specs) := by
  induction specs with
  | nil => exact (ReadsJust.ok []).congr fun copies => by rw [List.forall₂_nil_left_iff, eq_comm]
  | cons spec specs ih =>
    -- The first text is read, and then the others; the two ways of saying so differ in their order.
    refine ((namePair_readsJust function ':' spec).bind fun copy => ih.map (copy :: ·)).congr ?_
    intro copies
    rw [List.forall₂_cons_left_iff]
    constructor
    · rintro ⟨copy, hcopy, others, hothers, rfl⟩
      exact ⟨copy, others, hcopy, hothers, rfl⟩
    · rintro ⟨copy, others, hcopy, hothers, rfl⟩
      exact ⟨copy, hcopy, others, hothers, rfl⟩

end Parameters

/-! ## §3 Calls -/

/-- The function that joins on a pair of keys and does this with rows without a partner. -/
def Unmatched.function : Unmatched → Builtin
  | .drop => .select2
  | .keep => .select2Join

/-- Copies and match keys are read in a way, and so are they by the calls of the functions that take
    them: these succeed just if all can be read so, and do what is read. -/
structure CallsRead (reads : Char → String → String × String → Prop) (key : String)
    (specs : List String) : Prop where
  copies : ∀ function, ReadsJust function (List.Forall₂ (reads ':') specs)
    (Parameters.copySpecs function specs)
  names : ∀ function, ReadsJust function (reads '|' key) (Parameters.namePair function '|' key)
  select1 : ∀ time rows, ReadsJust Builtin.select1.name
    (fun out => ∃ copies, List.Forall₂ (reads ':') specs copies ∧
      out = .vector ((⟨copies⟩ : Projection).run rows))
    (FunctionTable.builtin.call Builtin.select1.name (.vector rows :: specs.map .text) time)
  select2 : ∀ (unmatched : Unmatched) time left right, ReadsJust unmatched.function.name
    (fun out => ∃ names copies, reads '|' key names ∧ List.Forall₂ (reads ':') specs copies ∧
      out = .vector ((⟨names.1, names.2, copies, unmatched⟩ : Join).run left right))
    (FunctionTable.builtin.call unmatched.function.name
      (.text key :: .vector left :: .vector right :: specs.map .text) time)

namespace Builtin

open Parameters Text

variable {time : Int} {values : List Value} {vectors : List InstantVector}
  {matrices : List RangeMatrix} {function : Builtin}

/-- A call reads what its plan is read from. -/
theorem call_readsJust {planned : Except Fault Plan} {written : Plan → Prop}
    (hplanned : ReadsJust function.name written planned)
    (hrows : function.rows time values = do
      let plan ← planned
      return plan.run time vectors matrices) :
    ReadsJust function.name
      (fun out => ∃ plan, written plan ∧ out = .vector (plan.run time vectors matrices))
      (FunctionTable.builtin.call function.name values time) := by
  -- A planned call cannot fail any more, and its value is the rows that the plan makes.
  have hcall : FunctionTable.builtin.call function.name values time =
      (fun plan => .vector (Plan.run time vectors matrices plan)) <$> planned := by
    rw [FunctionTable.call_builtin, call, hrows]
    cases planned <;> rfl
  rw [hcall]
  exact hplanned.map _

theorem select1_plan_readsJust (specs : List String) (vectors : Nat) :
    ReadsJust select1.name
      (fun plan => ∃ copies, List.Forall₂ (ReadsPair ':') specs copies ∧
        plan = .projection ⟨copies⟩)
      (select1.plan specs vectors) := by
  -- The plan wraps the copies twice, as a projection and as a plan.
  have hspecs := (copySpecs_readsJust select1.name specs).bind fun copies =>
    ReadsJust.ok (⟨copies⟩ : Projection)
  refine (hspecs.map Plan.projection).congr fun plan => ?_
  constructor
  · rintro ⟨_, ⟨copies, hcopies, rfl⟩, rfl⟩
    exact ⟨copies, hcopies, rfl⟩
  · rintro ⟨copies, hcopies, rfl⟩
    exact ⟨_, ⟨copies, hcopies, rfl⟩, rfl⟩

theorem select2_plan_readsJust (unmatched : Unmatched) (key : String) (specs : List String)
    (vectors : Nat) :
    ReadsJust unmatched.function.name
      (fun plan => ∃ names copies, ReadsPair '|' key names ∧
        List.Forall₂ (ReadsPair ':') specs copies ∧
        plan = .join ⟨names.1, names.2, copies, unmatched⟩)
      (unmatched.function.plan (key :: specs) vectors) := by
  -- The match key is read before the copies, so its fault comes first.
  have hspecs := (namePair_readsJust unmatched.function.name '|' key).bind fun names =>
    (copySpecs_readsJust unmatched.function.name specs).bind fun copies =>
      ReadsJust.ok (⟨names.1, names.2, copies, unmatched⟩ : Join)
  -- Both functions make their plan alike, up to what they do with rows without a partner.
  have hplan : unmatched.function.plan (key :: specs) vectors =
      Plan.join <$> Join.ofSpecs unmatched.function.name unmatched key specs := by
    cases unmatched <;> rfl
  rw [hplan]
  refine (hspecs.map Plan.join).congr fun plan => ?_
  constructor
  · rintro ⟨_, ⟨names, hnames, copies, hcopies, rfl⟩, rfl⟩
    exact ⟨names, copies, hnames, hcopies, rfl⟩
  · rintro ⟨names, copies, hnames, hcopies, rfl⟩
    exact ⟨_, ⟨names, hnames, copies, hcopies, rfl⟩, rfl⟩

theorem callsRead_readsPair (key : String) (specs : List String) :
    CallsRead ReadsPair key specs where
  copies function := copySpecs_readsJust function specs
  names function := namePair_readsJust function '|' key
  select1 time rows := by
    have hcall := call_readsJust (select1_plan_readsJust specs 1)
      (rows_of_texts rfl time rows specs)
    refine hcall.congr fun out => ?_
    constructor
    · rintro ⟨_, ⟨copies, hcopies, rfl⟩, rfl⟩
      exact ⟨copies, hcopies, rfl⟩
    · rintro ⟨copies, hcopies, rfl⟩
      exact ⟨_, ⟨copies, hcopies, rfl⟩, rfl⟩
  select2 unmatched time left right := by
    have hdemand : unmatched.function.demand =
        { single := [.text, .vector, .vector], repeated := some .text } := by
      cases unmatched <;> rfl
    have hcall := call_readsJust (select2_plan_readsJust unmatched key specs 2)
      (rows_of_textVectorsTexts hdemand time key left right specs)
    refine hcall.congr fun out => ?_
    constructor
    · rintro ⟨_, ⟨names, copies, hnames, hcopies, rfl⟩, rfl⟩
      exact ⟨names, copies, hnames, hcopies, rfl⟩
    · rintro ⟨names, copies, hnames, hcopies, rfl⟩
      exact ⟨_, ⟨names, copies, hnames, hcopies, rfl⟩, rfl⟩

end Builtin

namespace CallsRead

open Text

variable {reads writes : Char → String → String × String → Prop} {key : String}
  {specs : List String}

theorem congr (h : CallsRead reads key specs)
    (hcopies : ∀ copies, List.Forall₂ (reads ':') specs copies ↔
      List.Forall₂ (writes ':') specs copies)
    (hnames : ∀ names, reads '|' key names ↔ writes '|' key names) :
    CallsRead writes key specs where
  copies function := (h.copies function).congr hcopies
  names function := (h.names function).congr hnames
  select1 time rows := (h.select1 time rows).congr fun out => by simp only [hcopies]
  select2 unmatched time left right := (h.select2 unmatched time left right).congr fun out => by
    simp only [hcopies, hnames]

/-- Ways in which the same texts are read read the same. -/
theorem iff_of_callsRead (h : CallsRead reads key specs) (hother : CallsRead writes key specs) :
    (∀ copies, List.Forall₂ (reads ':') specs copies ↔ List.Forall₂ (writes ':') specs copies) ∧
      ∀ names, reads '|' key names ↔ writes '|' key names := by
  -- What a computation gives can be described in one way only, whichever function reads.
  refine ⟨fun copies => ?_, fun names => ?_⟩
  · rw [← (h.copies "").eq_ok_iff, (hother.copies "").eq_ok_iff]
  · rw [← (h.names "").eq_ok_iff, (hother.names "").eq_ok_iff]

end CallsRead

namespace FunctionTable

open Text

/-- **Pairs end at a second separator**: the functions that take copies and match keys read the pair
    that each text writes before its second separator, and fail for a name where one writes none.

    They are the pairs that the whole texts write just if no text has a second separator, where they
    can be read at all. -/
theorem calls_read_pairs (key : String) (specs : List String) :
    CallsRead ReadsPair key specs ∧
      (CallsRead WritesPair key specs ↔
        ((∀ spec ∈ specs, spec.toList.count ':' ≤ 1) ∨
            ∀ copies, ¬ List.Forall₂ (ReadsPair ':') specs copies) ∧
          (key.toList.count '|' ≤ 1 ∨ ∀ names, ¬ ReadsPair '|' key names)) := by
  have hreads := Builtin.callsRead_readsPair key specs
  have hcopy : ∀ spec copy, WritesPair ':' spec copy → ReadsPair ':' spec copy :=
    fun _ _ h => readsPair_of_writesPair h (by decide) (by decide)
  have hkey : ∀ names, WritesPair '|' key names → ReadsPair '|' key names :=
    fun _ h => readsPair_of_writesPair h (by decide) (by decide)
  refine ⟨hreads, fun hwrites => ?_, fun ⟨hspecs, hnames⟩ => ?_⟩
  · -- What is read is written, and what is written has no second separator.
    obtain ⟨hcopies, hnames⟩ := hreads.iff_of_callsRead hwrites
    constructor
    · -- A reading exists, so every text is the one of a pair that is written.
      refine or_iff_not_imp_right.mpr fun hsome spec hspec => ?_
      simp only [not_forall, not_not, hcopies] at hsome
      obtain ⟨copies, hwritten⟩ := hsome
      obtain ⟨copy, -, hcopy⟩ := exists_mem_of_forall₂ hwritten spec hspec
      exact hcopy.count_le_one (by decide) (by decide)
    · refine or_iff_not_imp_right.mpr fun hsome => ?_
      simp only [not_forall, not_not, hnames] at hsome
      obtain ⟨names, hwritten⟩ := hsome
      exact hwritten.count_le_one (by decide) (by decide)
  · refine hreads.congr (fun copies => ⟨fun h => ?_, fun h => h.imp hcopy⟩)
      fun names => ⟨fun h => ?_, hkey names⟩
    · -- Either all texts have one separator at most, or the copies are read neither way.
      rcases hspecs with hcounts | hnone
      · have hboth := (List.forall₂_and_left _ _).mpr ⟨hcounts, h⟩
        exact hboth.imp fun _ _ h => h.2.writesPair h.1
      · exact absurd h (hnone copies)
    · rcases hnames with hcount | hnone
      · exact h.writesPair hcount
      · exact absurd h (hnone names)

/-- A text with two separators writes no copy, but a call reads one from it. -/
theorem not_calls_read_written_pair :
    (∀ copy, ¬ WritesPair ':' "a:b:c" copy) ∧
      builtin.call "select1" [.vector [⟨.singleton "a" "1", ⟨0, 1⟩⟩], .text "a:b:c"] 0 =
        .ok (.vector [⟨.singleton "b" "1", ⟨0, 1⟩⟩]) := by
  refine ⟨fun copy hcopy => ?_, ?_⟩
  · -- Two separators are too many for a pair that is written.
    have hcount := hcopy.count_le_one (by decide) (by decide)
    exact absurd hcount (by decide)
  · exact (call_builtin .select1 _ 0).trans rfl

end FunctionTable

end LabeledSeries
