import LabeledSeries.Proofs.Query.MetricName
import LabeledSeries.Proofs.Store.Selection

/-!
# The tables that names find

A text is looked up as the name of a table in the notation of SQL.  The name of a metric is a single
word there, in which the case of letters does not matter, or it has colons and is no word at all;
then it is looked up as it stands (`TableName.ofText_of_isRecordName`).

So two names find one table if they are the same but for the case of letters, and have no colons
(`TableName.ofText_eq_iff`).
-/

namespace LabeledSeries

namespace TableName

variable {name other : String}

/-! ## §1 Characters of names -/

/-- The letters, digits and the underscore are among the first characters. -/
private theorem toNat_lt_of_isWordPart {c : Char} (h : Query.isWordPart c = true) :
    c.toNat < 128 := by
  have hle : c.val ≤ 'z'.val := by
    rcases Bool.or_eq_true_iff.mp h with h | h
    · rcases Bool.or_eq_true_iff.mp h with h | h
      · rcases Bool.or_eq_true_iff.mp h with h | h
        · have hupper : c.val ≥ 'A'.val ∧ c.val ≤ 'Z'.val := of_decide_eq_true h
          exact UInt32.le_trans hupper.2 (by decide)
        · exact of_decide_eq_true (Bool.and_eq_true_iff.mp h).2
      · have hdigit : c.val ≤ '9'.val := of_decide_eq_true (Bool.and_eq_true_iff.mp h).2
        exact UInt32.le_trans hdigit (by decide)
    · rw [eq_of_beq h]
      decide
  exact Nat.lt_of_le_of_lt (UInt32.le_iff_toNat_le.mp hle) (by decide)

/-- What a character means for a word of SQL, if it can stand in a name. -/
private theorem wordChar_of_isWordPart {c : Char} (h : Query.isWordPart c = true) :
    continuesWord c = true ∧ c.toLower ≠ ':' ∧ (Query.isWordStart c = true →
      startsWord c = true ∧ Text.isBlank c = false ∧ ¬ (c = '"' ∨ c = '\x60')) := by
  -- There are few such characters, so all can be tried.
  have htable : ∀ n : Fin 128, Query.isWordPart (Char.ofNat n) = true →
      continuesWord (Char.ofNat n) = true ∧ (Char.ofNat n).toLower ≠ ':' ∧
        (Query.isWordStart (Char.ofNat n) = true → startsWord (Char.ofNat n) = true ∧
          Text.isBlank (Char.ofNat n) = false ∧
            ¬ (Char.ofNat n = '"' ∨ Char.ofNat n = '\x60')) := by
    decide +kernel
  have hlt := toNat_lt_of_isWordPart h
  rw [← Char.ofNat_toNat c] at h ⊢
  exact htable ⟨c.toNat, hlt⟩ h

set_option maxRecDepth 4000 in
/-- A colon is no part of a word. -/
private theorem not_wordChar_colon : startsWord ':' = false ∧ continuesWord ':' = false := by
  decide

private theorem isWordPart_of_isWordStart {c : Char} (h : Query.isWordStart c = true) :
    Query.isWordPart c = true := by
  simp only [Query.isWordStart, Bool.or_eq_true] at h
  simp only [Query.isWordPart, Char.isAlphanum, Bool.or_eq_true]
  exact h.imp_left Or.inl

/-! ## §2 Names as words -/

/-- A name is a word up to its first colon. -/
private theorem words_of_isWordStart {c : Char} {tail after : List Char}
    (hc : Query.isWordStart c = true) (htail : ∀ c ∈ tail, Query.isWordPart c = true)
    (hafter : ∀ c ∈ after.head?, c = ':') (fuel : Nat) :
    words (fuel + 1) (c :: (tail ++ after)) =
      if after = [] then some [String.ofList ((c :: tail).map Char.toLower)] else none := by
  obtain ⟨hstarts, hblank, hquote⟩ :=
    (wordChar_of_isWordPart (isWordPart_of_isWordStart hc)).2.2 hc
  have htake : (tail ++ after).takeWhile continuesWord = tail :=
    (Text.span_append (fun c hc => (wordChar_of_isWordPart (htail c hc)).1)
      fun c hc => hafter c hc ▸ not_wordChar_colon.2).1
  have hword : word (c :: (tail ++ after)) =
      some (String.ofList ((c :: tail).map Char.toLower), after) := by
    rw [word, if_neg hquote, if_pos hstarts, htake]
    simp
  rw [words, List.dropWhile_cons_of_neg (by simp [hblank]), hword]
  cases after with
  | nil => rfl
  | cons colon after =>
    obtain rfl := hafter colon rfl
    rfl

/-- A colon starts no word. -/
private theorem words_colon (fuel : Nat) (rest : List Char) : words fuel (':' :: rest) = none := by
  cases fuel with
  | zero => rfl
  | succ fuel =>
    have hword : word (':' :: rest) = none := by
      rw [word, if_neg (by decide), if_neg (by simp [not_wordChar_colon.1])]
    rw [words, List.dropWhile_cons_of_neg (by decide), hword]
    rfl

/-- The table that a name finds: a colon ends a word, so a name with colons is none, and finds the
    table of its own letters; another one finds the table of its letters in lower case. -/
theorem ofText_of_isRecordName (h : Text.isRecordName name = true) :
    ofText name =
      ⟨homeCatalog, homeSchema, if ':' ∈ name.toList then name else lowered name⟩ := by
  cases hchars : name.toList with
  | nil =>
    rw [Text.isRecordName, hchars] at h
    cases h
  | cons c rest =>
    rw [← String.ofList_toList (s := name), hchars, Query.isRecordName_cons, Bool.and_eq_true,
      List.all_eq_true] at h
    obtain ⟨hc, hrest⟩ := h
    rw [ofText, hchars]
    by_cases hfirst : c = ':'
    · -- A name that starts with a colon has no word at all.
      subst hfirst
      rw [words_colon]
      simp
    · have hc : Query.isWordStart c = true := by simpa [Query.beginsWord, hfirst] using hc
      have hpart {c : Char} (hmem : c ∈ rest) (hne : c ≠ ':') : Query.isWordPart c = true := by
        simpa [Query.isInWord, hne] using hrest c hmem
      by_cases hcolon : ':' ∈ rest
      · -- The word before the first colon is not the whole name.
        obtain ⟨tail, after, rfl, htail⟩ := List.eq_append_cons_of_mem hcolon
        rw [words_of_isWordStart hc (fun c hmem => hpart (List.mem_append_left _ hmem)
          fun heq => htail (heq ▸ hmem)) (by simp), if_neg (by simp)]
        simp
      · have hlowered : lowered name = String.ofList ((c :: rest).map Char.toLower) := by
          refine String.toList_injective ?_
          rw [lowered, String.toList_map, hchars, String.toList_ofList]
        have hwords : words ((c :: rest).length + 1) (c :: (rest ++ [])) = some [lowered name] := by
          rw [words_of_isWordStart hc (fun c hmem => hpart hmem fun heq => hcolon (heq ▸ hmem))
            (by simp), if_pos rfl, hlowered]
        rw [List.append_nil] at hwords
        rw [hwords, if_neg (by simp [hcolon, Ne.symm hfirst])]

theorem isHome_ofText (h : Text.isRecordName name = true) : (ofText name).isHome = true := by
  rw [ofText_of_isRecordName h]
  rfl

theorem eq_of_isHome {table table' : TableName} (h : table.isHome = true)
    (h' : table'.isHome = true) (hname : table.name = table'.name) : table = table' := by
  obtain ⟨catalog, schema, name⟩ := table
  obtain ⟨catalog', schema', name'⟩ := table'
  simp only [isHome, Bool.and_eq_true, beq_iff_eq] at h h'
  obtain ⟨rfl, rfl⟩ := h
  obtain ⟨rfl, rfl⟩ := h'
  exact congrArg (TableName.mk _ _) hname

/-! ## §3 Names that find one table -/

/-- The letters of a name without colons have no colon in lower case. -/
private theorem lowered_ne_of_colon (hname : Text.isRecordName name = true)
    (hnone : ':' ∉ name.toList) (hcolon : ':' ∈ other.toList) : lowered name ≠ other := by
  rintro rfl
  rw [lowered, String.toList_map] at hcolon
  obtain ⟨c, hc, hlower⟩ := List.mem_map.mp hcolon
  have hne : c ≠ ':' := fun heq => hnone (heq ▸ hc)
  have hpart : Query.isWordPart c = true := by
    simpa [Query.isInWord, hne] using Query.isInWord_of_mem hname hc
  exact (wordChar_of_isWordPart hpart).2.1 hlower

/-- **Names that find one table** are the same, or they have no colons and differ in the case of
    letters alone. -/
theorem ofText_eq_iff (hname : Text.isRecordName name = true)
    (hother : Text.isRecordName other = true) :
    ofText name = ofText other ↔ name = other ∨
      ':' ∉ name.toList ∧ ':' ∉ other.toList ∧ lowered name = lowered other := by
  rw [ofText_of_isRecordName hname, ofText_of_isRecordName hother]
  simp only [TableName.mk.injEq, true_and]
  by_cases hcolon : ':' ∈ name.toList
  · by_cases hcolon' : ':' ∈ other.toList
    · simp [hcolon, hcolon']
    · have hne := lowered_ne_of_colon hother hcolon' hcolon
      have hne' : name ≠ other := fun heq => hcolon' (heq ▸ hcolon)
      simp [hcolon, hcolon', hne.symm, hne']
  · by_cases hcolon' : ':' ∈ other.toList
    · have hne := lowered_ne_of_colon hname hcolon hcolon'
      have hne' : name ≠ other := fun heq => hcolon (heq ▸ hcolon')
      simp [hcolon, hcolon', hne, hne']
    · simp only [hcolon, hcolon', if_false, not_false_eq_true, true_and]
      exact ⟨Or.inr, fun h => h.elim (congrArg lowered) id⟩

end TableName

/-! ## §4 Tables of a store -/

variable {store : Store} {name : String}

theorem Store.table?_of_isRecordName (h : Text.isRecordName name = true) :
    store.table? name = store.tables.get? (TableName.ofText name).name := by
  have hne : (if ':' ∈ name.toList then name else lowered name) ≠ "" := by
    split
    · rintro rfl
      cases h
    · intro hempty
      have hchars := congrArg String.toList hempty
      rw [lowered, String.toList_map, String.toList_empty, List.map_eq_nil_iff] at hchars
      rw [Text.isRecordName, hchars] at h
      cases h
  rw [Store.table?, TableName.ofText_of_isRecordName h]
  simp [TableName.isHome, hne]

/-- A name in lower case finds the table of this name. -/
theorem Store.table?_of_lower (h : Text.isRecordName name = true)
    (hlower : ∀ c ∈ name.toList, c.isUpper = false) :
    store.table? name = store.tables.get? name := by
  rw [table?_of_isRecordName h, TableName.ofText_of_isRecordName h,
    Table.lowered_eq_self hlower, ite_self]

end LabeledSeries
