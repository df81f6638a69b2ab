import LabeledSeries.Proofs.Fallible
import LabeledSeries.Proofs.Store.Grouping
import LabeledSeries.Proofs.Store.RowLabels
import LabeledSeries.Proofs.Store.Signature

/-!
# Collecting the rows of batches

The rows of batches are added one after the other to an index, which keeps series under digests of
the signatures of their labels.  Every row of a batch that can be read is added, also one whose time
or value is missing: its sample is what the places of these hold.

§1 An index of groups, to which one sample more is added.  §2 The samples of batches.  Where no two
of the signatures that occur have one digest, the index has the groups that come of comparing label
sets (`collectSeries_eq_ok_iff`, `foldl_addEntry`).  So series are identified by their signatures
(`signature_identifies_series`).
-/

namespace LabeledSeries

variable {δ : Type} [DecidableEq δ] {digest : List UInt8 → δ}

/-! ## §1 Groups under digests -/

/-- Series with the digests of their labels. -/
def withDigests (digest : List UInt8 → δ) (series : List Series) : List (δ × Series) :=
  series.map fun series => (digest series.labels.signature, series)

/-- Add a sample with its labels to an index of series. -/
def addEntry (digest : List UInt8 → δ) (index : List (δ × Series)) (entry : Labels × Sample) :
    List (δ × Series) :=
  addUnder (digest entry.1.signature) entry.1 entry.2 index

omit [DecidableEq δ] in
theorem map_snd_withDigests (series : List Series) :
    (withDigests digest series).map Prod.snd = series := by
  simp [withDigests, Function.comp_def]

/-- Adding one more sample, where series are listed for some label sets, among them all those that
    occur. -/
private theorem addUnder_gather (samples : List (Labels × Sample)) (labels : Labels)
    (sample : Sample) {sets : List Labels} (hsets : sets.Nodup)
    (hdigest : Distinguishes digest (labels :: sets))
    (hnew : labels ∉ sets → (gather samples labels).samples = []) :
    addUnder (digest labels.signature) labels sample
        (withDigests digest (sets.map (gather samples))) =
      withDigests digest ((if labels ∈ sets then sets else sets ++ [labels]).map
        (gather (samples ++ [(labels, sample)]))) := by
  induction sets with
  | nil =>
    simp only [withDigests, List.map_nil, List.not_mem_nil, if_false, List.nil_append,
      List.map_cons, addUnder, gather_concat_self, hnew (by simp)]
    rfl
  | cons set sets ih =>
    obtain ⟨hset, hrest⟩ := List.nodup_cons.mp hsets
    by_cases heq : set = labels
    · -- This series gets the sample, and the others stay, since label sets are listed once.
      subst heq
      have hothers : sets.map (gather (samples ++ [(set, sample)])) = sets.map (gather samples) :=
        List.map_congr_left fun other hother =>
          gather_concat_of_ne samples sample fun h => hset (h ▸ hother)
      rw [if_pos (List.mem_cons_self ..), List.map_cons, List.map_cons, hothers,
        gather_concat_self]
      simp only [withDigests, List.map_cons, addUnder, gather, if_true]
    · -- This series stays, as its labels have another digest, and the sample goes behind it.
      have hne : digest set.signature ≠ digest labels.signature :=
        mt (hdigest.digest_eq_iff (by simp) (by simp)).mp heq
      have hmem : labels ∈ set :: sets ↔ labels ∈ sets := by simp [Ne.symm heq]
      have hdigest : Distinguishes digest (labels :: sets) := hdigest.mono fun other hother => by
        simp only [List.mem_cons] at hother ⊢
        tauto
      have hrest' := ih hrest hdigest fun h => hnew (mt hmem.mp h)
      have hhead : digest (gather samples set).labels.signature ≠ digest labels.signature := hne
      simp only [withDigests, List.map_cons] at hrest' ⊢
      rw [addUnder, if_neg hhead, hrest']
      by_cases h : labels ∈ sets <;>
        simp [h, hmem, gather_concat_of_ne samples sample heq]

/-- **Samples are added to their groups**, unless two signatures have one digest. -/
theorem foldl_addEntry {samples : List (Labels × Sample)}
    (h : Distinguishes digest (samples.map Prod.fst)) :
    samples.foldl (addEntry digest) [] = withDigests digest (grouped samples) := by
  -- From the end of the list, where the sample is that is added last.
  induction samples using List.reverseRecOn with
  | nil => rfl
  | append_singleton samples entry ih =>
    obtain ⟨labels, sample⟩ := entry
    have hearlier : Distinguishes digest (samples.map Prod.fst) :=
      h.mono fun set hset => by simpa using Or.inl (List.mem_map.mp hset)
    have hlisted : Distinguishes digest (labels :: (samples.map Prod.fst).eraseDups) := by
      refine h.mono fun set hset => ?_
      rw [List.map_append, List.mem_append, List.map_cons, List.map_nil, List.mem_singleton]
      rcases List.mem_cons.mp hset with rfl | hset
      · exact .inr rfl
      · exact .inl (List.mem_eraseDups.mp hset)
    -- A label set that is not listed yet has no samples yet.
    have hnew : labels ∉ (samples.map Prod.fst).eraseDups →
        (gather samples labels).samples = [] := fun hunlisted =>
      gather_of_not_mem fun hmem => hunlisted (List.mem_eraseDups.mpr hmem)
    rw [List.foldl_append, ih hearlier, List.foldl_cons, List.foldl_nil, addEntry, grouped,
      addUnder_gather samples labels sample (nodup_eraseDups _) hlisted hnew, grouped,
      List.map_append, List.map_cons, List.map_nil, eraseDups_concat]
    simp only [List.mem_eraseDups]

/-! ## §2 Batches -/

namespace Table

/-- The samples of all rows of a batch with their labels, in the order of the rows. -/
def labelledSamples (batch : Table) : List (Labels × Sample) :=
  batch.rows.map fun row => (batch.labels row, batch.sample row)

/-- Whether a table has a column of a kind, and its rows have no cells of other kinds there. -/
def HoldsKind (table : Table) (name : String) (kind : ColumnKind) : Prop :=
  (∃ column, table.column? name = some column ∧ column.kind = kind) ∧
    ∀ row ∈ table.rows, (table.cell name row).fits kind = true

/-- A batch that can be read: it has times and values, and no row has two labels of one name. -/
structure Readable (batch : Table) : Prop where
  times : batch.HoldsKind timeColumn .integer
  values : batch.HoldsKind valueColumn .double
  nodup_labels : ∀ row ∈ batch.rows, ((batch.labelPairs row).map Prod.fst).Nodup

variable {batch table : Table}

theorem requireKind_eq_ok_iff {name : String} {kind : ColumnKind} :
    table.requireKind name kind = .ok () ↔ table.HoldsKind name kind := by
  unfold requireKind HoldsKind
  rw [← List.all_eq_true]
  cases table.column? name with
  | none => simp
  | some column =>
    cases hcells : table.rows.all (fun row => (table.cell name row).fits kind) <;> simp

theorem WellFormed.holdsKind (h : table.WellFormed) {column : Column}
    (hmem : column ∈ table.columns) : table.HoldsKind column.name column.kind :=
  ⟨⟨column, column?_eq_some_of_mem h hmem, rfl⟩,
    fun _ hrow => cell_fits h hrow (column?_eq_some_of_mem h hmem)⟩

theorem nodup_labelPairs (h : (table.columns.map Column.name).Nodup) (row : List Cell) :
    ((table.labelPairs row).map Prod.fst).Nodup := by
  have hset := ofPairs?_labelPairs h row
  rw [Labels.ofPairs?_eq] at hset
  by_contra hrepeated
  rw [if_neg hrepeated] at hset
  cases hset

/-- The rows of a table that holds a metric can be read, whatever is missing from them. -/
theorem WellFormed.readable (h : table.WellFormed) : table.Readable where
  times := h.holdsKind h.timeColumn_mem
  values := h.holdsKind h.valueColumn_mem
  nodup_labels row _ := nodup_labelPairs h.nodup_names row

/-- Whether rows can be added depends on the names of their labels alone. -/
theorem foldlM_addRow (batch : Table) (rows : List (List Cell)) (index : List (δ × Series)) :
    rows.foldlM (batch.addRow digest) index =
      if ∀ row ∈ rows, ((batch.labelPairs row).map Prod.fst).Nodup then
        .ok ((rows.map fun row => (batch.labels row, batch.sample row)).foldl
          (addEntry digest) index)
      else .error .repeatedLabel := by
  induction rows generalizing index with
  | nil => simp [pure, Except.pure]
  | cons row rows ih =>
    rw [List.foldlM_cons, addRow, Labels.ofPairs?_eq]
    by_cases hrow : ((batch.labelPairs row).map Prod.fst).Nodup
    · simp [hrow, bind, Except.bind, ih, addEntry, labels]
    · simp [hrow, bind, Except.bind]

theorem addBatch_eq_ok_iff {index extended : List (δ × Series)} :
    batch.addBatch digest index = .ok extended ↔
      batch.Readable ∧ batch.labelledSamples.foldl (addEntry digest) index = extended := by
  simp only [addBatch, bind_eq_ok_iff, foldlM_addRow]
  constructor
  · rintro ⟨_, htimes, _, hvalues, hrows⟩
    split at hrows
    · rename_i hnodup
      exact ⟨⟨requireKind_eq_ok_iff.mp htimes, requireKind_eq_ok_iff.mp hvalues, hnodup⟩,
        Except.ok.inj hrows⟩
    · cases hrows
  · rintro ⟨h, rfl⟩
    refine ⟨(), requireKind_eq_ok_iff.mpr h.times, (), requireKind_eq_ok_iff.mpr h.values, ?_⟩
    rw [if_pos h.nodup_labels]
    rfl

end Table

/-- **Batches are collected** if each of them can be read, and then with all their rows. -/
theorem collectSeries_eq_ok_iff {batches : List Table} {index : List (δ × Series)} :
    collectSeries digest batches = .ok index ↔
      (∀ batch ∈ batches, batch.Readable) ∧
        (batches.flatMap Table.labelledSamples).foldl (addEntry digest) [] = index := by
  unfold collectSeries
  -- The later batches are added to what the earlier ones leave.
  generalize ([] : List (δ × Series)) = start
  induction batches generalizing start with
  | nil => simp [pure, Except.pure]
  | cons batch batches ih =>
    simp only [List.foldlM_cons, bind_eq_ok_iff, Table.addBatch_eq_ok_iff, ih,
      List.forall_mem_cons, List.flatMap_cons, List.foldl_append]
    constructor
    · rintro ⟨_, ⟨hbatch, rfl⟩, hbatches, hindex⟩
      exact ⟨⟨hbatch, hbatches⟩, hindex⟩
    · rintro ⟨⟨hbatch, hbatches⟩, hindex⟩
      exact ⟨_, ⟨hbatch, rfl⟩, hbatches, hindex⟩

/-- **Signatures identify series**: two label sets have the same signature just if they are the
    same, and the same digest of it unless two signatures have one digest.  Any batches that can be
    read can be collected under digests, and no others.  Where no two of the signatures that occur
    have one digest, the series are those that come of comparing label sets: no two of them have the
    same labels, each has just the samples of its labels, in the order of the rows, and no row is
    left out.  So no series is split, and none are merged. -/
theorem signature_identifies_series {δ : Type} [DecidableEq δ] (digest : List UInt8 → δ) :
    (∀ labels other : Labels, labels.signature = other.signature ↔ labels = other) ∧
    (∀ labels other : Labels, Distinguishes digest [labels, other] →
      (digest labels.signature = digest other.signature ↔ labels = other)) ∧
    ∀ batches : List Table,
      ((∃ index, collectSeries digest batches = .ok index) ↔
        ∀ batch ∈ batches, batch.Readable) ∧
      ∀ index, collectSeries digest batches = .ok index →
        let samples := batches.flatMap Table.labelledSamples
        (∀ batch ∈ batches, ∀ row ∈ batch.rows,
          Labels.ofPairs? (batch.labelPairs row) = some (batch.labels row)) ∧
        (Distinguishes digest (samples.map Prod.fst) →
          index.map Prod.snd = grouped samples ∧
          (index.map fun entry => entry.2.labels).Nodup ∧
          (∀ entry ∈ index, entry.2.samples =
            (samples.filter fun sample => sample.1 = entry.2.labels).map Prod.snd) ∧
          ∀ sample ∈ samples, ∃ entry ∈ index,
            entry.2.labels = sample.1 ∧ sample.2 ∈ entry.2.samples) := by
  refine ⟨Labels.signature_inj, fun labels other h => h.digest_eq_iff (by simp) (by simp), ?_⟩
  intro batches
  constructor
  · simp only [collectSeries_eq_ok_iff, exists_and_left, exists_eq', and_true]
  intro index hindex samples
  obtain ⟨hreadable, hadded⟩ := collectSeries_eq_ok_iff.mp hindex
  constructor
  · intro batch hbatch row hrow
    rw [Labels.ofPairs?_eq, if_pos ((hreadable batch hbatch).nodup_labels row hrow), Table.labels]
  · intro hdigest
    have hindexed : withDigests digest (grouped samples) = index := by
      rw [← foldl_addEntry hdigest, hadded]
    subst hindexed
    refine ⟨map_snd_withDigests _, ?_, fun entry hentry => ?_, fun sample hsample => ?_⟩
    · have hlabels : (withDigests digest (grouped samples)).map (fun entry => entry.2.labels) =
          (grouped samples).map Series.labels := by
        simp [withDigests, Function.comp_def]
      rw [hlabels]
      exact nodup_grouped_labels samples
    · obtain ⟨series, hmem, rfl⟩ := List.mem_map.mp hentry
      exact congrArg Series.samples (mem_grouped hmem).1
    · exact ⟨_, List.mem_map_of_mem (gather_mem_grouped hsample), rfl, mem_gather.mpr hsample⟩

/-- A table of rows that have a host or none, a time and a value. -/
def hostBatch (rows : List (List Cell)) : Table where
  columns := ⟨"host", .text⟩ :: sampleColumns
  rows := rows

/-- Rows of a batch are rows with a cell that fits each of the three columns. -/
theorem hostBatch_wellFormed {rows : List (List Cell)} (h : ∀ row ∈ rows,
    List.Forall₂ (fun column cell => cell.fits column.kind = true) (hostBatch rows).columns row) :
    (hostBatch rows).WellFormed where
  nodup_names := by simp [hostBatch, sampleColumns, timeColumn, valueColumn]
  timeColumn_mem := by simp [hostBatch, sampleColumns]
  valueColumn_mem := by simp [hostBatch, sampleColumns]
  rows_fit := h

/-- The BLAKE3 digests of the signatures of no labels and of the host `a`. -/
def hostDigest (bytes : List UInt8) : BitVec 256 :=
  if bytes = Labels.signature .empty then
    0xaf1349b9f5f9a1a6a0404dea36dcc9499bcb25c9adc112b7cc9a93cae41f3262
  else if bytes = Labels.signature (.singleton "host" "a") then
    0xc5f738e307bb0dc83858c33d1931bc4fc9308ef64667471cffa574c93f027716
  else 0

/-- The series of the host has samples of two batches, one of them from a row that lacks both its
    time and its value, and the series without a host has none of them. -/
theorem signature_identifies_series_of_host :
    let batches :=
      [hostBatch [[.text "a", .integer 2, .double 0.5], [.null, .integer 1, .null]],
        hostBatch [[.text "a", .hiddenInteger 1, .hiddenDouble 2]]]
    let samples := batches.flatMap Table.labelledSamples
    (∀ batch ∈ batches, batch.Readable) ∧
      Distinguishes hostDigest (samples.map Prod.fst) ∧
      ∃ index, collectSeries hostDigest batches = .ok index ∧
        index.map Prod.snd =
          [{ labels := .singleton "host" "a", samples := [⟨2, 0.5⟩, ⟨1, 2⟩], range := none },
            { labels := .empty, samples := [⟨1, 0⟩], range := none }] := by
  intro batches samples
  have hbatches : ∀ batch ∈ batches, batch.Readable := by
    simp only [batches, List.forall_mem_cons]
    refine ⟨(hostBatch_wellFormed ?_).readable, (hostBatch_wellFormed ?_).readable, by simp⟩
    · simp [hostBatch, sampleColumns, Cell.fits]
    · simp [hostBatch, sampleColumns, Cell.fits]
  have hsamples : samples =
      [(.singleton "host" "a", ⟨2, 0.5⟩), (.empty, ⟨1, 0⟩), (.singleton "host" "a", ⟨1, 2⟩)] := by
    simp [samples, batches, Table.labelledSamples, hostBatch, sampleColumns, Table.labels,
      Table.labelPairs, Table.isLabelColumn, Table.sample, Table.cell, timeColumn, valueColumn,
      Cell.storedInteger, Cell.storedDouble]
  have hdigest : Distinguishes hostDigest (samples.map Prod.fst) := by
    rw [hsamples]
    unfold Distinguishes
    decide
  obtain ⟨hcollected, hseries⟩ := (signature_identifies_series hostDigest).2.2 batches
  obtain ⟨index, hindex⟩ := hcollected.mpr hbatches
  have hgrouped : index.map Prod.snd = grouped samples := ((hseries index hindex).2 hdigest).1
  refine ⟨hbatches, hdigest, index, hindex, ?_⟩
  rw [hgrouped, hsamples]
  rfl

end LabeledSeries
