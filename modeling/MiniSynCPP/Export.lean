import MiniSynCPP.Decimals
import MiniSynCPP.Delimited
import MiniSynCPP.Endurance

/-!
# The exported statistics

The text that `write_csv` leaves behind and what it says: columns under their
names, and around every estimate the band of its error.
-/

namespace MiniSynCPP

open Containers Decimals Runs

namespace Stats

def csvHeader : List Char := "Sample;Timestamp;Drift;Drift Error;Offset;Offset Error".toList

/-- Numbers of type `long double` are written to a stream with `%Lg` and its precision of 6. -/
def Sample.csvRow (s : Sample) (i : ℕ) : List Char :=
  Nat.toDigits 10 i ++ ';' ::
    (general 5 s.currentTimestamp ++ ';' ::
      (general 5 s.drift ++ ';' :: (general 5 s.driftError ++ ';' ::
        (general 5 s.offset ++ ';' :: general 5 s.offsetError))))

/-- What the file holds after `write_csv`, and what it returns. Undefined where `i` overflows. -/
def SyncStats.writeCsv (s : SyncStats) : Option (List Char × UInt32) :=
  if s.samples.length < 2 ^ 31 then
    some (csvHeader ++ '\n' :: (s.samples.zipIdx.flatMap fun row => row.1.csvRow row.2 ++ ['\n']),
      .ofInt (s.samples.length - 1))
  else none

/-! ## Rows as lines of fields -/

/-- The columns of what was measured. -/
def columns : List (String × (Sample → ℚ)) :=
  [("Timestamp", Sample.currentTimestamp), ("Drift", Sample.drift), ("Drift Error", Sample.driftError),
    ("Offset", Sample.offset), ("Offset Error", Sample.offsetError)]

def csvNames : List (List Char) := "Sample".toList :: columns.map fun c => c.1.toList

def csvFields (row : Sample × ℕ) : List (List Char) :=
  Nat.toDigits 10 row.2 :: columns.map fun c => general 5 (c.2 row.1)

theorem csvHeader_eq_line : csvHeader = Delimited.line ';' csvNames := by
  decide +kernel

theorem csvRow_eq_line (row : Sample × ℕ) : row.1.csvRow row.2 = Delimited.line ';' (csvFields row) := by
  simp [Sample.csvRow, csvFields, columns, Delimited.line]

theorem csvNames_clean : Delimited.Clean ';' '\n' csvNames :=
  ⟨⟨'S', "ample".toList, _, rfl⟩, by decide +kernel, by decide +kernel⟩

theorem csvFields_clean (row : Sample × ℕ) : Delimited.Clean ';' '\n' (csvFields row) := by
  have numeral : ∀ f ∈ csvFields row, ∀ c ∈ f, c.isDigit = true ∨ c ∈ ['.', 'e', '-', '+'] := by
    intro f hf c hc
    obtain rfl | hf := List.mem_cons.mp hf
    · exact .inl (isDigit_of_mem_toDigits hc)
    · obtain ⟨column, _, rfl⟩ := List.mem_map.mp hf
      exact mem_general hc
  have other : ∀ c ∈ [';', '\n'], ¬ (c.isDigit = true ∨ c ∈ ['.', 'e', '-', '+']) := by simp
  have clear : ∀ c ∈ [';', '\n'], ∀ f ∈ csvFields row, c ∉ f :=
    fun c hc f hf h => other c hc (numeral f hf c h)
  obtain ⟨d, ds, digits⟩ := List.exists_cons_of_ne_nil (Nat.toDigits_ne_nil (n := row.2) (b := 10))
  exact ⟨⟨d, ds, _, by rw [csvFields, digits]⟩, clear ';' (by decide), clear '\n' (by decide)⟩

/-- Where a column stands. -/
theorem csvNames_idxOf {c : String × (Sample → ℚ)} (h : c ∈ columns) :
    ∃ i, csvNames.idxOf? c.1.toList = some i ∧ ∀ row, (csvFields row)[i]? = some (general 5 (c.2 row.1)) := by
  simp only [columns, List.mem_cons, List.not_mem_nil, or_false] at h
  obtain rfl | rfl | rfl | rfl | rfl := h
  · exact ⟨1, by decide +kernel, fun _ => rfl⟩
  · exact ⟨2, by decide +kernel, fun _ => rfl⟩
  · exact ⟨3, by decide +kernel, fun _ => rfl⟩
  · exact ⟨4, by decide +kernel, fun _ => rfl⟩
  · exact ⟨5, by decide +kernel, fun _ => rfl⟩

section ReadBack
variable {s : SyncStats} {text : List Char} {count : UInt32}

theorem text_eq_lines (written : s.writeCsv = some (text, count)) :
    text = Delimited.lines '\n'
      (csvHeader :: s.samples.zipIdx.map fun row => Delimited.line ';' (csvFields row)) := by
  unfold SyncStats.writeCsv at written
  split_ifs at written
  obtain ⟨rfl, _⟩ := Prod.mk.inj (Option.some.inj written)
  rw [Delimited.lines, List.flatMap_cons, List.flatMap_map, List.append_assoc, List.singleton_append]
  simp only [csvRow_eq_line]

/-- Every cell of a column is a number. -/
theorem values?_written {name : String} {i : ℕ} {cell : Sample × ℕ → List Char}
    {value : Sample × ℕ → ℚ} (written : s.writeCsv = some (text, count))
    (found : csvNames.idxOf? name.toList = some i) (cells : ∀ row, (csvFields row)[i]? = some (cell row))
    (reads : ∀ row, number? (cell row) = some (value row)) :
    Delimited.values? number? ';' '\n' name.toList text = some (s.samples.zipIdx.map value) := by
  rw [text_eq_lines written]
  exact Delimited.values?_lines (by decide) csvNames_clean (fun row _ => csvFields_clean row) found
    (fun row _ => cells row) csvHeader_eq_line fun row _ => reads row

theorem values?_sample (written : s.writeCsv = some (text, count)) :
    Delimited.values? number? ';' '\n' "Sample".toList text =
      some ((List.range s.samples.length).map Nat.cast) := by
  rw [values?_written written (i := 0) (by decide +kernel) (fun _ => rfl) fun row => number?_toDigits row.2]
  have numbers := congrArg (List.map (Nat.cast : ℕ → ℚ)) (List.zipIdx_map_snd 0 s.samples)
  rw [List.map_map, ← List.range_eq_range'] at numbers
  exact congrArg some numbers

theorem values?_of_mem (written : s.writeCsv = some (text, count)) {c : String × (Sample → ℚ)}
    (h : c ∈ columns) :
    Delimited.values? number? ';' '\n' c.1.toList text =
      some (s.samples.map fun row => rounded 5 (c.2 row)) := by
  obtain ⟨i, found, cells⟩ := csvNames_idxOf h
  rw [values?_written written found cells fun row => number?_general 5 (c.2 row.1)]
  have values := congrArg (List.map fun row => rounded 5 (c.2 row)) (List.zipIdx_map_fst 0 s.samples)
  rw [List.map_map] at values
  exact congrArg some values

theorem writeCsv_written (fits : s.samples.length < 2 ^ 31) :
    ∃ text count, s.writeCsv = some (text, count) ∧ count + 1 = .ofNat s.samples.length := by
  have whole : UInt32.ofInt (s.samples.length : ℤ) = .ofNat s.samples.length := by
    apply UInt32.toNat_inj.mp
    simp only [UInt32.ofInt, UInt32.toNat_ofNat']
    omega
  refine ⟨_, _, if_pos fits, ?_⟩
  rw [← whole, ← sub_add_cancel (s.samples.length : ℤ) 1, UInt32.ofInt_add]
  simp

end ReadBack

/-- **The file tells what was recorded.** Under the name of every column stand, in order, the numbers of
the samples with six significant digits. The count that is returned is one short. -/
theorem csv_reads_back (s : SyncStats) (fits : s.samples.length < 2 ^ 31) :
    ∃ text count, s.writeCsv = some (text, count) ∧ count + 1 = .ofNat s.samples.length ∧
      Delimited.values? number? ';' '\n' "Sample".toList text =
        some ((List.range s.samples.length).map Nat.cast) ∧
      ∃ read : ℚ → ℚ, Monotone read ∧ (∀ x, |read x - x| ≤ |x| / 200000) ∧ ∀ c ∈ columns,
        Delimited.values? number? ';' '\n' c.1.toList text =
          some (s.samples.map fun row => read (c.2 row)) := by
  obtain ⟨text, count, written, short⟩ := writeCsv_written fits
  refine ⟨text, count, written, short, values?_sample written, rounded 5, rounded_mono 5, ?_, ?_⟩
  · intro x
    have near := abs_rounded_sub_le 5 x
    norm_num at near
    exact near
  · exact fun c hc => values?_of_mem written hc

/-- Two rows of a measurement, as they were written. -/
def twoRows : SyncStats :=
  ⟨[⟨1556290000123456, -128599961 / 1000000, 213678 / 100, 993914 / 1000000, 305614 / 10000000⟩,
    ⟨1556290000323456, -137073 / 1000, 209906 / 100, 996857 / 1000000, 145405 / 10000000⟩]⟩

theorem csv_reads_back_two :
    ∃ text count, twoRows.writeCsv = some (text, count) ∧ count + 1 = .ofNat twoRows.samples.length ∧
      Delimited.values? number? ';' '\n' "Sample".toList text =
        some ((List.range twoRows.samples.length).map Nat.cast) ∧
      ∃ read : ℚ → ℚ, Monotone read ∧ (∀ x, |read x - x| ≤ |x| / 200000) ∧ ∀ c ∈ columns,
        Delimited.values? number? ';' '\n' c.1.toList text =
          some (twoRows.samples.map fun row => read (c.2 row)) :=
  csv_reads_back twoRows (by decide)

example : twoRows.writeCsv.map (fun file => String.ofList file.1) =
    some "Sample;Timestamp;Drift;Drift Error;Offset;Offset Error
0;1.55629e+15;0.993914;0.0305614;-128.6;2136.78
1;1.55629e+15;0.996857;0.0145405;-137.073;2099.06
" := by
  decide +kernel

/-! ## The bands around the estimates -/

/-- A column of estimates with the column of their errors: the truth lies in every band, up to what
writing five digits after the first may lose, and no band is wider than an earlier. -/
structure Band (truth : ℚ) (values errors : List ℚ) (rows : ℕ) : Prop where
  values_length : values.length = rows
  errors_length : errors.length = rows
  covers : ∀ (i : ℕ) (v e : ℚ), values[i]? = some v → errors[i]? = some e →
    199999 * |truth - v| ≤ 200000 * e + |v|
  narrows : errors.Pairwise fun e later => later ≤ e

theorem covers_rounded {truth v e : ℚ} (covers : |truth - v| ≤ e) :
    199999 * |truth - rounded 5 v| ≤ 200000 * rounded 5 e + |rounded 5 v| := by
  have value := abs_rounded_sub_le 5 v
  have error := abs_rounded_sub_le 5 e
  have apart := abs_sub_le truth v (rounded 5 v)
  have size := abs_sub_abs_le_abs_sub v (rounded 5 v)
  rw [abs_sub_comm v] at apart size
  rw [abs_of_nonneg ((abs_nonneg _).trans covers), abs_le] at error
  norm_num at value error
  linarith

theorem Band.of_rows {samples : List Sample} {value error : Sample → ℚ} {truth : ℚ}
    (covers : ∀ row ∈ samples, |truth - value row| ≤ error row)
    (narrows : samples.Pairwise fun row later => error later ≤ error row) :
    Band truth (samples.map fun row => rounded 5 (value row))
      (samples.map fun row => rounded 5 (error row)) samples.length where
  values_length := List.length_map _
  errors_length := List.length_map _
  covers := by
    intro i v e hv he
    rw [List.getElem?_map, Option.map_eq_some_iff] at hv he
    obtain ⟨row, here, rfl⟩ := hv
    obtain ⟨row', here', rfl⟩ := he
    obtain rfl : row = row' := Option.some.inj (here.symm.trans here')
    exact covers_rounded (covers row (List.mem_of_getElem? here))
  narrows := List.pairwise_map.mpr (narrows.imp fun h => rounded_mono 5 h)

end Stats

open Session Stats in
/-- **The file of a session holds the truth.** While the transits are slow and the products below
the initial `diff_factor`, the file has a row for every accepted reply, in which the bands of drift and
offset cover the line of the clocks and never widen. -/
theorem exported_bands (algo : Algo) (p : Pairing) (max now a b : ℚ) (requests : List Handshake)
    (replies : List HandshakeReply) (past : List Session.Action) (s : Session algo.Members)
    (run : Run (QuietStep .loguru p) (start max now requests replies) past s)
    (related : p.Related a b) (sync : p.sync.minimumDelays.Nonneg) (reference : p.reference.Nonneg)
    (tick : 1 / 1000 ≤ p.reference.beacon + p.reference.beaconReply)
    (diligent : Diligent p max a s.net.samples) :
    ∃ text count drifts driftErrors offsets offsetErrors,
      s.estimation.stats.writeCsv = some (text, count) ∧
      Delimited.values? number? ';' '\n' "Drift".toList text = some drifts ∧
      Delimited.values? number? ';' '\n' "Drift Error".toList text = some driftErrors ∧
      Delimited.values? number? ';' '\n' "Offset".toList text = some offsets ∧
      Delimited.values? number? ';' '\n' "Offset Error".toList text = some offsetErrors ∧
      Band a drifts driftErrors s.net.samples.length ∧ Band b offsets offsetErrors s.net.samples.length ∧
      ∀ drift ∈ drifts, 0 ≤ drift := by
  have fine := run_fine related sync reference tick run diligent
  obtain ⟨es, fed, lengths, admitted, right⟩ := run_admitted run fine related reference diligent.slow
  have covers := Estimation.rows_sound fed.run admitted right
  obtain ⟨rising, tightens⟩ := rows_tighten related sync reference tick run diligent
  have rows := (Estimation.run_rows fed.run).trans lengths
  have short := diligent.short
  obtain ⟨text, count, written, _⟩ := writeCsv_written (s := s.estimation.stats) (by omega)
  have read := fun c hc => values?_of_mem written (c := c) hc
  refine ⟨text, count, _, _, _, _, written, read ("Drift", Sample.drift) (by simp [columns]),
    read ("Drift Error", Sample.driftError) (by simp [columns]),
    read ("Offset", Sample.offset) (by simp [columns]),
    read ("Offset Error", Sample.offsetError) (by simp [columns]), ?_, ?_, ?_⟩
  · rw [← rows]
    exact .of_rows (fun row hrow => (covers row hrow).1) (tightens.imp fun h => h.1)
  · rw [← rows]
    exact .of_rows (fun row hrow => (covers row hrow).2) (tightens.imp fun h => h.2)
  · intro drift hdrift
    obtain ⟨row, hrow, rfl⟩ := List.mem_map.mp hdrift
    exact rounded_nonneg 5 (rising row hrow)

open Stats in
theorem exported_bands_twice :
    ∃ text count drifts driftErrors offsets offsetErrors,
      steadyTwice.estimation.stats.writeCsv = some (text, count) ∧
      Delimited.values? number? ';' '\n' "Drift".toList text = some drifts ∧
      Delimited.values? number? ';' '\n' "Drift Error".toList text = some driftErrors ∧
      Delimited.values? number? ';' '\n' "Offset".toList text = some offsets ∧
      Delimited.values? number? ';' '\n' "Offset Error".toList text = some offsetErrors ∧
      Band 1 drifts driftErrors 2 ∧ Band 0 offsets offsetErrors 2 ∧ ∀ drift ∈ drifts, 0 ≤ drift := by
  obtain ⟨past, run⟩ := run_steadyTwice
  exact exported_bands .miniSync steadyPairing 1000 0 1 0 [] [] past _ run steadyPairing_related
    ⟨le_refl 0, le_refl 0⟩ steady_reference (by decide +kernel) steady_diligent

end MiniSynCPP
