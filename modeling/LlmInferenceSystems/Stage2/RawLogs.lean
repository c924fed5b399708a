import LlmInferenceSystems.Contracts
import LlmInferenceSystems.Python.Base64
import LlmInferenceSystems.Python.Lines
import LlmInferenceSystems.Python.Sequence

/-!
# Raw logs

A log record retains one piece of a server log with its place in the byte stream. A capture holds
the exact bytes and the records that, joined by LF, give them back.

## Main definitions

* `RawLogRecord`, `RawLogCapture`: the contracts, each with what its validator requires
* `retainRawLogRecords`, `retainRawLogCapture`: records and capture of some lines

## Main results

* `RawLogCapture.Valid.utf8Decode_exactBytes`: the text of a valid capture is its records joined by LF
* `retainRawLogCapture_eq_ok`: nonempty encodable lines are captured
-/

namespace Stage2

open Python

/-- `RawLogRecord`: one retained record and where it stands in the capture. -/
structure RawLogRecord where
  sourceStreamId : Str
  recordOrdinal : ℕ
  byteStart : ℕ
  byteEnd : ℕ
  observationOffsetNs : ℕ
  rawRecord : Str
  rawRecordSha256 : Str
deriving DecidableEq

/-- `RawLogCapture` -/
structure RawLogCapture where
  sourceStreamId : Str
  exactBytesBase64 : Str
  decodedByteCount : ℕ
  rawBytesSha256 : Str
  records : List RawLogRecord
  identitySha256 : Str
deriving DecidableEq

/-- `model_dump` -/
def RawLogRecord.dump (record : RawLogRecord) : Json :=
  .obj [(lit "source_stream_id", .str record.sourceStreamId),
    (lit "record_ordinal", .int record.recordOrdinal),
    (lit "byte_start", .int record.byteStart),
    (lit "byte_end", .int record.byteEnd),
    (lit "observation_offset_ns", .int record.observationOffsetNs),
    (lit "raw_record", .str record.rawRecord),
    (lit "raw_record_sha256", .str record.rawRecordSha256)]

/-- `model_dump` -/
def RawLogCapture.dump (capture : RawLogCapture) : Json :=
  .obj [(lit "source_stream_id", .str capture.sourceStreamId),
    (lit "exact_bytes_base64", .str capture.exactBytesBase64),
    (lit "decoded_byte_count", .int capture.decodedByteCount),
    (lit "raw_bytes_sha256", .str capture.rawBytesSha256),
    (lit "records", .arr (capture.records.map RawLogRecord.dump)),
    (lit "identity_sha256", .str capture.identitySha256)]

/-- `b"\n".join(line.encode("utf-8") for line in lines)` -/
def encodeLines : List Str → Option Bytes
  | [] => some []
  | [line] => utf8Encode line
  | line :: lines =>
    match utf8Encode line, encodeLines lines with
    | some encoded, some rest => some (encoded ++ LF :: rest)
    | _, _ => none

/-- The captured bytes. -/
def RawLogCapture.exactBytes (capture : RawLogCapture) : Option Bytes :=
  b64decodeCanonical capture.exactBytesBase64

section

variable [Interpreter]

/-- What `validate_raw_record` requires. -/
structure RawLogRecord.Valid (record : RawLogRecord) : Prop where
  stream : IsIdentifier record.sourceStreamId
  interval : record.byteStart < record.byteEnd
  bytes : (utf8Encode record.rawRecord).map List.length =
    some (record.byteEnd - record.byteStart)
  digest : (utf8Encode record.rawRecord).map Interpreter.hexdigest = some record.rawRecordSha256

/-- What `validate_capture` requires. -/
structure RawLogCapture.Valid (capture : RawLogCapture) : Prop where
  stream : IsIdentifier capture.sourceStreamId
  nonempty : capture.records ≠ []
  records : ∀ record ∈ capture.records, record.Valid
  exact : capture.exactBytes ≠ none
  count : capture.exactBytes.map List.length = some capture.decodedByteCount
  digest : capture.exactBytes.map Interpreter.hexdigest = some capture.rawBytesSha256
  joined : capture.exactBytes = encodeLines (capture.records.map (·.rawRecord))
  sources : ∀ record ∈ capture.records, record.sourceStreamId = capture.sourceStreamId
  ordinals : capture.records.map (·.recordOrdinal) = List.range capture.records.length
  first : capture.records.head?.map (·.byteStart) = some 0
  adjacent : ∀ p ∈ neighbours capture.records, p.2.byteStart = p.1.byteEnd + 1
  last : capture.records.getLast?.map (·.byteEnd) = capture.exactBytes.map List.length
  identity : sha256Identity capture.dump ["identity_sha256"] = .ok capture.identitySha256

instance (record : RawLogRecord) : Decidable record.Valid :=
  decidable_of_iff
    (IsIdentifier record.sourceStreamId ∧ record.byteStart < record.byteEnd ∧
      (utf8Encode record.rawRecord).map List.length =
        some (record.byteEnd - record.byteStart) ∧
      (utf8Encode record.rawRecord).map Interpreter.hexdigest = some record.rawRecordSha256)
    ⟨fun h => ⟨h.1, h.2.1, h.2.2.1, h.2.2.2⟩, fun h => ⟨h.1, h.2, h.3, h.4⟩⟩

instance (capture : RawLogCapture) : Decidable capture.Valid :=
  decidable_of_iff
    (IsIdentifier capture.sourceStreamId ∧ capture.records ≠ [] ∧
      (∀ record ∈ capture.records, record.Valid) ∧ capture.exactBytes ≠ none ∧
      capture.exactBytes.map List.length = some capture.decodedByteCount ∧
      capture.exactBytes.map Interpreter.hexdigest = some capture.rawBytesSha256 ∧
      capture.exactBytes = encodeLines (capture.records.map (·.rawRecord)) ∧
      (∀ record ∈ capture.records, record.sourceStreamId = capture.sourceStreamId) ∧
      capture.records.map (·.recordOrdinal) = List.range capture.records.length ∧
      capture.records.head?.map (·.byteStart) = some 0 ∧
      (∀ p ∈ neighbours capture.records, p.2.byteStart = p.1.byteEnd + 1) ∧
      capture.records.getLast?.map (·.byteEnd) = capture.exactBytes.map List.length ∧
      sha256Identity capture.dump ["identity_sha256"] = .ok capture.identitySha256)
    ⟨fun ⟨h₁, h₂, h₃, h₄, h₅, h₆, h₇, h₈, h₉, h₁₀, h₁₁, h₁₂, h₁₃⟩ =>
      ⟨h₁, h₂, h₃, h₄, h₅, h₆, h₇, h₈, h₉, h₁₀, h₁₁, h₁₂, h₁₃⟩,
    fun h => ⟨h.1, h.2, h.3, h.4, h.5, h.6, h.7, h.8, h.9, h.10, h.11, h.12, h.13⟩⟩

/-! ## Retaining lines -/

/-- The record of a line at a place in the stream. -/
def retainLine (sourceStreamId : Str) (recordOrdinal byteStart : ℕ) (line : Str)
    (observationOffsetNs : ℕ) : Except PyError RawLogRecord :=
  match utf8Encode line with
  | none => .error .unicodeEncode
  | some encoded =>
    let record : RawLogRecord :=
      { sourceStreamId, recordOrdinal, byteStart
        byteEnd := byteStart + encoded.length
        observationOffsetNs
        rawRecord := line
        rawRecordSha256 := Interpreter.hexdigest encoded }
    if record.Valid then .ok record else .error (.validation "raw log record")

/-- The loop of `retain_raw_log_records`. -/
def retainLines (sourceStreamId : Str) (recordOrdinal byteStart : ℕ) :
    List (Str × ℕ) → Except PyError (List RawLogRecord)
  | [] => .ok []
  | (line, observationOffsetNs) :: rest =>
    match retainLine sourceStreamId recordOrdinal byteStart line observationOffsetNs with
    | .error e => .error e
    | .ok record =>
      match retainLines sourceStreamId (recordOrdinal + 1) (record.byteEnd + 1) rest with
      | .error e => .error e
      | .ok records => .ok (record :: records)

/-- `retain_raw_log_records` -/
def retainRawLogRecords (lines : List Str) (sourceStreamId : Str)
    (firstObservationOffsetNs : ℕ := 0) (observationOffsetsNs : Option (List ℕ) := none) :
    Except PyError (List RawLogRecord) :=
  match observationOffsetsNs with
  | some offsets =>
    if offsets.length ≠ lines.length ∨ offsets ≠ sorted offsets then
      .error (.stage2Protocol "raw log observation offsets must match and be monotonic")
    else retainLines sourceStreamId 0 0 (lines.zip offsets)
  | none =>
    retainLines sourceStreamId 0 0
      (lines.zip (List.range' firstObservationOffsetNs lines.length))

/-- The capture of some records before its identity is known. -/
def captureOf (sourceStreamId : Str) (exact : Bytes) (records : List RawLogRecord)
    (identitySha256 : Str) : RawLogCapture where
  sourceStreamId := sourceStreamId
  exactBytesBase64 := b64encode exact
  decodedByteCount := exact.length
  rawBytesSha256 := Interpreter.hexdigest exact
  records := records
  identitySha256 := identitySha256

/-- `retain_raw_log_capture` -/
def retainRawLogCapture (lines : List Str) (sourceStreamId : Str)
    (firstObservationOffsetNs : ℕ := 0) (observationOffsetsNs : Option (List ℕ) := none) :
    Except PyError RawLogCapture :=
  match retainRawLogRecords lines sourceStreamId firstObservationOffsetNs observationOffsetsNs,
    encodeLines lines with
  | .error e, _ => .error e
  | .ok _, none => .error .unicodeEncode
  | .ok records, some exact =>
    match sha256Identity (captureOf sourceStreamId exact records []).dump ["identity_sha256"] with
    | .error e => .error e
    | .ok identity =>
      let capture := captureOf sourceStreamId exact records identity
      if capture.Valid then .ok capture else .error (.validation "raw log capture")

end

/-! ## The text of a capture -/

theorem encodeLines_cons {line : Str} {lines : List Str} (h : lines ≠ []) :
    encodeLines (line :: lines) =
      match utf8Encode line, encodeLines lines with
      | some encoded, some rest => some (encoded ++ LF :: rest)
      | _, _ => none := by
  cases lines with
  | nil => exact absurd rfl h
  | cons line' lines => rfl

theorem encodeLines_cons_eq_some {line : Str} {lines : List Str} (h : lines ≠ [])
    {bytes : Bytes} :
    encodeLines (line :: lines) = some bytes ↔
      ∃ encoded rest, utf8Encode line = some encoded ∧ encodeLines lines = some rest ∧
        bytes = encoded ++ LF :: rest := by
  rw [encodeLines_cons h]
  cases utf8Encode line with
  | none => simp
  | some encoded =>
    cases encodeLines lines with
    | none => simp
    | some rest => simp [eq_comm]

theorem utf8Encode_intercalate {lines : List Str} {bytes : Bytes}
    (h : encodeLines lines = some bytes) : utf8Encode ([10].intercalate lines) = some bytes := by
  induction lines generalizing bytes with
  | nil => exact h
  | cons line lines ih =>
    rcases eq_or_ne lines [] with rfl | hne
    · simpa [encodeLines] using h
    · obtain ⟨encoded, rest, henc, hrest, rfl⟩ := (encodeLines_cons_eq_some hne).mp h
      rw [List.intercalate_cons_of_ne_nil hne, List.append_assoc]
      exact utf8Encode_append henc (utf8Encode_append (s := [10]) rfl (ih hrest))

/-- **The text of a valid capture is its records joined by LF.** -/
theorem RawLogCapture.Valid.utf8Decode_exactBytes [Interpreter] {capture : RawLogCapture}
    (h : capture.Valid) :
    capture.exactBytes.bind utf8Decode =
      some ([10].intercalate (capture.records.map (·.rawRecord))) := by
  obtain ⟨exact, hexact⟩ := Option.ne_none_iff_exists'.mp h.exact
  have hjoined := h.joined
  rw [hexact] at hjoined ⊢
  exact utf8Decode_utf8Encode (utf8Encode_intercalate hjoined.symm)

/-! ## The records of retained lines -/

section

variable [Interpreter]

theorem RawLogRecord.Valid.encodable {record : RawLogRecord} (h : record.Valid) :
    IsEncodable record.rawRecord := by
  have hbytes := h.bytes
  refine utf8Encode_isSome_iff.mp ?_
  cases henc : utf8Encode record.rawRecord with
  | none => simp [henc] at hbytes
  | some bytes => rfl

theorem RawLogRecord.Valid.jsonEncodable_dump {record : RawLogRecord} (h : record.Valid) :
    JsonEncodable record.dump := by
  obtain ⟨bytes, -, hdigest⟩ := Option.map_eq_some_iff.mp h.digest
  have hsha : IsEncodable record.rawRecordSha256 := hdigest ▸ encodable_hexdigest bytes
  simp only [RawLogRecord.dump, JsonEncodable, FieldsEncodable]
  exact ⟨encodable_lit _, h.stream.2.2, encodable_lit _, trivial, encodable_lit _, trivial,
    encodable_lit _, trivial, encodable_lit _, trivial, encodable_lit _, h.encodable,
    encodable_lit _, hsha, trivial⟩

/-- What retaining lines gives: their records, one after the other from a place in the stream. -/
structure Retained (sourceStreamId : Str) (recordOrdinal byteStart : ℕ) (lines : List Str)
    (exact : Bytes) (records : List RawLogRecord) : Prop where
  rawRecords : records.map (·.rawRecord) = lines
  valid : ∀ record ∈ records, record.Valid
  sources : ∀ record ∈ records, record.sourceStreamId = sourceStreamId
  ordinals : records.map (·.recordOrdinal) = List.range' recordOrdinal lines.length
  first : records.head?.map (·.byteStart) = some byteStart
  adjacent : records.IsChain fun left right => right.byteStart = left.byteEnd + 1
  last : records.getLast?.map (·.byteEnd) = some (byteStart + exact.length)

theorem retainLine_eq_ok {sourceStreamId line : Str} {recordOrdinal byteStart offset : ℕ}
    {encoded : Bytes} (hstream : IsIdentifier sourceStreamId) (hline : line ≠ [])
    (hencoded : utf8Encode line = some encoded) :
    ∃ record, retainLine sourceStreamId recordOrdinal byteStart line offset = .ok record ∧
      Retained sourceStreamId recordOrdinal byteStart [line] encoded [record] := by
  have hpos : 0 < encoded.length := by
    rcases encoded with _ | ⟨b, encoded⟩
    · have hnil := utf8Decode_utf8Encode hencoded
      exact absurd (Option.some.inj hnil).symm hline
    · simp
  refine ⟨⟨sourceStreamId, recordOrdinal, byteStart, byteStart + encoded.length, offset, line,
    Interpreter.hexdigest encoded⟩, ?_, rfl, ?_, by simp, rfl, rfl, List.isChain_singleton _, rfl⟩
  · rw [retainLine, hencoded]
    exact if_pos ⟨hstream, by simpa using hpos, by simp [hencoded], by simp [hencoded]⟩
  · simpa using RawLogRecord.Valid.mk hstream (by simpa using hpos) (by simp [hencoded])
      (by simp [hencoded])

theorem retainLines_eq_ok {sourceStreamId : Str} (hstream : IsIdentifier sourceStreamId)
    {lines : List Str} (hlines : ∀ line ∈ lines, line ≠ [] ∧ IsEncodable line) (hne : lines ≠ [])
    {offsets : List ℕ} (hoffsets : offsets.length = lines.length) (recordOrdinal byteStart : ℕ) :
    ∃ records exact, retainLines sourceStreamId recordOrdinal byteStart (lines.zip offsets) =
        .ok records ∧ encodeLines lines = some exact ∧
      Retained sourceStreamId recordOrdinal byteStart lines exact records := by
  -- line by line, with the ordinal and the octet at which its record starts
  induction lines generalizing offsets recordOrdinal byteStart with
  | nil => exact absurd rfl hne
  | cons line lines ih =>
    obtain ⟨offset, offsets, rfl⟩ : ∃ o os, offsets = o :: os := by
      cases offsets with
      | nil => simp at hoffsets
      | cons o os => exact ⟨o, os, rfl⟩
    obtain ⟨hline, henc⟩ := hlines line (by simp)
    obtain ⟨encoded, hencoded⟩ := exists_utf8Encode henc
    obtain ⟨record, hrecord, hone⟩ := @retainLine_eq_ok _ sourceStreamId
      line recordOrdinal byteStart offset encoded hstream hline hencoded
    have hend : record.byteEnd = byteStart + encoded.length := by simpa using hone.last
    have hraw : record.rawRecord = line := by simpa using hone.rawRecords
    have hordinal : record.recordOrdinal = recordOrdinal := by simpa using hone.ordinals
    have hstart : record.byteStart = byteStart := by simpa using hone.first
    -- the last line has no line feed after it
    rcases eq_or_ne lines [] with rfl | hlines'
    · refine ⟨[record], encoded, ?_, ?_, ?_⟩
      · simp [retainLines, hrecord]
      · simp [encodeLines, hencoded]
      · exact hone
    · obtain ⟨records, exact, hrest, hexact, hretained⟩ :=
        ih (fun l hl => hlines l (by simp [hl])) hlines' (by simpa using hoffsets)
          (recordOrdinal + 1) (record.byteEnd + 1)
      rw [hend] at hrest hretained
      have hne' : records ≠ [] := by
        rintro rfl
        simpa using hretained.first
      refine ⟨record :: records, encoded ++ LF :: exact, ?_, ?_, ?_⟩
      · simp only [List.zip_cons_cons, retainLines, hrecord, hend, hrest]
      · exact (encodeLines_cons_eq_some hlines').mpr ⟨encoded, exact, hencoded, hexact, rfl⟩
      -- the record is put before the others, which start after the line feed
      · refine ⟨?_, ?_, ?_, ?_, ?_, ?_, ?_⟩
        · simp [hraw, hretained.rawRecords]
        · exact List.forall_mem_cons.mpr ⟨hone.valid record (by simp), hretained.valid⟩
        · exact List.forall_mem_cons.mpr ⟨hone.sources record (by simp), hretained.sources⟩
        · simp [hordinal, hretained.ordinals, List.range'_succ]
        · simp [hstart]
        -- the next record starts one octet after this one
        · refine List.IsChain.cons hretained.adjacent fun right hright => ?_
          have hfirst := hretained.first
          rw [Option.mem_def.mp hright] at hfirst
          simpa [hend] using hfirst
        · have hlast := hretained.last
          rw [List.getLast?_cons_of_ne_nil hne', hlast]
          simp only [List.length_append, List.length_cons]
          congr 1
          omega

/-- The texts of a valid capture's fields can be encoded. -/
theorem jsonEncodable_captureOf {sourceStreamId identity : Str} (exact : Bytes)
    {records : List RawLogRecord} (hstream : IsEncodable sourceStreamId)
    (hrecords : ∀ record ∈ records, record.Valid)
    (hidentity : IsEncodable identity) :
    JsonEncodable (captureOf sourceStreamId exact records identity).dump := by
  refine fieldsEncodable_iff.mpr ?_
  simp only [captureOf, List.forall_mem_cons, JsonEncodable, itemsEncodable_iff]
  refine ⟨⟨encodable_lit _, hstream⟩, ⟨encodable_lit _, encodable_of_ascii (b64encode_ascii _)⟩,
    ⟨encodable_lit _, trivial⟩, ⟨encodable_lit _, encodable_hexdigest _⟩, ⟨encodable_lit _, ?_⟩,
    ⟨encodable_lit _, hidentity⟩, by simp⟩
  intro item hitem
  obtain ⟨record, hrecord, rfl⟩ := List.mem_map.mp hitem
  exact (hrecords record hrecord).jsonEncodable_dump

theorem RawLogCapture.Valid.jsonEncodable_dump {capture : RawLogCapture} (h : capture.Valid) :
    JsonEncodable capture.dump := by
  obtain ⟨exact, hexact⟩ := Option.ne_none_iff_exists'.mp h.exact
  have hbase64 := b64decodeCanonical_eq_some.mp hexact
  have hcount := h.count
  have hdigest := h.digest
  rw [hexact] at hcount hdigest
  have hidentity : IsEncodable capture.identitySha256 := by
    obtain ⟨bytes, -, hidentity⟩ := exists_of_map_eq_ok h.identity
    exact hidentity ▸ encodable_hexdigest bytes
  have heq : capture =
      captureOf capture.sourceStreamId exact capture.records capture.identitySha256 := by
    obtain ⟨stream, base64, count, digest, records, identity⟩ := capture
    simp only [captureOf, RawLogCapture.mk.injEq, true_and]
    exact ⟨hbase64, (Option.some.inj hcount).symm, (Option.some.inj hdigest).symm, trivial⟩
  rw [heq]
  exact jsonEncodable_captureOf exact h.stream.2.2 h.records hidentity

/-- The numbers of a valid capture are short enough to be written. -/
theorem RawLogCapture.Valid.intsShort_dump {capture : RawLogCapture} (h : capture.Valid) :
    intsShort capture.dump = true := by
  have hidentity : sha256Identity (.obj [(lit "source_stream_id", .str capture.sourceStreamId),
      (lit "exact_bytes_base64", .str capture.exactBytesBase64),
      (lit "decoded_byte_count", .int capture.decodedByteCount),
      (lit "raw_bytes_sha256", .str capture.rawBytesSha256),
      (lit "records", .arr (capture.records.map RawLogRecord.dump))]) =
        .ok capture.identitySha256 := h.identity
  have hshort := (exists_sha256Identity_iff.mp ⟨_, hidentity⟩).2
  simpa [RawLogCapture.dump, intsShort, fieldsShort] using hshort

theorem RawLogCapture.Valid.intsShort_record {capture : RawLogCapture}
    (h : capture.Valid) {record : RawLogRecord} (hrecord : record ∈ capture.records) :
    intsShort record.dump = true := by
  have hshort := h.intsShort_dump
  simp only [RawLogCapture.dump, intsShort, fieldsShort, Bool.and_eq_true, itemsShort_iff,
    List.forall_mem_map] at hshort
  exact hshort.2.2.2.2.1 record hrecord

/-- **Nonempty encodable lines are captured**, unless a number of the capture is too long to write,
and their capture validates. -/
theorem retainRawLogCapture_eq_ok {sourceStreamId : Str} (hstream : IsIdentifier sourceStreamId)
    {lines : List Str}
    (hlines : ∀ line ∈ lines, line ≠ [] ∧ IsEncodable line) (hne : lines ≠ []) (first : ℕ)
    {observationOffsetsNs : Option (List ℕ)}
    (hoffsets : ∀ offsets ∈ observationOffsetsNs,
      offsets.length = lines.length ∧ offsets = sorted offsets)
    (hshort : ∀ records ∈
        (retainRawLogRecords lines sourceStreamId first observationOffsetsNs).toOption,
      ∀ exact ∈ encodeLines lines,
        intsShort (captureOf sourceStreamId exact records []).dump = true) :
    ∃ capture, retainRawLogCapture lines sourceStreamId first observationOffsetsNs = .ok capture ∧
      capture.Valid ∧ capture.sourceStreamId = sourceStreamId ∧
      retainRawLogRecords lines sourceStreamId first observationOffsetsNs =
        .ok capture.records := by
  -- the offsets are those that are given, or one for each line
  obtain ⟨offsets, hlength, hretain⟩ : ∃ offsets : List ℕ, offsets.length = lines.length ∧
      retainRawLogRecords lines sourceStreamId first observationOffsetsNs =
        retainLines sourceStreamId 0 0 (lines.zip offsets) := by
    cases observationOffsetsNs with
    | none => exact ⟨_, by simp, rfl⟩
    | some offsets =>
      obtain ⟨hlength, hsorted⟩ := hoffsets offsets rfl
      exact ⟨offsets, hlength, if_neg (not_or.mpr ⟨not_not.mpr hlength, not_not.mpr hsorted⟩)⟩
  obtain ⟨records, exact, hrecords, hexact, hretained⟩ :=
    retainLines_eq_ok hstream hlines hne hlength 0 0
  -- the capture can be hashed, since its texts are encodable and its numbers short
  obtain ⟨identity, hidentity⟩ : ∃ identity,
      sha256Identity (captureOf sourceStreamId exact records []).dump ["identity_sha256"] =
        .ok identity :=
    exists_sha256Identity
      (jsonEncodable_captureOf exact hstream.2.2 hretained.valid (by simp [IsEncodable]))
      (hshort records (by simp [hretain, hrecords, Except.toOption]) exact (by simp [hexact])) _
  have hvalid : (captureOf sourceStreamId exact records identity).Valid := by
    -- the Base64 text decodes to the octets of the lines
    have hexactBytes : (captureOf sourceStreamId exact records identity).exactBytes =
        some exact := b64decodeCanonical_b64encode exact
    refine ⟨hstream, ?_, hretained.valid, ?_, ?_, ?_, ?_, hretained.sources, ?_, hretained.first,
      forall_neighbours.mpr hretained.adjacent, ?_, ?_⟩
    -- there is a record, since the first has a start
    · rintro hnil
      have hfirst := hretained.first
      simp [show records = [] from hnil] at hfirst
    · simp [hexactBytes]
    · rw [hexactBytes]
      rfl
    · rw [hexactBytes]
      rfl
    · rw [hexactBytes, ← hexact]
      exact congrArg encodeLines hretained.rawRecords.symm
    -- the ordinals count the lines
    · have hlen := congrArg List.length hretained.rawRecords
      rw [List.length_map] at hlen
      rw [List.range_eq_range', show (captureOf sourceStreamId exact records identity).records =
        records from rfl, hlen]
      exact hretained.ordinals
    · rw [hexactBytes]
      exact hretained.last.trans (by simp)
    · exact hidentity
  refine ⟨captureOf sourceStreamId exact records identity, ?_, hvalid, rfl, hretain.trans hrecords⟩
  simp only [retainRawLogCapture, hretain, hrecords, hexact, hidentity]
  exact if_pos hvalid

end

end Stage2
