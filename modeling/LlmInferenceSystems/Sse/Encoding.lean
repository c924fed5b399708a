import LlmInferenceSystems.Sse.Chunking

/-!
# Writing and reading a stream

A writer sends frames of comment lines and data lines, and ends each line with LF or CRLF as it
likes. Whatever the chunks, the parser returns exactly these frames.

## Main definitions

* `WireLine`, `WireFrame`: what a writer sends
* `WireFrame.frame`: the frame that is meant
* `OneDone`: the marker comes once, and no data after it

## Main results

* `crlfToLf_frameOctets`: the line endings do not show after replacement
* `readFrame_rawText`: a frame is read as it is meant
* `feedAll_wireText`: the parser returns the frames that were written
-/

namespace Sse

open Python IncrementalSSEParser

/-! ## What is written -/

/-- How a line of the stream ends. -/
inductive LineEnding where
  | lf
  | crlf
deriving DecidableEq

/-- The characters that end a line. -/
def LineEnding.text : LineEnding → Str
  | lf => [10]
  | crlf => [13, 10]

/-- The kinds of field a line may hold. -/
inductive LineField where
  | comment
  | data
deriving DecidableEq

/-- A field's name and the space after it. -/
def LineField.start : LineField → Str
  | comment => lit ": "
  | data => lit "data: "

/-- A comment line or a data line; the text of a comment does not start with a space. -/
structure WireLine where
  field : LineField
  text : Str
  ending : LineEnding
  scalars : ∀ c ∈ text, isScalar c
  oneLine : 10 ∉ text ∧ 13 ∉ text
  noSpace : field = .comment → text.head? ≠ some 32

/-- A line without its ending. -/
def WireLine.content (line : WireLine) : Str := line.field.start ++ line.text

/-- A frame: some lines, then a blank one. -/
structure WireFrame where
  lines : List WireLine
  blank : LineEnding
  nonempty : lines ≠ []

namespace WireFrame

/-- The text of a frame as it is sent. -/
def text (frame : WireFrame) : Str :=
  frame.lines.flatMap (fun line => line.content ++ line.ending.text) ++ frame.blank.text

/-- The texts of a field. -/
def textsOf (field : LineField) (frame : WireFrame) : List Str :=
  (frame.lines.filter (·.field = field)).map (·.text)

/-- The data lines joined by LF, if there are any. -/
def data (frame : WireFrame) : Option Str :=
  if frame.textsOf .data = [] then none else some ((lit "\n").intercalate (frame.textsOf .data))

/-- The kind of frame that the parser makes of it. -/
def kind (frame : WireFrame) : FrameKind :=
  match frame.data with
  | none => .comment
  | some data => if data = lit "[DONE]" then .done else .data

/-- The frame that is meant. -/
def frame (frame : WireFrame) : SSEFrame := ⟨frame.kind, frame.data, frame.textsOf .comment⟩

/-- The frame without line endings but those between its lines. -/
def rawText (frame : WireFrame) : Str := [10].intercalate (frame.lines.map (·.content))

end WireFrame

/-- The text of a stream. -/
def wireText (frames : List WireFrame) : Str := frames.flatMap (·.text)

/-- At most one frame is `[DONE]`, and no frame after it has data. -/
def OneDone (frames : List WireFrame) : Prop :=
  frames.Pairwise fun frame later => frame.data = some (lit "[DONE]") → later.data = none

/-! ## A line -/

namespace WireLine

variable (line : WireLine)

theorem content_ne_nil : line.content ≠ [] := by
  rw [content]
  cases line.field <;> simp [LineField.start, lit_eq]

theorem not_mem_content {c : ℕ} (hc : c = 10 ∨ c = 13) : c ∉ line.content := by
  rw [content, List.mem_append]
  rintro (h | h)
  · revert h
    rcases hc with rfl | rfl <;> cases line.field <;> decide
  · rcases hc with rfl | rfl
    · exact line.oneLine.1 h
    · exact line.oneLine.2 h

theorem isScalar_content : ∀ c ∈ line.content, isScalar c := by
  intro c hc
  rcases List.mem_append.mp hc with h | h
  · have hstart : ∀ c ∈ line.field.start, c < 128 := by cases line.field <;> decide
    exact isScalar_of_ascii (hstart c h)
  · exact line.scalars c h

/-- The octets of a line have neither CR nor LF. -/
theorem exists_octets : ∃ octets, utf8Encode line.content = some octets ∧ octets ≠ [] ∧
    CR ∉ octets ∧ LF ∉ octets := by
  obtain ⟨octets, hoctets⟩ := exists_utf8Encode line.isScalar_content
  have hdecode := utf8Decode_utf8Encode hoctets
  refine ⟨octets, hoctets, ?_, fun h => ?_, fun h => ?_⟩
  · rintro rfl
    exact line.content_ne_nil (Option.some.inj hdecode).symm
  · exact line.not_mem_content (.inr rfl) (mem_of_utf8Decode hdecode h (by decide))
  · exact line.not_mem_content (.inl rfl) (mem_of_utf8Decode hdecode h (by decide))

/-- A line is read as it is meant. -/
theorem readLine_content : readLine line.content =
    some (if line.field = .data then .inr line.text else .inl line.text) := by
  have hspace := line.noSpace
  rw [content]
  cases hfield : line.field with
  | data =>
    rw [readLine, if_neg (by simp [LineField.start, lit_eq]),
      if_neg (by simp [LineField.start, lit_eq]),
      if_pos (by simp [LineField.start, lit_eq])]
    simp [LineField.start, lit_eq]
  | comment =>
    rw [readLine, if_pos (by simp [LineField.start, lit_eq])]
    have hstrip : lstripSpaces (32 :: line.text) = line.text := by
      rw [lstripSpaces, List.dropWhile_cons_of_pos (by decide)]
      cases htext : line.text with
      | nil => rfl
      | cons c text =>
        have hc : c ≠ 32 := fun h => hspace hfield (by rw [htext, h]; rfl)
        exact List.dropWhile_cons_of_neg (by simpa using hc)
    simp [LineField.start, lit_eq, hstrip]

end WireLine

/-! ## The octets of a frame -/

/-- The octets that end a line. -/
def LineEnding.octets : LineEnding → Bytes
  | lf => [LF]
  | crlf => [CR, LF]

theorem LineEnding.utf8Encode_text (ending : LineEnding) :
    utf8Encode ending.text = some ending.octets := by
  cases ending <;> decide

/-- Replacement leaves an LF of every line ending. -/
theorem LineEnding.crlfToLf_octets (ending : LineEnding) (more : Bytes) :
    crlfToLf (ending.octets ++ more) = LF :: crlfToLf more := by
  cases ending with
  | lf => exact crlfToLf_cons_of_ne (by decide) more
  | crlf => exact crlfToLf_crlf more

/-- Octets without LF are passed over in the search of a blank line. -/
theorem splitBlank_append_of_lf_not_mem {data : Bytes} (h : LF ∉ data) (more : Bytes) :
    splitBlank (data ++ more) = (splitBlank more).map fun p => (data ++ p.1, p.2) := by
  induction data with
  | nil => simp
  | cons b data ih =>
    have hb : b ≠ LF := fun heq => h (by simp [heq])
    have hrest := ih fun hmem => h (List.mem_cons_of_mem _ hmem)
    cases hdata : data ++ more with
    | nil =>
      obtain ⟨rfl, rfl⟩ := List.append_eq_nil_iff.mp hdata
      rfl
    | cons c tail =>
      rw [List.cons_append, hdata, splitBlank, if_neg (fun hlf => hb hlf.1), ← hdata, hrest,
        Option.map_map]
      rfl

/-- What the octets of some lines are, sent with their endings and joined by LF. -/
structure LinesOctets (lines : List WireLine) (raw octets : Bytes) : Prop where
  encodeRaw : utf8Encode ([10].intercalate (lines.map (·.content))) = some raw
  encodeOctets : utf8Encode (lines.flatMap fun line => line.content ++ line.ending.text) = some octets
  head : ∃ b rest, raw = b :: rest ∧ b ≠ LF
  cr : CR ∉ raw
  replaced : ∀ more, crlfToLf (octets ++ more) = raw ++ LF :: crlfToLf more
  cut : ∀ more, splitBlank (raw ++ LF :: LF :: more) = some (raw, more)

theorem exists_linesOctets {lines : List WireLine} (h : lines ≠ []) :
    ∃ raw octets, LinesOctets lines raw octets := by
  induction lines with
  | nil => exact absurd rfl h
  | cons line lines ih =>
    obtain ⟨x, hx, hne, hcr, hlf⟩ := line.exists_octets
    obtain ⟨b, rest, rfl⟩ := List.exists_cons_of_ne_nil hne
    have hb : b ≠ LF := fun heq => hlf (by simp [heq])
    have hline : utf8Encode (line.content ++ line.ending.text) =
        some (b :: rest ++ line.ending.octets) :=
      utf8Encode_append hx line.ending.utf8Encode_text
    rcases eq_or_ne lines [] with rfl | hlines
    · refine ⟨b :: rest, b :: rest ++ line.ending.octets, ?_, ?_, ⟨b, rest, rfl, hb⟩, hcr,
        fun more => ?_, fun more => ?_⟩
      · simpa using hx
      · simpa using hline
      · rw [List.append_assoc, crlfToLf_append_of_cr_not_mem hcr, line.ending.crlfToLf_octets]
      · rw [splitBlank_append_of_lf_not_mem hlf]
        simp [splitBlank]
    · obtain ⟨raw, octets, hraw, hoctets, ⟨c, tail, rfl, hc⟩, hrawcr, hreplaced, hcut⟩ := ih hlines
      refine ⟨b :: rest ++ LF :: c :: tail, b :: rest ++ line.ending.octets ++ octets, ?_, ?_,
        ⟨b, rest ++ LF :: c :: tail, rfl, hb⟩, ?_, fun more => ?_, fun more => ?_⟩
      · obtain ⟨line', lines, rfl⟩ := List.exists_cons_of_ne_nil hlines
        rw [List.map_cons, List.map_cons, List.intercalate_cons_cons, ← List.map_cons]
        have hsep : utf8Encode [10] = some [LF] := by decide
        simpa using utf8Encode_append (utf8Encode_append hx hsep) hraw
      · rw [List.flatMap_cons]
        exact utf8Encode_append hline hoctets
      · intro hmem
        rcases List.mem_append.mp hmem with hmem | hmem
        · exact hcr hmem
        · rcases List.mem_cons.mp hmem with hmem | hmem
          · exact absurd hmem (by decide)
          · exact hrawcr hmem
      · rw [List.append_assoc, List.append_assoc, crlfToLf_append_of_cr_not_mem hcr,
          line.ending.crlfToLf_octets, hreplaced]
        simp
      · rw [List.append_assoc, splitBlank_append_of_lf_not_mem hlf]
        have hmore := hcut more
        rw [List.cons_append] at hmore
        rw [List.cons_append, List.cons_append, splitBlank, if_neg (fun hlf => hc hlf.2), hmore]
        rfl

/-- What the octets of a frame are, sent and after replacement. -/
structure FrameOctets (frame : WireFrame) (raw octets : Bytes) : Prop where
  encodeRaw : utf8Encode frame.rawText = some raw
  encodeOctets : utf8Encode frame.text = some octets
  nonempty : raw ≠ []
  cr : CR ∉ raw
  replaced : ∀ more, crlfToLf (octets ++ more) = raw ++ LF :: LF :: crlfToLf more
  cut : ∀ more, splitBlank (raw ++ LF :: LF :: more) = some (raw, more)

theorem exists_frameOctets (frame : WireFrame) : ∃ raw octets, FrameOctets frame raw octets := by
  obtain ⟨raw, octets, h⟩ := exists_linesOctets frame.nonempty
  refine ⟨raw, octets ++ frame.blank.octets, h.encodeRaw,
    utf8Encode_append h.encodeOctets frame.blank.utf8Encode_text, ?_, h.cr, fun more => ?_, h.cut⟩
  · obtain ⟨b, rest, rfl, -⟩ := h.head
    exact List.cons_ne_nil b rest
  · rw [List.append_assoc, h.replaced, frame.blank.crlfToLf_octets]

/-- What the octets of a stream are. -/
structure StreamOctets (frames : List WireFrame) (raws : List Bytes) (octets : Bytes) : Prop where
  encodeOctets : utf8Encode (wireText frames) = some octets
  encodeRaws : List.Forall₂
    (fun (frame : WireFrame) raw => utf8Encode frame.rawText = some raw ∧ raw ≠ [])
    frames raws
  replaced : crlfToLf octets = joinPieces raws
  pieces : pieces (joinPieces raws) = (raws, [])
  cr : CR ∉ joinPieces raws

theorem exists_streamOctets (frames : List WireFrame) :
    ∃ raws octets, StreamOctets frames raws octets := by
  induction frames with
  | nil => exact ⟨[], [], rfl, .nil, rfl, rfl, List.not_mem_nil⟩
  | cons frame frames ih =>
    obtain ⟨raw, x, hx⟩ := exists_frameOctets frame
    obtain ⟨raws, octets, h⟩ := ih
    have hjoin : joinPieces (raw :: raws) = raw ++ LF :: LF :: joinPieces raws := by
      simp [joinPieces]
    refine ⟨raw :: raws, x ++ octets, ?_, .cons ⟨hx.encodeRaw, hx.nonempty⟩ h.encodeRaws, ?_, ?_, ?_⟩
    · rw [wireText, List.flatMap_cons]
      exact utf8Encode_append hx.encodeOctets h.encodeOctets
    · rw [hx.replaced, h.replaced, hjoin]
    · rw [hjoin, pieces_of_splitBlank_some (hx.cut _), h.pieces]
    · rw [hjoin]
      intro hmem
      rcases List.mem_append.mp hmem with hmem | hmem
      · exact hx.cr hmem
      · simp only [List.mem_cons] at hmem
        rcases hmem with hmem | hmem | hmem
        · exact absurd hmem (by decide)
        · exact absurd hmem (by decide)
        · exact h.cr hmem

/-- Where no CR is left, one replacement is enough. -/
theorem oneReplacement_of_cr_not_mem {data : Bytes} (h : CR ∉ crlfToLf data) :
    OneReplacement data := by
  fun_induction crlfToLf data with
  | case1 => simp [OneReplacement]
  | case2 b => exact fun hd => by simpa using hd.length_le
  | case3 b c data hbc ih =>
    obtain ⟨rfl, rfl⟩ := hbc
    have hdata := ih fun hmem => h (List.mem_cons_of_mem _ hmem)
    intro hd
    rcases List.infix_cons_iff.mp hd with hd | hd
    · exact absurd (List.cons_prefix_cons.mp (List.cons_prefix_cons.mp hd).2).1 (by decide)
    · rcases List.infix_cons_iff.mp hd with hd | hd
      · exact absurd (List.cons_prefix_cons.mp hd).1 (by decide)
      · exact hdata hd
  | case4 b c data hbc ih =>
    have hrest := ih fun hmem => h (List.mem_cons_of_mem _ hmem)
    intro hd
    rcases List.infix_cons_iff.mp hd with hd | hd
    · have hb : CR = b := (List.cons_prefix_cons.mp hd).1
      exact h (by simp [hb])
    · exact hrest hd

/-! ## Reading the frames -/

theorem not_mem_intercalate {x c : ℕ} (hne : c ≠ x) {texts : List Str}
    (h : ∀ text ∈ texts, c ∉ text) : c ∉ [x].intercalate texts := by
  induction texts with
  | nil => simp
  | cons text texts ih =>
    have htext := h text List.mem_cons_self
    have hrest := ih fun t ht => h t (List.mem_cons_of_mem _ ht)
    cases texts with
    | nil => simpa using htext
    | cons text' texts =>
      rw [List.intercalate_cons_cons]
      simp [htext, hne, hrest]

/-- What is read of a line. -/
def WireLine.read (line : WireLine) : Str ⊕ Str :=
  if line.field = .data then .inr line.text else .inl line.text

theorem mapM_readLine (lines : List WireLine) :
    (lines.map (·.content)).mapM readLine = some (lines.map (·.read)) := by
  induction lines with
  | nil => rfl
  | cons line lines ih =>
    rw [List.map_cons, List.mapM_cons, line.readLine_content, ih]
    rfl

theorem filterMap_getLeft (lines : List WireLine) :
    (lines.map (·.read)).filterMap Sum.getLeft? =
      (lines.filter (·.field = .comment)).map (·.text) := by
  induction lines with
  | nil => rfl
  | cons line lines ih =>
    rw [List.map_cons, List.filterMap_cons, ih, WireLine.read]
    cases hfield : line.field <;> simp [hfield]

theorem filterMap_getRight (lines : List WireLine) :
    (lines.map (·.read)).filterMap Sum.getRight? =
      (lines.filter (·.field = .data)).map (·.text) := by
  induction lines with
  | nil => rfl
  | cons line lines ih =>
    rw [List.map_cons, List.filterMap_cons, ih, WireLine.read]
    cases hfield : line.field <;> simp [hfield]

/-- **A frame is read as it is meant**, unless the marker has come and it has data. -/
theorem readFrame_rawText (frame : WireFrame) {raw : Bytes}
    (hraw : utf8Encode frame.rawText = some raw) {done : Bool}
    (hdone : done = true → frame.data = none) : readFrame done raw = .ok frame.frame := by
  have hlines : ∀ c, c = 10 ∨ c = 13 → ∀ text ∈ frame.lines.map (·.content), c ∉ text := by
    intro c hc text htext
    obtain ⟨line, -, rfl⟩ := List.mem_map.mp htext
    exact line.not_mem_content hc
  have hcr : 13 ∉ frame.rawText := not_mem_intercalate (by decide) (hlines 13 (.inr rfl))
  have hsplit : frame.rawText.splitOn 10 = frame.lines.map (·.content) :=
    List.splitOn_intercalate 10 (hlines 10 (.inl rfl)) (by simpa using frame.nonempty)
  rw [readFrame, utf8Decode_utf8Encode hraw]
  dsimp only
  rw [if_neg hcr, hsplit, mapM_readLine]
  dsimp only
  rw [filterMap_getLeft, filterMap_getRight, ← WireFrame.textsOf, ← WireFrame.textsOf]
  by_cases htexts : frame.textsOf .data = []
  · rw [if_pos htexts, WireFrame.frame, WireFrame.kind, WireFrame.data, if_pos htexts]
  · have hdata : frame.data = some ((lit "\n").intercalate (frame.textsOf .data)) := if_neg htexts
    have hnot : done = false := by
      cases done with
      | false => rfl
      | true => rw [hdone rfl] at hdata; cases hdata
    rw [if_neg htexts, WireFrame.frame, WireFrame.kind, hdata, hnot]
    dsimp only
    split <;> rfl

theorem kind_frame_eq_done_iff (frame : WireFrame) :
    frame.frame.kind = .done ↔ frame.data = some (lit "[DONE]") := by
  rw [WireFrame.frame, WireFrame.kind]
  cases frame.data with
  | none => simp
  | some data => by_cases h : data = lit "[DONE]" <;> simp [h]

/-- The frames of a stream are read one after the other. -/
theorem readPieces_raws {frames : List WireFrame} {raws : List Bytes}
    (h : List.Forall₂ (fun (frame : WireFrame) raw =>
      utf8Encode frame.rawText = some raw ∧ raw ≠ []) frames raws)
    (hone : OneDone frames) {done : Bool}
    (hdone : done = true → ∀ frame ∈ frames, frame.data = none) :
    ∃ done', readPieces done raws = .ok (frames.map (·.frame), done') ∧
      (done' = true ↔ done = true ∨ ∃ frame ∈ frames, frame.frame.kind = .done) := by
  induction h generalizing done with
  | nil => exact ⟨done, rfl, by simp⟩
  | @cons frame raw frames raws hraw _ ih =>
    obtain ⟨hlater, hone⟩ := List.pairwise_cons.mp hone
    have hread := readFrame_rawText frame hraw.1 fun hd : done = true =>
      hdone hd frame List.mem_cons_self
    have hafter : afterFrame done frame.frame = true → ∀ later ∈ frames, later.data = none := by
      intro hafter later hmem
      rcases Bool.or_eq_true_iff.mp hafter with hd | hd
      · exact hdone hd later (List.mem_cons_of_mem _ hmem)
      · exact hlater later hmem ((kind_frame_eq_done_iff frame).mp (by simpa using hd))
    obtain ⟨done', hrest, hiff⟩ := ih hone hafter
    refine ⟨done', (readPieces_cons_eq_ok hraw.2).mpr ⟨frame.frame, _, hread, hrest, rfl⟩, ?_⟩
    rw [hiff, afterFrame, Bool.or_eq_true, List.exists_mem_cons_iff, or_assoc, beq_iff_eq]

/-! ## Whatever the chunks -/

/-- Empty chunks are skipped. -/
theorem feedAll_filter_eq_ok {chunks : List Bytes} {p q : IncrementalSSEParser}
    {frames : List SSEFrame} :
    feedAll (chunks.filter (· ≠ [])) p = (.ok frames, q) ↔ feedAll chunks p = (.ok frames, q) := by
  induction chunks generalizing p frames with
  | nil => exact Iff.rfl
  | cons chunk chunks ih =>
    rcases eq_or_ne chunk [] with rfl | hne
    · rw [List.filter_cons_of_neg (by simp), ih, feedAll_cons]
      constructor
      · exact fun h => ⟨[], p, frames, feed_nil p, h, rfl⟩
      · rintro ⟨f₁, t, f₂, h₁, h₂, rfl⟩
        obtain ⟨rfl, rfl⟩ : [] = f₁ ∧ p = t := by simpa [feed_nil] using h₁
        exact h₂
    · rw [List.filter_cons_of_pos (by simpa using hne), feedAll_cons, feedAll_cons]
      simp only [ih]

/-- **Encoding and parsing are inverse.** Whatever line endings are chosen and however the octets are
cut, the parser returns the frames that were written, and the stream ends well exactly when the
marker is among them. -/
theorem feedAll_wireText (frames : List WireFrame) (hone : OneDone frames) :
    ∃ octets, utf8Encode (wireText frames) = some octets ∧
      (octets.length ≤ maxSseBufferBytes → ∀ chunks : List Bytes, chunks.flatten = octets →
        ∃ p, feedAll chunks {} = (.ok (frames.map (·.frame)), p) ∧
          ((finalize p).1 = .ok () ↔ ∃ frame ∈ frames, frame.frame.kind = .done)) := by
  obtain ⟨raws, octets, h⟩ := exists_streamOctets frames
  refine ⟨octets, h.encodeOctets, fun hlength chunks hchunks => ?_⟩
  obtain ⟨done, hread, hdone⟩ := readPieces_raws h.encodeRaws hone fun hd : false = true => nomatch hd
  have hcr : CR ∉ crlfToLf octets := h.replaced ▸ h.cr
  have hreplacement : OneReplacement octets := oneReplacement_of_cr_not_mem hcr
  have hflatten : (chunks.filter (· ≠ [])).flatten = octets := by
    rw [List.flatten_filter_ne_nil, hchunks]
  have hsettle : ∀ chunks', chunks' <+: chunks.filter (· ≠ []) →
      ∀ piece ∈ (pieces (settle chunks')).1, CR ∉ piece := by
    rintro chunks' ⟨more, hmore⟩ piece hpiece hmem
    have hocts : chunks'.flatten ++ more.flatten = octets := by
      rw [← List.flatten_append, hmore, hflatten]
    have hstart : OneReplacement chunks'.flatten := fun hd =>
      hreplacement (hocts ▸ hd.trans (List.prefix_append _ _).isInfix)
    rw [settle_of_oneReplacement hstart] at hpiece
    have hcut := (pieces_crlfToLf_isPrefix (hocts ▸ hreplacement)).subset hpiece
    rw [hocts, h.replaced, h.pieces] at hcut
    exact h.cr (List.mem_flatMap.mpr ⟨piece, hcut, List.mem_append_left _ hmem⟩)
  refine ⟨⟨[], done⟩, feedAll_filter_eq_ok.mp ((feedAll_eq_ok ?_ ?_).mpr ⟨hsettle, ?_⟩), ?_⟩
  · simp
  · rw [hflatten]
    exact hlength
  · have hall := settle_of_oneReplacement (hflatten ▸ hreplacement)
    rw [hflatten, h.replaced] at hall
    refine ⟨?_, ?_⟩
    · rw [hall, h.pieces]
      exact hread
    · rw [hall, h.pieces]
  · have hmarker : done = true ↔ ∃ frame ∈ frames, frame.frame.kind = .done := by
      simpa using hdone
    rw [← hmarker]
    cases done with
    | false => exact iff_of_false (by decide) (by decide)
    | true => exact iff_of_true rfl rfl

/-- A keepalive, data in a text with a character of two octets, and the marker. -/
def sampleFrames : List WireFrame :=
  [{ lines := [⟨.comment, lit "keepalive", .crlf, by decide, by decide, by decide⟩]
     blank := .lf
     nonempty := by decide },
   { lines := [⟨.data, lit "é", .lf, by decide, by decide, by decide⟩,
       ⟨.data, lit " two", .crlf, by decide, by decide, by decide⟩]
     blank := .crlf
     nonempty := by decide },
   { lines := [⟨.data, lit "[DONE]", .crlf, by decide, by decide, by decide⟩]
     blank := .crlf
     nonempty := by decide }]

theorem feedAll_wireText_sampleFrames :
    ∃ octets, utf8Encode (wireText sampleFrames) = some octets ∧
      ∃ p, feedAll (octets.map ([·])) {} = (.ok (sampleFrames.map (·.frame)), p) ∧
        ((finalize p).1 = .ok () ↔ ∃ frame ∈ sampleFrames, frame.frame.kind = .done) := by
  obtain ⟨octets, hoctets, hchunks⟩ := feedAll_wireText sampleFrames (by
    unfold OneDone
    decide)
  have hlength : (utf8Encode (wireText sampleFrames)).map List.length = some 53 := by decide
  rw [hoctets] at hlength
  have hle : octets.length ≤ maxSseBufferBytes := by
    rw [Option.some.inj hlength]
    decide
  exact ⟨octets, hoctets, hchunks hle (octets.map ([·])) (by simp [← List.flatMap_def])⟩

end Sse
